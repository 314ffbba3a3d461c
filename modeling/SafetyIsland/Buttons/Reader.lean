import SafetyIsland.Buttons.State
import SafetyIsland.General.StructImage

/-! `island_button_record` as it lies in memory, and the reader of
`tools/board/board_buttons.py`: the record off the board, and the presses after
a count read before. A lookup that would raise is `none`. -/
namespace SafetyIsland.Buttons
open LittleEndian StructImage

def Press.words (p : Press) : List U32 := [p.uptimeMs, p.code]

def Record.head (r : Record) : List U32 :=
  [r.magic, r.ticks, r.level, r.debounced, r.presses, r.accepted .sw1, r.accepted .sw2,
    r.ignored .sw1, r.ignored .sw2, r.inject .sw1, r.inject .sw2, r.gpioErrors]

def Record.image (r : Record) : List Byte :=
  words r.head ++ (List.ofFn r.ring).flatMap fun p => words p.words

def hdrNames : List String :=
  ["magic", "ticks", "level", "debounced", "presses", "acc1", "acc2", "ign1", "ign2", "inj1",
    "inj2", "gpio_errors"]

abbrev Header := List (String × Nat)

/-- An entry of the ring, as it is unpacked. -/
def pressAt (blob : List Byte) (off : Nat) : Option (Nat × Nat) :=
  (unpack blob off 2).map fun w => (w.getD 0 0, w.getD 1 0)

/-- `read_record`, from what the memory holds. -/
def readRecord (blob : List Byte) : Option (Header × List (Nat × Nat)) := do
  let hdr ← unpack blob 0 hdrNames.length
  let ring ← (List.range 8).mapM fun i => pressAt blob (4 * hdrNames.length + i * 8)
  return (hdrNames.zip hdr, ring)

/-- `new_presses`: the number, uptime and code of each press after `seen`. -/
def newPresses (hdr : Header) (ring : List (Nat × Nat)) (seen : Nat) :
    Option (List (Nat × Nat × Nat)) := do
  let n ← hdr.lookup "presses"
  let first := max seen (n - 8)
  (List.range (n - first)).mapM fun k =>
    (ring[(first + k) % 8]?).map fun entry => (first + k + 1, entry)

/-- The fields `press_text` takes out of a code. -/
structure CodeFields where
  button : Nat
  why : Nat
  state : Nat
  behavior : Nat
  deriving DecidableEq, Repr

def codeFields (code : Nat) : CodeFields where
  button := code >>> 24
  why := (code >>> 16) &&& 0xF
  state := (code >>> 8) &&& 0xFF
  behavior := code &&& 0xFF

def Press.pair (p : Press) : Nat × Nat := (p.uptimeMs.toNat, p.code.toNat)

section Read
variable {r : Record}

/-- An entry that stands in the memory is unpacked as it was written. -/
theorem pressAt_eq {blob : List Byte} {off : Nat} {p : Press}
    (h : Placed blob off (words p.words)) : pressAt blob off = some p.pair := by
  have hWords := h.unpack_eq
  simp only [Press.words, List.length_cons, List.length_nil, Nat.reduceAdd] at hWords
  rw [pressAt, hWords]
  rfl

/-- The reader gets the record as the firmware keeps it. -/
theorem readRecord_image (r : Record) : readRecord r.image =
    some (hdrNames.zip (r.head.map BitVec.toNat),
      (List.finRange 8).map fun i => (r.ring i).pair) := by
  have hFront : Placed r.image 0 (words r.head) := Placed.whole.left
  have hHead : unpack r.image 0 12 = some (r.head.map BitVec.toNat) := hFront.unpack_eq
  have hSize (p : Press) : (words p.words).length = 8 := by
    rw [length_words]
    rfl
  have hTable : Placed r.image 48 ((List.ofFn r.ring).flatMap fun p => words p.words) := by
    have hBehind : Placed r.image (0 + (words r.head).length)
        ((List.ofFn r.ring).flatMap fun p => words p.words) := Placed.whole.right
    rw [length_words] at hBehind
    exact hBehind
  have hRing := hTable.rows_eq (fun _ o => pressAt r.image o) hSize pressAt_eq
  have hNames : hdrNames.length = 12 := rfl
  rw [readRecord, hNames]
  simp only [Nat.reduceMul]
  rw [hHead, Option.bind_eq_bind, Option.bind_some, hRing, Option.bind_eq_bind, Option.bind_some]
  rfl

theorem lookup_presses : (hdrNames.zip (r.head.map BitVec.toNat)).lookup "presses" =
    some r.presses.toNat := rfl

/-- The presses returned are entries of the ring by their number. -/
theorem newPresses_eq (r : Record) (seen : Nat) :
    newPresses (hdrNames.zip (r.head.map BitVec.toNat))
        ((List.finRange 8).map fun i => (r.ring i).pair) seen =
      some ((List.range (r.presses.toNat - max seen (r.presses.toNat - 8))).map fun k =>
        (max seen (r.presses.toNat - 8) + k + 1,
          (r.ring (RingLog.slot 8 (max seen (r.presses.toNat - 8) + k))).pair)) := by
  rw [newPresses, lookup_presses, Option.bind_eq_bind, Option.bind_some]
  apply Placed.mapM_eq_some
  intro k _
  have hIndex := Nat.mod_lt (max seen (r.presses.toNat - 8) + k) (Nat.succ_pos 7)
  rw [List.getElem?_map, List.getElem?_eq_getElem (by rw [List.length_finRange]; exact hIndex),
    List.getElem_finRange]
  rfl

end Read

end SafetyIsland.Buttons
