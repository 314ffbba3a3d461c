import SafetyIsland.Trace.Load

/-! The records an image writes into its stream, and what `load` makes of one:
whatever follows it, it is read back, and exactly its bytes are consumed. -/
namespace SafetyIsland.Trace

open LittleEndian Framing

/-- A record of the stream at the instant it is stamped: the island's own, or
an event of the kernel with the bytes of each field. -/
inductive Written where
  | entry (p : Entry)
  | provenance (t : Nat) (text : List Byte)
  | trigger (t : Nat) (fields : Trigger)
  | event (t id : Nat) (raws : List (List Byte))
  deriving DecidableEq

namespace Written

def time : Written → Nat
  | entry p => p.time
  | provenance t _ => t
  | trigger t _ => t
  | event t .. => t

def id (e : EvId) : Written → Nat
  | entry p => p.id e
  | provenance .. => e.provenance
  | trigger .. => e.trigger
  | event _ i _ => i

def payload : Written → List Byte
  | entry (.marker _ m arg) => bytes 2 m.toNat ++ bytes 4 arg.toNat
  | entry (.heartbeat _ seq up) => bytes 4 seq.toNat ++ bytes 4 up.toNat
  | provenance _ text =>
      bytes 2 (BitVec.ofNat 16 text.length).toNat ++
        text.take (BitVec.ofNat 16 text.length).toNat
  | trigger _ f =>
      (bytes 2 f.marker.toNat ++ bytes 2 f.preMs.toNat ++ bytes 2 f.preKept.toNat ++
        bytes 2 f.spinKeep.toNat) ++
      (bytes 4 f.preLost.toNat ++ bytes 4 f.filtered.toNat)
  | event _ _ raws => raws.flatten

def pack (e : EvId) : Written → List Byte
  | entry p => p.pack e
  | provenance t text => packProvenance e (tsAt t) text
  | trigger t f => f.pack e (tsAt t)
  | event t i raws => header e (tsAt t) i ++ raws.flatten

def stream (e : EvId) (ws : List Written) : List Byte := ws.flatMap (pack e)

/-- What the decoder shows of the record. -/
def body (u : Setup) (d : Tsdl) : Written → Body
  | entry (.marker _ m arg) => .marker m (u.nameOf m) arg
  | entry (.heartbeat _ seq up) => .heartbeat seq up
  | provenance _ text => .provenance (ascii text)
  | trigger _ f => .trigger (u.nameOf f.marker) f
  | event _ i raws =>
      match d.events i with
      | some layout => .event layout.name
          (layout.fields.zipWith (fun f raw => (f.name, fieldValue f.type raw)) raws)
      | none => .event "" []

def opens : Written → Bool
  | provenance _ text => (Body.provenance (ascii text)).opensSegment
  | _ => false

/-- A provenance's length fits its word, and an event of the kernel is one that
the metadata describes. -/
def Fits (d : Tsdl) (e : EvId) : Written → Prop
  | provenance _ text => text.length < 2 ^ 16
  | event _ i raws => 0 < i ∧ i < 256 ^ e.size ∧ ∃ layout,
      d.events i = some layout ∧ raws.map List.length = layout.fields.map Field.length
  | _ => True

end Written

/-- The metadata is the build's, and keeps clear of the island's ids. -/
structure Tsdl.Fits (d : Tsdl) (e : EvId) : Prop where
  idSize : d.idSize = e.size
  apart : d.collisions = []

section Record
variable {u : Setup} {d : Tsdl} {e : EvId} {w : Written} {rest : List Byte}

theorem word_u16 (x : U16) : word 2 0 (bytes 2 x.toNat ++ rest) = x.toNat :=
  word_bytes_of_lt x.isLt

theorem word_u32 (x : U32) : word 4 0 (bytes 4 x.toNat ++ rest) = x.toNat :=
  word_bytes_of_lt x.isLt

/-- A word behind others. -/
theorem word_behind {n m off x : Nat} (h : m ≤ off) :
    word n off (bytes m x ++ rest) = word n (off - m) rest := by
  rw [word_append (by rw [length_bytes]; exact h), length_bytes]

/-- A record is its header and its payload. -/
theorem Written.pack_eq : w.pack e = header e (tsAt w.time) (w.id e) ++ w.payload := by
  cases w with
  | entry p => cases p <;> exact List.append_assoc _ _ _
  | provenance t text => exact List.append_assoc _ _ _
  | trigger t f => exact List.append_assoc _ _ _
  | event t i raws => rfl

/-- A header is a stamp and an id. -/
theorem length_header {ts : U32} {i : Nat} : (header e ts i).length = 4 + e.size := by
  rw [header, List.length_append, length_bytes, length_bytes]

theorem Tsdl.Fits.base (hd : d.Fits e) : d.base = e.base := by
  rw [Tsdl.base, hd.idSize]
  cases e <;> rfl

/-- No event of the kernel has an id of the island's. -/
theorem Tsdl.Fits.not_island (hd : d.Fits e) {i : Nat} (hEvent : (d.events i).isSome) :
    i ≠ d.base ∧ i ≠ d.base + 1 ∧ i ≠ d.base + 2 ∧ i ≠ d.base + 3 := by
  have hNone := List.filter_eq_nil_iff.mp hd.apart
  refine ⟨?_, ?_, ?_, ?_⟩ <;>
  · rintro rfl
    exact hNone _ (by simp) hEvent

/-- No record has the id that ends the stream. -/
theorem Written.Fits.id_pos (hw : w.Fits d e) : w.id e ≠ 0 := by
  have hBase : e.base ≠ 0 := by cases e <;> decide
  cases w with
  | entry p =>
      cases p with
      | marker => exact hBase
      | heartbeat => exact Nat.succ_ne_zero _
  | provenance t text => exact Nat.succ_ne_zero _
  | trigger t f => exact Nat.succ_ne_zero _
  | event t i raws => exact hw.1.ne'

/-- And every id fits the width it is written in. -/
theorem Written.Fits.id_lt (hw : w.Fits d e) : w.id e < 256 ^ e.size := by
  have hBase := e.base_lt
  cases w with
  | entry p => exact p.id_lt
  | provenance t text =>
      show e.base + 2 < _
      omega
  | trigger t f => exact hBase
  | event t i raws => exact hw.2.1

/-- Fields of the lengths described are read back, each from its own bytes. -/
theorem readFields_flatten (rest : List Byte) {fields : List Field} {raws : List (List Byte)}
    (h : raws.map List.length = fields.map Field.length) :
    readFields fields (raws.flatten ++ rest) =
        fields.zipWith (fun f raw => (f.name, fieldValue f.type raw)) raws ∧
      fieldsLength fields = raws.flatten.length := by
  induction fields generalizing raws with
  | nil =>
      obtain rfl := List.map_eq_nil_iff.mp h
      exact ⟨rfl, rfl⟩
  | cons f fields ih =>
      cases raws with
      | nil => cases h
      | cons raw raws =>
          obtain ⟨hLength, hRest⟩ := List.cons.inj h
          obtain ⟨hRead, hTotal⟩ := ih hRest
          have hBytes : (raw :: raws).flatten ++ rest = raw ++ (raws.flatten ++ rest) := by
            rw [List.flatten_cons, List.append_assoc]
          rw [readFields, fieldsLength, hBytes, ← hLength, List.take_left, List.drop_left, hRead,
            hTotal, List.flatten_cons, List.length_append, List.zipWith_cons_cons]
          exact ⟨rfl, rfl⟩

/-- A marker's body is read back. -/
theorem readBody_marker (m : U16) (arg : U32) :
    readBody u d d.base (bytes 2 m.toNat ++ bytes 4 arg.toNat ++ rest) =
      .read (.marker m (u.nameOf m) arg) 6 := by
  have hLong : ¬ (bytes 2 m.toNat ++ bytes 4 arg.toNat ++ rest).length < 6 := by
    rw [List.length_append, List.length_append, length_bytes, length_bytes]
    omega
  rw [readBody, if_pos rfl, if_neg hLong, List.append_assoc, word_u16, word_behind (by decide),
    word_u32, BitVec.ofNat_toNat, BitVec.ofNat_toNat]
  simp

/-- A heartbeat's is. -/
theorem readBody_heartbeat (seq up : U32) :
    readBody u d (d.base + 1) (bytes 4 seq.toNat ++ bytes 4 up.toNat ++ rest) =
      .read (.heartbeat seq up) 8 := by
  have hLong : ¬ (bytes 4 seq.toNat ++ bytes 4 up.toNat ++ rest).length < 8 := by
    rw [List.length_append, List.length_append, length_bytes, length_bytes]
    omega
  rw [readBody, if_neg (by omega), if_pos rfl, if_neg hLong, List.append_assoc, word_u32,
    word_behind (by decide), word_u32, BitVec.ofNat_toNat, BitVec.ofNat_toNat]
  simp

/-- The provenance is. -/
theorem readBody_provenance {text : List Byte} (h : text.length < 2 ^ 16) :
    readBody u d (d.base + 2) (bytes 2 (BitVec.ofNat 16 text.length).toNat ++
        text.take (BitVec.ofNat 16 text.length).toNat ++ rest) =
      .read (.provenance (ascii text)) (2 + text.length) := by
  have hLength : (BitVec.ofNat 16 text.length).toNat = text.length := by
    rw [BitVec.toNat_ofNat, Nat.mod_eq_of_lt h]
  have hLong : ¬ (bytes 2 text.length ++ text ++ rest).length < 2 := by
    rw [List.length_append, List.length_append, length_bytes]
    omega
  rw [hLength, List.take_length, readBody, if_neg (by omega), if_neg (by omega), if_pos rfl,
    if_neg hLong, List.append_assoc, word_bytes_of_lt h, List.drop_left' length_bytes,
    List.take_left]

/-- The trigger's record is. -/
theorem readBody_trigger (f : Trigger) :
    readBody u d (d.base + 3) (Written.payload (.trigger 0 f) ++ rest) =
      .read (.trigger (u.nameOf f.marker) f) 16 := by
  have hLong : ¬ (Written.payload (.trigger 0 f) ++ rest).length < 16 := by
    simp [Written.payload]
    omega
  rw [readBody, if_neg (by omega), if_neg (by omega), if_neg (by omega), if_pos rfl, if_neg hLong]
  rw [Written.payload]
  simp (disch := decide) only [List.append_assoc, word_u16, word_behind, word_u32, Nat.reduceSub,
    BitVec.ofNat_toNat, BitVec.setWidth_eq]

/-- Every record's body is. -/
theorem readBody_payload (hd : d.Fits e) (hw : w.Fits d e) :
    readBody u d (w.id e) (w.payload ++ rest) = .read (w.body u d) w.payload.length := by
  cases w with
  | entry p =>
      cases p with
      | marker t m arg =>
          show readBody u d e.base _ = _
          rw [← hd.base]
          exact readBody_marker m arg
      | heartbeat t seq up =>
          show readBody u d (e.base + 1) _ = _
          rw [← hd.base]
          exact readBody_heartbeat seq up
  | provenance t text =>
      show readBody u d (e.base + 2) _ = _
      rw [← hd.base]
      have hLength : (BitVec.ofNat 16 text.length).toNat = text.length := by
        rw [BitVec.toNat_ofNat, Nat.mod_eq_of_lt hw]
      rw [Written.payload, readBody_provenance hw, hLength, List.take_length, List.length_append,
        length_bytes]
      rfl
  | trigger t f =>
      show readBody u d (e.base + 3) _ = _
      rw [← hd.base]
      exact readBody_trigger f
  | event t i raws =>
      obtain ⟨_, _, layout, hEvent, hLengths⟩ := hw
      obtain ⟨hMarker, hHeartbeat, hProvenance, hTrigger⟩ := hd.not_island (by rw [hEvent]; rfl)
      obtain ⟨hRead, hTotal⟩ := readFields_flatten rest hLengths
      show readBody u d i (raws.flatten ++ rest) = _
      rw [readBody, if_neg hMarker, if_neg hHeartbeat, if_neg hProvenance, if_neg hTrigger, hEvent]
      simp only [hRead, hTotal, Written.body, hEvent, Written.payload]

def Reading.next (u : Setup) (d : Tsdl) (e : EvId) (s : Reading) (w : Written) : Reading :=
  s.push (tsAt w.time) (w.id e) (w.body u d) (w.pack e).length

/-- A record is read back whatever follows it. -/
theorem front_pack (hd : d.Fits e) (hw : w.Fits d e) (s : Reading) :
    Reading.front u d s (w.pack e ++ rest) = .item (s.next u d e w) (w.pack e).length := by
  have hSize : (w.pack e).length = 4 + d.idSize + w.payload.length := by
    rw [Written.pack_eq, List.length_append, length_header, hd.idSize]
  have hLong : ¬ (w.pack e ++ rest).length < 4 + d.idSize := by
    rw [List.length_append, hSize]
    omega
  have hStamp : BitVec.ofNat 32 (word 4 0 (w.pack e ++ rest)) = tsAt w.time := by
    rw [Written.pack_eq, List.append_assoc, word_header_ts, BitVec.ofNat_toNat,
      BitVec.setWidth_eq]
  have hId : word d.idSize 4 (w.pack e ++ rest) = w.id e := by
    rw [hd.idSize, Written.pack_eq, List.append_assoc, word_header_id hw.id_lt]
  have hBehind : (w.pack e ++ rest).drop (4 + d.idSize) = w.payload ++ rest := by
    rw [Written.pack_eq, List.append_assoc, hd.idSize, List.drop_left' length_header]
  rw [Reading.front]
  rw [if_neg hLong, hId, if_neg hw.id_pos, hBehind, readBody_payload hd hw, hStamp, Reading.next,
    hSize]

/-- The loop stops in unused space. -/
theorem front_zeros (s : Reading) (n : Nat) :
    Reading.front u d s (List.replicate n 0) = .stop := by
  rw [Reading.front, word_zeros, if_pos rfl, ite_self]

/-- The reader stops at the end, and every record takes room. -/
theorem front_advances : Advances (Reading.front u d) where
  nil := by
    intro s
    exact front_zeros s 0
  pos := by
    intro s s' data size hItem
    rw [Reading.front] at hItem
    by_cases hShort : data.length < 4 + d.idSize
    · rw [if_pos hShort] at hItem
      cases hItem
    · rw [if_neg hShort] at hItem
      by_cases hZero : word d.idSize 4 data = 0
      · rw [if_pos hZero] at hItem
        cases hItem
      · rw [if_neg hZero] at hItem
        cases hBody : readBody u d (word d.idSize 4 data) (data.drop (4 + d.idSize)) with
        | short =>
            rw [hBody] at hItem
            cases hItem
        | unknown =>
            rw [hBody] at hItem
            cases hItem
        | read body length =>
            rw [hBody] at hItem
            obtain ⟨-, rfl⟩ := Front.item.inj hItem
            omega

/-- What an image wrote is read back, record by record, up to the unused space. -/
theorem read_stream {ws : List Written} (hd : d.Fits e) (hw : ∀ w ∈ ws, w.Fits d e) (n : Nat) :
    Framing.read (Reading.front u d) {} (Written.stream e ws ++ List.replicate n 0) =
      (ws.foldl (Reading.next u d e) {}, none) := by
  rw [Written.stream, read_items front_advances fun w hMem s rest => front_pack hd (hw w hMem) s,
    read_stop (front_zeros _ n)]

end Record

end SafetyIsland.Trace
