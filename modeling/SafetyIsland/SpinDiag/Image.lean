import Mathlib.Data.List.FinRange
import Mathlib.Data.List.GetD
import SafetyIsland.General.RingLog
import SafetyIsland.General.StructImage
import SafetyIsland.SpinDiag.State

/-! `struct island_spin_diag_t` as it lies in memory, and `parse` of
`tools/board/spin_diag.py`, which reads it. A read past the blob's end is
`none`, the exception it raises; a name is kept as its bytes. -/
namespace SafetyIsland.SpinDiag
open LittleEndian StructImage

/-- The words of a record, as `struct sd_rec` orders them. -/
def Rec.words (c : Rec) : List U32 :=
  [c.uptimeMs, c.intervalUs] ++ List.ofFn c.segWall ++ List.ofFn c.segMain ++ List.ofFn c.segIdle ++
    [c.parkBoundUs, c.idlePath, c.ncb, c.ntake, c.cbSlot, c.cbWallUs, c.cbMainUs, c.cbIdleUs,
      c.cbOffUs, c.lkMainN, c.lkMainUs, c.lkMainMaxUs, c.lkMainMaxRa, c.lkMainMaxM, c.lkOthN,
      c.lkOthUs, c.lkOthMaxUs, c.lkOthMaxRa, c.isrUs, c.isrN] ++
    List.ofFn c.topTid ++ List.ofFn c.topUs ++ [c.cbIsrUs, c.cbIsrN, c.level, c.lateUs]

def Level.image (l : Level) : List Byte :=
  words [l.tid, l.prio] ++ (List.ofFn l.name ++
    (words [l.spins, l.nobound, l.late, l.maxLateUs, l.boundMinUs, l.boundMaxUs, l.intervalMaxUs] ++
      (words (List.ofFn l.hist) ++ (words (List.ofFn l.segMaxWall) ++ words l.worst.words))))

def Thr.image (t : Thr) : List Byte := words [t.tid, t.prio] ++ List.ofFn t.name

def Recorder.image (r : Recorder) : List Byte :=
  words [r.magic, r.recWords, r.levWords, r.dims, r.lateUs, BitVec.ofNat 32 r.nlev, r.levDropped,
    r.ringNext, BitVec.ofNat 32 r.nthr] ++
  ((List.ofFn r.lev).flatMap Level.image ++
    ((List.ofFn r.thr).flatMap Thr.image ++ (List.ofFn r.ring).flatMap fun c => words c.words))

def recNames : List String :=
  ["uptime_ms", "interval_us", "wall0", "wall1", "wall2", "wall3", "wall4", "main0", "main1",
    "main2", "main3", "main4", "idle0", "idle1", "idle2", "idle3", "idle4", "park_bound_us",
    "idle_path", "ncb", "ntake", "cb_slot", "cb_wall_us", "cb_main_us", "cb_idle_us", "cb_off_us",
    "lk_main_n", "lk_main_us", "lk_main_max_us", "lk_main_max_ra", "lk_main_max_m", "lk_oth_n",
    "lk_oth_us", "lk_oth_max_us", "lk_oth_max_ra", "isr_us", "isr_n", "tt0", "tt1", "tt2", "tu0",
    "tu1", "tu2", "cb_isr_us", "cb_isr_n", "level", "late_us"]

/-- The length of `LEV`, four of whose entries are the name's. -/
def levLength : Nat := 13

def magicV1 : Nat := 0x31474453
def headWords : Nat := 9

def sprio (p : Nat) : Int := if 2 ^ 31 ≤ p then (p : Int) - 2 ^ 32 else p

def hex (n : Nat) : String := "0x" ++ String.ofList (Nat.toDigits 16 n)

/-- Why a blob is not read. -/
inductive Refusal where
  | shortRead
  | firstFormat
  | badMagic (magic : Nat)
  | recordWords (recWords : Nat)
  | levelWords (levWords expected : Nat)
  deriving DecidableEq, Repr

def Refusal.text : Refusal → String
  | shortRead => "spin_diag: short read\n"
  | firstFormat =>
      "spin_diag: an SDG1 image (one thread, lateness against 10 ms, before island #14): " ++
        "decode it with spin_diag.py of island 378dd11\n"
  | badMagic magic => "spin_diag: bad magic " ++ hex magic ++ " (no spin yet?)\n"
  | recordWords recWords => "spin_diag: record is " ++ toString recWords ++
      " words, decoder knows " ++ toString recNames.length ++ "\n"
  | levelWords levWords expected => "spin_diag: level is " ++ toString levWords ++
      " words, decoder expects " ++ toString expected ++ "\n"

inductive Label where
  | name (text : List Byte)
  | tid (tid : Nat)
  deriving DecidableEq, Repr

def labelAt (blob : List Byte) (off tid : Nat) : Label :=
  match ((blob.drop off).take 16).takeWhile (· ≠ 0) with
  | [] => .tid tid
  | text => .name text

abbrev Dict := List (String × Nat)

/-- A level, as `parse` returns it. -/
structure LevelRow where
  index : Nat
  tid : Nat
  prio : Int
  name : Label
  spins : Nat
  nobound : Nat
  late : Nat
  maxLateUs : Nat
  boundMinUs : Nat
  boundMaxUs : Nat
  intervalMaxUs : Nat
  hist : List Nat
  segmax : List Nat
  worst : Dict

structure Parsed where
  levels : List LevelRow
  dropped : Nat
  ringNext : Nat
  ringN : Nat
  bins : Nat
  lateThr : Nat
  thr : List (Nat × Label × Int)
  ring : List (Nat × Dict)

def recAt (blob : List Byte) (recWords off : Nat) : Option Dict :=
  (unpack blob off recWords).map recNames.zip

/-- One turn of the loop of `parse` over the levels, from `o` on. -/
def levelAt (blob : List Byte) (bins recWords i o : Nat) : Option LevelRow := do
  let head ← unpack blob o 2
  let v ← unpack blob (o + 24) 7
  let hist ← unpack blob (o + 52) bins
  let segmax ← unpack blob (o + 52 + 4 * bins) 5
  let worst ← recAt blob recWords (o + 52 + 4 * bins + 20)
  return {
    index := i
    tid := head.getD 0 0
    prio := sprio (head.getD 1 0)
    name := labelAt blob (o + 8) (head.getD 0 0)
    spins := v.getD 0 0
    nobound := v.getD 1 0
    late := v.getD 2 0
    maxLateUs := v.getD 3 0
    boundMinUs := v.getD 4 0
    boundMaxUs := v.getD 5 0
    intervalMaxUs := v.getD 6 0
    hist := hist
    segmax := segmax
    worst := worst }

/-- One turn of its loop over the threads. -/
def thrAt (blob : List Byte) (off : Nat) : Option (Nat × Label × Int) := do
  let head ← unpack blob off 2
  return (head.getD 0 0, labelAt blob (off + 8) (head.getD 0 0), sprio (head.getD 1 0))

def dictSet {V : Type} (d : List (Nat × V)) (entry : Nat × V) : List (Nat × V) :=
  if d.any fun old => old.1 == entry.1 then
    d.map fun old => if old.1 == entry.1 then entry else old
  else d ++ [entry]

/-- The slots of the ring that are in use, oldest first. -/
def ringOrder (ringNext ringN : Nat) : List Nat :=
  (List.range (min ringNext ringN)).map fun i => (ringNext - min ringNext ringN + i) % ringN

def parse (blob : List Byte) : Option (Refusal ⊕ Parsed) :=
  if blob.length < 4 * headWords then some (.inl .shortRead)
  else do
    let head ← unpack blob 0 headWords
    let magic := head.getD 0 0
    let recWords := head.getD 1 0
    let levWords := head.getD 2 0
    let dims := head.getD 3 0
    let nlev := head.getD 5 0
    let ringNext := head.getD 7 0
    let nthr := head.getD 8 0
    let nlevels := dims &&& 0xFF
    let bins := (dims >>> 8) &&& 0xFF
    let ringN := (dims >>> 16) &&& 0xFF
    let nthreads := dims >>> 24
    if magic = magicV1 then return .inl .firstFormat
    else if magic ≠ SpinDiag.magic.toNat then return .inl (.badMagic magic)
    else if recWords ≠ recNames.length then return .inl (.recordWords recWords)
    else if levWords ≠ levLength + bins + 5 + recWords then
      return .inl (.levelWords levWords (levLength + bins + 5 + recWords))
    else
      let levelsOff := 4 * headWords
      let levels ← (List.range nlevels).mapM fun i =>
        levelAt blob bins recWords i (levelsOff + i * (4 * levWords))
      let thrOff := levelsOff + nlevels * (4 * levWords)
      let thr ← (List.range nthreads).mapM fun i => thrAt blob (thrOff + i * 24)
      let ringOff := thrOff + nthreads * 24
      let ring ← (List.range ringN).mapM fun i => recAt blob recWords (ringOff + i * (4 * recWords))
      return .inr {
        levels := levels.take nlev
        dropped := head.getD 6 0
        ringNext := ringNext
        ringN := ringN
        bins := bins
        lateThr := head.getD 4 0
        thr := (thr.take nthr).foldl dictSet []
        ring := (ringOrder ringNext ringN).map fun i => (i, ring.getD i []) }

def labelOf (name : Name) (tid : U32) : Label :=
  match (List.ofFn name).takeWhile (· ≠ 0) with
  | [] => .tid tid.toNat
  | text => .name text

def Rec.dict (c : Rec) : Dict := recNames.zip (c.words.map BitVec.toNat)

/-- A level, as it is to be read. -/
def Level.row (i : Nat) (l : Level) : LevelRow where
  index := i
  tid := l.tid.toNat
  prio := sprio l.prio.toNat
  name := labelOf l.name l.tid
  spins := l.spins.toNat
  nobound := l.nobound.toNat
  late := l.late.toNat
  maxLateUs := l.maxLateUs.toNat
  boundMinUs := l.boundMinUs.toNat
  boundMaxUs := l.boundMaxUs.toNat
  intervalMaxUs := l.intervalMaxUs.toNat
  hist := (List.ofFn l.hist).map BitVec.toNat
  segmax := (List.ofFn l.segMaxWall).map BitVec.toNat
  worst := l.worst.dict

def Thr.row (t : Thr) : Nat × Label × Int :=
  (t.tid.toNat, labelOf t.name t.tid, sprio t.prio.toNat)

section Read
variable {blob : List Byte} {off : Nat} {c : Rec} {l : Level} {t : Thr}

@[simp] theorem Rec.length_words : c.words.length = 47 := by
  simp [Rec.words]

@[simp] theorem Level.length_image : l.image.length = 420 := by
  simp [Level.image]

@[simp] theorem Thr.length_image : t.image.length = 24 := by
  simp [Thr.image]

theorem recAt_eq (h : Placed blob off (words c.words)) : recAt blob 47 off = some c.dict := by
  have hWords := h.unpack_eq
  rw [Rec.length_words] at hWords
  rw [recAt, hWords]
  rfl

theorem labelAt_eq {name : Name} (tid : U32) (h : Placed blob off (List.ofFn name)) :
    labelAt blob off tid.toNat = labelOf name tid := by
  have hSlice := h.slice
  rw [List.length_ofFn] at hSlice
  rw [labelAt, hSlice]
  rfl

/-- A level's row is read from where its words stand. -/
theorem levelAt_eq {i : Nat} (h : Placed blob off l.image) :
    levelAt blob 40 47 i off = some (l.row i) := by
  have hHead := h.left.unpack_eq
  have hName := h.right.left
  have hNumbers := h.right.right.left
  have hHist := h.right.right.right.left
  have hSegs := h.right.right.right.right.left
  have hWorst := h.right.right.right.right.right
  simp only [length_words, List.length_cons, List.length_nil, List.length_ofFn, Nat.reduceAdd,
    Nat.reduceMul, Nat.add_assoc] at hName hNumbers hHist hSegs hWorst
  have hV := hNumbers.unpack_eq
  have hBins := hHist.unpack_eq
  have hMax := hSegs.unpack_eq
  rw [List.length_ofFn] at hBins hMax
  have hRec := recAt_eq hWorst
  have hLabel := labelAt_eq l.tid hName
  simp only [List.length_cons, List.length_nil, Nat.reduceAdd] at hHead hV
  simp only [levelAt, Nat.reduceMul, Nat.add_assoc, Nat.reduceAdd, hHead, hV, hBins, hMax, hRec]
  simp [Level.row, hLabel]

/-- So is a thread's. -/
theorem thrAt_eq (h : Placed blob off t.image) : thrAt blob off = some t.row := by
  have hHead := h.left.unpack_eq
  have hName := h.right
  simp only [length_words, List.length_cons, List.length_nil, Nat.reduceAdd, Nat.reduceMul]
    at hHead hName
  have hLabel := labelAt_eq t.tid hName
  simp [thrAt, hHead, hLabel, Thr.row]

end Read

/-- The header the recorder writes with its first level. -/
structure Recorder.Headed (r : Recorder) : Prop where
  magic : r.magic = SpinDiag.magic
  recWords : r.recWords = 47
  levWords : r.levWords = 105
  dims : r.dims = SpinDiag.dims

def Recorder.parsed (r : Recorder) : Parsed where
  levels := ((List.finRange 4).map fun i => (r.lev i).row i.val).take (BitVec.ofNat 32 r.nlev).toNat
  dropped := r.levDropped.toNat
  ringNext := r.ringNext.toNat
  ringN := 48
  bins := 40
  lateThr := r.lateUs.toNat
  thr := (((List.finRange 16).map fun i => (r.thr i).row).take
    (BitVec.ofNat 32 r.nthr).toNat).foldl dictSet []
  ring := (ringOrder r.ringNext.toNat 48).map fun i =>
    (i, ((List.finRange 48).map fun k => (r.ring k).dict).getD i [])

/-- What `parse` makes of the recorder's own image. -/
theorem parse_image {r : Recorder} (h : r.Headed) : parse r.image = some (.inr r.parsed) := by
  have hWhole : Placed r.image 0 r.image := .whole
  have hHead := hWhole.left.unpack_eq
  have hLevels := hWhole.right.left
  have hThr := hWhole.right.right.left
  have hRing := hWhole.right.right.right
  have hLength := hWhole.left.le_length
  simp only [length_words, List.length_cons, List.length_nil, Nat.reduceAdd, Nat.reduceMul,
    Nat.zero_add] at hHead hLevels hThr hRing hLength
  have hTables : ((List.ofFn r.lev).flatMap Level.image).length = 1680 := by
    simp
  have hThreads : ((List.ofFn r.thr).flatMap Thr.image).length = 384 := by
    simp
  rw [hTables] at hThr hRing
  rw [hThreads] at hRing
  have hLevelRows := hLevels.rows_eq (fun i o => levelAt r.image 40 47 i o)
    (fun _ => Level.length_image) levelAt_eq
  have hThrRows := hThr.rows_eq (fun _ o => thrAt r.image o) (fun _ => Thr.length_image) thrAt_eq
  have hRingRows := hRing.rows_eq (fun _ o => recAt r.image 47 o)
    (fun c => by rw [length_words, Rec.length_words]) recAt_eq
  have hNot : ¬ r.image.length < 4 * headWords := by
    show ¬ r.image.length < 36
    omega
  have hDims : r.dims.toNat = 271591428 := by
    rw [h.dims]
    rfl
  have hMagic : r.magic.toNat = SpinDiag.magic.toNat := congrArg BitVec.toNat h.magic
  have hRecWords : r.recWords.toNat = 47 := congrArg BitVec.toNat h.recWords
  have hLevWords : r.levWords.toNat = 105 := congrArg BitVec.toNat h.levWords
  have hBits : 271591428 &&& 0xFF = 4 ∧ (271591428 >>> 8) &&& 0xFF = 40 ∧
      (271591428 >>> 16) &&& 0xFF = 48 ∧ 271591428 >>> 24 = 16 := by decide
  obtain ⟨hNlevels, hBins, hRingN, hNthreads⟩ := hBits
  have hFirst : ¬ SpinDiag.magic.toNat = magicV1 := by decide
  have hNames : recNames.length = 47 := rfl
  have hLevLength : levLength + 40 + 5 + 47 = 105 := rfl
  rw [parse, if_neg hNot]
  simp only [headWords, hHead, List.map_cons, List.map_nil, Option.bind_eq_bind, Option.bind_some,
    List.getD_cons_zero, List.getD_cons_succ, hDims, hMagic, hRecWords, hLevWords, hNlevels, hBins,
    hRingN, hNthreads, hFirst, hNames, hLevLength, if_false, ne_eq, not_true_eq_false]
  simp only [Nat.reduceMul, Nat.reduceAdd] at hLevelRows hThrRows hRingRows ⊢
  rw [hLevelRows, Option.bind_some, hThrRows, Option.bind_some, hRingRows, Option.bind_some]
  rfl

/-- The ring is returned oldest first. -/
theorem parsed_ring {r : Recorder} : r.parsed.ring.map Prod.snd =
    (RingLog.entries r.ring r.ringNext.toNat).map Rec.dict := by
  rw [Recorder.parsed, List.map_map, ringOrder, List.map_map, RingLog.entries, List.map_map]
  apply List.map_congr_left
  intro i _
  have hSlot : (r.ringNext.toNat - min r.ringNext.toNat 48 + i) % 48 < 48 :=
    Nat.mod_lt _ (by decide)
  simp only [Function.comp_apply]
  rw [List.getD_eq_getElem _ _ (by rw [List.length_map, List.length_finRange]; exact hSlot),
    List.getElem_map, List.getElem_finRange]
  rfl

end SafetyIsland.SpinDiag
