import Mathlib.Algebra.BigOperators.Group.Finset.Basic
import SafetyIsland.Trace.LoadFile

/-! `load` over bytes that no image need have written: it does not read past
the padding it adds, every byte it has used belongs to one record, and where it
stops there is no record that it knows. -/
namespace SafetyIsland.Trace

open LittleEndian Framing

/-- The id where a record would start. -/
def idAt (d : Tsdl) (buf : List Byte) (pos : Nat) : Nat := word d.idSize 4 (buf.drop pos)

def behind (d : Tsdl) (buf : List Byte) (pos : Nat) : List Byte := buf.drop (pos + (4 + d.idSize))

/-- Records one behind the other, each with the id and the body that stand
where it starts, and the position behind the last. -/
def Laid (u : Setup) (d : Tsdl) (buf : List Byte) : Nat → List Record → Nat → Prop
  | pos, [], used => pos = used
  | pos, r :: recs, used => r.off = pos ∧ r.id = r.body.id (idAt d buf pos) ∧
      idAt d buf pos ≠ 0 ∧
      ∃ length, readBody u d (idAt d buf pos) (behind d buf pos) = .read r.body length ∧
        Laid u d buf (pos + (4 + d.idSize + length)) recs used

/-- Why the loop stops where it does. -/
inductive StopsAt (u : Setup) (d : Tsdl) (buf : List Byte) (pos count : Nat) :
    Option String → Prop where
  | short (h : buf.length < pos + (4 + d.idSize)) : StopsAt u d buf pos count none
  | unused (h : idAt d buf pos = 0) : StopsAt u d buf pos count none
  | unknown (h : readBody u d (idAt d buf pos) (behind d buf pos) = .unknown) :
      StopsAt u d buf pos count (some (unknownId (idAt d buf pos) pos count))

def kinds (recs : List Record) : Finset String := (recs.map fun r => r.body.kind).toFinset

/-- A trace that accounts for the bytes used of a buffer. -/
structure Accounts (u : Setup) (d : Tsdl) (buf : List Byte) (l : Loaded) : Prop where
  laid : ∃ recs, recs.map Record.content = l.records.map Record.content ∧
    Laid u d (buf ++ padding) 0 recs l.used
  sizes : ∑ kind ∈ kinds l.records, l.bytesByKind kind = l.used
  none_else : ∀ kind, kind ∉ kinds l.records → l.bytesByKind kind = 0
  stops : StopsAt u d (buf ++ padding) l.used l.records.length l.error

section Loop
variable {u : Setup} {d : Tsdl} {buf data : List Byte} {s s' : Reading} {size : Nat}

/-- One record more, behind those read. -/
theorem Laid.concat {recs : List Record} {r : Record} {pos used length : Nat}
    (h : Laid u d buf pos recs used) (hOff : r.off = used)
    (hId : r.id = r.body.id (idAt d buf used)) (hSome : idAt d buf used ≠ 0)
    (hBody : readBody u d (idAt d buf used) (behind d buf used) = .read r.body length) :
    Laid u d buf pos (recs ++ [r]) (used + (4 + d.idSize + length)) := by
  induction recs generalizing pos with
  | nil =>
      obtain rfl : pos = used := h
      exact ⟨hOff, hId, hSome, length, hBody, rfl⟩
  | cons first recs ih =>
      obtain ⟨hFirst, hFirstId, hFirstSome, firstLength, hFirstBody, hRest⟩ := h
      exact ⟨hFirst, hFirstId, hFirstSome, firstLength, hFirstBody, ih hRest⟩

/-- What the loop's variables account for. -/
structure Reading.Accounts (u : Setup) (d : Tsdl) (buf : List Byte) (s : Reading)
    (data : List Byte) : Prop where
  rest : data = buf.drop s.pos
  laid : Laid u d buf 0 s.recs s.pos
  sizes : ∑ kind ∈ kinds s.recs, s.sizes kind = s.pos
  none_else : ∀ kind, kind ∉ kinds s.recs → s.sizes kind = 0

/-- A turn of the loop that finds a record. -/
theorem front_item (h : Reading.front u d s data = .item s' size) :
    word d.idSize 4 data ≠ 0 ∧ ∃ body length,
      readBody u d (word d.idSize 4 data) (data.drop (4 + d.idSize)) = .read body length ∧
      size = 4 + d.idSize + length ∧
      s' = s.push (BitVec.ofNat 32 (word 4 0 data)) (word d.idSize 4 data) body size := by
  rw [Reading.front] at h
  split_ifs at h with hShort hZero
  cases hBody : readBody u d (word d.idSize 4 data) (data.drop (4 + d.idSize)) with
  | short =>
      rw [hBody] at h
      cases h
  | unknown =>
      rw [hBody] at h
      cases h
  | read body length =>
      rw [hBody] at h
      obtain ⟨rfl, rfl⟩ := Front.item.inj h
      exact ⟨hZero, body, length, rfl, rfl, rfl⟩

/-- The kinds with one more record. -/
theorem kinds_push {ts : U32} {id : Nat} {body : Body} :
    kinds (s.push ts id body size).recs = insert body.kind (kinds s.recs) := by
  have hMap : (s.push ts id body size).recs.map (fun r => r.body.kind) =
      (s.recs.map fun r => r.body.kind) ++ [body.kind] := List.map_append
  rw [kinds, hMap, List.toFinset_append, kinds]
  simp only [List.toFinset_cons, List.toFinset_nil, insert_empty_eq, Finset.union_singleton]

/-- What the loop reads it accounts for. -/
theorem Reading.Accounts.push (h : s.Accounts u d buf data)
    (hItem : Reading.front u d s data = .item s' size) :
    s'.Accounts u d buf (data.drop size) := by
  obtain ⟨hSome, body, length, hBody, rfl, rfl⟩ := front_item hItem
  have hBehind : data.drop (4 + d.idSize) = behind d buf s.pos := by
    rw [h.rest, List.drop_drop, behind]
  constructor
  · rw [h.rest, List.drop_drop]
    rfl
  · have hId : word d.idSize 4 data = idAt d buf s.pos := by rw [h.rest, idAt]
    rw [hBehind, hId] at hBody
    rw [hId] at hSome
    exact h.laid.concat rfl (congrArg body.id hId) hSome hBody
  · rw [kinds_push]
    show ∑ kind ∈ insert body.kind (kinds s.recs), Function.update s.sizes body.kind
      (s.sizes body.kind + (4 + d.idSize + length)) kind = s.pos + (4 + d.idSize + length)
    have hOther : ∑ kind ∈ (kinds s.recs).erase body.kind, Function.update s.sizes body.kind
        (s.sizes body.kind + (4 + d.idSize + length)) kind =
          ∑ kind ∈ (kinds s.recs).erase body.kind, s.sizes kind := by
      apply Finset.sum_congr rfl
      intro kind hKind
      exact Function.update_of_ne (Finset.ne_of_mem_erase hKind) _ _
    have hSum : s.sizes body.kind + ∑ kind ∈ (kinds s.recs).erase body.kind, s.sizes kind =
        s.pos := by
      rw [← h.sizes]
      by_cases hMem : body.kind ∈ kinds s.recs
      · rw [Finset.add_sum_erase _ _ hMem]
      · rw [h.none_else _ hMem, Nat.zero_add, Finset.erase_eq_of_notMem hMem]
    rw [← Finset.insert_erase (Finset.mem_insert_self body.kind (kinds s.recs)),
      Finset.sum_insert (Finset.notMem_erase _ _), Finset.erase_insert_eq_erase,
      hOther, Function.update_self]
    omega
  · rw [kinds_push]
    intro kind hKind
    rw [Finset.mem_insert, not_or] at hKind
    show Function.update s.sizes body.kind _ kind = 0
    rw [Function.update_of_ne hKind.1, h.none_else kind hKind.2]

/-- Behind a header that is not unused there is room for every record of the
island's: 64 bytes less the width of an id. -/
theorem behind_length {pos : Nat} (hSize : d.idSize ≤ 2) (hSome : idAt d (data ++ padding) pos ≠ 0) :
    16 ≤ (behind d (data ++ padding) pos).length := by
  by_contra hShort
  apply hSome
  have hEnd : data.length ≤ pos + 4 := by
    rw [behind, List.length_drop, List.length_append, padding, List.length_replicate] at hShort
    omega
  have hZeros : (data ++ padding).drop (pos + 4) =
      List.replicate (64 - (pos + 4 - data.length)) 0 := by
    rw [List.drop_append, List.drop_of_length_le hEnd, List.nil_append, padding,
      List.drop_replicate]
  rw [idAt, ← Nat.add_zero 4, ← word_drop, List.drop_drop, hZeros]
  exact word_zeros _

/-- 16 bytes are enough for any body. -/
theorem readBody_long {id : Nat} (h : 16 ≤ data.length) : readBody u d id data ≠ .short := by
  have hRead : ∀ body length, BodyRead.read body length ≠ .short := by
    intro body length hShort
    cases hShort
  rw [readBody]
  split_ifs
  · omega
  · exact hRead _ _
  · omega
  · exact hRead _ _
  · omega
  · exact hRead _ _
  · omega
  · exact hRead _ _
  · cases d.events id with
    | some event => exact hRead _ _
    | none =>
        intro hShort
        cases hShort

/-- Where the loop ends. -/
theorem Reading.Accounts.ends (hSize : d.idSize ≤ 2) (h : s.Accounts u d (buf ++ padding) data)
    (hEnds : Reading.front u d s data = .stop ∨
      ∃ fault, Reading.front u d s data = .fault fault) :
    (Reading.front u d s data = .stop ∧
        StopsAt u d (buf ++ padding) s.pos s.recs.length none) ∨
      ∃ text, Reading.front u d s data = .fault (.unknown text) ∧
        StopsAt u d (buf ++ padding) s.pos s.recs.length (some text) := by
  have hId : word d.idSize 4 data = idAt d (buf ++ padding) s.pos := by rw [h.rest, idAt]
  have hBehind : data.drop (4 + d.idSize) = behind d (buf ++ padding) s.pos := by
    rw [h.rest, List.drop_drop, behind]
  have hLength : data.length = (buf ++ padding).length - s.pos := by rw [h.rest, List.length_drop]
  rw [Reading.front] at hEnds ⊢
  rw [hId, hBehind] at hEnds ⊢
  split_ifs at hEnds ⊢ with hShort hZero
  · exact .inl ⟨rfl, .short (by omega)⟩
  · exact .inl ⟨rfl, .unused hZero⟩
  · cases hBody : readBody u d (idAt d (buf ++ padding) s.pos) (behind d (buf ++ padding) s.pos) with
    | short => exact absurd hBody (readBody_long (behind_length hSize hZero))
    | unknown => exact .inr ⟨_, rfl, .unknown hBody⟩
    | read body length =>
        rw [hBody] at hEnds
        rcases hEnds with hStop | ⟨fault, hFault⟩
        · cases hStop
        · cases hFault

end Loop

section Load
variable {u : Setup} {d : Tsdl} {buf : List Byte} {header : Option Header} {zephyr : String}

/-- Anchoring drops no record. -/
theorem length_anchor (segStart : Option Nat) (recs : List Record) :
    (anchor segStart recs).length = recs.length := by
  rw [← List.length_map (f := Record.content), anchor_content, List.length_map]

/-- And changes no kind. -/
theorem kinds_anchor (segStart : Option Nat) (recs : List Record) :
    kinds (anchor segStart recs) = kinds recs := by
  have hKinds : ∀ recs : List Record, recs.map (fun r => r.body.kind) =
      (recs.map Record.content).map fun c => c.2.2.kind := by
    intro recs
    rw [List.map_map]
    rfl
  rw [kinds, kinds, hKinds, anchor_content, ← hKinds]

/-- Any buffer loads, and what comes out accounts for it. -/
theorem loadBuffer_any (header : Option Header) (zephyr : String) (buf : List Byte)
    (hSize : d.idSize ≤ 2) :
    ∃ l, loadBuffer u d header zephyr buf = .ok l ∧ l.header = header ∧ Accounts u d buf l := by
  have hStart : ({} : Reading).Accounts u d (buf ++ padding) (buf ++ padding) :=
    ⟨rfl, rfl, rfl, fun _ _ => rfl⟩
  obtain ⟨last, rest, hLast, hEnd⟩ := read_ends front_advances hStart
    fun _ _ _ _ h hItem => h.push hItem
  have hAccounts : ∀ error, StopsAt u d (buf ++ padding) last.pos last.recs.length error →
      Accounts u d buf (last.loaded header zephyr error) := by
    intro error hStops
    constructor
    · exact ⟨last.recs, (anchor_content last.segStart).symm, hLast.laid⟩
    · show ∑ kind ∈ kinds (anchor last.segStart last.recs), last.sizes kind = last.pos
      rw [kinds_anchor, hLast.sizes]
    · show ∀ kind, kind ∉ kinds (anchor last.segStart last.recs) → last.sizes kind = 0
      rw [kinds_anchor]
      exact hLast.none_else
    · show StopsAt u d (buf ++ padding) last.pos (anchor last.segStart last.recs).length error
      rw [length_anchor]
      exact hStops
  have hWhy := hLast.ends hSize (hEnd.imp And.left fun ⟨fault, hFault, _⟩ => ⟨fault, hFault⟩)
  rcases hEnd with ⟨hStop, hRead⟩ | ⟨fault, hFault, hRead⟩
  · rcases hWhy with ⟨-, hStops⟩ | ⟨text, hText, -⟩
    · exact ⟨_, by rw [loadBuffer, hRead], rfl, hAccounts none hStops⟩
    · rw [hStop] at hText
      cases hText
  · rcases hWhy with ⟨hStop, -⟩ | ⟨text, hText, hStops⟩
    · rw [hFault] at hStop
      cases hStop
    · rw [hFault] at hText
      obtain rfl := Front.fault.inj hText
      exact ⟨_, by rw [loadBuffer, hRead], rfl, hAccounts (some text) hStops⟩

/-- A raw buffer of any bytes loads, unless it starts as a file with a header does. -/
theorem load_any {data : List Byte} (hZephyr : zephyr ≠ "") (hNot : data.take 8 ≠ magic)
    (hSize : (u.tsdl (u.tsdlPath zephyr)).idSize ≤ 2)
    (hApart : (u.tsdl (u.tsdlPath zephyr)).collisions = []) :
    ∃ l, u.load data zephyr = .ok l ∧ Accounts u (u.tsdl (u.tsdlPath zephyr)) data l := by
  have hSplit : splitFile data zephyr = .ok (none, zephyr, data) := by
    rw [splitFile, if_neg hNot, if_neg hZephyr]
  obtain ⟨l, hLoad, -, hAccounts⟩ := loadBuffer_any (u := u) none zephyr data hSize
  exact ⟨l, by rw [load_split hSplit hApart, hLoad], hAccounts⟩

/-- Bytes of no image: what would be a provenance is longer than the buffer. -/
theorem load_any_long : ∃ l,
    sampleSetup.load [1, 0, 0, 0, 0xE2, 1, 0xFF, 0xFF, 0x41] "4.4" = .ok l ∧
      Accounts sampleSetup sampleTsdl [1, 0, 0, 0, 0xE2, 1, 0xFF, 0xFF, 0x41] l :=
  load_any (by decide) (by decide) (by decide) rfl

/-- A wrapped buffer of any bytes loads exactly if four of them are in use. -/
theorem load_wrap_iff {data file : List Byte} {major minor emitted up hbMs : Nat}
    (hWrap : wrap data major minor emitted up hbMs = .ok file) (hMinor : minor < 2 ^ 8)
    (hSize : (u.tsdl (u.tsdlPath (toString major ++ "." ++ toString minor))).idSize ≤ 2)
    (hApart : (u.tsdl (u.tsdlPath (toString major ++ "." ++ toString minor))).collisions = []) :
    (∃ l, u.load file "" = .ok l) ↔ 4 ≤ (trimmed data).length := by
  have hText := versionText_wrap major hMinor
  rw [wrap] at hWrap
  split_ifs at hWrap with hFits
  obtain rfl := Except.ok.inj hWrap
  simp only [List.all_cons, List.all_nil, Bool.and_true, Bool.and_eq_true, decide_eq_true_eq]
    at hFits
  obtain ⟨hVersion, hLen, hEmitted, hHb, hUp, hKept⟩ := hFits
  constructor
  · rintro ⟨l, hLoad⟩
    by_contra hShort
    rw [Setup.load, splitFile_short (by omega)] at hLoad
    cases hLoad
  · intro hFour
    have hSplit := splitFile_fileOf hVersion hLen hEmitted hHb hUp hKept hFour
    rw [hText] at hSplit
    obtain ⟨l, hLoad, -⟩ := loadBuffer_any (u := u)
      (some (Header.of ((major <<< 16) ||| (minor <<< 8)) data.length emitted hbMs up
        (trimmed data).length)) (toString major ++ "." ++ toString minor) (trimmed data) hSize
    exact ⟨l, by rw [load_split hSplit hApart, hLoad]⟩

/-- Three bytes in use do not load. -/
theorem load_wrap_iff_three : ∃ file, wrap [1, 2, 3, 0, 0] 4 4 0 0 100 = .ok file ∧
    ¬ ∃ l, sampleSetup.load file "" = .ok l := by
  have hWrap : wrap [1, 2, 3, 0, 0] 4 4 0 0 100 =
      .ok (fileOf ((4 <<< 16) ||| (4 <<< 8)) 5 0 100 0 [1, 2, 3]) := rfl
  refine ⟨_, hWrap, ?_⟩
  intro hLoad
  have hFour := (load_wrap_iff (u := sampleSetup) hWrap (by decide) (by decide) rfl).mp hLoad
  exact absurd hFour (by decide)

end Load

end SafetyIsland.Trace
