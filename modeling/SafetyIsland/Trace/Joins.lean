import Mathlib.Data.List.Induction
import SafetyIsland.Trace.Binding

/-! `join_takes` and `join_violations` of `island_trace.py` over what the sink
wrote. The decoder may start anywhere in the stream; what it attaches is the
record's own as long as no take comes between the sink's test of
`island_trace_take_cur` and the record it guards. -/
namespace SafetyIsland.Trace

open Preemption Transition

/-- One of `tr.takes`. -/
structure TakeRow (τ : Type*) where
  tNs : τ
  input : U8
  seq : U32
  /-- In nanoseconds of the publisher's clock. -/
  stampNs : Option Nat := none
  deriving DecidableEq, Repr

/-- The state of `join_takes`: `cur` is the last row of its `out`. -/
structure TakeJoin (τ : Type*) where
  out : List (TakeRow τ) := []
  cur : Option (TakeRow τ) := none
  sec : U8 → Option U32 := fun _ => none

/-- A source stamp, from its two words. -/
def stampOf (sec nsec : U32) : Nat := sec.toNat * 1000000000 + nsec.toNat

section Decoder
variable {τ : Type*}

def TakeJoin.take (d : TakeJoin τ) (t : τ) (arg : U32) : TakeJoin τ :=
  { d with
    out := d.out ++ d.cur.toList
    cur := some { tNs := t, input := inputOf arg, seq := arg &&& 0xFFFFFF } }

def TakeJoin.stampSec (d : TakeJoin τ) (arg : U32) : TakeJoin τ :=
  match d.cur with
  | some cur => { d with sec := Function.update d.sec cur.input (some arg) }
  | none => d

def TakeJoin.stampNsec (d : TakeJoin τ) (arg : U32) : TakeJoin τ :=
  match d.cur with
  | some cur =>
      { d with
        out := d.out ++ [{ cur with stampNs := (d.sec cur.input).map (stampOf · arg) }]
        cur := none }
  | none => d

def TakeJoin.step (d : TakeJoin τ) : Rec τ → TakeJoin τ
  | .other _ => d
  | .marker t id arg =>
      if id = nrosTake then d.take t arg
      else if id = nrosTakeStampSec then d.stampSec arg
      else if id = nrosTakeStampNsec then d.stampNsec arg
      else d

def takeJoin (recs : List (Rec τ)) : TakeJoin τ := recs.foldl TakeJoin.step {}

def joinTakes (recs : List (Rec τ)) : List (TakeRow τ) :=
  (takeJoin recs).out ++ (takeJoin recs).cur.toList

/-- One of `tr.violations`. -/
structure ViolationRow (τ : Type*) where
  tNs : τ
  seq : U32
  ruleCode : U32
  fqnHash : Option U32 := none
  measured : Option U32 := none
  declared : Option U32 := none
  deriving DecidableEq, Repr

/-- The state of `join_violations`: `cur` is the last row of its `out`. -/
structure ViolationJoin (τ : Type*) where
  out : List (ViolationRow τ) := []
  cur : Option (ViolationRow τ) := none

/-- The four markers in order: the head opens a row, each of the others fills
its own field once, and the last closes the row. -/
def ViolationJoin.step (d : ViolationJoin τ) : Rec τ → ViolationJoin τ
  | .other _ => d
  | .marker t id arg =>
      if id = nrosViolation then
        { out := d.out ++ d.cur.toList
          cur := some { tNs := t, seq := arg >>> 8, ruleCode := arg &&& 0xFF } }
      else
        match d.cur with
        | none => d
        | some cur =>
            if id = nrosViolationFqn ∧ cur.fqnHash = none then
              { d with cur := some { cur with fqnHash := some arg } }
            else if id = nrosViolationMeasured ∧ cur.measured = none then
              { d with cur := some { cur with measured := some arg } }
            else if id = nrosViolationDeclared ∧ cur.declared = none then
              { out := d.out ++ [{ cur with declared := some arg }], cur := none }
            else d

def violationJoin (recs : List (Rec τ)) : ViolationJoin τ := recs.foldl ViolationJoin.step {}

def joinViolations (recs : List (Rec τ)) : List (ViolationRow τ) :=
  (violationJoin recs).out ++ (violationJoin recs).cur.toList

/-- What a take's record says: its time, its input and its number. -/
def Rec.taking : Rec τ → Option (τ × U8 × U32)
  | .marker t id arg => if id = nrosTake then some (t, inputOf arg, arg &&& 0xFFFFFF) else none
  | .other _ => none

def TakeRow.taking (row : TakeRow τ) : τ × U8 × U32 := (row.tNs, row.input, row.seq)

/-- What a violation's first marker says: its time, its number and its rule. -/
def Rec.opening : Rec τ → Option (τ × U32 × U32)
  | .marker t id arg => if id = nrosViolation then some (t, arg >>> 8, arg &&& 0xFF) else none
  | .other _ => none

def ViolationRow.opening (row : ViolationRow τ) : τ × U32 × U32 := (row.tNs, row.seq, row.ruleCode)

/-- Each take's record opens a row, in order, and nothing else does. -/
theorem joinTakes_taking (recs : List (Rec τ)) :
    (joinTakes recs).map TakeRow.taking = recs.filterMap Rec.taking := by
  induction recs using List.reverseRecOn with
  | nil => rfl
  | append_singleton recs r ih =>
      have hJoin : takeJoin (recs ++ [r]) = (takeJoin recs).step r := List.foldl_append
      rw [List.filterMap_append, ← ih, joinTakes, joinTakes, hJoin]
      generalize takeJoin recs = d
      obtain ⟨out, cur, sec⟩ := d
      cases r with
      | other t => simp [TakeJoin.step, Rec.taking]
      | marker t id arg =>
          by_cases hTake : id = nrosTake
          · simp [TakeJoin.step, TakeJoin.take, Rec.taking, TakeRow.taking, hTake]
          · have hNone : (Rec.marker t id arg).taking = none := if_neg hTake
            simp only [TakeJoin.step, if_neg hTake]
            -- the stamp's two records change the open row, and open none
            cases cur with
            | none => split_ifs <;> simp [TakeJoin.stampSec, TakeJoin.stampNsec, hNone]
            | some cur =>
                split_ifs <;> simp [TakeJoin.stampSec, TakeJoin.stampNsec, TakeRow.taking, hNone]

/-- Every row is opened by a take's record. -/
theorem joinTakes_record {recs : List (Rec τ)} {row : TakeRow τ} (hMem : row ∈ joinTakes recs) :
    ∃ arg, .marker row.tNs nrosTake arg ∈ recs ∧ row.input = inputOf arg ∧
      row.seq = arg &&& 0xFFFFFF := by
  have hTaking : row.taking ∈ recs.filterMap Rec.taking := by
    rw [← joinTakes_taking]
    exact List.mem_map_of_mem hMem
  obtain ⟨r, hRec, hOpens⟩ := List.mem_filterMap.mp hTaking
  cases r with
  | other t => cases hOpens
  | marker t id arg =>
      obtain ⟨rfl, hRow⟩ := Option.ite_none_right_eq_some.mp hOpens
      obtain ⟨rfl, hInput, hSeq⟩ : t = row.tNs ∧ inputOf arg = row.input ∧
          arg &&& 0xFFFFFF = row.seq := by simpa [TakeRow.taking] using hRow
      exact ⟨arg, hRec, hInput.symm, hSeq.symm⟩

/-- Each row of the violations is opened by its first marker, in order. -/
theorem joinViolations_opening (recs : List (Rec τ)) :
    (joinViolations recs).map ViolationRow.opening = recs.filterMap Rec.opening := by
  induction recs using List.reverseRecOn with
  | nil => rfl
  | append_singleton recs r ih =>
      have hJoin : violationJoin (recs ++ [r]) = (violationJoin recs).step r := List.foldl_append
      rw [List.filterMap_append, ← ih, joinViolations, joinViolations, hJoin]
      generalize violationJoin recs = d
      obtain ⟨out, cur⟩ := d
      cases r with
      | other t => simp [ViolationJoin.step, Rec.opening]
      | marker t id arg =>
          by_cases hHead : id = nrosViolation
          · simp [ViolationJoin.step, Rec.opening, ViolationRow.opening, hHead]
          · have hNone : (Rec.marker t id arg).opening = none := if_neg hHead
            simp only [ViolationJoin.step, if_neg hHead]
            cases cur with
            | none => simp [hNone]
            | some cur =>
                dsimp only
                split_ifs <;> simp [ViolationRow.opening, hNone]

end Decoder

/-- The stamp, where there is one, is that of the sample the row is of. -/
def TakeRow.Own (row : TakeRow Writer) : Prop :=
  ∀ stamp, row.stampNs = some stamp → ∃ t, row.tNs = .take t ∧ stamp = stampOf t.sec t.nsec

/-- The row that a take's record opens. -/
def rowOf (t : Sample) (i : U8) : TakeRow Writer :=
  { tNs := .take t, input := i, seq := takeArg i t &&& 0xFFFFFF }

/-- The sink stands between a take's record and the end of its nanosecond's
event. -/
def TakeAt.grouped : TakeAt → Bool
  | .stamped | .secCur | .secDiffers | .secStore | .putSec | .nsecCur | .putNsec => true
  | _ => false

/-- `take_cur` names an input that is bound. -/
def Forwarding (s : Sink) : Prop := s.takeCur < takeInputs ∧ s.takeSlot s.takeCur ≠ 0

/-- Where the running take stands, `take_cur` is its own or nobody's. -/
def CurAt (s : Sink) (t : Sample) : TakeAt → Prop
  | .lastTake | .clearCur | .clearStamped => True
  | .putTake i => s.takeCur = 0xFF ∨ s.takeCur = i
  | .stamped => s.takeCur = 0xFF ∨ Forwarding s ∧ s.stampOn t.slot = true
  | .secCur => s.takeCur = 0xFF ∨ Forwarding s
  | .secDiffers | .secStore => Forwarding s
  | .putSec | .putNsec => Forwarding s ∧ s.takeSec s.takeCur = t.sec
  | .nsecCur => s.takeCur = 0xFF ∨ Forwarding s ∧ s.takeSec s.takeCur = t.sec
  | _ => s.takeCur = 0xFF

/-- The input whose second the sink has stored and not yet put. -/
def staleAt (s : Sink) (pos : TakeAt) : Option U8 :=
  if pos = .putSec then some s.takeCur else none

/-- A decoder's rows are right, and so are the seconds it remembers. -/
structure Attributes (s : Sink) (stale : Option U8) (d : TakeJoin Writer) : Prop where
  own : ∀ row ∈ d.out, row.Own
  cur : ∀ row, d.cur = some row → row.stampNs = none ∧ s.takeSlot row.input ≠ 0
  sec : ∀ i v, d.sec i = some v → s.takeSlot i ≠ 0 ∧ (stale = some i ∨ s.takeSec i = v)

/-- The decoder's open row is the running take's, or the decoder began after
that row. -/
def Linked (s : Sink) (t : Sample) (d : TakeJoin Writer) : Prop :=
  s.takeCur < takeInputs → d.cur = some (rowOf t s.takeCur) ∨ d = {}

section Takes
variable {ex : Executor} {s s' : Sink} {t : Sample} {pos pos' : TakeAt} {d : TakeJoin Writer}
  {stale : Option U8}

theorem not_forwarding_of_none (hNone : s.takeCur = 0xFF) : ¬ s.takeCur < takeInputs := by
  rw [hNone]
  decide

/-- A reader that begins here attributes nothing. -/
theorem Attributes.fresh : Attributes s stale {} where
  own row hMem := absurd hMem List.not_mem_nil
  cur row hCur := by cases hCur
  sec i v hSec := by cases hSec

/-- A statement that puts nothing keeps the decoders right. -/
theorem Attributes.silent (h : Attributes s none d)
    (hSlot : ∀ i, s.takeSlot i ≠ 0 → s'.takeSlot i ≠ 0)
    (hSec : ∀ i, s.takeSlot i ≠ 0 → stale = some i ∨ s'.takeSec i = s.takeSec i) :
    Attributes s' stale d where
  own := h.own
  cur row hCur := ⟨(h.cur row hCur).1, hSlot _ (h.cur row hCur).2⟩
  sec i v hOf := by
    obtain ⟨hBound, hSame⟩ := h.sec i v hOf
    refine ⟨hSlot i hBound, (hSec i hBound).imp_right fun hKept => ?_⟩
    rw [hKept]
    exact hSame.resolve_left (by simp)

/-- The take's record opens its row. -/
theorem Attributes.take {i : U8} (h : Attributes s none d) (hBound : s.takeSlot i ≠ 0) :
    Attributes s none (d.take (.take t) (takeArg i t)) where
  own row hMem := by
    rcases List.mem_append.mp hMem with hOut | hCur
    · exact h.own row hOut
    · intro stamp hStamp
      rw [(h.cur row (Option.mem_toList.mp hCur)).1] at hStamp
      cases hStamp
  cur row hCur := by
    obtain rfl := Option.some.inj hCur
    refine ⟨rfl, ?_⟩
    show s.takeSlot (inputOf (takeArg i t)) ≠ 0
    rwa [inputOf_takeArg]
  sec := h.sec

/-- The second's record gives the open row's input the stored second. -/
theorem Attributes.stampSec (h : Attributes s (some s.takeCur) d)
    (hForwarding : Forwarding s) (hLinked : Linked s t d) (hStored : s.takeSec s.takeCur = t.sec) :
    Attributes s none (d.stampSec t.sec) ∧ Linked s t (d.stampSec t.sec) := by
  rcases hLinked hForwarding.1 with hCur | rfl
  · have hStep : d.stampSec t.sec =
        { d with sec := Function.update d.sec s.takeCur (some t.sec) } := by
      simp only [TakeJoin.stampSec, hCur]
      rfl
    rw [hStep]
    refine ⟨⟨h.own, h.cur, ?_⟩, fun _ => .inl hCur⟩
    intro i v hOf
    by_cases hOwn : i = s.takeCur
    · subst hOwn
      have hSame : t.sec = v := by simpa using hOf
      exact ⟨hForwarding.2, .inr (hStored.trans hSame)⟩
    · have hKept : Function.update d.sec s.takeCur (some t.sec) i = d.sec i :=
        Function.update_of_ne hOwn ..
      have hOther : d.sec i = some v := hKept.symm.trans hOf
      obtain ⟨hBound, hSame⟩ := h.sec i v hOther
      refine ⟨hBound, hSame.imp_left fun hStale => ?_⟩
      exact absurd (Option.some.inj hStale).symm hOwn
  · exact ⟨.fresh, fun _ => .inr rfl⟩

/-- The nanosecond's record closes the row with the sample's own stamp. -/
theorem Attributes.stampNsec (h : Attributes s none d) (hForwarding : Forwarding s)
    (hLinked : Linked s t d) (hStored : s.takeSec s.takeCur = t.sec) :
    Attributes s none (d.stampNsec t.nsec) := by
  rcases hLinked hForwarding.1 with hCur | rfl
  · have hStep : d.stampNsec t.nsec = { d with
        out := d.out ++ [{ rowOf t s.takeCur with
          stampNs := (d.sec s.takeCur).map (stampOf · t.nsec) }]
        cur := none } := by
      simp only [TakeJoin.stampNsec, hCur]
      rfl
    rw [hStep]
    refine ⟨?_, fun row hNone => (by cases hNone), h.sec⟩
    intro row hMem
    rcases List.mem_append.mp hMem with hOut | hNew
    · exact h.own row hOut
    · rw [List.mem_singleton.mp hNew]
      intro stamp hStamp
      obtain ⟨v, hOf, rfl⟩ := Option.map_eq_some_iff.mp hStamp
      obtain ⟨-, hSame⟩ := h.sec _ v hOf
      have hOwn : v = t.sec := (hSame.resolve_left (by simp)).symm.trans hStored
      exact ⟨t, rfl, by rw [hOwn]⟩
  · exact .fresh

/-- Every binding's slot has its stamp on. -/
def StampBound (s : Sink) : Prop :=
  ∀ i, s.takeSlot i ≠ 0 → s.stampOn (s.takeSlot i - 1) = true

/-- A stamp stays bound to the slot of its own input. -/
theorem StampBound.next (h : StampBound s) (hPlaced : Placed ex s t pos)
    (hStamped : pos = .bindSlot → s.stampOn s.lastTake = true) :
    StampBound (execTake ex s t pos).1 := by
  intro i hOn
  rcases execTake_binds hPlaced with hSame | ⟨rfl, j, -, -, -, hExec⟩
  · rw [hSame] at hOn ⊢
    exact execTake_stampOn_mono (h i hOn)
  · rw [hExec] at hOn ⊢
    by_cases hOwn : i = j
    · subst hOwn
      show s.stampOn (Function.update s.takeSlot i (s.lastTake + 1) i - 1) = true
      rw [Function.update_self, BitVec.add_sub_cancel]
      exact hStamped rfl
    · have hKept : Function.update s.takeSlot j (s.lastTake + 1) i = s.takeSlot i :=
        Function.update_of_ne hOwn ..
      show s.stampOn (Function.update s.takeSlot j (s.lastTake + 1) i - 1) = true
      rw [hKept]
      exact h i (by rwa [← hKept])

/-- `take_cur` stays the running take's own or nobody's. -/
theorem CurAt.next (h : CurAt s t pos) (hPlaced : Placed ex s t pos) (hBound : StampBound s)
    (hSlot : t.slot.toNat < ex.slots) (hNext : (execTake ex s t pos).2.2 = some pos') :
    CurAt (execTake ex s t pos).1 t pos' := by
  cases pos with
  | seek i =>
      simp only [execTake] at hNext ⊢
      split_ifs at hNext ⊢ with hInput hOther
      · obtain rfl := Option.some.inj hNext
        exact h
      · obtain rfl := Option.some.inj hNext
        exact h
      · obtain rfl := Option.some.inj hNext
        exact .inl h
  | clearCur | clearStamped =>
      obtain rfl := Option.some.inj hNext
      rfl
  | lastTake =>
      obtain rfl := Option.some.inj hNext
      trivial
  | count i | restart i =>
      obtain rfl := Option.some.inj hNext
      exact h
  | due i =>
      obtain rfl := Option.some.inj hNext
      split_ifs
      · exact h
      · exact .inl h
  | setCur i =>
      obtain rfl := Option.some.inj hNext
      exact .inr rfl
  | putTake i =>
      obtain rfl := Option.some.inj hNext
      refine h.imp_right fun hCur => ?_
      have hOn : s.takeSlot i ≠ 0 := by
        rw [hPlaced.2]
        exact succ_ne_zero (slot_ne_of_lt hSlot)
      have hStamp := hBound i hOn
      rw [hPlaced.2, BitVec.add_sub_cancel] at hStamp
      refine ⟨⟨?_, ?_⟩, hStamp⟩
      · show s.takeCur < takeInputs
        rw [hCur]
        exact hPlaced.1
      · show s.takeSlot s.takeCur ≠ 0
        rwa [hCur]
  | stamped =>
      obtain rfl := Option.some.inj hNext
      split_ifs with hStamp
      · exact h.imp_right And.left
      · exact h.resolve_right fun hOwn => hStamp hOwn.2
  | secCur =>
      obtain rfl := Option.some.inj hNext
      split_ifs with hCur
      · exact h.resolve_left fun hNone => not_forwarding_of_none hNone hCur
      · exact .inl (h.resolve_right fun hOwn => hCur hOwn.1)
  | secDiffers =>
      obtain rfl := Option.some.inj hNext
      split_ifs with hSame
      · exact h
      · exact .inr ⟨h, not_not.mp hSame⟩
  | secStore =>
      obtain rfl := Option.some.inj hNext
      exact ⟨h, Function.update_self ..⟩
  | putSec =>
      obtain rfl := Option.some.inj hNext
      exact .inr h
  | nsecCur =>
      obtain rfl := Option.some.inj hNext
      split_ifs with hCur
      · exact h.resolve_left fun hNone => not_forwarding_of_none hNone hCur
      · trivial
  | putNsec =>
      obtain rfl := Option.some.inj hNext
      trivial
  | bind =>
      cases hInput : ex.input t.slot with
      | none =>
          simp only [execTake, hInput] at hNext ⊢
          obtain rfl := Option.some.inj hNext
          exact h
      | some i =>
          simp only [execTake, hInput] at hNext ⊢
          obtain rfl := Option.some.inj hNext
          split_ifs <;> exact h
  | bindSeen =>
      obtain rfl := Option.some.inj hNext
      split_ifs <;> exact h
  | bindKeep | bindN | bindSec | bindSlot =>
      obtain ⟨i, hInput, -⟩ := hPlaced
      simp only [execTake, hInput] at hNext ⊢
      obtain rfl := Option.some.inj hNext
      exact h
  | setTake =>
      obtain rfl := Option.some.inj hNext
      exact h
  | body => exact absurd hNext (by simp [execTake])

/-- What a decoder knows of the running take. -/
structure Reads (s : Sink) (t : Sample) (pos : TakeAt) (d : TakeJoin Writer) : Prop where
  attributes : Attributes s (staleAt s pos) d
  linked : pos.grouped = true → Linked s t d

theorem staleAt_of_ne (hPos : pos ≠ .putSec) : staleAt s pos = none := if_neg hPos

/-- A bound input's second changes only as the sink is about to put it. -/
theorem takeSec_kept {i : U8} (hPlaced : Placed ex s t pos) (hBound : s.takeSlot i ≠ 0)
    (hNext : (execTake ex s t pos).2.2 = some pos') :
    staleAt (execTake ex s t pos).1 pos' = some i ∨
      (execTake ex s t pos).1.takeSec i = s.takeSec i := by
  by_cases hStore : pos = .secStore
  · subst hStore
    obtain rfl := Option.some.inj hNext
    by_cases hCur : s.takeCur = i
    · exact .inl (congrArg some hCur)
    · exact .inr (Function.update_of_ne (Ne.symm hCur) ..)
  · by_cases hBind : pos = .bindSec
    · subst hBind
      obtain ⟨j, hInput, hFree, -⟩ := hPlaced
      have hOther : i ≠ j := by
        rintro rfl
        exact hBound hFree
      refine .inr ?_
      simp only [execTake, hInput]
      exact Function.update_of_ne hOther ..
    · exact .inr (by rw [execTake_takeSec hStore hBind])

/-- A statement that puts nothing links no other row. -/
theorem linked_silent (hCur : CurAt s t pos) (hPuts : pos.puts = false)
    (hNext : (execTake ex s t pos).2.2 = some pos') (hGrouped : pos'.grouped = true)
    (hLinked : pos.grouped = true → Linked s t d) : Linked (execTake ex s t pos).1 t d := by
  have hNobody (hNone : s.takeCur = 0xFF) : Linked s t d :=
    fun hLt => absurd hLt (not_forwarding_of_none hNone)
  cases execTake_follows hNext with
  | unbound i =>
      simp only [execTake]
      split_ifs <;> exact hNobody hCur
  | thinned => exact hNobody hCur
  | putTake | putSec | putNsec => cases hPuts
  | stamped | secCur | noSec | secDiffers | secSame | secStore | nsecCur => exact hLinked rfl
  | _ => cases hGrouped

/-- A statement keeps the take's reader in step, wherever it begins. -/
theorem reads_next {out : List (Rec Writer)} (hCur : CurAt s t pos) (hPlaced : Placed ex s t pos)
    (hSlot : t.slot.toNat < ex.slots) (hNext : (execTake ex s t pos).2.2 = some pos')
    (h : OnSuffixes TakeJoin.step {} (Reads s t pos) out) :
    OnSuffixes TakeJoin.step {} (Reads (execTake ex s t pos).1 t pos')
      (out ++ (execTake ex s t pos).2.1) := by
  cases hPuts : pos.puts with
  | false =>
      rw [execTake_silent hPuts, List.append_nil]
      refine h.mono fun d hReads => ⟨?_, fun hGrouped => ?_⟩
      · have hFresh := hReads.attributes
        rw [staleAt_of_ne (by rintro rfl; cases hPuts)] at hFresh
        refine hFresh.silent (fun i hOn => ?_) fun i hOn => takeSec_kept hPlaced hOn hNext
        rw [takeSlot_kept hPlaced hOn]
        exact hOn
      · exact linked_silent hCur hPuts hNext hGrouped hReads.linked
  | true =>
      cases pos with
      | putTake i =>
          obtain rfl := Option.some.inj hNext
          refine h.put ⟨.fresh, fun _ _ => .inr rfl⟩ fun d hReads => ⟨?_, fun _ hLt => .inl ?_⟩
          · have hOn : s.takeSlot i ≠ 0 := by
              rw [hPlaced.2]
              exact succ_ne_zero (slot_ne_of_lt hSlot)
            exact Attributes.take hReads.attributes hOn
          · have hOwn : s.takeCur = i := hCur.resolve_left fun hNone =>
              not_forwarding_of_none hNone hLt
            show some _ = some (rowOf t s.takeCur)
            rw [hOwn, rowOf, inputOf_takeArg]
      | putSec =>
          obtain rfl := Option.some.inj hNext
          refine h.put ⟨.fresh, fun _ _ => .inr rfl⟩ fun d hReads => ?_
          have hBoth := Attributes.stampSec hReads.attributes hCur.1 (hReads.linked rfl) hCur.2
          exact ⟨hBoth.1, fun _ => hBoth.2⟩
      | putNsec =>
          obtain rfl := Option.some.inj hNext
          refine h.put ⟨.fresh, fun h => absurd h (by simp [TakeAt.grouped])⟩ fun d hReads => ?_
          exact ⟨Attributes.stampNsec hReads.attributes hCur.1 (hReads.linked rfl) hCur.2,
            fun h => absurd h (by simp [TakeAt.grouped])⟩
      | _ => exact absurd hPuts (by simp [TakeAt.puts])

end Takes
end SafetyIsland.Trace
