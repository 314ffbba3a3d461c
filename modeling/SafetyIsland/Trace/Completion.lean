import SafetyIsland.Trace.Attribution

/-! Nothing is missing where no group of records is interrupted by another of
its kind: every forwarded take has its stamp, and every violation its values. -/
namespace SafetyIsland.Trace

open Preemption Transition

/-- A group of records, or the two reads of a bind, is under way. -/
def Frame.busy : Frame → Bool
  | .take _ (.putTake _) | .take _ .bindSlot => true
  | .take _ pos => pos.grouped
  | .violation _ pos => pos != .head
  | .other .. => false

/-- The sample's second is not the mark for none. -/
def Frame.Dated : Frame → Prop
  | .take t _ => t.sec ≠ 0xFFFFFFFF
  | _ => True

instance (f : Frame) : Decidable f.Dated :=
  match f with
  | .take .. => by unfold Frame.Dated; infer_instance
  | .violation .. | .other .. => isTrue trivial

/-- No take begins in another's group, and no violation in another's. -/
def Unbroken (ex : Executor) (w : World) : Event → Prop
  | .start f => f.Begins ex ∧ f.Dated ∧ ∀ g ∈ w.stack,
      f.isTake = true ∧ g.isTake = true ∨ f.isViolation = true ∧ g.isViolation = true →
        g.busy = false
  | .run => True

instance (ex : Executor) (w : World) (e : Event) : Decidable (Unbroken ex w e) :=
  match e with
  | .start _ => by unfold Unbroken; infer_instance
  | .run => isTrue trivial

theorem busy_of_exposed {f : Frame} (hExposed : f.exposed = true) :
    f.isTake = true ∧ f.busy = true := by
  cases f with
  | take t pos => cases pos <;> first | exact ⟨rfl, rfl⟩ | cases hExposed
  | violation | other => cases hExposed

/-- A step that breaks no group begins no take between a test and its record. -/
theorem Unbroken.guarded {ex : Executor} {w : World} {e : Event} (h : Unbroken ex w e) :
    Guarded ex w e := by
  cases e with
  | run => trivial
  | start f =>
      refine ⟨h.1, fun hTake g hMem => ?_⟩
      cases hExposed : g.exposed with
      | false => rfl
      | true =>
          obtain ⟨hOf, hBusy⟩ := busy_of_exposed hExposed
          exact absurd (h.2.2 g hMem (.inl ⟨hTake, hOf⟩)) (by rw [hBusy]; decide)

/-- The second of an input about to be bound is the mark for none. -/
def Unset (ex : Executor) (s : Sink) (t : Sample) (pos : TakeAt) : Prop :=
  pos = .setTake ∨ pos = .bindSlot → ∀ i, ex.input t.slot = some i → s.takeSec i = 0xFFFFFFFF

/-- The decoder of the whole stream lacks nothing. -/
structure Full (s : Sink) (stale : Option U8) (isOpen : Prop) (d : TakeJoin Writer) : Prop where
  stamped : ∀ row ∈ d.out, row.stampNs.isSome = true
  cur : d.cur.isSome = true ↔ isOpen
  sec : ∀ i, s.takeSlot i ≠ 0 → s.takeSec i ≠ 0xFFFFFFFF →
    stale = some i ∨ d.sec i = some (s.takeSec i)

/-- The running take, and the decoder of the whole stream. -/
structure Completing (ex : Executor) (s : Sink) (out : List (Rec Writer)) (t : Sample)
    (pos : TakeAt) : Prop extends Attributing ex s out t pos where
  dated : t.sec ≠ 0xFFFFFFFF
  own : ∀ i, pos = .putTake i → s.takeCur = i
  unset : Unset ex s t pos
  full : Full s (staleAt s pos) (pos.grouped = true ∧ s.takeCur < takeInputs) (takeJoin out)

section Complete
variable {ex : Executor} {s : Sink} {out : List (Rec Writer)} {t u : Sample} {pos pos' : TakeAt}
  {d : TakeJoin Writer}

/-- The record is put for the input just set. -/
theorem own_next {i : U8} (hNext : (execTake ex s t pos).2.2 = some pos')
    (hAt : pos' = .putTake i) : (execTake ex s t pos).1.takeCur = i := by
  subst hAt
  cases execTake_follows hNext with
  | setCur => rfl

/-- The bind clears the input's second before it binds. -/
theorem Unset.next (h : Unset ex s t pos) (hNext : (execTake ex s t pos).2.2 = some pos') :
    Unset ex (execTake ex s t pos).1 t pos' := by
  intro hAt i hInput
  cases execTake_follows hNext with
  | bindSec =>
      simp only [execTake, hInput]
      exact Function.update_self ..
  | setTake => exact h (.inl rfl) i hInput
  | _ => simp at hAt

/-- Another take leaves it so: it stores the seconds of bound inputs only. -/
theorem Unset.other {at' : TakeAt} (h : Unset ex s u at') (hUnbound : Placed ex s u at')
    (hPlaced : Placed ex s t pos) (hCur : CurAt s t pos)
    (hApart : ex.level t.slot < ex.level u.slot) :
    Unset ex (execTake ex s t pos).1 u at' := by
  intro hAt i hInput
  have hFree : s.takeSlot i = 0 := by
    rcases hAt with rfl | rfl <;>
      (obtain ⟨j, hOf, hFree, -⟩ := hUnbound
       rwa [Option.some.inj (hInput.symm.trans hOf)])
  have hBefore := h hAt i hInput
  by_cases hStore : pos = .secStore
  · subst hStore
    have hOther : i ≠ s.takeCur := by
      rintro rfl
      exact hCur.2 hFree
    exact (Function.update_of_ne hOther ..).trans hBefore
  · by_cases hBind : pos = .bindSec
    · subst hBind
      obtain ⟨j, hOwn, -⟩ := hPlaced
      have hOther : i ≠ j := by
        rintro rfl
        rw [ex.input_inj hOwn hInput] at hApart
        exact absurd hApart (Nat.lt_irrefl _)
      simp only [execTake, hOwn]
      exact (Function.update_of_ne hOther ..).trans hBefore
    · rw [execTake_takeSec hStore hBind]
      exact hBefore

/-- A statement that puts nothing leaves the open row open. -/
theorem grouped_silent (hCur : CurAt s t pos) (hPuts : pos.puts = false)
    (hNext : (execTake ex s t pos).2.2 = some pos') :
    (pos.grouped = true ∧ s.takeCur < takeInputs) ↔
      (pos'.grouped = true ∧ (execTake ex s t pos).1.takeCur < takeInputs) := by
  cases execTake_follows hNext with
  | unbound i =>
      have hSame : (execTake ex s t (.seek i)).1.takeCur = s.takeCur := by
        simp only [execTake]
        split_ifs <;> rfl
      rw [hSame]
      simp [not_forwarding_of_none hCur]
  | thinned i =>
      show _ ↔ _ ∧ s.takeCur < takeInputs
      simp [not_forwarding_of_none hCur]
  | putTake | putSec | putNsec => cases hPuts
  | stamped | secCur | noSec | secDiffers | secSame | secStore | nsecCur =>
      exact and_congr_left fun _ => ⟨fun _ => rfl, fun _ => rfl⟩
  | unstamped =>
      have hOff : ¬ s.stampOn t.slot = true := by
        intro hOn
        simp [execTake, hOn] at hNext
      have hNone : s.takeCur = 0xFF := hCur.resolve_right fun hOwn => hOff hOwn.2
      simp [not_forwarding_of_none hNone, TakeAt.grouped]
  | noNsec =>
      have hNobody : ¬ s.takeCur < takeInputs := by
        intro hLt
        simp [execTake, hLt] at hNext
      simp [hNobody, TakeAt.grouped]
  | _ => simp [TakeAt.grouped]

theorem takeJoin_put {r : Rec Writer} : takeJoin (out ++ [r]) = (takeJoin out).step r :=
  List.foldl_append

/-- The open row of the whole stream's decoder is the running take's. -/
theorem Completing.open_row (h : Completing ex s out t pos) (hGrouped : pos.grouped = true)
    (hLt : s.takeCur < takeInputs) : (takeJoin out).cur = some (rowOf t s.takeCur) := by
  have hReads : Reads s t pos (takeJoin out) := h.reads out List.suffix_rfl
  rcases hReads.linked hGrouped hLt with hCur | hFresh
  · exact hCur
  · have hSome := h.full.cur.mpr ⟨hGrouped, hLt⟩
    rw [hFresh] at hSome
    cases hSome

/-- A statement that writes nothing leaves the reader's rows full. -/
theorem full_silent (h : Completing ex s out t pos) (hPuts : pos.puts = false)
    (hNext : (execTake ex s t pos).2.2 = some pos') :
    Full (execTake ex s t pos).1 (staleAt (execTake ex s t pos).1 pos')
      (pos'.grouped = true ∧ (execTake ex s t pos).1.takeCur < takeInputs) (takeJoin out) where
  stamped := h.full.stamped
  cur := h.full.cur.trans (grouped_silent h.cur hPuts hNext)
  sec := by
    intro i hOn hSet
    have hFresh : staleAt s pos = none := staleAt_of_ne (by rintro rfl; cases hPuts)
    by_cases hBefore : s.takeSlot i = 0
    · rcases execTake_binds h.placed with hSame | ⟨rfl, j, hInput, -, -, hExec⟩
      · rw [hSame] at hOn
        exact absurd hBefore hOn
      · have hOwn : i = j := by
          by_contra hOther
          rw [hExec] at hOn
          exact hOn ((Function.update_of_ne hOther ..).trans hBefore)
        rw [hExec, hOwn] at hSet
        exact absurd (h.unset (.inr rfl) j hInput) hSet
    · rcases takeSec_kept h.placed hBefore hNext with hStale | hSame
      · exact .inl hStale
      · rw [hSame] at hSet ⊢
        refine .inr ((h.full.sec i hBefore hSet).resolve_left ?_)
        rw [hFresh]
        simp

/-- And so does one that writes the record it is at. -/
theorem full_next (h : Completing ex s out t pos)
    (hNext : (execTake ex s t pos).2.2 = some pos') :
    Full (execTake ex s t pos).1 (staleAt (execTake ex s t pos).1 pos')
      (pos'.grouped = true ∧ (execTake ex s t pos).1.takeCur < takeInputs)
      (takeJoin (out ++ (execTake ex s t pos).2.1)) := by
  have hFull := h.full
  cases hPuts : pos.puts with
  | false =>
      rw [execTake_silent hPuts, List.append_nil]
      exact full_silent h hPuts hNext
  | true =>
      cases pos with
      | putTake i =>
          obtain rfl := Option.some.inj hNext
          have hNone : (takeJoin out).cur = none := by
            rw [← Option.not_isSome_iff_eq_none, hFull.cur]
            simp [TakeAt.grouped]
          have hJoin : takeJoin (out ++ (execTake ex s t (.putTake i)).2.1) =
              (takeJoin out).take (.take t) (takeArg i t) := takeJoin_put
          rw [hJoin]
          refine ⟨?_, ?_, hFull.sec⟩
          · show ∀ row ∈ (takeJoin out).out ++ (takeJoin out).cur.toList, row.stampNs.isSome = true
            rw [hNone, Option.toList_none, List.append_nil]
            exact hFull.stamped
          · have hLt : s.takeCur < takeInputs := by
              rw [h.own i rfl]
              exact h.placed.1
            exact ⟨fun _ => ⟨rfl, hLt⟩, fun _ => rfl⟩
      | putSec =>
          obtain rfl := Option.some.inj hNext
          have hOpen := h.open_row rfl h.cur.1.1
          have hJoin : takeJoin (out ++ (execTake ex s t .putSec).2.1) = { takeJoin out with
              sec := Function.update (takeJoin out).sec s.takeCur (some t.sec) } := by
            refine takeJoin_put.trans ?_
            show (takeJoin out).stampSec t.sec = _
            simp only [TakeJoin.stampSec, hOpen]
            rfl
          rw [hJoin]
          refine ⟨hFull.stamped, hFull.cur, fun i hOn hSet => .inr ?_⟩
          by_cases hOwn : i = s.takeCur
          · subst hOwn
            refine (Function.update_self ..).trans ?_
            exact congrArg some h.cur.2.symm
          · refine (Function.update_of_ne hOwn ..).trans ?_
            refine (hFull.sec i hOn hSet).resolve_left fun hStale => ?_
            exact hOwn (Option.some.inj hStale).symm
      | putNsec =>
          obtain rfl := Option.some.inj hNext
          have hOpen := h.open_row rfl h.cur.1.1
          have hSec : (takeJoin out).sec s.takeCur = some t.sec := by
            have hKnown := hFull.sec s.takeCur h.cur.1.2 (by rw [h.cur.2]; exact h.dated)
            rw [h.cur.2] at hKnown
            exact hKnown.resolve_left (by simp [staleAt])
          have hJoin : takeJoin (out ++ (execTake ex s t .putNsec).2.1) = { takeJoin out with
              out := (takeJoin out).out ++ [{ rowOf t s.takeCur with
                stampNs := some (stampOf t.sec t.nsec) }]
              cur := none } := by
            refine takeJoin_put.trans ?_
            show (takeJoin out).stampNsec t.nsec = _
            simp only [TakeJoin.stampNsec, hOpen]
            show _ = _
            simp [rowOf, hSec]
          rw [hJoin]
          refine ⟨fun row hMem => ?_, by simp [TakeAt.grouped], fun i hOn hSet => ?_⟩
          · rcases List.mem_append.mp hMem with hOut | hNew
            · exact hFull.stamped row hOut
            · rw [List.mem_singleton.mp hNew]
              rfl
          · exact hFull.sec i hOn hSet
      | _ => cases hPuts

end Complete

def completionOutline (ex : Executor) : TakeOutline ex (Unbroken ex) where
  running := Completing ex
  suspended s t pos := t.slot.toNat < ex.slots ∧ Placed ex s t pos ∧ t.sec ≠ 0xFFFFFFFF ∧
    Unset ex s t pos ∧ (Frame.take t pos).busy = false
  idle s out := (attributionOutline ex).idle s out ∧ Full s none False (takeJoin out)
  begins hAllowed := hAllowed.1
  first := by
    intro w t hAllowed hIdle
    obtain ⟨hAttribution, hFull⟩ := hIdle
    exact {
      toAttributing := (attributionOutline ex).first hAllowed.guarded hAttribution
      dated := hAllowed.2.1
      own := by simp
      unset := by simp [Unset]
      full := ⟨hFull.stamped, hFull.cur.trans (by simp [TakeAt.grouped]), hFull.sec⟩ }
  preempt := by
    intro w t u pos hAllowed hMem hRunning
    have hQuiet : (Frame.take u pos).busy = false := hAllowed.2.2 _ hMem (.inl ⟨rfl, rfl⟩)
    have hUngrouped : pos.grouped = false := by
      cases pos <;> first | rfl | cases hQuiet
    have hFresh : staleAt w.shared pos = none := staleAt_of_ne (by rintro rfl; cases hQuiet)
    have hFull := hRunning.full
    rw [hFresh] at hFull
    refine ⟨?_, hRunning.registered, hRunning.placed, hRunning.dated, hRunning.unset, hQuiet⟩
    exact {
      toAttributing :=
        ((attributionOutline ex).preempt hAllowed.guarded hMem hRunning.toAttributing).1
      dated := hAllowed.2.1
      own := by simp
      unset := by simp [Unset]
      full := ⟨hFull.stamped, hFull.cur.trans (by rw [hUngrouped]; simp [TakeAt.grouped]),
        hFull.sec⟩ }
  next := by
    intro s out t pos pos' hRunning hNext
    exact {
      toAttributing := hRunning.toAttributing.next hNext
      dated := hRunning.dated
      own := fun _ => own_next hNext
      unset := hRunning.unset.next hNext
      full := full_next hRunning hNext }
  last hRunning := ⟨(attributionOutline ex).last hRunning.toAttributing, hRunning.full.stamped,
    hRunning.full.cur.trans (by simp [TakeAt.grouped]), hRunning.full.sec⟩
  keeps := by
    intro s out t pos u at' hRunning hSuspended hLevel
    obtain ⟨hReg, hPlaced, hDated, hUnset, hQuiet⟩ := hSuspended
    exact ⟨hReg, hPlaced.other hRunning.placed hRunning.registered hReg hLevel, hDated,
      hUnset.other hPlaced hRunning.placed hRunning.cur hLevel, hQuiet⟩
  resume := by
    intro s out t pos hIdle hSuspended
    obtain ⟨hAttribution, hFull⟩ := hIdle
    obtain ⟨hReg, hPlaced, hDated, hUnset, hQuiet⟩ := hSuspended
    have hUnexposed : (Frame.take t pos).exposed = false := by
      cases pos <;> first | rfl | cases hQuiet
    have hUngrouped : pos.grouped = false := by
      cases pos <;> first | rfl | cases hQuiet
    have hFresh : staleAt s pos = none := staleAt_of_ne (by rintro rfl; cases hQuiet)
    exact {
      toAttributing := (attributionOutline ex).resume hAttribution ⟨hReg, hPlaced, hUnexposed⟩
      dated := hDated
      own := by
        rintro i rfl
        cases hQuiet
      unset := hUnset
      full := by
        rw [hFresh]
        exact ⟨hFull.stamped, hFull.cur.trans (by simp [hUngrouped]), hFull.sec⟩ }
  foreign_running := by
    intro s out t pos r hNoTake hRunning
    have hSame : takeJoin (out ++ [r]) = takeJoin out :=
      takeJoin_put.trans (TakeJoin.step_of_noTake _ hNoTake)
    exact {
      toAttributing := (attributionOutline ex).foreign_running hNoTake hRunning.toAttributing
      dated := hRunning.dated
      own := hRunning.own
      unset := hRunning.unset
      full := by
        rw [hSame]
        exact hRunning.full }
  foreign_idle := by
    intro s out r hNoTake hIdle
    refine ⟨(attributionOutline ex).foreign_idle hNoTake hIdle.1, ?_⟩
    rw [takeJoin_put, TakeJoin.step_of_noTake _ hNoTake]
    exact hIdle.2

def Rec.IsTake : Rec Writer → Prop
  | .marker _ id _ => id = nrosTake
  | .other _ => False

/-- Where no record is a take's, none opens a row. -/
theorem taking_of_none {before : List (Rec Writer)} (hNone : ∀ r ∈ before, ¬ r.IsTake) :
    before.filterMap Rec.taking = [] := by
  rw [List.filterMap_eq_nil_iff]
  intro r hMem
  cases r with
  | other t => rfl
  | marker t id arg => exact if_neg (hNone _ hMem)

/-- A decoder that begins before the first take reads all there is. -/
theorem takeJoin_of_none {before : List (Rec Writer)} (hNone : ∀ r ∈ before, ¬ r.IsTake) :
    takeJoin before = {} := by
  induction before with
  | nil => rfl
  | cons r rest ih =>
      have hStart : TakeJoin.step {} r = ({} : TakeJoin Writer) := by
        have hOther := hNone r List.mem_cons_self
        cases r with
        | other t => rfl
        | marker t id arg =>
            have hId : id ≠ nrosTake := hOther
            simp only [TakeJoin.step, hId, if_false]
            split_ifs <;> rfl
      show List.foldl TakeJoin.step (TakeJoin.step {} r) rest = {}
      rw [hStart]
      exact ih fun x hx => hNone x (List.mem_cons_of_mem _ hx)

variable (ex : Executor) {w : World}

/-- Every forwarded take has its stamp. -/
theorem takes_stamped (run : Reaches (World.step ex) (Unbroken ex) World.boot w)
    (hDone : w.stack = []) {before l : List (Rec Writer)} (hStream : before ++ l = w.output)
    (hFirst : ∀ r ∈ before, ¬ r.IsTake) : ∀ row ∈ joinTakes l, row.stampNs.isSome = true := by
  have hBoot : (completionOutline ex).idle {} [] := by
    refine ⟨⟨fun i hOn => absurd rfl hOn, rfl, .nil .fresh⟩, ?_, ?_, fun i hOn => absurd rfl hOn⟩
    · exact fun row hMem => absurd hMem List.not_mem_nil
    · exact ⟨fun hSome => (by cases hSome), False.elim⟩
  have hFull : Full w.shared none False (takeJoin w.output) :=
    (((completionOutline ex).holds run hBoot).idle hDone).2
  have hAll : takeJoin w.output = takeJoin l := by
    rw [← hStream]
    refine List.foldl_append.trans ?_
    rw [show List.foldl TakeJoin.step {} before = {} from takeJoin_of_none hFirst]
    rfl
  rw [hAll] at hFull
  intro row hMem
  rcases List.mem_append.mp hMem with hOut | hCur
  · exact hFull.stamped row hOut
  · have hSome : (takeJoin l).cur.isSome = true := by
      rw [Option.mem_toList.mp hCur]
      rfl
    exact (hFull.cur.mp hSome).elim

/-- Every violation has all its values. -/
theorem violations_complete (run : Reaches (World.step ex) (Unbroken ex) World.boot w)
    (hDone : w.stack = []) {l : List (Rec Writer)} (hSuffix : l <:+ w.output) :
    ∀ row ∈ joinViolations l, row.Complete := by
  have hOpen {w : World} {v u : Violation} {pos : ViolationAt}
      (hAllowed : Unbroken ex w (.start (.violation v .head)))
      (hMem : .violation u pos ∈ w.stack) (hPos : pos ≠ .head) :
      (rowAt u pos).Complete := by
    have hQuiet := hAllowed.2.2 _ hMem (.inr ⟨rfl, rfl⟩)
    exact absurd (by simpa [Frame.busy] using hQuiet) hPos
  let o := violationOutline ex ViolationRow.Complete (Unbroken ex) And.left (fun v => ⟨v, rfl⟩) hOpen
  have hBoot : o.idle {} [] := by
    intro l hSuffix
    rw [List.suffix_nil.mp hSuffix]
    exact ⟨fun row hMem => absurd hMem List.not_mem_nil, rfl⟩
  obtain ⟨hClosed, hNone⟩ := ((o.holds run hBoot).idle hDone) l hSuffix
  intro row hMem
  rcases List.mem_append.mp hMem with hOut | hCur
  · exact hClosed row hOut
  · rw [show (violationJoin l).cur = none from hNone] at hCur
    exact absurd hCur List.not_mem_nil

/-- The joins never mis-attribute: where no take comes between the sink's test
of `take_cur` and the record it guards, nor between the two reads of a bind,
every suffix of the stream is joined with the records' own values; and where no
group is interrupted by another of its kind nothing is missing. The rows are
those of the takes' and of the violations' records, each with its writer, in
order. -/
theorem joins_attribute :
    (∀ w, Reaches (World.step ex) (Guarded ex) World.boot w → ∀ l, l <:+ w.output →
      ((joinTakes l).map TakeRow.taking = l.filterMap Rec.taking ∧
        ∀ row ∈ joinTakes l, row.Own) ∧
      (joinViolations l).map ViolationRow.opening = l.filterMap Rec.opening ∧
        ∀ row ∈ joinViolations l, row.Own) ∧
    ∀ w, Reaches (World.step ex) (Unbroken ex) World.boot w → w.stack = [] →
      (∀ before l, before ++ l = w.output → (∀ r ∈ before, ¬ r.IsTake) →
        (joinTakes l).map TakeRow.taking = w.output.filterMap Rec.taking ∧
          ∀ row ∈ joinTakes l, row.stampNs.isSome = true) ∧
      ∀ l, l <:+ w.output →
        (joinViolations l).map ViolationRow.opening = l.filterMap Rec.opening ∧
          ∀ row ∈ joinViolations l, row.Complete := by
  refine ⟨fun w run l hSuffix => ?_, fun w run hDone => ?_⟩
  · refine ⟨⟨joinTakes_taking l, stamps_own ex run hSuffix⟩, joinViolations_opening l,
      values_own (run.mono fun w e h => ?_) hSuffix⟩
    cases e with
    | start f => exact h.1
    | run => trivial
  · constructor
    · intro before l hStream hFirst
      refine ⟨?_, takes_stamped ex run hDone hStream hFirst⟩
      rw [joinTakes_taking, ← hStream, List.filterMap_append, taking_of_none hFirst,
        List.nil_append]
    · exact fun l hSuffix => ⟨joinViolations_opening l, violations_complete ex run hDone hSuffix⟩

/-- The two levels with every take kept. -/
def everyTake : Executor := { twoLevels with keep := fun _ => 1 }

/-- A take that nothing preempts, to its end. -/
def alone (t : Sample) : List Event := .start (.take t .lastTake) :: List.replicate 20 .run

/-- The operator's samples 1 to 4 and the handler's 1 and 2: the second changes
in the operator's third, which the handler's second preempts after the
statement `n`. -/
def secondChanges (n : Nat) : List Event :=
  alone { arg := 0x00000001, sec := 10, nsec := 100 } ++
    alone { arg := 0x01000001, sec := 10, nsec := 150 } ++
    alone { arg := 0x00000002, sec := 10, nsec := 200 } ++
    .start (.take { arg := 0x00000003, sec := 11, nsec := 300 } .lastTake) ::
      List.replicate n .run ++
    alone { arg := 0x01000002, sec := 11, nsec := 350 } ++ List.replicate 20 .run ++
    alone { arg := 0x00000004, sec := 11, nsec := 400 }

theorem joins_attribute_secondChanges :
    ((∀ row ∈ joinTakes (follow (World.step everyTake) World.boot (secondChanges 10)).output,
        row.Own) ∧
      ∀ row ∈ joinViolations (follow (World.step everyTake) World.boot (secondChanges 10)).output,
        row.Own) ∧
    ∀ row ∈ joinTakes (follow (World.step everyTake) World.boot (secondChanges 19)).output,
      row.stampNs.isSome = true :=
  have hOwn := (joins_attribute everyTake).1 _
    (reaches_follow (secondChanges 10) (by decide +kernel)) _ List.suffix_rfl
  have hStamped := ((joins_attribute everyTake).2 _
    (reaches_follow (secondChanges 19) (by decide +kernel)) (by decide +kernel)).1
      [] _ (List.nil_append _) fun _ hMem => absurd hMem List.not_mem_nil
  ⟨⟨hOwn.1.2, hOwn.2.2⟩, hStamped.2⟩

/-- A take between the stored second and its record leaves the decoder with the
old second: the next sample is joined with a stamp a second too early. -/
theorem not_joins_attribute : ¬ ∀ w,
    Reaches (World.step everyTake) (fun _ e => Runs everyTake e) World.boot w →
      ∀ l, l <:+ w.output → ∀ row ∈ joinTakes l, row.Own := by
  intro hClaim
  have hOwn := hClaim (follow (World.step everyTake) World.boot (secondChanges 14))
    (reaches_follow (secondChanges 14) (by decide +kernel)) _ List.suffix_rfl
    { tNs := .take { arg := 0x00000004, sec := 11, nsec := 400 }, input := 2, seq := 4,
      stampNs := some 10000000400 } (by decide +kernel)
  obtain ⟨t, hRow, hStamp⟩ := hOwn _ rfl
  rw [← Writer.take.inj hRow] at hStamp
  exact absurd hStamp (by decide)

end SafetyIsland.Trace
