import SafetyIsland.Trace.Joins

/-! Every value the joins attach is the record's own, in every run in which no
take comes between what the sink reads and what it does on that; and nothing is
missing where no group of records is interrupted by another of its kind. -/
namespace SafetyIsland.Trace

open Preemption Transition

/-- The sink has tested `take_cur` and not yet put the record that the test
guards, or has turned on the stamp of the slot it goes on to bind. -/
def Frame.exposed : Frame → Bool
  | .take _ .secDiffers | .take _ .secStore | .take _ .putSec | .take _ .putNsec
  | .take _ .bindSlot => true
  | _ => false

/-- No take begins while another stands between such a test and its record. -/
def Guarded (ex : Executor) (w : World) : Event → Prop
  | .start f => f.Begins ex ∧ (f.isTake = true → ∀ g ∈ w.stack, g.exposed = false)
  | .run => True

instance (ex : Executor) (w : World) (e : Event) : Decidable (Guarded ex w e) :=
  match e with
  | .start _ => by unfold Guarded; infer_instance
  | .run => isTrue trivial

/-- The running take, and what every decoder knows of it. -/
structure Attributing (ex : Executor) (s : Sink) (out : List (Rec Writer)) (t : Sample)
    (pos : TakeAt) : Prop where
  registered : t.slot.toNat < ex.slots
  placed : Placed ex s t pos
  bound : StampBound s
  stamped : pos = .bindSlot → s.stampOn s.lastTake = true
  cur : CurAt s t pos
  reads : OnSuffixes TakeJoin.step {} (Reads s t pos) out

section Takes
variable {ex : Executor} {s : Sink} {out : List (Rec Writer)} {t u : Sample} {pos pos' : TakeAt}

/-- A record of another kind is skipped. -/
theorem TakeJoin.step_of_noTake {r : Rec Writer} (d : TakeJoin Writer) (hNoTake : Rec.NoTake r) :
    d.step r = d := by
  cases r with
  | other t => rfl
  | marker t id arg =>
      have hApart : id < nrosTake ∨ nrosTakeStampNsec < id := by
        cases t with
        | take t => exact hNoTake.elim
        | violation | other => exact hNoTake
      have hTake : nrosTake = 281 := rfl
      have hSec : nrosTakeStampSec = 282 := rfl
      have hNsec : nrosTakeStampNsec = 283 := rfl
      have hOthers : id ≠ nrosTake ∧ id ≠ nrosTakeStampSec ∧ id ≠ nrosTakeStampNsec := by omega
      simp [TakeJoin.step, hOthers]

/-- Another thread's record leaves the take's reader as it is, wherever it
begins. -/
theorem onSuffixes_noTake {P : TakeJoin Writer → Prop} {r : Rec Writer} (hNoTake : Rec.NoTake r)
    (hStart : P {}) (h : OnSuffixes TakeJoin.step {} P out) :
    OnSuffixes TakeJoin.step {} P (out ++ [r]) :=
  h.put hStart fun d hOf => by rwa [TakeJoin.step_of_noTake d hNoTake]

/-- A reader that begins here has nothing to mistake. -/
theorem Reads.fresh : Reads s t pos {} := ⟨.fresh, fun _ _ => .inr rfl⟩

/-- A take that begins has put nothing, and the one it preempts has nothing
stale. -/
theorem Reads.begin {d : TakeJoin Writer} (h : Reads s u pos d)
    (hQuiet : (Frame.take u pos).exposed = false) : Reads s t .lastTake d := by
  refine ⟨?_, fun hGrouped => absurd hGrouped (by simp [TakeAt.grouped])⟩
  have hAttributes := h.attributes
  have hPos : pos ≠ .putSec := by
    rintro rfl
    cases hQuiet
  rwa [staleAt_of_ne hPos] at hAttributes

/-- A statement of a take keeps its rows its own. -/
theorem Attributing.next (h : Attributing ex s out t pos)
    (hNext : (execTake ex s t pos).2.2 = some pos') :
    Attributing ex (execTake ex s t pos).1 (out ++ (execTake ex s t pos).2.1) t pos' where
  registered := h.registered
  placed := h.placed.next hNext
  bound := h.bound.next h.placed h.stamped
  stamped := stampOn_of_next hNext
  cur := h.cur.next h.placed h.bound h.registered hNext
  reads := reads_next h.cur h.placed h.registered hNext h.reads

/-- In a world with no take under way a preempted one finds `take_cur` taken
back. -/
theorem curAt_of_none (hNone : s.takeCur = 0xFF) (hQuiet : (Frame.take t pos).exposed = false) :
    CurAt s t pos := by
  cases pos with
  | lastTake | clearCur | clearStamped => trivial
  | putTake | stamped | secCur | nsecCur => exact .inl hNone
  | secDiffers | secStore | putSec | putNsec => exact absurd hQuiet (by simp [Frame.exposed])
  | _ => exact hNone

def attributionOutline (ex : Executor) : TakeOutline ex (Guarded ex) where
  running := Attributing ex
  suspended s t pos := t.slot.toNat < ex.slots ∧ Placed ex s t pos ∧
    (Frame.take t pos).exposed = false
  idle s out := StampBound s ∧ s.takeCur = 0xFF ∧
    OnSuffixes TakeJoin.step {} (Attributes s none) out
  begins hAllowed := hAllowed.1
  first hAllowed hIdle :=
    { registered := hAllowed.1.2
      placed := trivial
      bound := hIdle.1
      stamped := by simp
      cur := trivial
      reads := hIdle.2.2.mono fun _ h => ⟨h, fun h => absurd h (by simp [TakeAt.grouped])⟩ }
  preempt := by
    intro w t u pos hAllowed hMem hRunning
    have hQuiet : (Frame.take u pos).exposed = false := hAllowed.2 rfl _ hMem
    refine ⟨?_, hRunning.registered, hRunning.placed, hQuiet⟩
    exact {
      registered := hAllowed.1.2
      placed := trivial
      bound := hRunning.bound
      stamped := by simp
      cur := trivial
      reads := hRunning.reads.mono fun _ h => h.begin hQuiet }
  next := Attributing.next
  last hRunning := by
    refine ⟨hRunning.bound, hRunning.cur, hRunning.reads.mono fun _ h => ?_⟩
    have hAttributes := h.attributes
    rwa [staleAt_of_ne (by simp)] at hAttributes
  keeps := by
    intro s out t pos u at' hRunning hSuspended hLevel
    obtain ⟨hReg, hPlaced, hQuiet⟩ := hSuspended
    exact ⟨hReg, hPlaced.other hRunning.placed hRunning.registered hReg hLevel, hQuiet⟩
  resume := by
    intro s out t pos hIdle hSuspended
    obtain ⟨hBound, hNone, hReads⟩ := hIdle
    obtain ⟨hReg, hPlaced, hQuiet⟩ := hSuspended
    refine ⟨hReg, hPlaced, hBound, ?_, curAt_of_none hNone hQuiet, ?_⟩
    · rintro rfl
      cases hQuiet
    · refine hReads.mono fun d h => ⟨?_, fun _ hLt => absurd hLt (not_forwarding_of_none hNone)⟩
      rwa [staleAt_of_ne (by rintro rfl; cases hQuiet)]
  foreign_running hNoTake hRunning :=
    { hRunning with reads := onSuffixes_noTake hNoTake .fresh hRunning.reads }
  foreign_idle hNoTake hIdle := ⟨hIdle.1, hIdle.2.1, onSuffixes_noTake hNoTake .fresh hIdle.2.2⟩

/-- Every stamp that `join_takes` attaches is the sample's own, wherever in the
stream it begins. -/
theorem stamps_own (ex : Executor) {w : World}
    (run : Reaches (World.step ex) (Guarded ex) World.boot w) {l : List (Rec Writer)}
    (hSuffix : l <:+ w.output) : ∀ row ∈ joinTakes l, row.Own := by
  have hBoot : (attributionOutline ex).idle {} [] :=
    ⟨fun i hOn => absurd rfl hOn, rfl, .nil .fresh⟩
  have hClass := ((attributionOutline ex).holds run hBoot).ofClass
  have hAttributes : ∃ stale, Attributes w.shared stale (takeJoin l) := by
    cases hStack : w.stack.filter Frame.isTake with
    | nil =>
        rw [hStack] at hClass
        exact ⟨none, hClass.2.2 l hSuffix⟩
    | cons f rest =>
        rw [hStack] at hClass
        have hRunning := hClass.1
        cases f with
        | take t pos => exact ⟨_, (Attributing.reads hRunning l hSuffix).attributes⟩
        | violation | other => exact hRunning.elim
  obtain ⟨stale, hAttributes⟩ := hAttributes
  intro row hMem
  rcases List.mem_append.mp hMem with hOut | hCur
  · exact hAttributes.own row hOut
  · intro stamp hStamp
    rw [(hAttributes.cur row (Option.mem_toList.mp hCur)).1] at hStamp
    cases hStamp

end Takes

def Frame.isViolation : Frame → Bool
  | .violation .. => true
  | _ => false

def fullRow (v : Violation) : ViolationRow Writer where
  tNs := .violation v
  seq := v.head >>> 8
  ruleCode := v.head &&& 0xFF
  fqnHash := some v.fqn
  measured := some v.measured
  declared := some v.declared

/-- The row before the event at `pos`. -/
def rowAt (v : Violation) : ViolationAt → ViolationRow Writer
  | .head | .fqn => { fullRow v with fqnHash := none, measured := none, declared := none }
  | .measured => { fullRow v with measured := none, declared := none }
  | .declared => { fullRow v with declared := none }

/-- What a row has belongs to its violation. -/
def ViolationRow.Own (row : ViolationRow Writer) : Prop :=
  ∃ v, row.tNs = .violation v ∧ row.seq = v.head >>> 8 ∧ row.ruleCode = v.head &&& 0xFF ∧
    (∀ x, row.fqnHash = some x → x = v.fqn) ∧
    (∀ x, row.measured = some x → x = v.measured) ∧
    ∀ x, row.declared = some x → x = v.declared

/-- A row has every value of its violation. -/
def ViolationRow.Complete (row : ViolationRow Writer) : Prop := ∃ v, row = fullRow v

/-- A decoder's closed rows are as they should be, and its open row is the
running violation's, if any is open. -/
structure ReadsViolation (P : ViolationRow Writer → Prop) (v : Violation) (pos : ViolationAt)
    (d : ViolationJoin Writer) : Prop where
  closed : ∀ row ∈ d.out, P row
  before : pos = .head → ∀ row, d.cur = some row → P row
  cur : pos ≠ .head → d.cur = none ∨ d.cur = some (rowAt v pos)

section Violations
variable {ex : Executor} {s : Sink} {out : List (Rec Writer)} {v : Violation}
  {pos pos' : ViolationAt} {P : ViolationRow Writer → Prop} {d : ViolationJoin Writer}

/-- Whatever a violation has written so far is its own. -/
theorem rowAt_own (v : Violation) (pos : ViolationAt) : (rowAt v pos).Own := by
  cases pos <;> refine ⟨v, rfl, rfl, rfl, ?_, ?_, ?_⟩ <;> intro x hx <;>
    first | exact (Option.some.inj hx).symm | cases hx

theorem fullRow_own (v : Violation) : (fullRow v).Own :=
  ⟨v, rfl, rfl, rfl, fun _ hx => (Option.some.inj hx).symm, fun _ hx => (Option.some.inj hx).symm,
    fun _ hx => (Option.some.inj hx).symm⟩

def Rec.OfViolation : Rec Writer → Prop
  | .marker _ id _ => nrosViolation ≤ id ∧ id ≤ nrosViolationDeclared
  | .other _ => False

/-- Only the four markers reach the violation's reader. -/
theorem ViolationJoin.step_of_not {r : Rec Writer} (d : ViolationJoin Writer)
    (hOther : ¬ r.OfViolation) : d.step r = d := by
  cases r with
  | other t => rfl
  | marker t id arg =>
      have hApart : ¬ (277 ≤ id ∧ id ≤ 280) := hOther
      have hIds : id ≠ 277 ∧ id ≠ 278 ∧ id ≠ 279 ∧ id ≠ 280 := by omega
      simp only [ViolationJoin.step, nrosViolation, nrosViolationFqn, nrosViolationMeasured,
        nrosViolationDeclared, nrosBase, hIds, if_false, false_and, Nat.reduceAdd]
      cases d.cur <;> rfl

/-- The head's record opens the row. -/
theorem ReadsViolation.head (h : ReadsViolation P v .head d) :
    ReadsViolation P v .fqn (d.step (.marker (.violation v) nrosViolation v.head)) := by
  refine ⟨fun row hMem => ?_, by simp, fun _ => .inr rfl⟩
  rcases List.mem_append.mp hMem with hOut | hCur
  · exact h.closed row hOut
  · exact h.before rfl row (Option.mem_toList.mp hCur)

/-- Each further record fills its own field of that row, or is skipped. -/
theorem ReadsViolation.fqn (h : ReadsViolation P v .fqn d) :
    ReadsViolation P v .measured (d.step (.marker (.violation v) nrosViolationFqn v.fqn)) := by
  rcases h.cur (by simp) with hNone | hCur
  · have hStep : d.step (.marker (.violation v) nrosViolationFqn v.fqn) = d := by
      simp [ViolationJoin.step, hNone, nrosViolation, nrosViolationFqn]
    rw [hStep]
    exact ⟨h.closed, by simp, fun _ => .inl hNone⟩
  · refine ⟨fun row hMem => h.closed row ?_, by simp, fun _ => .inr ?_⟩
    · simpa [ViolationJoin.step, hCur, nrosViolation, nrosViolationFqn, rowAt] using hMem
    · simp [ViolationJoin.step, hCur, nrosViolation, nrosViolationFqn, rowAt, fullRow]

/-- The measured value goes to the row that is open. -/
theorem ReadsViolation.measured (h : ReadsViolation P v .measured d) :
    ReadsViolation P v .declared
      (d.step (.marker (.violation v) nrosViolationMeasured v.measured)) := by
  rcases h.cur (by simp) with hNone | hCur
  · have hStep : d.step (.marker (.violation v) nrosViolationMeasured v.measured) = d := by
      simp [ViolationJoin.step, hNone, nrosViolation, nrosViolationMeasured]
    rw [hStep]
    exact ⟨h.closed, by simp, fun _ => .inl hNone⟩
  · refine ⟨fun row hMem => h.closed row ?_, by simp, fun _ => .inr ?_⟩
    · simpa [ViolationJoin.step, hCur, nrosViolation, nrosViolationFqn, nrosViolationMeasured,
        rowAt] using hMem
    · simp [ViolationJoin.step, hCur, nrosViolation, nrosViolationFqn, nrosViolationMeasured,
        rowAt, fullRow]

/-- The last record closes the row. -/
theorem ReadsViolation.declared (h : ReadsViolation P v .declared d) (hFull : P (fullRow v)) :
    (∀ row ∈ (d.step (.marker (.violation v) nrosViolationDeclared v.declared)).out, P row) ∧
      (d.step (.marker (.violation v) nrosViolationDeclared v.declared)).cur = none := by
  rcases h.cur (by simp) with hNone | hCur
  · have hStep : d.step (.marker (.violation v) nrosViolationDeclared v.declared) = d := by
      simp [ViolationJoin.step, hNone, nrosViolation, nrosViolationDeclared]
    rw [hStep]
    exact ⟨h.closed, hNone⟩
  · have hStep : d.step (.marker (.violation v) nrosViolationDeclared v.declared) =
        { out := d.out ++ [fullRow v], cur := none } := by
      simp [ViolationJoin.step, hCur, nrosViolation, nrosViolationFqn, nrosViolationMeasured,
        nrosViolationDeclared, rowAt, fullRow]
    rw [hStep]
    refine ⟨fun row hMem => ?_, rfl⟩
    rcases List.mem_append.mp hMem with hOut | hNew
    · exact h.closed row hOut
    · rw [List.mem_singleton.mp hNew]
      exact hFull

theorem ReadsViolation.fresh : ReadsViolation P v pos {} :=
  ⟨fun row hMem => absurd hMem List.not_mem_nil, fun _ row hCur => (by cases hCur),
    fun _ => .inl rfl⟩

/-- The other threads' records are skipped. -/
theorem onSuffixes_noViolation {Q : ViolationJoin Writer → Prop} {f : Frame}
    (hMine : f.isViolation = false) (hStart : Q {})
    (h : OnSuffixes ViolationJoin.step {} Q out) :
    OnSuffixes ViolationJoin.step {} Q (out ++ (exec ex s f).2.1) := by
  have hPut (r : Rec Writer) (hOther : ¬ r.OfViolation) :
      OnSuffixes ViolationJoin.step {} Q (out ++ [r]) :=
    h.put hStart fun d hOf => by rwa [ViolationJoin.step_of_not d hOther]
  cases f with
  | violation v pos => exact absurd hMine (by simp [Frame.isViolation])
  | take t pos =>
      show OnSuffixes ViolationJoin.step {} Q (out ++ (execTake ex s t pos).2.1)
      cases hPuts : pos.puts with
      | false =>
          rw [execTake_silent hPuts, List.append_nil]
          exact h
      | true =>
          cases pos with
          | putTake | putSec | putNsec => exact hPut _ fun hOf => absurd hOf.2 (by decide)
          | _ => exact absurd hPuts (by simp [TakeAt.puts])
  | other level m =>
      refine hPut _ fun hOf => ?_
      cases m with
      | none => exact hOf
      | some m =>
          have hUnread := m.unread
          rw [joined, Bool.and_eq_false_iff] at hUnread
          rcases hUnread with hLow | hHigh
          · exact absurd hOf.1 (by simpa using hLow)
          · have hAbove : nrosTakeStampNsec < m.id := by simpa using hHigh
            have hBelow : m.id ≤ nrosViolationDeclared := hOf.2
            exact absurd (Nat.lt_of_lt_of_le hAbove hBelow) (by decide)

variable (ex P) in
/-- The assertions about violations, where the rows that a preempting one
leaves open are as they should be. -/
def violationOutline (Allowed : World → Event → Prop)
    (hBegins : ∀ {w f}, Allowed w (.start f) → f.Begins ex) (hFull : ∀ v, P (fullRow v))
    (hOpen : ∀ {w v u pos}, Allowed w (.start (.violation v .head)) →
      .violation u pos ∈ w.stack → pos ≠ .head → P (rowAt u pos)) :
    Outline (levels ex) Allowed Frame.isViolation where
  running _ out f :=
    match f with
    | .violation v pos => OnSuffixes ViolationJoin.step {} (ReadsViolation P v pos) out
    | _ => False
  suspended _ f := f.isViolation = true
  idle _ out := OnSuffixes ViolationJoin.step {} (fun d => (∀ row ∈ d.out, P row) ∧ d.cur = none) out
  first := by
    intro w f hAllowed hMine _ hIdle
    cases f with
    | violation v pos =>
        obtain rfl : pos = .head := hBegins hAllowed
        refine hIdle.mono fun d h => ⟨h.1, fun _ row hCur => ?_, fun hPos => absurd rfl hPos⟩
        rw [h.2] at hCur
        cases hCur
    | take | other => exact absurd hMine (by simp [Frame.isViolation])
  preempt := by
    intro w f g rest hAllowed hMine hStack _ hRunning _
    have hFiltered : g ∈ w.stack.filter Frame.isViolation := by
      rw [hStack]
      exact List.mem_cons_self
    obtain ⟨hMem, hOf⟩ := List.mem_filter.mp hFiltered
    refine ⟨?_, hOf⟩
    cases f with
    | violation v pos =>
        obtain rfl : pos = .head := hBegins hAllowed
        cases g with
        | violation u at' =>
            refine OnSuffixes.mono hRunning fun d h => ⟨h.closed, fun _ row hCur => ?_,
              fun hPos => absurd rfl hPos⟩
            by_cases hHead : at' = .head
            · exact h.before hHead row hCur
            · rcases h.cur hHead with hNone | hRow
              · rw [hNone] at hCur
                cases hCur
              · rw [hRow] at hCur
                rw [← Option.some.inj hCur]
                exact hOpen hAllowed hMem hHead
        | take | other => exact hRunning.elim
    | take | other => exact absurd hMine (by simp [Frame.isViolation])
  next := by
    intro s out f f' _ hRunning hNext
    cases f with
    | violation v pos =>
        obtain ⟨pos', hPos, rfl⟩ := Option.map_eq_some_iff.mp hNext
        refine ⟨rfl, ?_⟩
        cases pos with
        | head =>
            obtain rfl := Option.some.inj hPos
            exact OnSuffixes.put hRunning .fresh fun d h => h.head
        | fqn =>
            obtain rfl := Option.some.inj hPos
            exact OnSuffixes.put hRunning .fresh fun d h => h.fqn
        | measured =>
            obtain rfl := Option.some.inj hPos
            exact OnSuffixes.put hRunning .fresh fun d h => h.measured
        | declared => cases hPos
    | take | other => exact hRunning.elim
  last := by
    intro s out f _ hRunning hLast
    cases f with
    | violation v pos =>
        have hPos : pos = .declared := by
          cases pos with
          | declared => rfl
          | head | fqn | measured => cases hLast
        subst hPos
        exact OnSuffixes.put hRunning ⟨fun row hMem => absurd hMem List.not_mem_nil, rfl⟩
          fun d h => h.declared (hFull v)
    | take | other => exact hRunning.elim
  keeps _ _ _ hSuspended _ := hSuspended
  resume := by
    intro s out g hMine hIdle _
    cases g with
    | violation v pos =>
        refine OnSuffixes.mono hIdle fun d h => ⟨h.1, fun _ row hCur => ?_, fun _ => .inl h.2⟩
        rw [h.2] at hCur
        cases hCur
    | take | other => exact absurd hMine (by simp [Frame.isViolation])
  foreign := by
    intro s f f' hMine hNext
    cases f with
    | violation v pos => exact absurd hMine (by simp [Frame.isViolation])
    | take t pos =>
        obtain ⟨pos', -, rfl⟩ := Option.map_eq_some_iff.mp hNext
        rfl
    | other level m => cases hNext
  foreign_running := by
    intro s out f g hMine hRunning
    cases g with
    | violation v pos => exact onSuffixes_noViolation hMine .fresh hRunning
    | take | other => exact hRunning.elim
  foreign_suspended _ hSuspended := hSuspended
  foreign_idle hMine hIdle :=
    onSuffixes_noViolation hMine ⟨fun row hMem => absurd hMem List.not_mem_nil, rfl⟩ hIdle

/-- Every value that `join_violations` attaches is the violation's own, however
the levels preempt each other and wherever in the stream it begins. -/
theorem values_own {w : World}
    (run : Reaches (World.step ex) (fun _ e => Runs ex e) World.boot w) {l : List (Rec Writer)}
    (hSuffix : l <:+ w.output) : ∀ row ∈ joinViolations l, row.Own := by
  let o := violationOutline ex ViolationRow.Own (fun _ e => Runs ex e) id fullRow_own
    fun _ _ _ => rowAt_own _ _
  have hBoot : o.idle {} [] := by
    intro l hSuffix
    rw [List.suffix_nil.mp hSuffix]
    exact ⟨fun row hMem => absurd hMem List.not_mem_nil, rfl⟩
  have hClass := (o.holds run hBoot).ofClass
  intro row hMem
  cases hStack : w.stack.filter Frame.isViolation with
  | nil =>
      rw [hStack] at hClass
      obtain ⟨hClosed, hNone⟩ := hClass l hSuffix
      rcases List.mem_append.mp hMem with hOut | hCur
      · exact hClosed row hOut
      · rw [show (violationJoin l).cur = none from hNone] at hCur
        exact absurd hCur List.not_mem_nil
  | cons f rest =>
      rw [hStack] at hClass
      have hRunning := hClass.1
      cases f with
      | violation v pos =>
          have hReads : ReadsViolation ViolationRow.Own v pos (violationJoin l) :=
            hRunning l hSuffix
          rcases List.mem_append.mp hMem with hOut | hCur
          · exact hReads.closed row hOut
          · have hRow := Option.mem_toList.mp hCur
            by_cases hHead : pos = .head
            · exact hReads.before hHead row hRow
            · rcases hReads.cur hHead with hNone | hOpen
              · rw [hNone] at hRow
                cases hRow
              · rw [hOpen] at hRow
                rw [← Option.some.inj hRow]
                exact rowAt_own v pos
      | take | other => exact hRunning.elim

end Violations
end SafetyIsland.Trace
