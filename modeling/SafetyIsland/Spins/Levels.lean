import SafetyIsland.Spins.State

/-! Level slots and route 1's owner, over any interleaving of the spinning
threads: what a step does to the levels, then what a run keeps. -/
namespace SafetyIsland.Spins
open Supervisor Transition

/-- The threads with a slot, in slot order. -/
def tids (l : Levels) : List Nat := l.rows.map Level.tid

def slotOf (thread : Nat) (l : Levels) : Option Nat := (levelOfLocked thread false l).2

section Slot
variable {thread other i : Nat} {l l' : Levels}

/-- The level of a thread is found by its id. -/
theorem slotOf_eq (thread : Nat) (l : Levels) :
    slotOf thread l = (tids l).findIdx? (fun tid => tid == thread) := by
  rw [tids, List.findIdx?_map, slotOf, levelOfLocked]
  show _ = l.rows.findIdx? fun row : Level => row.tid == thread
  cases l.rows.findIdx? fun row : Level => row.tid == thread <;> rfl

/-- A level that is found bears the id. -/
theorem tid_of_slotOf (h : slotOf thread l = some i) : (tids l)[i]? = some thread := by
  rw [slotOf_eq, List.findIdx?_eq_some_iff_getElem] at h
  obtain ⟨hBound, hTid, -⟩ := h
  rw [List.getElem?_eq_getElem hBound, beq_iff_eq.mp hTid]

/-- Where none is found, none bears it. -/
theorem not_mem_of_slotOf (h : slotOf thread l = none) : thread ∉ tids l := by
  rw [slotOf_eq, List.findIdx?_eq_none_iff] at h
  intro hMem
  exact absurd rfl (beq_eq_false_iff_ne.mp (h thread hMem))

/-- A slot is one thread's. -/
theorem slotOf_unique (hThread : slotOf thread l = some i) (hOther : slotOf other l = some i) :
    thread = other := by
  have hSame := (tid_of_slotOf hThread).symm.trans (tid_of_slotOf hOther)
  exact Option.some.inj hSame

/-- A thread keeps its slot where slots are only added. -/
theorem slotOf_of_append {added : List Nat} (hAdded : tids l' = tids l ++ added)
    (h : slotOf thread l = some i) : slotOf thread l' = some i := by
  rw [slotOf_eq] at h ⊢
  rw [hAdded, List.findIdx?_append, h]
  rfl

end Slot

/-- What every step keeps of the levels. -/
structure Extends (l l' : Levels) : Prop where
  added : ∃ added, tids l' = tids l ++ added
  nodup : (tids l).Nodup → (tids l').Nodup
  balance : l.spins = l.overflow + (l.rows.map Level.spins).sum →
    l'.spins = l'.overflow + (l'.rows.map Level.spins).sum

/-- Neither a slot nor a count of spins is touched. -/
structure Same (l l' : Levels) : Prop where
  tids : tids l' = tids l
  counts : l'.rows.map Level.spins = l.rows.map Level.spins
  spins : l'.spins = l.spins
  overflow : l'.overflow = l.overflow

theorem Same.extends {l l' : Levels} (h : Same l l') : Extends l l' := by
  constructor
  · exact ⟨[], by rw [h.tids, List.append_nil]⟩
  · rw [h.tids]
    exact id
  · rw [h.counts, h.spins, h.overflow]
    exact id

section Modify
variable {α β : Type*} {rows : List α} {f : α → α} {i : Nat}

/-- A field the change leaves alone. -/
theorem map_modify_of_eq {g : α → β} (hSame : ∀ a, g (f a) = g a) :
    (rows.modify i f).map g = rows.map g := by
  rcases Nat.lt_or_ge i rows.length with hIn | hPast
  · obtain ⟨before, row, after, hRows, -, hModified⟩ := List.exists_of_modify f hIn
    rw [hModified, hRows, List.map_append, List.map_append, List.map_cons, List.map_cons, hSame]
  · rw [List.modify_eq_self hPast]

/-- One row counts a spin. -/
theorem sum_modify_succ {w : Nat} {g : α → BitVec w} (hIn : i < rows.length)
    (hCount : ∀ a, g (f a) = g a + 1) :
    ((rows.modify i f).map g).sum = (rows.map g).sum + 1 := by
  obtain ⟨before, row, after, hRows, -, hModified⟩ := List.exists_of_modify f hIn
  rw [hModified, hRows, List.map_append, List.map_append, List.map_cons, List.map_cons, hCount,
    List.sum_append, List.sum_append, List.sum_cons, List.sum_cons]
  ac_rfl

end Modify

theorem checkIn_tid (spin : Spin) (row : Level) : (checkIn spin row).tid = row.tid := by
  unfold checkIn
  dsimp only
  split_ifs <;> rfl

/-- A spin that checks in is one more. -/
theorem checkIn_spins (spin : Spin) (row : Level) : (checkIn spin row).spins = row.spins + 1 := by
  unfold checkIn
  dsimp only
  split_ifs <;> rfl

section SpinLocked
variable (x : Spin) {l l' : Levels} {i : Nat}

/-- A spin's slot: its own, the next free one, or none left. -/
theorem levelOfLocked_cases (self : Nat) (l : Levels) :
    (∃ i, levelOfLocked self true l = (l, some i) ∧ i < l.rows.length) ∨
    levelOfLocked self true l = (l, none) ∨
    slotOf self l = none ∧ levelOfLocked self true l =
      ({ l with rows := l.rows ++ [{ tid := self }] }, some l.rows.length) := by
  cases hFind : l.rows.findIdx? (fun row => row.tid == self) with
  | some i =>
      left
      obtain ⟨hBound, -, -⟩ := List.findIdx?_eq_some_iff_getElem.mp hFind
      exact ⟨i, by rw [levelOfLocked, hFind], hBound⟩
  | none =>
      right
      by_cases hFull : l.rows.length ≥ maxLevels
      · left
        simp [levelOfLocked, hFind, hFull]
      · right
        simp [slotOf, levelOfLocked, hFind, hFull]

/-- The level's own words, and the feed. -/
theorem spinLocked_found (hLevel : levelOfLocked x.self true l = (l', some i))
    (hIn : i < l'.rows.length) :
    tids (spinLocked x l).1 = tids l' ∧
      (spinLocked x l).1.spins = l'.spins + 1 ∧
      (spinLocked x l).1.overflow = l'.overflow ∧
      ((spinLocked x l).1.rows.map Level.spins).sum = (l'.rows.map Level.spins).sum + 1 ∧
      (spinLocked x l).1.routeOwner = l'.routeOwner := by
  have hTids : (l'.rows.modify i (checkIn x)).map Level.tid = l'.rows.map Level.tid :=
    map_modify_of_eq (checkIn_tid x)
  have hSum := sum_modify_succ hIn (checkIn_spins x)
  unfold spinLocked
  rw [hLevel]
  dsimp only
  split_ifs with hRunning hAlive
  · exact ⟨hTids, rfl, rfl, hSum, rfl⟩
  · unfold feedSwt
    dsimp only
    split_ifs <;> exact ⟨hTids, rfl, rfl, hSum, rfl⟩
  · exact ⟨hTids, rfl, rfl, hSum, rfl⟩

/-- Taking a level takes no other's. -/
theorem spinLocked_extends : Extends l (spinLocked x l).1 := by
  rcases levelOfLocked_cases x.self l with ⟨i, hOwn, hIn⟩ | hFull | ⟨hNew, hTaken⟩
  · obtain ⟨hTids, hSpins, hOverflow, hSum, -⟩ := spinLocked_found x hOwn hIn
    constructor
    · exact ⟨[], by rw [hTids, List.append_nil]⟩
    · rw [hTids]
      exact id
    · intro hBalance
      rw [hSpins, hOverflow, hSum, hBalance, BitVec.add_assoc]
  · have hCounted : (spinLocked x l).1 =
        { l with spins := l.spins + 1, overflow := l.overflow + 1 } := by
      unfold spinLocked
      rw [hFull]
    rw [hCounted]
    constructor
    · exact ⟨[], (List.append_nil _).symm⟩
    · exact id
    · intro hBalance
      show l.spins + 1 = l.overflow + 1 + (l.rows.map Level.spins).sum
      rw [hBalance]
      ac_rfl
  · have hIn : l.rows.length < (l.rows ++ [({ tid := x.self } : Level)]).length := by simp
    obtain ⟨hTids, hSpins, hOverflow, hSum, -⟩ := spinLocked_found x hTaken hIn
    have hAdded : tids (spinLocked x l).1 = tids l ++ [x.self] := by
      rw [hTids]
      exact List.map_append
    constructor
    · exact ⟨[x.self], hAdded⟩
    · intro hNodup
      rw [hAdded]
      rw [← List.concat_eq_append]
      exact hNodup.concat (not_mem_of_slotOf hNew)
    · intro hBalance
      rw [hSpins, hOverflow, hSum]
      have hNone : ([({ tid := x.self } : Level)].map Level.spins).sum = 0#32 := rfl
      show l.spins + 1 = l.overflow + (((l.rows ++ [({ tid := x.self } : Level)]).map Level.spins).sum + 1)
      rw [List.map_append, List.sum_append, hNone, BitVec.add_zero, hBalance, BitVec.add_assoc]

/-- A spin leaves route 1's owner alone. -/
theorem spinLocked_owner : (spinLocked x l).1.routeOwner = l.routeOwner := by
  rcases levelOfLocked_cases x.self l with ⟨i, hOwn, hIn⟩ | hFull | ⟨hNew, hTaken⟩
  · exact (spinLocked_found x hOwn hIn).2.2.2.2
  · unfold spinLocked
    rw [hFull]
  · have hIn : l.rows.length < (l.rows ++ [({ tid := x.self } : Level)]).length := by simp
    exact (spinLocked_found x hTaken hIn).2.2.2.2

end SpinLocked

section SpinAfterLocked
variable (report : SpinReport) (l : Levels)

/-- Counting a foreign report. -/
theorem foreign_same (i : Nat) : Same l { l with
    rows := l.rows.modify i fun row => { row with routeForeign := row.routeForeign + 1 } } where
  tids := map_modify_of_eq fun _ => rfl
  counts := map_modify_of_eq fun _ => rfl
  spins := rfl
  overflow := rfl

/-- What a report does to the levels under the lock: nothing but a count of
its own, or route 1 gets its first owner. -/
theorem spinAfterLocked_cases :
    Same l (spinAfterLocked report l).1 ∧
    ((spinAfterLocked report l).1.routeOwner = l.routeOwner ∨
      l.routeOwner = none ∧ report.nrosLevel = levelOfMrmHandler ∧
        ∃ i, slotOf report.self l = some i ∧
          (spinAfterLocked report l).1.routeOwner = some i) ∧
    ∀ takeWatch, (spinAfterLocked report l).2 = some takeWatch →
      ∃ i, slotOf report.self l = some i ∧ (spinAfterLocked report l).1.routeOwner = some i := by
  have hSelf : (levelOfLocked report.self false l).2 = slotOf report.self l := rfl
  unfold spinAfterLocked
  rw [hSelf]
  cases hSlot : slotOf report.self l with
  | none =>
      refine ⟨⟨rfl, rfl, rfl, rfl⟩, .inl rfl, ?_⟩
      intro takeWatch hTaken
      exact absurd hTaken (Option.some_ne_none takeWatch).symm
  | some i =>
      dsimp only
      by_cases hTakes : (l.routeOwner.isNone && report.nrosLevel == levelOfMrmHandler) = true
      · obtain ⟨hNone, hHosts⟩ := Bool.and_eq_true_iff.mp hTakes
        simp only [hTakes, if_true]
        refine ⟨⟨rfl, rfl, rfl, rfl⟩, .inr ⟨?_, ?_, i, rfl, rfl⟩, fun _ _ => ⟨i, rfl, rfl⟩⟩
        · exact Option.isNone_iff_eq_none.mp hNone
        · exact beq_iff_eq.mp hHosts
      · simp only [hTakes, if_false, Bool.false_eq_true]
        split_ifs with hOwn hForeign
        · exact ⟨⟨rfl, rfl, rfl, rfl⟩, .inl rfl, fun _ _ => ⟨i, rfl, hOwn⟩⟩
        · exact ⟨foreign_same l i, .inl rfl, fun _ => False.elim⟩
        · exact ⟨⟨rfl, rfl, rfl, rfl⟩, .inl rfl, fun _ => False.elim⟩

end SpinAfterLocked

section Step
variable {cfg : Config} {k : Spins} {e : Event}

/-- A call elsewhere leaves the levels alone. -/
theorem elsewhere_levels (cfg : Config) (s : Supervisor) {e : Supervisor.Event}
    (hElsewhere : elsewhere e = true) : (Supervisor.next cfg s e).levels = s.levels := by
  cases e with
  | arm now route due =>
      rw [Supervisor.next, arm]
      split
      · rfl
      · exact (armRoute_frame ..).levels
  | done route =>
      rw [Supervisor.next, done]
      split
      · rfl
      · exact (doneRoute_frame ..).levels
  | handover now slot periodMs =>
      rw [Supervisor.next, handover]
      split
      · rfl
      · unfold handoverSlot
        dsimp only
        split_ifs <;> rfl
  | noteSpeed | setDirect | timerExpiry | swtTimeout | hook => rfl
  | spin | spinAfter | pass => exact absurd hElsewhere Bool.false_ne_true

/-- A pass writes no level. -/
theorem pass_levels (cfg : Config) (p : Pass) (s : Supervisor) :
    (pass cfg p s).1.levels = s.levels := by
  have hTaken : (taken cfg p s).levels = s.levels := by
    cases hWoken : p.woken with
    | true =>
        rw [(taken_of_woken cfg p s hWoken).levels]
        exact (swept_frame ..).levels
    | false => rw [taken_of_timeout cfg p s hWoken]
  exact (pass_frame ..).levels.trans hTaken

theorem armRoute_levels (cfg : Config) (now : Int) (r : Route) (due : Int) (s : Supervisor) :
    (armRoute cfg now r due s).levels = s.levels :=
  (armRoute_frame ..).levels

theorem spinAfterRoute_levels (cfg : Config) (now nowUs : Int) (report : SpinReport)
    (s : Supervisor) : (spinAfterRoute cfg now nowUs report s).levels = s.levels := by
  unfold spinAfterRoute
  split
  · exact (doneRoute_frame ..).levels
  · split_ifs
    · exact (doneRoute_frame ..).levels
    · exact armRoute_levels ..

theorem Same.refl (l : Levels) : Same l l := ⟨rfl, rfl, rfl, rfl⟩

/-- Between its locked regions a thread leaves slots, counts and the owner
alone. -/
theorem proceed_levels (cfg : Config) (self : Nat) (now nowUs : Int) (s : Supervisor)
    {stage : Stage} (hStage : ∀ report, stage ≠ .reporting report) :
    Same s.levels (stage.proceed cfg self now nowUs s).supervisor.levels ∧
      (stage.proceed cfg self now nowUs s).supervisor.levels.routeOwner =
        s.levels.routeOwner := by
  cases stage with
  | idle => exact ⟨.refl _, rfl⟩
  | testing x => exact ⟨.refl _, rfl⟩
  | claiming x => exact ⟨⟨rfl, rfl, rfl, rfl⟩, rfl⟩
  | setUp x =>
      rw [Stage.proceed, startSwt]
      split_ifs <;> exact ⟨⟨rfl, rfl, rfl, rfl⟩, rfl⟩
  | running x => exact ⟨⟨rfl, rfl, rfl, rfl⟩, rfl⟩
  | reporting report => exact absurd rfl (hStage report)
  | watching report takeWatch =>
      rw [Stage.proceed]
      unfold takeRouteWatch
      split_ifs <;> exact ⟨⟨rfl, rfl, rfl, rfl⟩, rfl⟩
  | routing report =>
      rw [Stage.proceed, spinAfterRoute_levels]
      exact ⟨.refl _, rfl⟩

/-- Who the event's call is made by, on the spin path. -/
def Event.thread : Event → Option Nat
  | .spin x => some x.self
  | .report thread _ => some thread
  | .proceed thread _ _ => some thread
  | .call _ | .pass _ _ => none

/-- The event gives route 1 its owner: a thread's report under the lock, as
the level that hosts mrm_handler. -/
structure Takes (k : Spins) (e : Event) (i : Nat) : Prop where
  free : k.supervisor.levels.routeOwner = none
  hosting : ∃ thread now nowUs report, e = .proceed thread now nowUs ∧
    k.stages thread = .reporting report ∧ report.nrosLevel = levelOfMrmHandler ∧
    slotOf thread k.supervisor.levels = some i

/-- What a step does to the levels, and to route 1's owner. -/
theorem next_levels (cfg : Config) {w : World} (hAllowed : Allowed w e) :
    Extends w.state.supervisor.levels (next cfg w.state e).supervisor.levels ∧
    ((next cfg w.state e).supervisor.levels.routeOwner = w.state.supervisor.levels.routeOwner ∨
      ∃ i, Takes w.state e i ∧
        (next cfg w.state e).supervisor.levels.routeOwner = some i) := by
  cases e with
  | spin x => exact ⟨spinLocked_extends x, .inl (spinLocked_owner x)⟩
  | report thread report => exact ⟨(Same.refl _).extends, .inl rfl⟩
  | proceed thread now nowUs =>
      by_cases hReport : ∃ report, w.state.stages thread = .reporting report
      · obtain ⟨report, hStage⟩ := hReport
        have hNext : (next cfg w.state (.proceed thread now nowUs)).supervisor.levels =
            (spinAfterLocked (report.bring thread) w.state.supervisor.levels).1 := by
          rw [next, hStage]
          rfl
        obtain ⟨hSame, hOwner, -⟩ :=
          spinAfterLocked_cases (report.bring thread) w.state.supervisor.levels
        rw [hNext]
        refine ⟨hSame.extends, ?_⟩
        rcases hOwner with hKept | ⟨hFree, hHosts, i, hSlot, hTaken⟩
        · exact .inl hKept
        · exact .inr ⟨i, ⟨hFree, thread, now, nowUs, report, rfl, hStage, hHosts, hSlot⟩, hTaken⟩
      · obtain ⟨hSame, hOwner⟩ := proceed_levels cfg thread now nowUs w.state.supervisor
          fun report hStage => hReport ⟨report, hStage⟩
        exact ⟨hSame.extends, .inl hOwner⟩
  | call e =>
      have hKept := elsewhere_levels cfg w.state.supervisor hAllowed
      rw [next, hKept]
      exact ⟨(Same.refl _).extends, .inl rfl⟩
  | pass p cells =>
      rw [next, pass_levels]
      exact ⟨(Same.refl _).extends, .inl rfl⟩

/-- Past the lock in `island_supervisor_spin_after`, as route 1's owner. -/
def Stage.owns : Stage → Bool
  | .watching .. | .routing _ => true
  | _ => false

structure LevelsInv (k : Spins) : Prop where
  nodup : (tids k.supervisor.levels).Nodup
  balance : k.supervisor.levels.spins = k.supervisor.levels.overflow +
    (k.supervisor.levels.rows.map Level.spins).sum
  owner : ∀ thread, (k.stages thread).owns = true →
    ∃ i, slotOf thread k.supervisor.levels = some i ∧ k.supervisor.levels.routeOwner = some i

/-- A thread is past the lock as the owner because it was, or because its
report has just been found to be the owner's. -/
theorem owns_next {thread : Nat} (hOwns : ((next cfg k e).stages thread).owns = true) :
    (k.stages thread).owns = true ∨
      ∃ now nowUs report takeWatch, e = .proceed thread now nowUs ∧
        k.stages thread = .reporting report ∧
        (spinAfterLocked (report.bring thread) k.supervisor.levels).2 = some takeWatch := by
  cases e with
  | spin x =>
      by_cases hOwn : thread = x.self
      · subst hOwn
        simp only [next, applyMoved, Function.update_self, enterSpin] at hOwns
        split_ifs at hOwns <;> exact absurd hOwns Bool.false_ne_true
      · left
        simpa only [next, applyMoved, Function.update_of_ne hOwn] using hOwns
  | report caller report =>
      by_cases hOwn : thread = caller
      · subst hOwn
        simp only [next, Function.update_self] at hOwns
        exact absurd hOwns Bool.false_ne_true
      · left
        simpa only [next, Function.update_of_ne hOwn] using hOwns
  | proceed caller now nowUs =>
      by_cases hOwn : thread = caller
      · subst hOwn
        simp only [next, applyMoved, Function.update_self] at hOwns
        cases hStage : k.stages thread with
        | reporting report =>
            right
            rw [hStage, Stage.proceed, lockReport] at hOwns
            cases hTaken : (spinAfterLocked (report.bring thread) k.supervisor.levels).2 with
            | none =>
                simp only [hTaken] at hOwns
                exact absurd hOwns Bool.false_ne_true
            | some takeWatch => exact ⟨now, nowUs, report, takeWatch, rfl, rfl, hTaken⟩
        | watching | routing => exact .inl rfl
        | idle | claiming | running =>
            rw [hStage] at hOwns
            exact absurd hOwns Bool.false_ne_true
        | testing x =>
            rw [hStage, Stage.proceed, testSwt] at hOwns
            split_ifs at hOwns <;> exact absurd hOwns Bool.false_ne_true
        | setUp x =>
            rw [hStage, Stage.proceed, startSwt] at hOwns
            split_ifs at hOwns <;> exact absurd hOwns Bool.false_ne_true
      · left
        simpa only [next, applyMoved, Function.update_of_ne hOwn] using hOwns
  | call e => exact .inl hOwns
  | pass p cells => exact .inl hOwns

/-- Once owned, route 1 stays its owner's. -/
theorem next_owner {w : World} (hAllowed : Allowed w e) {i : Nat}
    (hOwner : w.state.supervisor.levels.routeOwner = some i) :
    (next cfg w.state e).supervisor.levels.routeOwner = some i := by
  rcases (next_levels cfg hAllowed).2 with hKept | ⟨j, hTakes, -⟩
  · exact hKept.trans hOwner
  · exact absurd (hTakes.free.symm.trans hOwner) (Option.some_ne_none i).symm

/-- No event takes a thread's level away. -/
theorem next_slotOf {w : World} (hAllowed : Allowed w e) {thread i : Nat}
    (hSlot : slotOf thread w.state.supervisor.levels = some i) :
    slotOf thread (next cfg w.state e).supervisor.levels = some i := by
  obtain ⟨added, hAdded⟩ := (next_levels cfg hAllowed).1.added
  exact slotOf_of_append hAdded hSlot

/-- One event, whichever it is. -/
theorem levelsInv_next {w : World} (h : LevelsInv w.state) (hAllowed : Allowed w e) :
    LevelsInv (next cfg w.state e) := by
  obtain ⟨hExtends, -⟩ := next_levels cfg hAllowed
  constructor
  · exact hExtends.nodup h.nodup
  · exact hExtends.balance h.balance
  · intro thread hOwns
    rcases owns_next hOwns with hBefore | ⟨now, nowUs, report, takeWatch, rfl, hStage, hTaken⟩
    · obtain ⟨i, hSlot, hOwner⟩ := h.owner thread hBefore
      exact ⟨i, next_slotOf hAllowed hSlot, next_owner hAllowed hOwner⟩
    · obtain ⟨hSame, -, hFound⟩ :=
        spinAfterLocked_cases (report.bring thread) w.state.supervisor.levels
      obtain ⟨i, hSlot, hOwner⟩ := hFound takeWatch hTaken
      refine ⟨i, next_slotOf hAllowed hSlot, ?_⟩
      rw [next, hStage]
      exact hOwner

/-- Route 1 changes on the spin path only past the lock as its owner. -/
theorem routing_of_changed {thread : Nat} (hThread : e.thread = some thread)
    (hChanged : (next cfg k e).supervisor.routes .executor ≠ k.supervisor.routes .executor) :
    (k.stages thread).owns = true := by
  cases e with
  | spin x => exact absurd rfl hChanged
  | report caller report => exact absurd rfl hChanged
  | proceed caller now nowUs =>
      obtain rfl := Option.some.inj hThread
      cases hStage : k.stages caller with
      | watching | routing => rfl
      | idle | testing | claiming | running | reporting =>
          rw [next, hStage] at hChanged
          exact absurd rfl hChanged
      | setUp x =>
          rw [next, hStage, applyMoved, Stage.proceed, startSwt] at hChanged
          split_ifs at hChanged <;> exact absurd rfl hChanged
  | call e => exact absurd hThread (Option.some_ne_none thread).symm
  | pass p cells => exact absurd hThread (Option.some_ne_none thread).symm

end Step

section Run
variable (cfg : Config) {registered : Slot → Bool} {w w' : World}

/-- What holds of the levels after any run. -/
theorem levelsInv (hRun : Reaches (World.step cfg) Allowed (World.boot registered) w) :
    LevelsInv w.state := by
  apply hRun.invariant (P := fun w => LevelsInv w.state)
  · constructor
    · exact List.nodup_nil
    · rfl
    · intro thread hOwns
      exact absurd hOwns Bool.false_ne_true
  · intro w e h hAllowed
    exact levelsInv_next h hAllowed

/-- A thread keeps its level through any run. -/
theorem slotOf_kept (hRun : Reaches (World.step cfg) Allowed w w') {thread i : Nat}
    (hSlot : slotOf thread w.state.supervisor.levels = some i) :
    slotOf thread w'.state.supervisor.levels = some i :=
  hRun.invariant (P := fun w => slotOf thread w.state.supervisor.levels = some i) hSlot
    fun _ _ hKept hAllowed => next_slotOf hAllowed hKept

/-- And so does the owner of route 1. -/
theorem owner_kept (hRun : Reaches (World.step cfg) Allowed w w') {i : Nat}
    (hOwner : w.state.supervisor.levels.routeOwner = some i) :
    w'.state.supervisor.levels.routeOwner = some i :=
  hRun.invariant (P := fun w => w.state.supervisor.levels.routeOwner = some i) hOwner
    fun _ _ hKept hAllowed => next_owner hAllowed hKept

/-- Level slots and route 1's owner, in every state of a run: slots are kept
and never shared, every spin is counted once, route 1's owner is found once,
by a report of the level that hosts mrm_handler, and only the owner's calls
arm or clear route 1 on the spin path. -/
theorem level_slots (hRun : Reaches (World.step cfg) Allowed (World.boot registered) w) :
    (tids w.state.supervisor.levels).Nodup ∧
    w.state.supervisor.levels.spins = w.state.supervisor.levels.overflow +
      (w.state.supervisor.levels.rows.map Level.spins).sum ∧
    (∀ w', Reaches (World.step cfg) Allowed w w' → ∀ thread i,
      slotOf thread w.state.supervisor.levels = some i →
        slotOf thread w'.state.supervisor.levels = some i ∧
          ∀ other, slotOf other w'.state.supervisor.levels = some i → other = thread) ∧
    (∀ w', Reaches (World.step cfg) Allowed w w' → ∀ i,
      w.state.supervisor.levels.routeOwner = some i →
        w'.state.supervisor.levels.routeOwner = some i) ∧
    (∀ e, Allowed w e →
      (next cfg w.state e).supervisor.levels.routeOwner =
        w.state.supervisor.levels.routeOwner ∨
      ∃ i, Takes w.state e i ∧
        (next cfg w.state e).supervisor.levels.routeOwner = some i) ∧
    ∀ e thread, e.thread = some thread →
      (next cfg w.state e).supervisor.routes .executor = w.state.supervisor.routes .executor ∨
      ∃ i, slotOf thread w.state.supervisor.levels = some i ∧
        w.state.supervisor.levels.routeOwner = some i := by
  have hInv := levelsInv cfg hRun
  refine ⟨hInv.nodup, hInv.balance, ?_, ?_, ?_, ?_⟩
  · intro w' hLater thread i hSlot
    have hKept := slotOf_kept cfg hLater hSlot
    exact ⟨hKept, fun other hOther => slotOf_unique hOther hKept⟩
  · exact fun w' hLater i hOwner => owner_kept cfg hLater hOwner
  · exact fun e hAllowed => (next_levels cfg hAllowed).2
  · intro e thread hThread
    by_cases hChanged : (next cfg w.state e).supervisor.routes .executor =
        w.state.supervisor.routes .executor
    · exact .inl hChanged
    · exact .inr (hInv.owner thread (routing_of_changed hThread hChanged))

/-- A spin of the level that hosts mrm_handler, SWT0 not to be had. -/
def hostSpin (self : Nat) : Spin where
  self := self
  nrosLevel := levelOfMrmHandler
  nowCyc := 0
  cycToUs := id
  uptimeMs := 0
  levelsAlive := true
  feedOk := true
  startOk := false

/-- Thread 7 hosts mrm_handler and reports while thread 9 starts to spin. -/
def hostReports : List Event :=
  [.spin (hostSpin 7), .proceed 7 0 0, .proceed 7 0 0, .proceed 7 0 0,
    .report 7 { cells := some { atUs := 5000, dueUs := some 9000 }, nrosLevel := levelOfMrmHandler,
                watchTaken := true },
    .spin (hostSpin 9), .proceed 7 5 5000]

theorem level_slots_hostReports :
    let w := follow (World.step .image) (World.boot fun _ => true) hostReports
    slotOf 7 w.state.supervisor.levels = some 0 ∧ slotOf 9 w.state.supervisor.levels = some 1 ∧
      w.state.supervisor.levels.spins = w.state.supervisor.levels.overflow +
        (w.state.supervisor.levels.rows.map Level.spins).sum := by
  intro w
  have hRun : Reaches (World.step .image) Allowed (World.boot fun _ => true) w :=
    reaches_follow hostReports ⟨rfl, ⟨nofun, le_rfl⟩, ⟨nofun, le_rfl⟩, ⟨nofun, le_rfl⟩,
      ⟨rfl, by decide⟩, rfl, ⟨nofun, le_rfl⟩, trivial⟩
  exact ⟨rfl, rfl, (level_slots .image hRun).2.1⟩

end Run
end SafetyIsland.Spins
