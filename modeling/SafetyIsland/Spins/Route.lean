import SafetyIsland.Spins.Levels

/-! Route 1 over any interleaving of the spinning threads, their reports and
the passes: what its expiry reads off the executor's cells, and when its dues
fall against the executor's own. -/
namespace SafetyIsland.Spins
open Supervisor Transition

section Left
variable {x : Cells} {dueUs : Int}

/-- An overdue take has no time left. -/
theorem left_of_overdue (hDue : x.dueUs = some dueUs) (hOverdue : dueUs ≤ x.atUs) :
    x.left = 0 := by
  rw [Cells.left, hDue]
  exact if_pos hOverdue

/-- A due still ahead is the time left to it, and never reads as answered. -/
theorem left_of_ahead (hFits : x.Fits) (hDue : x.dueUs = some dueUs) (hAhead : x.atUs < dueUs) :
    x.left.toInt = dueUs - x.atUs ∧ x.left ≠ 0 ∧ x.left ≠ answered := by
  have hFits : dueUs - x.atUs < 2 ^ 63 := hFits dueUs hDue
  have hLeft : x.left = BitVec.ofInt 64 (dueUs - x.atUs) := by
    rw [Cells.left, hDue]
    exact if_neg (not_le.mpr hAhead)
  have hInt : x.left.toInt = dueUs - x.atUs := by
    rw [hLeft, BitVec.toInt_ofInt]
    exact Int.bmod_eq_of_le (by omega) (by omega)
  refine ⟨hInt, ?_, ?_⟩
  · intro hZero
    rw [hZero, show BitVec.toInt (0 : BitVec 64) = 0 from BitVec.toInt_zero] at hInt
    omega
  · intro hAnswered
    rw [hAnswered] at hInt
    have hMinus : answered.toInt = -1 := by decide
    omega

/-- What is not answered has a due. -/
theorem due_of_pending (hPending : x.left ≠ answered) : ∃ dueUs, x.dueUs = some dueUs := by
  cases hDue : x.dueUs with
  | none =>
      rw [Cells.left, hDue] at hPending
      exact absurd rfl hPending
  | some dueUs => exact ⟨dueUs, rfl⟩

end Left

/-- A due written for route 1 from a reading of the cells, `clockUs` when it
was written: never before the executor's own, nor later than it, or than the
reading if it had passed by then, by more than 1 ms and the time between the
two clocks' readings. -/
def DueWithin (x : Cells) (clockUs dueMs : Int) : Prop :=
  ∃ dueUs, x.dueUs = some dueUs ∧ dueUs ≤ 1000 * dueMs ∧
    1000 * dueMs ≤ max dueUs x.atUs + 1000 + (clockUs - x.atUs)

section Due
variable {x : Cells} {clockUs : Int}

/-- Past its own due or not, a pending take's time left, rounded up. -/
theorem executorDueMs_within (hAt : 0 ≤ x.atUs) (hClock : x.atUs ≤ clockUs) (hFits : x.Fits)
    (hPending : x.left ≠ answered) : DueWithin x clockUs (executorDueMs clockUs x.left) := by
  obtain ⟨dueUs, hDue⟩ := due_of_pending hPending
  refine ⟨dueUs, hDue, ?_⟩
  have hLeft : x.left.toInt = max dueUs x.atUs - x.atUs := by
    rcases le_or_gt dueUs x.atUs with hOverdue | hAhead
    · rw [left_of_overdue hDue hOverdue, max_eq_right hOverdue, sub_self]
      exact BitVec.toInt_zero
    · rw [(left_of_ahead hFits hDue hAhead).1, max_eq_left hAhead.le]
  have hLow : dueUs ≤ max dueUs x.atUs := le_max_left ..
  have hRead : x.atUs ≤ max dueUs x.atUs := le_max_right ..
  rw [executorDueMs, hLeft, Int.tdiv_eq_ediv_of_nonneg (by omega)]
  omega

/-- A due still ahead of the cells' reading is ahead of the uptime, too. -/
theorem lt_executorDueMs {now : Int} (hAt : 0 ≤ x.atUs) (hClock : x.atUs ≤ clockUs)
    (hUptime : 1000 * now ≤ clockUs) (hFits : x.Fits) (hPending : x.left ≠ answered)
    (hLeft : x.left ≠ 0) : now < executorDueMs clockUs x.left := by
  obtain ⟨dueUs, hDue⟩ := due_of_pending hPending
  have hAhead : x.atUs < dueUs := by
    by_contra hOverdue
    exact hLeft (left_of_overdue hDue (not_lt.mp hOverdue))
  rw [executorDueMs, (left_of_ahead hFits hDue hAhead).1, Int.tdiv_eq_ediv_of_nonneg (by omega)]
  omega

end Due

/-- A reading an event may write route 1's due from, and the clock then: the
one a thread's report has brought, or the one the pass's watch makes. -/
inductive ReadFor (k : Spins) : Event → Cells → Int → Prop where
  | report {thread : Nat} {now nowUs : Int} {report : Report} {x : Cells}
      (hStage : k.stages thread = .routing report) (hCells : report.cells = some x) :
      ReadFor k (.proceed thread now nowUs) x nowUs
  | watch {p : Pass} {x : Cells} : ReadFor k (.pass p x) x p.nowUs

def Stage.report? : Stage → Option Report
  | .reporting report | .watching report _ | .routing report => some report
  | _ => none

/-- The pass counts a miss of route 1. -/
def Misses (cfg : Config) (p : Pass) (s : Supervisor) : Prop :=
  p.woken = true ∧ .executor ∈ (p.swept cfg s).2

section Step
variable {cfg : Config} {k : Spins} {e : Event}

/-- A route 1 that is armed or cleared by a call is no call's elsewhere. -/
theorem elsewhere_executor (cfg : Config) (s : Supervisor) {e : Supervisor.Event}
    (hElsewhere : elsewhere e = true) :
    (Supervisor.next cfg s e).routes .executor = s.routes .executor := by
  have hRoute {route : Nat} {r : Route} (hOther : (route != Route.executor.toId) = true)
      (hId : Route.ofId route = some r) : r ≠ .executor := by
    rintro rfl
    exact absurd (Route.ofId_eq_some hId) (bne_iff_ne.mp hOther)
  cases e with
  | arm now route due =>
      rw [Supervisor.next, arm]
      split
      · rfl
      · rename_i r hId
        exact armRoute_routes_of_ne cfg now r s (hRoute hElsewhere hId) (by decide) due
  | done route =>
      rw [Supervisor.next, done]
      split
      · rfl
      · rename_i r hId
        exact doneRoute_routes_of_ne r s (hRoute hElsewhere hId) (by decide)
  | handover now slot periodMs =>
      rw [Supervisor.next, handover]
      split
      · rfl
      · rw [handoverSlot_routes]
  | noteSpeed | setDirect | timerExpiry | swtTimeout | hook => rfl
  | spin | spinAfter | pass => exact absurd hElsewhere Bool.false_ne_true

/-- Route 1 is armed for the due it is given. -/
theorem armRoute_executor (cfg : Config) (now due : Int) (s : Supervisor) :
    (armRoute cfg now .executor due s).routes .executor = (s.routes .executor).arm due := by
  simp [armRoute, rearmLocked]

/-- A report arms route 1 from the reading it brings, or clears it. -/
theorem routing_executor (cfg : Config) (self : Nat) (now nowUs : Int) (report : Report)
    (s : Supervisor) :
    let t := spinAfterRoute cfg now nowUs (report.bring self) s
    (t.routes .executor).dueValid = false ∨
    ∃ x, report.cells = some x ∧ x.left ≠ answered ∧
      (t.routes .executor).dueMs = executorDueMs nowUs x.left := by
  intro t
  have hCleared : ((doneRoute .executor s).routes .executor).dueValid = false :=
    doneRoute_self .executor s
  cases hCells : report.cells with
  | none =>
      have hDone : t = doneRoute .executor s := by
        simp only [t, spinAfterRoute, Report.bring, hCells, Option.map_none]
      exact .inl (hDone ▸ hCleared)
  | some x =>
      by_cases hAnswered : x.left = answered
      · have hDone : t = doneRoute .executor s := by
          simp only [t, spinAfterRoute, Report.bring, hCells, Option.map_some, hAnswered, if_true]
        exact .inl (hDone ▸ hCleared)
      · have hArm : t = armRoute cfg now .executor (executorDueMs nowUs x.left) s := by
          simp only [t, spinAfterRoute, Report.bring, hCells, Option.map_some, hAnswered, if_false]
        refine .inr ⟨x, rfl, hAnswered, ?_⟩
        rw [hArm, armRoute_executor]
        rfl

/-- With the watch filled, a pass judges route 1 by the cells it reads. -/
theorem sweep_route1Left {p : Pass} {x : Cells} {s : Supervisor} (hWatch : p.watch = some x.left)
    (hFilled : s.levels.watchOk = true) : (p.sweep s).route1Left = x.left := by
  show route1Left s p.watch = x.left
  rw [route1Left, if_pos hFilled, hWatch]
  rfl

/-- A report a thread carries is one it had, or has just brought. -/
theorem report_next {thread : Nat} {report : Report}
    (h : ((next cfg k e).stages thread).report? = some report) :
    (k.stages thread).report? = some report ∨ e = .report thread report := by
  cases e with
  | spin x =>
      by_cases hOwn : thread = x.self
      · subst hOwn
        simp only [next, applyMoved, Function.update_self, enterSpin] at h
        split_ifs at h <;> exact absurd h (Option.some_ne_none report).symm
      · left
        simpa only [next, applyMoved, Function.update_of_ne hOwn] using h
  | report caller r =>
      by_cases hOwn : thread = caller
      · subst hOwn
        simp only [next, Function.update_self] at h
        exact .inr (congrArg _ (Option.some.inj h))
      · left
        simpa only [next, Function.update_of_ne hOwn] using h
  | proceed caller now nowUs =>
      left
      by_cases hOwn : thread = caller
      · subst hOwn
        simp only [next, applyMoved, Function.update_self] at h
        cases hStage : k.stages thread with
        | reporting r =>
            rw [hStage, Stage.proceed, lockReport] at h
            cases hTaken : (spinAfterLocked (r.bring thread) k.supervisor.levels).2 with
            | none =>
                simp only [hTaken] at h
                exact absurd h (Option.some_ne_none report).symm
            | some takeWatch =>
                simp only [hTaken] at h
                exact h
        | watching r takeWatch =>
            rw [hStage] at h
            exact h
        | routing | idle | claiming | running =>
            rw [hStage] at h
            exact absurd h (Option.some_ne_none report).symm
        | testing x =>
            rw [hStage, Stage.proceed, testSwt] at h
            split_ifs at h <;> exact absurd h (Option.some_ne_none report).symm
        | setUp x =>
            rw [hStage, Stage.proceed, startSwt] at h
            split_ifs at h <;> exact absurd h (Option.some_ne_none report).symm
      · simpa only [next, applyMoved, Function.update_of_ne hOwn] using h
  | call e => exact .inl h
  | pass p cells => exact .inl h

end Step

/-- Every reading carried was made by now. -/
structure ReadInv (w : World) : Prop where
  clock : 0 ≤ w.history.clockUs
  reads : ∀ thread report x, (w.state.stages thread).report? = some report →
    report.cells = some x → 0 ≤ x.atUs ∧ x.atUs ≤ w.history.clockUs ∧ x.Fits

section Run
variable {cfg : Config} {w : World} {e : Event}

/-- The microsecond clock does not go back. -/
theorem le_finish (hAllowed : Allowed w e) : w.history.clockUs ≤ e.finish w.history.clockUs := by
  cases e with
  | spin | call => exact le_rfl
  | report thread r =>
      cases hCells : r.cells with
      | none => simp [Event.finish, hCells]
      | some x =>
          have hRead := (hAllowed.2 x hCells).1
          simpa [Event.finish, hCells] using hRead
  | proceed => exact hAllowed.2
  | pass p x => exact hAllowed.1.trans hAllowed.2.2.2.1

/-- A step keeps every reading in the past. -/
theorem readInv_step (h : ReadInv w) (hAllowed : Allowed w e) : ReadInv (w.step cfg e) := by
  have hFinish := le_finish hAllowed
  constructor
  · exact h.clock.trans hFinish
  · intro thread report x hReport hCells
    rcases report_next hReport with hBefore | rfl
    · obtain ⟨hAt, hClock, hFits⟩ := h.reads thread report x hBefore hCells
      exact ⟨hAt, hClock.trans hFinish, hFits⟩
    · obtain ⟨hClock, hFits⟩ := hAllowed.2 x hCells
      refine ⟨h.clock.trans hClock, ?_, hFits⟩
      show x.atUs ≤ (report.cells.map Cells.atUs).getD w.history.clockUs
      rw [hCells]
      exact le_rfl

/-- After any run every reading carried was made by now. -/
theorem readInv {registered : Slot → Bool}
    (hRun : Reaches (World.step cfg) Allowed (World.boot registered) w) : ReadInv w := by
  apply hRun.invariant
  · constructor
    · exact le_rfl
    · intro thread report x hReport
      exact absurd hReport (Option.some_ne_none report).symm
  · intro w e h hAllowed
    exact readInv_step h hAllowed

/-- Every due an event writes for route 1 is within the bounds of a reading
made for it. -/
theorem next_executor (h : ReadInv w) (hAllowed : Allowed w e) :
    (next cfg w.state e).supervisor.routes .executor = w.state.supervisor.routes .executor ∨
    ((next cfg w.state e).supervisor.routes .executor).dueValid = false ∨
    ∃ x clockUs, ReadFor w.state e x clockUs ∧
      DueWithin x clockUs ((next cfg w.state e).supervisor.routes .executor).dueMs := by
  cases e with
  | spin | report => exact .inl rfl
  | proceed thread now nowUs =>
      by_cases hStage : ∃ report, w.state.stages thread = .routing report
      · obtain ⟨report, hStage⟩ := hStage
        right
        have hNext : (next cfg w.state (.proceed thread now nowUs)).supervisor =
            spinAfterRoute cfg now nowUs (report.bring thread) w.state.supervisor := by
          rw [next, hStage]
          rfl
        rw [hNext]
        rcases routing_executor cfg thread now nowUs report w.state.supervisor with
          hCleared | ⟨x, hCells, hPending, hDue⟩
        · exact .inl hCleared
        · obtain ⟨hAt, hClock, hFits⟩ := h.reads thread report x (by rw [hStage]; rfl) hCells
          refine .inr ⟨x, nowUs, .report hStage hCells, ?_⟩
          rw [hDue]
          exact executorDueMs_within hAt (hClock.trans hAllowed.2) hFits hPending
      · left
        rw [next]
        cases hOther : w.state.stages thread with
        | routing report => exact absurd ⟨report, hOther⟩ hStage
        | idle | testing | claiming | running | reporting => rfl
        | setUp x =>
            rw [applyMoved, Stage.proceed, startSwt]
            split_ifs <;> rfl
        | watching report takeWatch =>
            rw [applyMoved, Stage.proceed]
            unfold takeRouteWatch
            split_ifs <;> rfl
  | call e => exact .inl (elsewhere_executor cfg w.state.supervisor hAllowed)
  | pass p x =>
      obtain ⟨hClock, hFits, hWatch, hRead, -⟩ := hAllowed
      cases hWoken : p.woken with
      | false => exact .inl (pass_executor_of_timeout cfg p w.state.supervisor hWoken)
      | true =>
          rw [next, pass_executor cfg p w.state.supervisor hWoken]
          split_ifs with hDue
          · right
            rw [executorVerdict]
            split_ifs with hAnswered hLater
            · exact .inl rfl
            · refine .inr ⟨x, p.nowUs, .watch, ?_⟩
              have hFilled : w.state.supervisor.levels.watchOk = true := by
                by_contra hEmpty
                exact hLater (if_neg hEmpty)
              rw [sweep_route1Left hWatch hFilled] at hAnswered ⊢
              exact executorDueMs_within (h.clock.trans hClock) hRead hFits hAnswered
            · exact .inl rfl
          · exact .inl rfl

/-- What route 1's expiry can be, when the watch is filled: a miss only if a
take is overdue by the cells, and a later take's due if they hold one. -/
structure ReadAtExpiry (cfg : Config) (s : Supervisor) (p : Pass) (x : Cells) : Prop where
  missed : Misses cfg p s → x.left = 0
  counted : ((pass cfg p s).1.routes .executor).record.fired ≠
    (s.routes .executor).record.fired → Misses cfg p s
  latched : Misses cfg p s → (pass cfg p s).1.latch.latched = true
  later : p.woken = true → s.dueBy .executor p.now = true → x.left ≠ 0 → x.left ≠ answered →
    ((pass cfg p s).1.routes .executor).dueValid = true ∧
      p.now < ((pass cfg p s).1.routes .executor).dueMs

/-- A verdict that is not a miss counts none. -/
theorem misses_of_fired {p : Pass} {s : Supervisor}
    (hFired : ((pass cfg p s).1.routes .executor).record.fired ≠
      (s.routes .executor).record.fired) : Misses cfg p s := by
  cases hWoken : p.woken with
  | false => exact absurd (by rw [pass_executor_of_timeout cfg p s hWoken]) hFired
  | true =>
      refine ⟨hWoken, ?_⟩
      rw [pass_executor cfg p s hWoken] at hFired
      split_ifs at hFired with hDue
      · rw [executorVerdict] at hFired
        split_ifs at hFired with hAnswered hLater
        · exact absurd rfl hFired
        · exact absurd rfl hFired
        · exact (sweep_misses_iff cfg (p.sweep s) (countWake s)).mpr ⟨hDue, not_not.mp hLater⟩
      · exact absurd rfl hFired

/-- What a pass makes of an expired route 1, by the cells it reads. -/
theorem readAtExpiry (h : ReadInv w) {p : Pass} {x : Cells} (hAllowed : Allowed w (.pass p x))
    (hFilled : w.state.supervisor.levels.watchOk = true) :
    ReadAtExpiry cfg w.state.supervisor p x := by
  obtain ⟨hClock, hFits, hWatch, hRead, hUptime⟩ := hAllowed
  have hLeft := sweep_route1Left hWatch hFilled
  constructor
  · intro hMisses
    have hZero := ((sweep_misses_iff cfg (p.sweep w.state.supervisor) _).mp hMisses.2).2
    exact hLeft.symm.trans hZero
  · exact misses_of_fired
  · intro hMisses
    rw [pass_latch, taken, if_pos hMisses.1]
    exact actOn_latched_of_fired p _ _ (List.ne_nil_of_mem hMisses.2)
  · intro hWoken hDue hLater hPending
    rw [pass_executor cfg p _ hWoken, if_pos hDue, executorVerdict, hLeft, if_neg hPending,
      if_pos hLater]
    refine ⟨rfl, ?_⟩
    exact lt_executorDueMs (h.clock.trans hClock) hRead hUptime hFits hPending hLater

/-- An answered route 1 never latches, however spins, reports and passes
interleave: its expiry is judged by the cells the pass reads, and its dues
are the executor's own, rounded up. -/
theorem answered_never_latches (cfg : Config) {registered : Slot → Bool}
    (hRun : Reaches (World.step cfg) Allowed (World.boot registered) w) :
    (∀ p x, Allowed w (.pass p x) → w.state.supervisor.levels.watchOk = true →
      ReadAtExpiry cfg w.state.supervisor p x) ∧
    ∀ e, Allowed w e →
      (next cfg w.state e).supervisor.routes .executor = w.state.supervisor.routes .executor ∨
      ((next cfg w.state e).supervisor.routes .executor).dueValid = false ∨
      ∃ x clockUs, ReadFor w.state e x clockUs ∧
        DueWithin x clockUs ((next cfg w.state e).supervisor.routes .executor).dueMs :=
  ⟨fun _ _ hAllowed hFilled => readAtExpiry (readInv hRun) hAllowed hFilled,
    fun _ hAllowed => next_executor (readInv hRun) hAllowed⟩

/-- Thread 7 about to arm route 1, the take's due 4 ms past when it read the
executor. -/
def lateReport : List Event :=
  [.spin (hostSpin 7), .proceed 7 0 0, .proceed 7 0 0, .proceed 7 0 0,
    .report 7 { cells := some { atUs := 5000, dueUs := some 1000 }, nrosLevel := levelOfMrmHandler,
                watchTaken := true },
    .proceed 7 5 5000, .proceed 7 5 5000]

theorem lateReport_reaches : Reaches (World.step .image) Allowed (World.boot fun _ => true)
    (follow (World.step .image) (World.boot fun _ => true) lateReport) :=
  reaches_follow lateReport ⟨rfl, ⟨nofun, le_rfl⟩, ⟨nofun, le_rfl⟩, ⟨nofun, le_rfl⟩,
    ⟨rfl, by decide⟩, ⟨nofun, by decide⟩, ⟨nofun, le_rfl⟩, trivial⟩

theorem lateReport_armed : Reaches (World.step .image) Allowed (World.boot fun _ => true)
    (follow (World.step .image) (World.boot fun _ => true) (lateReport ++ [.proceed 7 5 5000])) := by
  have hArms : Allowed (follow (World.step .image) (World.boot fun _ => true) lateReport)
      (.proceed 7 5 5000) := ⟨nofun, le_rfl⟩
  rw [follow_append]
  exact lateReport_reaches.step hArms

/-- Route 1 is armed for 5 ms, and the take is still overdue when the pass
judges it. -/
theorem answered_never_latches_lateReport :
    let w := follow (World.step .image) (World.boot fun _ => true)
      (lateReport ++ [.proceed 7 5 5000])
    let p := { Pass.at 6 with watch := some 0 }
    Misses .image p w.state.supervisor ∧
      ReadAtExpiry .image w.state.supervisor p { atUs := 6000, dueUs := some 1000 } :=
  ⟨⟨rfl, by decide⟩, (answered_never_latches .image lateReport_armed).1 _ _
    ⟨by decide, by decide, rfl, by decide, by decide⟩ rfl⟩

/-- `DueWithin` against the take's own due alone, passed or not. -/
def DueWithinOwn (x : Cells) (clockUs dueMs : Int) : Prop :=
  ∃ dueUs, x.dueUs = some dueUs ∧ dueUs ≤ 1000 * dueMs ∧
    1000 * dueMs ≤ dueUs + 1000 + (clockUs - x.atUs)

/-- A take overdue when its report reads it has its due written at the
report's own time. -/
theorem not_due_within_own : ¬ ∀ w,
    Reaches (World.step .image) Allowed (World.boot fun _ => true) w → ∀ e, Allowed w e →
      (next .image w.state e).supervisor.routes .executor = w.state.supervisor.routes .executor ∨
      ((next .image w.state e).supervisor.routes .executor).dueValid = false ∨
      ∃ x clockUs, ReadFor w.state e x clockUs ∧
        DueWithinOwn x clockUs ((next .image w.state e).supervisor.routes .executor).dueMs := by
  intro hAll
  have hArms := hAll _ lateReport_reaches (.proceed 7 5 5000) ⟨nofun, le_rfl⟩
  rcases hArms with hSame | hCleared | ⟨x, clockUs, hRead, dueUs, hDue, -, hLate⟩
  · exact absurd (congrArg RouteState.dueValid hSame) (by decide)
  · exact absurd hCleared (by decide)
  · cases hRead with
    | report hStage hCells =>
        obtain rfl := Stage.routing.inj hStage
        obtain rfl := Option.some.inj hCells
        obtain rfl := Option.some.inj hDue
        exact absurd hLate (by decide)

end Run
end SafetyIsland.Spins
