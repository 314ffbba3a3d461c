import SafetyIsland.Braking.Ramp

/-! The braking command over whole runs: only the direct path's first call can
loosen it, and does so exactly when its ramp begins higher than the last
command. -/
namespace SafetyIsland.Braking
open Operator (Parameters Effect)

/-- A command as braking as the one before it, or at the target. -/
def NoLooser (p : Parameters) (prev c : Control) : Prop :=
  c.longitudinal.acceleration ≤ max prev.longitudinal.acceleration p.targetAcceleration

/-- The slot's words that a handover and a resume go by. -/
def slot (k : Braking) : Supervisor.DirectSlot := k.supervisor.slots .operator

/-- The operator holds the slot, having reported at `ns`. -/
structure Holds (p : Parameters) (w : World) (ns : Int) : Prop where
  published : w.history.commands.getLast? = some w.state.operator.prevControlCmd
  past : ns ≤ w.history.clock
  alive : w.state.slot.aliveMs = uptime32 (uptimeMs ns)
  period : w.state.slot.alivePeriodMs = p.periodMs
  ramp : w.state.operator.direct.hasLast = true →
    w.state.operator.isPrevControlCmdSubscribed = true ∧
      Covers p w.state.operator.direct.a0 w.state.supervisor.latch.ms w.history.clock
        w.state.operator.prevControlCmd ns

/-- Who published last, and where the ramp stands. -/
structure Inv (p : Parameters) (w : World) : Prop where
  target : w.state.operator.direct.targetAcceleration = p.targetAcceleration
  jerk : w.state.operator.direct.targetJerk = p.targetJerk
  handed : w.state.slot.handover = w.state.operator.directTakenOver
  resumed : w.state.slot.resumed = true → w.state.operator.directTakenOver = true
  takenOver : w.state.operator.directTakenOver = true →
    w.state.supervisor.latch.latched = true ∧ w.state.operator.status = statusOperating
  called : w.state.operator.direct.hasLast = true → w.state.supervisor.latch.latched = true
  uncalled : w.state.operator.direct.hasLast = false → w.state.slot.calls = 0
  latchPast : w.state.supervisor.latch.latched = true →
    w.state.supervisor.latch.ms ≤ uptimeMs w.history.clock
  braking : w.history.commands ≠ [] →
    w.state.operator.status = statusOperating ∨ w.state.supervisor.latch.latched = true
  own : w.state.operator.direct.hasLast = false → w.history.commands ≠ [] →
    w.state.operator.status = statusOperating ∧
      w.history.commands.getLast? = some w.state.operator.prevControlCmd
  direct : w.state.operator.direct.hasLast = true → w.state.operator.directTakenOver = false →
    w.history.commands.getLast? = some w.state.operator.direct.last ∧
      ∃ ns, Covers p w.state.operator.direct.a0 w.state.supervisor.latch.ms w.history.clock
        w.state.operator.direct.last ns
  ready : w.state.operator.direct.hasLast = true →
    (w.state.operator.directTakenOver = true → w.state.slot.resumed = true) →
    ∃ ms, ms ≤ uptimeMs w.history.clock ∧ ∀ c ∈ w.history.commands.getLast?,
      commanded p w.state.operator.direct.a0 w.state.supervisor.latch.ms (ms * 1000000) ≤
        c.longitudinal.acceleration
  holds : w.state.operator.directTakenOver = true → w.state.slot.resumed = false →
    ∃ ns, Holds p w ns
  chain : w.history.commands.IsChain (NoLooser p) ↔ w.history.aligned = true

section Steps
variable {cfg : Config} {p : Parameters} {w : World}

/-- At boot nothing is commanded, so nothing can be loosened. -/
theorem Inv.boot (p : Parameters) (levels : Supervisor.Levels) : Inv p (World.boot p levels) := by
  constructor
  · rfl
  · rfl
  · rfl
  · exact id
  · intro hTaken
    cases hTaken
  · intro hLast
    cases hLast
  · intro _
    rfl
  · intro hLatched
    cases hLatched
  · intro hSome
    exact absurd rfl hSome
  · intro _ hSome
    exact absurd rfl hSome
  · intro hLast
    cases hLast
  · intro hLast
    cases hLast
  · intro hTaken
    cases hTaken
  · exact iff_of_true List.isChain_nil rfl

/-- One more command. -/
theorem isChain_published {commands : List Control} {c : Control} :
    (commands ++ [c]).IsChain (NoLooser p) ↔
      commands.IsChain (NoLooser p) ∧ ∀ prev ∈ commands.getLast?, NoLooser p prev c := by
  rw [List.isChain_append]
  simp

/-- What the ramp and the slot are about is as it was. -/
structure Same (w w' : World) : Prop where
  direct : w'.state.operator.direct.targetAcceleration =
      w.state.operator.direct.targetAcceleration ∧
    w'.state.operator.direct.targetJerk = w.state.operator.direct.targetJerk ∧
    w'.state.operator.direct.a0 = w.state.operator.direct.a0 ∧
    w'.state.operator.direct.last = w.state.operator.direct.last ∧
    w'.state.operator.direct.hasLast = w.state.operator.direct.hasLast
  takenOver : w'.state.operator.directTakenOver = w.state.operator.directTakenOver
  status : w.state.operator.status = statusOperating →
    w'.state.operator.status = statusOperating
  prev : w.state.operator.status = statusOperating →
    w'.state.operator.prevControlCmd = w.state.operator.prevControlCmd ∧
      w'.state.operator.isPrevControlCmdSubscribed =
        w.state.operator.isPrevControlCmdSubscribed
  latch : w'.state.supervisor.latch = w.state.supervisor.latch
  calls : w'.state.slot.calls = w.state.slot.calls
  handover : w'.state.slot.handover = w.state.slot.handover
  resumed : w'.state.slot.resumed = w.state.slot.resumed
  aliveMs : w'.state.slot.aliveMs = w.state.slot.aliveMs
  alivePeriodMs : w'.state.slot.alivePeriodMs = w.state.slot.alivePeriodMs
  clock : w.history.clock ≤ w'.history.clock
  commands : w'.history.commands = w.history.commands
  aligned : w'.history.aligned = w.history.aligned

theorem uptimeMs_mono {earlier later : Int} (h : earlier ≤ later) :
    uptimeMs earlier ≤ uptimeMs later := Int.ediv_le_ediv (by decide) h

/-- What leaves the ramp and the slot alone keeps who published last. -/
theorem Inv.of_same {w' : World} (h : Inv p w) (hSame : Same w w') : Inv p w' := by
  obtain ⟨⟨hTarget, hJerk, hA0, hLast, hHas⟩, hTaken, hStatus, hPrev, hLatch, hCalls, hHandover,
    hResumed, hAlive, hPeriod, hClock, hCommands, hAligned⟩ := hSame
  constructor
  · rw [hTarget, h.target]
  · rw [hJerk, h.jerk]
  · rw [hHandover, hTaken, h.handed]
  · rw [hResumed, hTaken]
    exact h.resumed
  · rw [hTaken, hLatch]
    intro hTook
    exact ⟨(h.takenOver hTook).1, hStatus (h.takenOver hTook).2⟩
  · rw [hHas, hLatch]
    exact h.called
  · rw [hHas, hCalls]
    exact h.uncalled
  · rw [hLatch]
    intro hLatched
    exact (h.latchPast hLatched).trans (uptimeMs_mono hClock)
  · rw [hCommands, hLatch]
    intro hSome
    exact (h.braking hSome).imp hStatus id
  · rw [hHas, hCommands]
    intro hNone hSome
    obtain ⟨hOperating, hPublished⟩ := h.own hNone hSome
    rw [(hPrev hOperating).1]
    exact ⟨hStatus hOperating, hPublished⟩
  · rw [hHas, hTaken, hCommands, hA0, hLatch, hLast]
    intro hSome hNot
    obtain ⟨hPublished, ns, hCovers⟩ := h.direct hSome hNot
    exact ⟨hPublished, ns, hCovers.mono hClock⟩
  · rw [hHas, hTaken, hResumed, hCommands, hA0, hLatch]
    intro hSome hReady
    obtain ⟨ms, hPast, hAbove⟩ := h.ready hSome hReady
    exact ⟨ms, hPast.trans (uptimeMs_mono hClock), hAbove⟩
  · rw [hTaken, hResumed]
    intro hTook hNot
    obtain ⟨ns, hHolds⟩ := h.holds hTook hNot
    obtain ⟨hSamePrev, hReceived⟩ := hPrev (h.takenOver hTook).2
    refine ⟨ns, ?_⟩
    constructor
    · rw [hCommands, hSamePrev, hHolds.published]
    · exact hHolds.past.trans hClock
    · rw [hAlive, hHolds.alive]
    · rw [hPeriod, hHolds.period]
    · rw [hHas, hReceived, hA0, hLatch, hSamePrev]
      intro hSome
      obtain ⟨hSubscribed, hCovers⟩ := hHolds.ramp hSome
      exact ⟨hSubscribed, hCovers.mono hClock⟩
  · rw [hCommands, hAligned, h.chain]

/-- A braking event publishes in order. -/
theorem note_braking {e : Event} (hBraking : w.state.brakes e = true) :
    (w.step cfg p e).history.commands = w.history.commands ++ published cfg p w.state e :=
  if_neg (by simp [hBraking])

/-- An event that publishes nothing. -/
theorem note_silent {e : Event} (hBraking : w.state.brakes e = true)
    (hSilent : published cfg p w.state e = []) :
    (w.step cfg p e).history.commands = w.history.commands := by
  rw [note_braking hBraking, hSilent, List.append_nil]

/-- A control command is passed through and seeds the direct path, and only while
the operator is not OPERATING. -/
theorem Inv.controlCommand (h : Inv p w) (msg : Control) :
    Inv p (w.step cfg p (.controlCommand msg)) := by
  have hSilent : (w.step cfg p (.controlCommand msg)).history.commands = w.history.commands :=
    note_silent rfl rfl
  apply h.of_same
  by_cases hOperating : w.state.operator.status = statusOperating
  · have hNext : (w.step cfg p (.controlCommand msg)).state.operator = w.state.operator :=
      if_neg (not_not.mpr hOperating)
    exact
      { direct := by simp only [hNext, and_self]
        takenOver := by rw [hNext]
        status := by rw [hNext]; exact id
        prev := by simp only [hNext, and_self, implies_true]
        latch := rfl
        calls := rfl
        handover := rfl
        resumed := rfl
        aliveMs := rfl
        alivePeriodMs := rfl
        clock := le_rfl
        commands := hSilent
        aligned := rfl }
  · have hNext : (w.step cfg p (.controlCommand msg)).state.operator = _ := if_pos hOperating
    exact
      { direct := by simp only [hNext, and_self]
        takenOver := by rw [hNext]
        status := by rw [hNext]; exact id
        prev := fun hTrue => absurd hTrue hOperating
        latch := rfl
        calls := rfl
        handover := rfl
        resumed := rfl
        aliveMs := rfl
        alivePeriodMs := rfl
        clock := le_rfl
        commands := hSilent
        aligned := rfl }

/-- A request to stop starts nothing by itself. -/
theorem Inv.operate (h : Inv p w) : Inv p (w.step cfg p (.operate true)) :=
  h.of_same
    { direct := ⟨rfl, rfl, rfl, rfl, rfl⟩
      takenOver := rfl
      status := fun _ => rfl
      prev := fun _ => ⟨rfl, rfl⟩
      latch := rfl
      calls := rfl
      handover := rfl
      resumed := rfl
      aliveMs := rfl
      alivePeriodMs := rfl
      clock := le_rfl
      commands := note_silent rfl rfl
      aligned := rfl }

/-- Another caller writes none of the slot's words, and not the output. -/
theorem foreign_slot {e : Supervisor.Event} (hForeign : Foreign e) (s : Supervisor) :
    (Supervisor.next cfg s e).latch = s.latch ∧
      ∃ registered, (Supervisor.next cfg s e).slots .operator =
        { s.slots .operator with registered := registered } := by
  by_cases hOther : Slots.other e = true
  · refine ⟨(Supervisor.next_other hOther).latch, (s.slots .operator).registered, ?_⟩
    rw [Supervisor.next_other_slots hOther]
  · cases e with
    | handover now id periodMs =>
        have hSlot : Supervisor.Slot.ofId id ≠ some .operator := by
          intro hOperator
          match id, hOperator with
          | 0, hOperator => cases hOperator
          | 1, _ => exact hForeign rfl
          | n + 2, hOperator => simp [Supervisor.Slot.ofId, Supervisor.Slot.all] at hOperator
        show ((Supervisor.handover now id periodMs s).1).latch = _ ∧ ∃ _,
          (Supervisor.handover now id periodMs s).1.slots _ = _
        rw [Supervisor.handover]
        cases hId : Supervisor.Slot.ofId id with
        | none => exact ⟨rfl, _, rfl⟩
        | some i =>
            cases i with
            | operator => exact absurd hId hSlot
            | handler =>
                refine ⟨(Supervisor.handoverSlot_frame ..).latch, (s.slots .operator).registered, ?_⟩
                show (Supervisor.handoverSlot now .handler periodMs s).1.slots .operator = _
                rw [Supervisor.handoverSlot]
                split_ifs <;> simp
    | setDirect i =>
        refine ⟨rfl, ?_⟩
        show ∃ _, (Supervisor.setDirect i s).slots .operator = _
        cases i with
        | operator => exact ⟨true, by simp [Supervisor.setDirect]⟩
        | handler => exact ⟨(s.slots .operator).registered, by simp [Supervisor.setDirect]⟩
    | pass => exact absurd hForeign id
    | arm | done | noteSpeed | spin | spinAfter | timerExpiry | swtTimeout | hook =>
        exact absurd rfl hOther

/-- The supervisor's other callers neither report for the slot nor resume it. -/
theorem Inv.call (h : Inv p w) {e : Supervisor.Event} (hForeign : Foreign e) :
    Inv p (w.step cfg p (.call e)) := by
  obtain ⟨hLatch, registered, hSlot⟩ := @foreign_slot cfg e hForeign w.state.supervisor
  have hSame : (w.step cfg p (.call e)).state.slot =
      { w.state.slot with registered := registered } := hSlot
  apply h.of_same
  exact
    { direct := ⟨rfl, rfl, rfl, rfl, rfl⟩
      takenOver := rfl
      status := id
      prev := fun _ => ⟨rfl, rfl⟩
      latch := hLatch
      calls := by rw [hSame]
      handover := by rw [hSame]
      resumed := by rw [hSame]
      aliveMs := by rw [hSame]
      alivePeriodMs := by rw [hSame]
      clock := le_rfl
      commands := note_silent rfl rfl
      aligned := rfl }

section Tick
variable {ns : Int}

/-- A tick outside OPERATING passes the last control command through, until
the output is latched. -/
theorem tick_waiting (k : Braking) (hWaits : k.operator.status ≠ statusOperating) :
    next cfg p k (.tick ns) = k ∧
      published cfg p k (.tick ns) =
        if k.supervisor.latch.latched then [] else [k.operator.prevControlCmd] := by
  have hTimer : Operator.onTimer p (readEnv p ns k.supervisor) k.operator = (k.operator,
      if k.supervisor.latch.latched then [.status k.operator.status]
      else [.controlCmd k.operator.prevControlCmd, .status k.operator.status]) := by
    rw [Operator.onTimer, if_neg hWaits]
    cases hLatched : k.supervisor.latch.latched <;> simp [readEnv, hLatched]
  rw [next, published, hTimer]
  split_ifs <;> exact ⟨rfl, rfl⟩

/-- The ramp an OPERATING tick goes on from. -/
def taken (k : Braking) : Operator :=
  Operator.takeOver k.supervisor.latch.latched k.operator

def computed (p : Parameters) (k : Braking) (ns : Int) : Control :=
  Operator.calcTargetAcceleration p k.taken.isPrevControlCmdSubscribed ns ns
    k.taken.prevControlCmd

/-- Before the takeover an OPERATING tick publishes its own ramp. -/
theorem tick_unlatched (k : Braking) (hOperating : k.operator.status = statusOperating)
    (hNot : k.taken.directTakenOver = false) :
    next cfg p k (.tick ns) =
        { k with operator := { k.taken with prevControlCmd := computed p k ns } } ∧
      published cfg p k (.tick ns) = [computed p k ns] := by
  have hTimer : Operator.onTimer p (readEnv p ns k.supervisor) k.operator =
      ({ k.taken with prevControlCmd := computed p k ns },
        (if k.taken.directTakenOver then [Effect.handover p.periodMs] else []) ++
          [.controlCmd (computed p k ns), .status k.taken.status]) := by
    rw [Operator.onTimer, if_pos hOperating]
    exact if_pos (Bool.or_eq_true_iff.mpr (.inl (by rw [Bool.not_eq_true']; exact hNot)))
  rw [next, published, hTimer, if_neg (by simp [hNot])]
  exact ⟨rfl, rfl⟩

/-- After it the tick reports first, and publishes what the report lets it. -/
theorem tick_reports (k : Braking) (hOperating : k.operator.status = statusOperating)
    (hTaken : k.taken.directTakenOver = true) :
    (next cfg p k (.tick ns)).supervisor = (handover p ns k.supervisor).1 ∧
      (next cfg p k (.tick ns)).operator =
        (if (handover p ns k.supervisor).2 then
          { k.taken with prevControlCmd := computed p k ns } else k.taken) ∧
      published cfg p k (.tick ns) =
        if (handover p ns k.supervisor).2 then [computed p k ns] else [] := by
  let report := if k.taken.directTakenOver then [Effect.handover p.periodMs] else []
  have hReport : report = [.handover p.periodMs] := if_pos hTaken
  cases hGranted : (handover p ns k.supervisor).2 with
  | true =>
      have hTimer : Operator.onTimer p (readEnv p ns k.supervisor) k.operator =
          ({ k.taken with prevControlCmd := computed p k ns },
            report ++ [.controlCmd (computed p k ns), .status k.taken.status]) := by
        rw [Operator.onTimer, if_pos hOperating]
        exact if_pos (Bool.or_eq_true_iff.mpr (.inr hGranted))
      rw [next, published, hTimer, hReport]
      exact ⟨rfl, rfl, rfl⟩
  | false =>
      have hTimer : Operator.onTimer p (readEnv p ns k.supervisor) k.operator =
          (k.taken, report ++ [.status k.taken.status]) := by
        rw [Operator.onTimer, if_pos hOperating]
        refine if_neg fun hEither => ?_
        rcases Bool.or_eq_true_iff.mp hEither with hNot | hYes
        · exact absurd hTaken (by simpa [taken, readEnv] using hNot)
        · exact absurd (hYes.symm.trans hGranted) (by decide)
      rw [next, published, hTimer, hReport]
      exact ⟨rfl, rfl, rfl⟩

/-- A tick that the operator publishes in. -/
theorem note_published {c : Control} (hOperating : w.state.operator.status = statusOperating)
    (hPublished : published cfg p w.state (.tick ns) = [c]) :
    (w.step cfg p (.tick ns)).history.commands = w.history.commands ++ [c] := by
  rw [note_braking, hPublished]
  rw [brakes, hOperating]
  rfl

/-- The command a tick computes is no looser than the last one. -/
theorem Inv.computed_le (h : Inv p w) (hJ : p.targetJerk < 0)
    (hLast : w.history.commands ≠ [] →
      w.history.commands.getLast? = some w.state.taken.prevControlCmd) :
    (w.history.commands ++ [computed p w.state ns]).IsChain (NoLooser p) ↔
      w.history.aligned = true := by
  rw [isChain_published, h.chain]
  refine and_iff_left ?_
  intro prev hPrev
  have hSome : w.history.commands ≠ [] := by
    rintro hNil
    rw [hNil] at hPrev
    cases hPrev
  obtain rfl : w.state.taken.prevControlCmd = prev := by
    rw [hLast hSome] at hPrev
    exact Option.some.inj hPrev
  exact calcTargetAcceleration_le hJ ..

/-- While nothing is latched, the tick goes on with its own ramp. -/
theorem Inv.tick_unlatched (h : Inv p w) (hJ : p.targetJerk < 0)
    (hOperating : w.state.operator.status = statusOperating)
    (hLatched : w.state.supervisor.latch.latched = false) : Inv p (w.step cfg p (.tick ns)) := by
  have hNotTaken : w.state.operator.directTakenOver = false := by
    by_contra hTook
    exact absurd (h.takenOver (by simpa using hTook)).1 (by simp [hLatched])
  have hNoLast : w.state.operator.direct.hasLast = false := by
    by_contra hSome
    exact absurd (h.called (by simpa using hSome)) (by simp [hLatched])
  have hTaken : w.state.taken = w.state.operator := by
    rw [taken, Operator.takeOver, hLatched, Bool.and_false]
    rfl
  obtain ⟨hNext, hPublished⟩ := @Braking.tick_unlatched cfg p ns w.state
    hOperating (by rw [hTaken, hNotTaken])
  have hCommands := note_published hOperating hPublished
  have hState : (w.step cfg p (.tick ns)).state =
      { w.state with operator :=
        { w.state.operator with prevControlCmd := computed p w.state ns } } := by
    rw [World.step_state, hNext, hTaken]
  constructor
  · rw [hState]
    exact h.target
  · rw [hState]
    exact h.jerk
  · rw [hState]
    exact h.handed
  · rw [hState]
    exact h.resumed
  · rw [hState]
    exact h.takenOver
  · rw [hState]
    exact h.called
  · rw [hState]
    exact h.uncalled
  · rw [hState]
    intro hIs
    exact absurd hIs (by simp [hLatched])
  · rw [hState]
    exact fun _ => .inl hOperating
  · rw [hState, hCommands, List.getLast?_concat]
    exact fun _ _ => ⟨hOperating, rfl⟩
  · rw [hState]
    intro hSome
    exact absurd hSome (by simp [hNoLast])
  · rw [hState]
    intro hSome
    exact absurd hSome (by simp [hNoLast])
  · rw [hState]
    intro hTook
    exact absurd hTook (by simp [hNotTaken])
  · rw [hCommands]
    refine h.computed_le hJ ?_
    rw [hTaken]
    exact fun hSome => (h.own hNoLast hSome).2

/-- The ramp an OPERATING tick goes on from after the latch: the last command,
and the direct path has not passed it. -/
theorem Inv.taken (h : Inv p w) (hLatched : w.state.supervisor.latch.latched = true)
    (hResumed : w.state.slot.resumed = false) :
    (w.history.commands ≠ [] →
      w.history.commands.getLast? = some w.state.taken.prevControlCmd) ∧
    (w.state.operator.direct.hasLast = true → w.state.taken.isPrevControlCmdSubscribed = true ∧
      ∃ before, Covers p w.state.operator.direct.a0 w.state.supervisor.latch.ms w.history.clock
        w.state.taken.prevControlCmd before) := by
  rw [Braking.taken, Operator.takeOver, hLatched, Bool.and_true]
  cases hTook : w.state.operator.directTakenOver with
  | true =>
      obtain ⟨before, hHolds⟩ := h.holds hTook hResumed
      constructor
      · exact fun _ => hHolds.published
      · intro hSome
        exact ⟨(hHolds.ramp hSome).1, before, (hHolds.ramp hSome).2⟩
  | false =>
      cases hLast : w.state.operator.direct.hasLast with
      | true =>
          obtain ⟨hPublished, before, hCovers⟩ := h.direct hLast hTook
          constructor
          · exact fun _ => hPublished
          · exact fun _ => ⟨rfl, before, hCovers⟩
      | false =>
          constructor
          · exact fun hSome => (h.own hLast hSome).2
          · intro hSome
            cases hSome

theorem takeOver_same (o : Operator) :
    (Operator.takeOver true o).directTakenOver = true ∧
      (Operator.takeOver true o).direct = o.direct ∧
      (Operator.takeOver true o).status = o.status := by
  rw [Operator.takeOver, Bool.and_true]
  cases hTook : o.directTakenOver <;> cases hLast : o.direct.hasLast <;> simp [hTook]

/-- A tick whose report is taken goes on from the ramp it took over. -/
theorem Inv.tick_granted (h : Inv p w) (hJ : p.targetJerk < 0) (hClock : w.history.clock ≤ ns)
    (hOperating : w.state.operator.status = statusOperating)
    (hLatched : w.state.supervisor.latch.latched = true)
    (hResumed : w.state.slot.resumed = false) : Inv p (w.step cfg p (.tick ns)) := by
  obtain ⟨hLast, hRamp⟩ := h.taken hLatched hResumed
  have hTaken : w.state.taken.directTakenOver = true ∧
      w.state.taken.direct = w.state.operator.direct ∧
      w.state.taken.status = w.state.operator.status := by
    rw [Braking.taken, hLatched]
    exact takeOver_same _
  have hHandover : handover p ns w.state.supervisor =
      (w.state.supervisor.setSlot .operator
        ((w.state.slot.report (uptimeMs ns) p.periodMs).handOver (uptimeMs ns)), true) := by
    show Supervisor.handoverSlot (uptimeMs ns) .operator p.periodMs w.state.supervisor = _
    have hHere : (w.state.supervisor.slots .operator).resumed = false := hResumed
    rw [Supervisor.handoverSlot, hLatched, hHere]
    rfl
  obtain ⟨hSupervisor, hOperator, hPublished⟩ := @tick_reports cfg p ns w.state
    hOperating hTaken.1
  rw [hHandover, if_pos rfl] at hOperator hPublished
  rw [hHandover] at hSupervisor
  have hCommands := note_published hOperating hPublished
  have hSlot : (w.step cfg p (.tick ns)).state.slot =
      (w.state.slot.report (uptimeMs ns) p.periodMs).handOver (uptimeMs ns) := by
    show (next cfg p w.state (.tick ns)).supervisor.slots .operator = _
    rw [hSupervisor]
    simp
  have hCalls : (w.step cfg p (.tick ns)).state.slot.calls = w.state.slot.calls := by
    rw [hSlot, Supervisor.DirectSlot.handOver]
    split_ifs <;> rfl
  have hLatch : (w.step cfg p (.tick ns)).state.supervisor.latch = w.state.supervisor.latch := by
    rw [World.step_state, hSupervisor]
    rfl
  have hNext : (w.step cfg p (.tick ns)).state.operator =
      { w.state.taken with prevControlCmd := computed p w.state ns } := hOperator
  constructor
  · rw [hNext]
    exact hTaken.2.1 ▸ h.target
  · rw [hNext]
    exact hTaken.2.1 ▸ h.jerk
  · rw [hNext, hSlot, Supervisor.DirectSlot.handOver_handover]
    exact hTaken.1.symm
  · rw [hNext]
    exact fun _ => hTaken.1
  · rw [hNext, hLatch]
    exact fun _ => ⟨hLatched, hTaken.2.2.trans hOperating⟩
  · rw [hLatch]
    exact fun _ => hLatched
  · rw [hNext, hCalls]
    exact fun hSome => h.uncalled (hTaken.2.1 ▸ hSome)
  · rw [hLatch]
    exact fun hIs => (h.latchPast hIs).trans (uptimeMs_mono hClock)
  · rw [hLatch]
    exact fun _ => .inr hLatched
  · rw [hNext, hCommands, List.getLast?_concat]
    exact fun _ _ => ⟨hTaken.2.2.trans hOperating, rfl⟩
  · rw [hNext]
    exact fun _ hNot => absurd (hTaken.1.symm.trans hNot) (by decide)
  · rw [hNext, hSlot, Supervisor.DirectSlot.handOver_resumed,
      Supervisor.DirectSlot.report_resumed, hResumed]
    exact fun _ hReady => absurd (hReady hTaken.1) (by decide)
  · intro _ _
    refine ⟨ns, ?_⟩
    constructor
    · rw [hCommands, hNext, List.getLast?_concat]
    · exact le_rfl
    · rw [hSlot, Supervisor.DirectSlot.handOver_aliveMs]
      rfl
    · rw [hSlot, Supervisor.DirectSlot.handOver_alivePeriodMs]
      rfl
    · rw [hNext, hLatch]
      intro hSome
      obtain ⟨hReceived, before, hCovers⟩ := hRamp (hTaken.2.1 ▸ hSome)
      refine ⟨hReceived, ?_⟩
      show Covers p w.state.taken.direct.a0 _ _ (computed p w.state ns) ns
      rw [hTaken.2.1, computed, hReceived]
      exact hCovers.tick hJ hClock
  · rw [hCommands]
    exact h.computed_le hJ hLast

/-- A tick that was refused the slot, or did not ask for it, leaves the ramp. -/
theorem Inv.tick_silent (h : Inv p w) (hClock : w.history.clock ≤ ns)
    (hOperator : (next cfg p w.state (.tick ns)).operator = w.state.operator)
    (hLatch : (next cfg p w.state (.tick ns)).supervisor.latch = w.state.supervisor.latch)
    (hSlot : ∃ aliveAfterResume, (next cfg p w.state (.tick ns)).slot =
      { w.state.slot with aliveAfterResume := aliveAfterResume })
    (hCommands : (w.step cfg p (.tick ns)).history.commands = w.history.commands) :
    Inv p (w.step cfg p (.tick ns)) := by
  obtain ⟨aliveAfterResume, hSlot⟩ := hSlot
  have hNext : (w.step cfg p (.tick ns)).state.operator = w.state.operator := hOperator
  have hSame : (w.step cfg p (.tick ns)).state.slot =
      { w.state.slot with aliveAfterResume := aliveAfterResume } := hSlot
  exact h.of_same
    { direct := by simp only [hNext, and_self]
      takenOver := by rw [hNext]
      status := by rw [hNext]; exact id
      prev := by simp only [hNext, and_self, implies_true]
      latch := hLatch
      calls := by rw [hSame]
      handover := by rw [hSame]
      resumed := by rw [hSame]
      aliveMs := by rw [hSame]
      alivePeriodMs := by rw [hSame]
      clock := hClock
      commands := hCommands
      aligned := rfl }

/-- Once the slot has resumed, the tick publishes nothing. -/
theorem Inv.tick_refused (h : Inv p w) (hClock : w.history.clock ≤ ns)
    (hOperating : w.state.operator.status = statusOperating)
    (hResumed : w.state.slot.resumed = true) : Inv p (w.step cfg p (.tick ns)) := by
  have hTook := h.resumed hResumed
  have hLatched := (h.takenOver hTook).1
  have hTaken : w.state.taken = w.state.operator := by
    rw [Braking.taken, Operator.takeOver, hTook]
    rfl
  have hHandover : handover p ns w.state.supervisor =
      (w.state.supervisor.setSlot .operator
        { w.state.slot with aliveAfterResume := w.state.slot.aliveAfterResume + 1 }, false) := by
    show Supervisor.handoverSlot (uptimeMs ns) .operator p.periodMs w.state.supervisor = _
    rw [Supervisor.handoverSlot, hLatched]
    exact (if_neg (by decide)).trans (if_pos hResumed)
  obtain ⟨hSupervisor, hOperator, hPublished⟩ := @tick_reports cfg p ns w.state
    hOperating (by rw [hTaken, hTook])
  rw [hHandover, if_neg (by simp)] at hOperator hPublished
  rw [hHandover] at hSupervisor
  apply h.tick_silent hClock
  · rw [hOperator, hTaken]
  · rw [hSupervisor]
    rfl
  · refine ⟨w.state.slot.aliveAfterResume + 1, ?_⟩
    rw [slot, hSupervisor]
    simp
  · show (if _ then [] else _ ++ published cfg p w.state (.tick ns)) = _
    rw [hPublished]
    split_ifs with hNone
    · exact hNone.1.symm
    · exact List.append_nil _

/-- A tick that is not OPERATING brakes nothing. -/
theorem Inv.tick_waiting (h : Inv p w) (hClock : w.history.clock ≤ ns)
    (hWaits : w.state.operator.status ≠ statusOperating) : Inv p (w.step cfg p (.tick ns)) := by
  obtain ⟨hNext, hPublished⟩ := @Braking.tick_waiting cfg p ns w.state hWaits
  apply h.tick_silent hClock
  · rw [hNext]
  · rw [hNext]
  · exact ⟨w.state.slot.aliveAfterResume, by rw [hNext]⟩
  · show (if w.history.commands = [] ∧ w.state.brakes (.tick ns) = false then []
      else w.history.commands ++ published cfg p w.state (.tick ns)) = _
    have hPasses : w.state.brakes (.tick ns) = false := by
      rw [brakes]
      simpa using hWaits
    by_cases hNone : w.history.commands = []
    · rw [if_pos ⟨hNone, hPasses⟩, hNone]
    · rw [if_neg fun hBoth => hNone hBoth.1, hPublished,
        if_pos ((h.braking hNone).resolve_left hWaits), List.append_nil]

/-- A tick never loosens the command. -/
theorem Inv.tick (h : Inv p w) (hJ : p.targetJerk < 0) (hClock : w.history.clock ≤ ns) :
    Inv p (w.step cfg p (.tick ns)) := by
  by_cases hOperating : w.state.operator.status = statusOperating
  · cases hLatched : w.state.supervisor.latch.latched with
    | false => exact h.tick_unlatched hJ hOperating hLatched
    | true =>
        cases hResumed : w.state.slot.resumed with
        | false => exact h.tick_granted hJ hClock hOperating hLatched hResumed
        | true => exact h.tick_refused hClock hOperating hResumed
  · exact h.tick_waiting hClock hOperating

end Tick

section Pass
variable {pass : Supervisor.Pass} {stampNs : Int}

abbrev after (cfg : Config) (w : World) (pass : Supervisor.Pass) : Supervisor :=
  (Supervisor.pass cfg pass w.state.supervisor).1

/-- An output that is latched stays latched as it was. -/
theorem after_latched (hLatched : w.state.supervisor.latch.latched = true) :
    (after cfg w pass).latch = w.state.supervisor.latch := by
  rcases Supervisor.pass_latchedBy cfg pass w.state.supervisor with hSame | ⟨hNot, -, -⟩
  · exact hSame
  · exact absurd (hLatched.symm.trans hNot) (by decide)

/-- The output was latched in the past, if it is. -/
theorem Inv.after_past (h : Inv p w) (hAllowed : Allowed cfg w (.pass pass stampNs))
    (hLatched : (after cfg w pass).latch.latched = true) :
    (after cfg w pass).latch.ms ≤ pass.publishNow := by
  obtain ⟨⟨hNow, hLatch, hService, hPublish⟩, -, -, -⟩ := hAllowed
  rcases Supervisor.pass_latchedBy cfg pass w.state.supervisor with hSame | ⟨-, -, hMs⟩
  · rw [hSame] at hLatched ⊢
    have := h.latchPast hLatched
    omega
  · rw [hMs]
    omega

/-- Only a slot handed over resumes. -/
theorem Inv.after_resumed (h : Inv p w)
    (hResumed : ((after cfg w pass).slots .operator).resumed = true) :
    w.state.operator.directTakenOver = true ∧ (w.state.slot.resumed = false →
      w.state.supervisor.resumable cfg pass.serviceNow .operator = true) := by
  rw [Supervisor.pass_resumed, Supervisor.taken_resumable, Bool.or_eq_true,
    Bool.and_eq_true] at hResumed
  rcases hResumed with hWas | ⟨-, hResumable⟩
  · exact ⟨h.resumed hWas, fun hNot => absurd (hWas.symm.trans hNot) (by decide)⟩
  · refine ⟨?_, fun _ => hResumable⟩
    rw [Supervisor.resumable, Supervisor.DirectSlot.watched] at hResumable
    rw [← h.handed]
    simp only [Bool.and_eq_true] at hResumable
    exact hResumable.1.1.2

/-- A slot gone silent was last reported in an earlier millisecond. -/
theorem silent_past (hRate : 1 ≤ p.updateRate ∧ p.updateRate ≤ 1000) {ns now : Int}
    (hResumable : w.state.supervisor.resumable cfg now .operator = true)
    (hHolds : Holds p w ns) (hClock : uptimeMs w.history.clock ≤ now) : ns ≤ now * 1000000 := by
  have hLimit := Slots.toNat_resumeLimit cfg ⟨fun _ => p.updateRate, fun _ => hRate⟩
    (i := .operator) (d := w.state.slot) hHolds.period
  have hPeriod := (Slots.Rates.periodMs_range ⟨fun _ => p.updateRate, fun _ => hRate⟩ .operator).1
  have hPeriods := cfg.resumePeriods_range.1
  have hPositive : 0 < (Supervisor.resumeLimit cfg w.state.slot).toNat := by
    rw [hLimit]
    exact Nat.mul_pos (by omega) (by omega)
  have hSilent : Supervisor.resumeLimit cfg w.state.slot ≤
      uptime32 now - w.state.slot.aliveMs := by
    rw [Supervisor.resumable, Bool.and_eq_true] at hResumable
    exact of_decide_eq_true hResumable.2
  have hLater : now ≠ uptimeMs ns := by
    rintro rfl
    rw [hHolds.alive, sub_self] at hSilent
    exact absurd hPositive (not_lt.mpr hSilent)
  have hPast := (uptimeMs_mono hHolds.past).trans hClock
  rw [uptimeMs] at hLater hPast
  omega

/-- What the direct path may publish after the watch is no looser than the
last command, unless it has yet to start. -/
theorem Inv.ready_after (h : Inv p w) (hJ : p.targetJerk < 0)
    (hRate : 1 ≤ p.updateRate ∧ p.updateRate ≤ 1000)
    (hAllowed : Allowed cfg w (.pass pass stampNs))
    (hLast : w.state.operator.direct.hasLast = true)
    (hReady : w.state.operator.directTakenOver = true →
      ((after cfg w pass).slots .operator).resumed = true) :
    ∃ ms, ms ≤ pass.serviceNow ∧ ∀ c ∈ w.history.commands.getLast?,
      commanded p w.state.operator.direct.a0 w.state.supervisor.latch.ms (ms * 1000000) ≤
        c.longitudinal.acceleration := by
  obtain ⟨⟨hNow, hLatch, hService, hPublish⟩, -, -, -⟩ := hAllowed
  by_cases hWas : w.state.operator.directTakenOver = true → w.state.slot.resumed = true
  · obtain ⟨ms, hPast, hAbove⟩ := h.ready hLast hWas
    exact ⟨ms, by omega, hAbove⟩
  · rw [Classical.not_imp, Bool.not_eq_true] at hWas
    obtain ⟨hTook, hNot⟩ := hWas
    obtain ⟨ns, hHolds⟩ := h.holds hTook hNot
    have hResumable := (h.after_resumed (hReady hTook)).2 hNot
    have hEarlier := silent_past hRate hResumable hHolds (by omega)
    refine ⟨pass.serviceNow, le_rfl, ?_⟩
    intro c hPublished
    rw [hHolds.published] at hPublished
    obtain rfl := Option.some.inj hPublished
    exact (commanded_anti hJ hEarlier).trans (hHolds.ramp hLast).2.above

/-- What every pass leaves. -/
structure Passed (cfg : Config) (p : Parameters) (w : World) (pass : Supervisor.Pass)
    (stampNs : Int) (w' : World) : Prop where
  supervisor : w'.state.supervisor = after cfg w pass
  handover : w'.state.slot.handover = w.state.slot.handover
  aliveMs : w'.state.slot.aliveMs = w.state.slot.aliveMs
  alivePeriodMs : w'.state.slot.alivePeriodMs = w.state.slot.alivePeriodMs
  latched : w.state.supervisor.latch.latched = true →
    w'.state.supervisor.latch = w.state.supervisor.latch
  resumed : w'.state.slot.resumed = true → w.state.operator.directTakenOver = true
  notResumed : w'.state.slot.resumed = false → w.state.slot.resumed = false
  latchPast : w'.state.supervisor.latch.latched = true →
    w'.state.supervisor.latch.ms ≤ pass.publishNow
  clock : w'.history.clock = stampNs
  publishPast : pass.publishNow ≤ uptimeMs w'.history.clock
  later : w.history.clock ≤ w'.history.clock

/-- A pass may latch, publishes the ramp from the latch, and resumes the slot
only from its report. -/
theorem Inv.passed (h : Inv p w) (hAllowed : Allowed cfg w (.pass pass stampNs)) :
    Passed cfg p w pass stampNs (w.step cfg p (.pass pass stampNs)) := by
  obtain ⟨-, hHandover, hAlive, hPeriod⟩ :=
    Supervisor.pass_slots cfg pass w.state.supervisor .operator
  constructor
  · rfl
  · exact hHandover
  · exact hAlive
  · exact hPeriod
  · exact after_latched
  · exact fun hResumed => (h.after_resumed hResumed).1
  · intro hNot
    have hSlot : ((after cfg w pass).slots .operator).resumed = false := hNot
    rw [Supervisor.pass_resumed, Bool.or_eq_false_iff] at hSlot
    exact hSlot.1
  · exact h.after_past hAllowed
  · rfl
  · exact hAllowed.2.2.1
  · exact hAllowed.2.1

/-- A pass that calls the operator's slot not at all. -/
theorem Inv.pass_quiet (h : Inv p w) (hJ : p.targetJerk < 0)
    (hRate : 1 ≤ p.updateRate ∧ p.updateRate ≤ 1000)
    (hAllowed : Allowed cfg w (.pass pass stampNs))
    (hOperator : (next cfg p w.state (.pass pass stampNs)).operator = w.state.operator)
    (hCalls : ((after cfg w pass).slots .operator).calls = w.state.slot.calls)
    (hPublished : published cfg p w.state (.pass pass stampNs) = [])
    (hAligned : ∀ last, passAligned cfg p w.state pass last = true) :
    Inv p (w.step cfg p (.pass pass stampNs)) := by
  have hPassed := h.passed hAllowed
  have hCommands : (w.step cfg p (.pass pass stampNs)).history.commands = w.history.commands :=
    note_silent rfl hPublished
  have hNext : (w.step cfg p (.pass pass stampNs)).state.operator = w.state.operator := hOperator
  have hSameCalls : (w.step cfg p (.pass pass stampNs)).state.slot.calls = w.state.slot.calls :=
    hCalls
  have hService : pass.serviceNow ≤ pass.publishNow := hAllowed.1.2.2.2
  constructor
  · rw [hNext]
    exact h.target
  · rw [hNext]
    exact h.jerk
  · rw [hNext, hPassed.handover]
    exact h.handed
  · rw [hNext]
    exact hPassed.resumed
  · rw [hNext]
    intro hTook
    rw [hPassed.latched (h.takenOver hTook).1]
    exact h.takenOver hTook
  · rw [hNext]
    intro hLast
    rw [hPassed.latched (h.called hLast)]
    exact h.called hLast
  · rw [hNext, hSameCalls]
    exact h.uncalled
  · exact fun hLatched => (hPassed.latchPast hLatched).trans hPassed.publishPast
  · rw [hNext, hCommands]
    refine fun hSome => (h.braking hSome).imp id fun hLatched => ?_
    rwa [hPassed.latched hLatched]
  · rw [hNext, hCommands]
    exact h.own
  · rw [hNext, hCommands]
    intro hLast hNot
    obtain ⟨hLastPublished, ns, hCovers⟩ := h.direct hLast hNot
    rw [hPassed.latched (h.called hLast)]
    exact ⟨hLastPublished, ns, hCovers.mono hPassed.later⟩
  · rw [hNext, hCommands]
    intro hLast hReady
    rw [hPassed.latched (h.called hLast)]
    obtain ⟨ms, hPast, hAbove⟩ := h.ready_after hJ hRate hAllowed hLast hReady
    exact ⟨ms, (hPast.trans hService).trans hPassed.publishPast, hAbove⟩
  · rw [hNext]
    intro hTook hNot
    obtain ⟨ns, hHolds⟩ := h.holds hTook (hPassed.notResumed hNot)
    refine ⟨ns, ?_⟩
    constructor
    · rw [hCommands, hNext]
      exact hHolds.published
    · exact hHolds.past.trans hPassed.later
    · rw [hPassed.aliveMs]
      exact hHolds.alive
    · rw [hPassed.alivePeriodMs]
      exact hHolds.period
    · rw [hNext, hPassed.latched (h.takenOver hTook).1]
      intro hLast
      obtain ⟨hReceived, hCovers⟩ := hHolds.ramp hLast
      exact ⟨hReceived, hCovers.mono hPassed.later⟩
  · rw [hCommands, h.chain]
    show _ ↔ (w.history.aligned && passAligned cfg p w.state pass _) = true
    rw [hAligned, Bool.and_true]

/-- The command of a call is no looser than the last one, unless it is the
first call and its ramp begins higher. -/
theorem Inv.called_le (h : Inv p w) (hJ : p.targetJerk < 0)
    (hRate : 1 ≤ p.updateRate ∧ p.updateRate ≤ 1000)
    (hAllowed : Allowed cfg w (.pass pass stampNs))
    (hLatched : (after cfg w pass).latch.latched = true)
    (hOwned : ((after cfg w pass).slots .operator).owned = true) :
    (∀ prev ∈ w.history.commands.getLast?,
        NoLooser p prev (Braking.called cfg w.state pass stampNs).2) ↔
      ((operatorCall cfg w.state pass).seq != 0 ||
        w.history.commands.getLast?.all
          (startsNoHigher p w.state (operatorCall cfg w.state pass))) = true := by
  have hAge : (after cfg w pass).latch.ms ≤ pass.publishNow ∧
      pass.publishNow - (after cfg w pass).latch.ms < 2 ^ 32 :=
    ⟨h.after_past hAllowed hLatched, hAllowed.2.2.2⟩
  by_cases hFirst : (operatorCall cfg w.state pass).seq = 0
  · rw [hFirst, bne_self_eq_false, Bool.false_or, Option.all_eq_true]
    refine forall₂_congr fun prev _ => ?_
    exact called_first hAge hJ h.target h.jerk hFirst prev
  · refine iff_of_true ?_ (Bool.or_eq_true_iff.mpr (.inl (bne_iff_ne.mpr hFirst)))
    have hLast : w.state.operator.direct.hasLast = true := by
      by_contra hNone
      exact hFirst (h.uncalled (by simpa using hNone))
    have hReady : w.state.operator.directTakenOver = true →
        ((after cfg w pass).slots .operator).resumed = true := by
      intro hTook
      have hHandover : ((after cfg w pass).slots .operator).handover = true := by
        rw [(Supervisor.pass_slots cfg pass w.state.supervisor .operator).2.1]
        exact h.handed.trans hTook
      rw [Supervisor.DirectSlot.owned, hHandover] at hOwned
      simp only [Bool.not_true, Bool.false_or, Bool.and_eq_true] at hOwned
      exact hOwned.2
    obtain ⟨ms, hPast, hAbove⟩ := h.ready_after hJ hRate hAllowed hLast hReady
    have hService : pass.serviceNow ≤ pass.publishNow := hAllowed.1.2.2.2
    intro prev hPrev
    refine le_max_of_le_left ?_
    rw [called_acceleration hAge hJ h.target h.jerk, called_a0, if_neg hFirst,
      after_latched (h.called hLast)]
    exact (commanded_anti hJ (by omega)).trans (hAbove prev hPrev)

/-- A pass that calls `direct_brake`. -/
theorem Inv.pass_called (h : Inv p w) (hJ : p.targetJerk < 0)
    (hRate : 1 ≤ p.updateRate ∧ p.updateRate ≤ 1000)
    (hAllowed : Allowed cfg w (.pass pass stampNs))
    (hLatched : (after cfg w pass).latch.latched = true)
    (hOwned : ((after cfg w pass).slots .operator).owned = true)
    (hOperator : (next cfg p w.state (.pass pass stampNs)).operator =
      { w.state.operator with direct := (Braking.called cfg w.state pass stampNs).1 })
    (hPublished : published cfg p w.state (.pass pass stampNs) =
      [(Braking.called cfg w.state pass stampNs).2])
    (hAligned : ∀ last, passAligned cfg p w.state pass last =
      ((operatorCall cfg w.state pass).seq != 0 ||
        last.all (startsNoHigher p w.state (operatorCall cfg w.state pass)))) :
    Inv p (w.step cfg p (.pass pass stampNs)) := by
  have hPassed := h.passed hAllowed
  have hNext : (w.step cfg p (.pass pass stampNs)).state.operator =
      { w.state.operator with direct := (Braking.called cfg w.state pass stampNs).1 } := hOperator
  have hCommands : (w.step cfg p (.pass pass stampNs)).history.commands =
      w.history.commands ++ [(Braking.called cfg w.state pass stampNs).2] := by
    rw [note_braking rfl, hPublished]
  have hAge : (after cfg w pass).latch.ms ≤ pass.publishNow ∧
      pass.publishNow - (after cfg w pass).latch.ms < 2 ^ 32 :=
    ⟨h.after_past hAllowed hLatched, hAllowed.2.2.2⟩
  have hRamp := @called_acceleration cfg p w.state pass stampNs hAge hJ h.target h.jerk
  have hStamp : pass.publishNow * 1000000 ≤ stampNs := by
    have hPast : pass.publishNow ≤ stampNs / 1000000 := hAllowed.2.2.1
    omega
  constructor
  · rw [hNext]
    exact called_targets.1.trans h.target
  · rw [hNext]
    exact called_targets.2.trans h.jerk
  · rw [hNext, hPassed.handover]
    exact h.handed
  · rw [hNext]
    exact hPassed.resumed
  · rw [hNext]
    exact fun hTook => ⟨hLatched, (h.takenOver hTook).2⟩
  · exact fun _ => hLatched
  · rw [hNext]
    exact nofun
  · exact fun hIs => (hPassed.latchPast hIs).trans hPassed.publishPast
  · exact fun _ => .inr hLatched
  · rw [hNext]
    exact nofun
  · rw [hNext, hCommands, List.getLast?_concat]
    intro _ _
    exact ⟨rfl, stampNs, rfl, le_rfl, (commanded_anti hJ hStamp).trans_eq hRamp.symm⟩
  · rw [hNext, hCommands, List.getLast?_concat]
    intro _ _
    refine ⟨pass.publishNow, hPassed.publishPast, ?_⟩
    intro c hLast
    obtain rfl := Option.some.inj hLast
    exact hRamp.symm.le
  · rw [hNext]
    intro hTook hNot
    have hHandover : ((after cfg w pass).slots .operator).handover = true :=
      hPassed.handover.trans (h.handed.trans hTook)
    have hHere : ((after cfg w pass).slots .operator).resumed = false := hNot
    rw [Supervisor.DirectSlot.owned, hHandover, hHere] at hOwned
    simp at hOwned
  · rw [hCommands, isChain_published, h.chain, h.called_le hJ hRate hAllowed hLatched hOwned]
    show _ ↔ (w.history.aligned && passAligned cfg p w.state pass _) = true
    rw [hAligned, Bool.and_eq_true]

/-- So no pass loosens the ramp. -/
theorem Inv.pass_step (h : Inv p w) (hJ : p.targetJerk < 0)
    (hRate : 1 ≤ p.updateRate ∧ p.updateRate ≤ 1000)
    (hAllowed : Allowed cfg w (.pass pass stampNs)) :
    Inv p (w.step cfg p (.pass pass stampNs)) := by
  rcases pass_cases cfg p w.state pass stampNs with ⟨hOperator, hCalls, hPublished, hAligned⟩ |
    ⟨hLatched, hOwned, hOperator, hPublished, hAligned⟩
  · exact h.pass_quiet hJ hRate hAllowed hOperator hCalls hPublished hAligned
  · exact h.pass_called hJ hRate hAllowed hLatched hOwned hOperator hPublished hAligned

end Pass

/-- One step, whichever it is. -/
theorem Inv.step (h : Inv p w) (hJ : p.targetJerk < 0)
    (hRate : 1 ≤ p.updateRate ∧ p.updateRate ≤ 1000) {e : Event} (hAllowed : Allowed cfg w e) :
    Inv p (w.step cfg p e) := by
  cases e with
  | controlCommand msg => exact h.controlCommand msg
  | operate operate =>
      obtain rfl : operate = true := hAllowed
      exact h.operate
  | tick ns => exact h.tick hJ hAllowed
  | pass pass stampNs => exact h.pass_step hJ hRate hAllowed
  | call e => exact h.call hAllowed

end Steps

/-- In every run no command loosens the brake, by tick, takeover, stall or
resume, up to the direct path's first call, which does exactly when its ramp
begins higher than the last command. -/
theorem braking_loosens_iff (cfg : Config) (p : Parameters) (hJ : p.targetJerk < 0)
    (hRate : 1 ≤ p.updateRate ∧ p.updateRate ≤ 1000) (levels : Supervisor.Levels) {w : World}
    (hRun : Transition.Reaches (World.step cfg p) (Allowed cfg) (World.boot p levels) w) :
    w.history.commands.IsChain (NoLooser p) ↔ w.history.aligned = true := by
  have hInv : Inv p w := by
    apply hRun.invariant
    · exact .boot p levels
    · exact fun _ _ h hAllowed => h.step hJ hRate hAllowed
  exact hInv.chain

def coasting : Event := .controlCommand { longitudinal := { velocity := 8, acceleration := 0 } }

/-- A pass read in one millisecond, and stamped in it. -/
def passAt (ms : Int) : Event := .pass (.at ms) (ms * 1000000)

/-- Latched first, then taken over, stalled and resumed. -/
def passedOn : List Event :=
  [coasting, .call (.hook 7), passAt 100, passAt 133, .operate true, .tick 150000000,
   .tick 183000000, passAt 282, passAt 315, .tick 400000000]

/-- The operator has braked for 66 ms when the output is latched. -/
def latchedLate : List Event :=
  [coasting, .operate true, .tick 33000000, .tick 66000000, .tick 99000000, .call (.hook 7),
   passAt 100]

theorem braking_loosens_iff_runs :
    let run := Transition.follow (World.step .image .declared) (World.boot .declared {})
    (run passedOn).history.commands.IsChain (NoLooser .declared) ∧
      ¬ (run latchedLate).history.commands.IsChain (NoLooser .declared) := by
  have hJ : Parameters.declared.targetJerk < 0 := by norm_num [Parameters.declared]
  have hOn := braking_loosens_iff .image .declared hJ (by decide) {}
    (Transition.reaches_follow passedOn (by decide))
  have hLate := braking_loosens_iff .image .declared hJ (by decide) {}
    (Transition.reaches_follow latchedLate (by decide))
  intro run
  constructor
  · exact hOn.mpr (by decide +kernel)
  · exact fun hChain => absurd (hLate.mp hChain) (by decide +kernel)

end SafetyIsland.Braking
