import SafetyIsland.Handler.Loss
import SafetyIsland.Island.Floor

/-! The floor under the island's own braking command: who opens route 3 for a
command that starts with a latch or a resume, and what may close it again. -/
namespace SafetyIsland

open MrmState Transition

namespace Handler

section Done
variable {cfg : Config} {p : Param} {env : Env} {h : Handler}

/-- A request clears route 3 only to release the emergency stop. -/
theorem requestMrmBehavior_done {o : Outcome} {behavior : Behavior} {type : RequestType}
    (hDone : .done 3 ∈ (requestMrmBehavior cfg o behavior type).1) :
    behavior = .emergencyStop ∧ type = .cancel := by
  revert hDone
  unfold requestMrmBehavior
  cases o.serialized <;> cases o.sent <;> cases behavior <;> cases type <;> simp

/-- On a lost input the emergency stop is not left. -/
theorem Leaving.ne_emergency (hLeaving : Leaving p h) (hLost : h.isInputLost = true)
    (hIdle : h.mrmState.state = .normal → h.mrmState.behavior = .none) :
    h.mrmState.behavior ≠ .emergencyStop := by
  intro hRunning
  rcases hLeaving with ⟨hState, hEngaged⟩ | ⟨-, hOther⟩
  · exact hEngaged (hIdle hState)
  · exact hOther ((getCurrentMrmBehavior_of_lost p h hLost).trans hRunning.symm)

/-- While an input is lost no effect clears route 3. -/
theorem operateMrm_done (hLost : h.isInputLost = true)
    (hIdle : h.mrmState.state = .normal → h.mrmState.behavior = .none) :
    .done 3 ∉ (operateMrm cfg p env h).2 := by
  have hCancel (hLeaving : Leaving p h) : .done 3 ∉ (cancelRunning cfg env h).1 :=
    fun hDone => hLeaving.ne_emergency hLost hIdle (requestMrmBehavior_done hDone).1
  have hCall (o : Outcome) (behavior : Behavior) :
      .done 3 ∉ (requestMrmBehavior cfg o behavior .call).1 :=
    fun hDone => RequestType.noConfusion (requestMrmBehavior_done hDone).2
  have hSpec := operateMrm_spec cfg p env h
  generalize operateMrm cfg p env h = r at hSpec ⊢
  cases hSpec with
  | kept => exact List.not_mem_nil
  | released hState hRunning => exact absurd (hIdle hState) hRunning
  | refused hLeaving =>
      exact fun hDone => (List.mem_append.mp hDone).elim (hCancel hLeaving) (hCall _ _)
  | exchanged hState hOther =>
      have hLeaving : Leaving p h := .inr ⟨hState, hOther⟩
      exact fun hDone => (List.mem_append.mp hDone).elim (hCancel hLeaving) (hCall _ _)
  | uncalled hState hOther =>
      have hLeaving : Leaving p h := .inr ⟨hState, hOther⟩
      exact fun hDone => (List.mem_append.mp hDone).elim
        (fun hFirst => (List.mem_append.mp hFirst).elim (hCancel hLeaving) (hCall _ _)) (hCall _ _)

/-- In an emergency the state machine leaves NORMAL with nothing engaged. -/
theorem updateMrmState_idle (hReported : Reported h.mrmState) (hEmergency : h.isEmergency = true)
    (hState : (updateMrmState p env h).1.mrmState.state = .normal) :
    (updateMrmState p env h).1.mrmState.behavior = .none := by
  have hSpec := updateMrmState_spec p env h
  generalize updateMrmState p env h = r at hSpec hState ⊢
  cases hSpec with
  | calm takeover hCalm => simp [hEmergency] at hCalm
  | waiting takeover hNormal => simp [hReported.idle hNormal]
  | pulledOver hBehavior => exact absurd hBehavior hReported.lagging_self.1
  | _ => simp_all [transitionTo]

/-- A tick that read the latch clears route 3 only at a standstill. -/
theorem runTick_done (hReported : Reported h.mrmState) (hLatched : h.isSupervisorLatched = true)
    (hDone : .done 3 ∈ (runTick cfg p env h).2) : h.isStopped = true := by
  have hLost : h.isInputLost = true := by simp [isInputLost, hLatched]
  have hEmergency : h.isEmergency = true := by simp [isEmergency, hLost]
  rcases List.mem_append.mp hDone with hRespond | hAnnounce
  · rcases List.mem_append.mp hRespond with hUpdate | hOperate
    · have hSpec := updateMrmState_spec p env h
      generalize updateMrmState p env h = r at hSpec hUpdate
      cases hSpec with
      | stopped hState hStopped => exact hStopped
      | _ => exact absurd hUpdate List.not_mem_nil
    · obtain ⟨takeover, hUpdated⟩ := updateMrmState_eq p env h
      have hStill : (updateMrmState p env h).1.isInputLost = true := by
        rw [hUpdated]
        exact hLost
      have hIdle := @updateMrmState_idle p env h hReported hEmergency
      exact absurd hOperate (operateMrm_done hStill hIdle)
  · exact absurd (announce_quiet _ hAnnounce) (by simp [Effect.Quiet])

/-- Whether route 3 is watched after the effects, and was not before, one of
them opened it. -/
theorem exists_arm_of_floorAfter {effects : List Effect}
    (hAfter : effects.foldl Effect.floorAfter false = true) :
    ∃ now due, .arm now 3 due ∈ effects := by
  induction effects with
  | nil => exact absurd hAfter (by decide)
  | cons e rest ih =>
      by_cases hArm : ∃ now due, e = .arm now 3 due
      · obtain ⟨now, due, rfl⟩ := hArm
        exact ⟨now, due, List.mem_cons_self⟩
      · have hClosed : Effect.floorAfter false e = false := by
          cases e with
          | arm now route due =>
              have hOther : route ≠ 3 := fun h => hArm ⟨now, due, by rw [h]⟩
              simpa [Effect.floorAfter] using hOther
          | _ => rfl
        rw [List.foldl_cons, hClosed] at hAfter
        obtain ⟨now, due, hMem⟩ := ih hAfter
        exact ⟨now, due, List.mem_cons_of_mem _ hMem⟩

variable (cfg p env) in
/-- An emergency stop that a tick enters has not succeeded by its end. -/
theorem respond_ne_succeeded (hReported : Reported h.mrmState)
    (hEngaged : h.mrmState.behavior ≠ .emergencyStop)
    (hBehavior : (respond cfg p env h).1.mrmState.behavior = .emergencyStop) :
    (respond cfg p env h).1.mrmState.state ≠ .mrmSucceeded := by
  intro hState
  unfold respond at hState hBehavior
  have hUpdate := updateMrmState_spec p env h
  generalize updateMrmState p env h = u at hUpdate hState hBehavior
  have hSame : (operateMrm cfg p env u.1).1.mrmState = u.1.mrmState := by
    have hSpec := operateMrm_spec cfg p env u.1
    dsimp only at hState
    generalize operateMrm cfg p env u.1 = r at hSpec hState ⊢
    cases hSpec with
    | kept => rfl
    | released hNormal => simp [setBehavior, hNormal] at hState
    | refused =>
        rw [handleFailedRequest_fst] at hState
        simp only [setMrmState_mrmState] at hState
        split_ifs at hState
    | exchanged hOperating => simp [setBehavior, hOperating] at hState
    | uncalled =>
        rw [handleFailedRequest_fst] at hState
        simp only [setMrmState_mrmState] at hState
        split_ifs at hState
  dsimp only at hState hBehavior
  rw [hSame] at hState hBehavior
  cases hUpdate with
  | stopped => exact hEngaged hBehavior
  | rested => exact hEngaged hBehavior
  | pulledOver hPull => exact absurd hPull hReported.lagging_self.1
  | _ => simp_all [transitionTo]

/-- The tick that reads the latch under AUTONOMOUS control calls the emergency
operator, and so opens the floor, unless the emergency stop was engaged before
or the tick finds the vehicle stopped in the comfortable stop. -/
theorem runTick_opens (hReported : Reported h.mrmState) (hLatched : h.isSupervisorLatched = true)
    (hRead : env.latched = true) (hFault : env.vehicleFault = false)
    (hAutonomous : h.isControlModeAutonomous = true) (hSerializes : env.Serializes)
    (hEngaged : h.mrmState.behavior ≠ .emergencyStop)
    (hMoving : ¬ StoppedInComfort h env) :
    ∃ now due, .arm now 3 due ∈ (runTick cfg p env h).2 := by
  have hLost : h.isInputLost = true := by simp [isInputLost, hLatched]
  have hGate := (respond_gate cfg p hReported hLost hAutonomous (hLatched.trans hRead.symm)).mpr
    hMoving
  have hForce : InForce (runTick cfg p env h).1.mrmState := by
    obtain ⟨hActive, hBehavior⟩ := Judge.gateEmergency_eq_true.mp hGate
    refine ⟨?_, hBehavior⟩
    have hNotRested := respond_ne_succeeded cfg p env hReported hEngaged hBehavior
    cases hState : (respond cfg p env h).1.mrmState.state with
    | normal => exact absurd hState hActive
    | mrmOperating => exact .inl hState
    | mrmSucceeded => exact absurd hState hNotRested
    | mrmFailed => exact .inr hState
  exact exists_arm_of_floorAfter (runTick_floor hSerializes hReported hFault
    (fun hBefore => absurd hBefore.2 hEngaged) hForce)

end Done
end Handler

namespace Island
open Handler (Effect Env Param Input)

/-- What an observer keeps of the floor, since the island's braking command
last (re)started. -/
structure Watch where
  /-- Route 3 was armed by the start, or by an emergency CALL after it. -/
  opened : Bool := false
  /-- Route 3 was judged MET, or the handler cleared it at a standstill. -/
  standstill : Bool := false
  /-- Since route 3 was last opened, a callback whose tick read the latch as
  clear has cleared it: the CANCEL of that tick. -/
  cancelled : Bool := false

def floorArmed (s : Supervisor) : Bool := (s.routes .emergencyStandstill).dueValid

/-- The braking command starts with the latch, and again with the operator
slot's resume. -/
def restarts (s t : Supervisor) : Bool :=
  !s.latch.latched && t.latch.latched ||
    !(s.slots .operator).resumed && (t.slots .operator).resumed

/-- The observer's note on one effect of the handler's. -/
def Watch.noteEffect (h : Watch) (handler : Handler) : Effect → Watch
  | .arm _ route _ => if route = 3 then { h with opened := true, cancelled := false } else h
  | .done route =>
      if route ≠ 3 then h
      else if handler.isStopped then { h with standstill := true }
      else if handler.isSupervisorLatched then h
      else { h with cancelled := true }
  | _ => h

def Watch.notePass (cfg : Config) (h : Watch) (s : Supervisor) (pass : Supervisor.Pass) : Watch :=
  let t := (Supervisor.pass cfg pass s).1
  if restarts s t then { opened := floorArmed t }
  else { h with standstill := h.standstill || floorMetBy cfg s pass }

def Watch.note (cfg : Config) (h : Watch) (i : Island) (e : Event) (_ : Island) : Watch :=
  match e with
  | .act => (i.pending.take 1).foldl (fun h e => h.noteEffect i.handler e) h
  | .supervisor (.pass pass) => h.notePass cfg i.supervisor pass
  | _ => h

abbrev Watching := Transition.Observed Island Watch

def Watching.step (cfg : Config) (p : Param) : Watching → Event → Watching :=
  Transition.observe (next cfg p) (Watch.note cfg)

def Watching.boot (sec : ℚ) : Watching :=
  { state := { handler := Handler.construct sec }, history := {} }

structure WatchInv (w : Watching) : Prop where
  reported : Handler.Reported w.state.handler.mrmState
  judging : ∀ env, w.state.callback = .judging env →
    w.state.handler.isSupervisorLatched = env.latched
  /-- A tick that read the latch has only a standstill to clear route 3 for. -/
  clears : .done 3 ∈ w.state.pending → w.state.handler.isSupervisorLatched = true →
    w.state.handler.isStopped = true
  watched : w.state.supervisor.latch.latched = true →
    w.state.supervisor.fault.vehicleFault = false → w.history.opened = true →
      floorArmed w.state.supervisor = true ∨ w.history.standstill = true ∨
        w.history.cancelled = true

section Run
variable {cfg : Config} {p : Param} {w : Watching} {e : Event}

/-- At boot no command brakes. -/
theorem WatchInv.boot (sec : ℚ) : WatchInv (Watching.boot sec) where
  reported := .inl rfl
  judging _ h := Callback.noConfusion h
  clears h := absurd h List.not_mem_nil
  watched h := absurd h Bool.false_ne_true

/-- One effect keeps the floor watched. -/
theorem watched_act {i : Island} {h : Watch} {e : Effect}
    (hClears : e = .done 3 → i.handler.isSupervisorLatched = true → i.handler.isStopped = true)
    (hWatched : h.opened = true →
      floorArmed i.supervisor = true ∨ h.standstill = true ∨ h.cancelled = true)
    (hOpened : (h.noteEffect i.handler e).opened = true) :
    floorArmed (serve cfg i.supervisor e) = true ∨
      (h.noteEffect i.handler e).standstill = true ∨
        (h.noteEffect i.handler e).cancelled = true := by
  by_cases hDone : e = .done 3
  · subst hDone
    cases hStopped : i.handler.isStopped with
    | true => exact .inr (.inl (by simp [Watch.noteEffect, hStopped]))
    | false =>
        cases hRead : i.handler.isSupervisorLatched with
        | true => exact absurd (hClears rfl hRead) (by rw [hStopped]; decide)
        | false => exact .inr (.inr (by simp [Watch.noteEffect, hStopped, hRead]))
  · by_cases hArm : ∃ now due, e = .arm now 3 due
    · obtain ⟨now, due, rfl⟩ := hArm
      refine .inl ?_
      show ((Supervisor.armRoute cfg now .emergencyStandstill due i.supervisor).routes
        .emergencyStandstill).dueValid = true
      simp [Supervisor.armRoute_floorRoute]
    · have hSame : h.noteEffect i.handler e = h := by
        cases e with
        | arm now route due =>
            have hOther : route ≠ 3 := fun hRoute => hArm ⟨now, due, by rw [hRoute]⟩
            simp [Watch.noteEffect, hOther]
        | done route =>
            have hOther : route ≠ 3 := fun hRoute => hDone (by rw [hRoute])
            simp [Watch.noteEffect, hOther]
        | _ => rfl
      rw [hSame] at hOpened ⊢
      exact (hWatched hOpened).imp_left (serve_armed hDone)

variable (cfg) in
/-- A pass keeps an armed floor armed, or answers it. -/
theorem pass_armed_of_armed {s : Supervisor} (pass : Supervisor.Pass)
    (hArmed : floorArmed s = true) :
    floorArmed (Supervisor.pass cfg pass s).1 = true ∨ floorMetBy cfg s pass = true ∨
      (Supervisor.pass cfg pass s).1.fault.vehicleFault = true := by
  cases hWoken : pass.woken with
  | true =>
      rcases Supervisor.pass_kept cfg pass s hWoken hArmed with ⟨hKept, -⟩ | hMet | hFault
      · exact .inl hKept
      · have hCount := Supervisor.pass_met cfg pass s hWoken hMet
        exact .inr (.inl (by simp [floorMetBy, hCount]))
      · exact .inr (.inr hFault)
  | false =>
      refine .inl ?_
      rw [floorArmed, Supervisor.pass_kept_of_timeout cfg pass s hWoken hArmed]
      exact hArmed

/-- A pass keeps the floor watched, or finds the fault. -/
theorem watched_pass {s : Supervisor} {h : Watch} (pass : Supervisor.Pass)
    (hWatched : s.latch.latched = true → h.opened = true →
      floorArmed s = true ∨ h.standstill = true ∨ h.cancelled = true)
    (hLatched : (Supervisor.pass cfg pass s).1.latch.latched = true)
    (hFault : (Supervisor.pass cfg pass s).1.fault.vehicleFault = false)
    (hOpened : (h.notePass cfg s pass).opened = true) :
    floorArmed (Supervisor.pass cfg pass s).1 = true ∨
      (h.notePass cfg s pass).standstill = true ∨ (h.notePass cfg s pass).cancelled = true := by
  cases hStarts : restarts s (Supervisor.pass cfg pass s).1 with
  | true =>
      simp only [Watch.notePass, hStarts, if_true] at hOpened ⊢
      exact .inl hOpened
  | false =>
      have hBefore : s.latch.latched = true := by
        simp only [restarts, hLatched, Bool.and_true, Bool.or_eq_false_iff,
          Bool.not_eq_false'] at hStarts
        exact hStarts.1
      simp only [Watch.notePass, hStarts, Bool.false_eq_true, if_false] at hOpened ⊢
      rcases hWatched hBefore hOpened with hArmed | hStandstill | hCancelled
      · rcases pass_armed_of_armed cfg pass hArmed with hKept | hMet | hFound
        · exact .inl hKept
        · exact .inr (.inl (by rw [hMet, Bool.or_true]))
        · exact absurd hFound (by rw [hFault]; decide)
      · exact .inr (.inl (by rw [hStandstill, Bool.true_or]))
      · exact .inr (.inr hCancelled)

/-- A step keeps the floor watched, or notes why it is not. -/
theorem WatchInv.step (h : WatchInv w) (hComposed : Composed e) : WatchInv (w.step cfg p e) := by
  have hSpec := next_spec cfg p w.state e
  obtain ⟨hReported, hJudging, hClears, hWatched⟩ := h
  show WatchInv ⟨next cfg p w.state e, w.history.note cfg w.state e (next cfg p w.state e)⟩
  generalize next cfg p w.state e = i' at hSpec ⊢
  cases hSpec with
  | stalled _ hOwn hAct hTick =>
      have hSame : w.history.note cfg w.state e w.state = w.history := by
        cases e with
        | act => simp [Watch.note, hAct rfl]
        | supervisor x => exact absurd rfl (hOwn x)
        | _ => rfl
      rw [hSame]
      exact ⟨hReported, hJudging, hClears, hWatched⟩
  | took input hIdle =>
      refine ⟨?_, fun _ hJudges => Callback.noConfusion hJudges, ?_, hWatched⟩
      · show Handler.Reported (Handler.take cfg p w.state.handler input).1.mrmState
        rw [Handler.take_mrmState]
        exact hReported
      · exact fun hDone => absurd (Handler.take_quiet _ hDone) (by simp [Effect.Quiet])
  | began env hIdle =>
      rcases beginTick_callback p w.state env with hSilent | ⟨hJudges, hRead⟩
      · rw [hIdle] at hSilent
        refine ⟨?_, ?_, ?_, ?_⟩
        · rw [beginTick_mrmState]
          exact hReported
        · intro env' hJudges
          rw [hSilent] at hJudges
          cases hJudges
        · intro hDone
          rw [pending, hSilent] at hDone
          exact absurd hDone List.not_mem_nil
        · rw [beginTick_supervisor]
          exact hWatched
      · refine ⟨?_, ?_, ?_, ?_⟩
        · rw [beginTick_mrmState]
          exact hReported
        · intro env' hJudges'
          rw [hJudges] at hJudges'
          cases hJudges'
          exact hRead
        · intro hDone
          rw [pending, hJudges] at hDone
          exact absurd hDone List.not_mem_nil
        · rw [beginTick_supervisor]
          exact hWatched
  | decided env hEnv =>
      refine ⟨Handler.runTick_reported hReported, fun _ hJudges => Callback.noConfusion hJudges,
        ?_, hWatched⟩
      intro hDone hLatched
      rw [decideTick_handler, Handler.runTick_isSupervisorLatched] at hLatched
      rw [decideTick_handler, Handler.runTick_isStopped]
      exact Handler.runTick_done hReported hLatched hDone
  | acted x rest hActing =>
      have hNote : w.history.note cfg w.state .act
          { w.state with supervisor := serve cfg w.state.supervisor x, callback := .acting rest } =
          w.history.noteEffect w.state.handler x := by
        simp [Watch.note, pending, hActing]
      rw [hNote]
      have hFrame := serve_frame cfg w.state.supervisor x
      have hPending : w.state.pending = x :: rest := by rw [pending, hActing]
      refine ⟨hReported, fun _ hJudges => Callback.noConfusion hJudges, ?_, ?_⟩
      · intro hDone
        exact hClears (by rw [hPending]; exact List.mem_cons_of_mem _ hDone)
      · intro hLatched hFault hOpened
        rw [hFrame.latch] at hLatched
        rw [hFrame.fault] at hFault
        refine watched_act (i := w.state) ?_ (hWatched hLatched hFault) hOpened
        rintro rfl
        exact hClears (by rw [hPending]; exact List.mem_cons_self)
  | called x hCall =>
      have hNote : w.history.note cfg w.state (.supervisor x)
          { w.state with supervisor := Supervisor.next cfg w.state.supervisor x } = w.history := by
        cases x with
        | pass pass => exact absurd rfl (hCall pass)
        | _ => rfl
      rw [hNote]
      have hFrame := Supervisor.next_call cfg w.state.supervisor hCall
      refine ⟨hReported, hJudging, hClears, ?_⟩
      intro hLatched hFault hOpened
      rw [hFrame.latch] at hLatched
      rw [hFrame.fault] at hFault
      refine (hWatched hLatched hFault hOpened).imp_left (Supervisor.next_call_armed hCall ?_)
      rintro rfl
      exact hComposed
  | passed pass =>
      refine ⟨hReported, hJudging, hClears, ?_⟩
      intro hLatched hFault hOpened
      refine watched_pass pass (fun hBefore => hWatched hBefore ?_) hLatched hFault hOpened
      cases hWas : w.state.supervisor.fault.vehicleFault with
      | false => rfl
      | true =>
          rw [Supervisor.pass_fault_eq cfg pass w.state.supervisor hWas, hWas] at hFault
          exact absurd hFault (by decide)

end Run

/-- How the floor stands under the braking command in one state of a run. -/
structure FloorWatched (cfg : Config) (p : Param) (w : Watching) : Prop where
  /-- Opened since the command (re)started, route 3 is armed, or was answered
  by a standstill, or went with the CANCEL of a tick that read no latch. -/
  watched : w.state.supervisor.latch.latched = true →
    w.state.supervisor.fault.vehicleFault = false → w.history.opened = true →
      floorArmed w.state.supervisor = true ∨ w.history.standstill = true ∨
        w.history.cancelled = true
  /-- The floor's own latch, of a missed route 3 or 4, opens it. -/
  missed : ∀ pass, pass.woken = true → w.state.supervisor.latch.latched = false →
    .emergencyStandstill ∈ (pass.swept cfg w.state.supervisor).2 ∨
      .emergencyResponse ∈ (pass.swept cfg w.state.supervisor).2 →
    (w.step cfg p (.supervisor (.pass pass))).history.opened = true ∨
      (w.step cfg p (.supervisor (.pass pass))).state.supervisor.fault.vehicleFault = true
  /-- Any other latch keeps it open that finds route 3 armed. -/
  found : ∀ pass, w.state.supervisor.latch.latched = false →
    (w.step cfg p (.supervisor (.pass pass))).state.supervisor.latch.latched = true →
    floorArmed w.state.supervisor = true →
    (w.step cfg p (.supervisor (.pass pass))).history.opened = true ∨
      floorMetBy cfg w.state.supervisor pass = true ∨
      (w.step cfg p (.supervisor (.pass pass))).state.supervisor.fault.vehicleFault = true
  /-- The resume of the operator's slot opens it. -/
  resumed : ∀ pass, (w.state.supervisor.slots .operator).resumed = false →
    ((w.step cfg p (.supervisor (.pass pass))).state.supervisor.slots .operator).resumed = true →
    (w.step cfg p (.supervisor (.pass pass))).history.opened = true
  /-- Where the latch left it shut, the tick that reads the latch opens it,
  unless the vehicle is not the handler's or has stopped in the comfortable
  stop. -/
  called : ∀ env, w.state.callback = .judging env → env.latched = true →
    w.state.supervisor.fault.vehicleFault = false →
    w.state.handler.isControlModeAutonomous = true → env.Serializes →
    w.state.handler.mrmState.behavior ≠ .emergencyStop →
    ¬ Handler.StoppedInComfort w.state.handler (readFault w.state.supervisor env) →
    ∃ now due, .arm now 3 due ∈ (w.step cfg p .decide).state.pending
  /-- A vehicle that moves at route 3's due a settle into the command is the
  fault; before, route 3 stays armed. -/
  judged : ∀ pass, pass.woken = true → w.state.supervisor.latch.latched = true →
    w.state.supervisor.dueBy .emergencyStandstill pass.now = true →
    w.state.supervisor.speed.atMs ≠ 0 → w.state.supervisor.standstillNow pass.now = false →
    (w.step cfg p (.supervisor (.pass pass))).state.supervisor.fault.vehicleFault = true ∨
      w.state.supervisor.brakedMs pass.now < BitVec.ofNat 32 cfg.floorSpanMs ∧
        floorArmed (w.step cfg p (.supervisor (.pass pass))).state.supervisor = true

section Watched
variable {cfg : Config} {p : Param} {w : Watching}

/-- A pass that begins the command leaves the floor open where route 3 is
armed after it. -/
theorem notePass_opened {s : Supervisor} (h : Watch) {pass : Supervisor.Pass}
    (hStarts : restarts s (Supervisor.pass cfg pass s).1 = true)
    (hArmed : floorArmed (Supervisor.pass cfg pass s).1 = true) :
    (h.notePass cfg s pass).opened = true := by
  simp only [Watch.notePass, hStarts, if_true]
  exact hArmed

theorem restarts_of_latch {s t : Supervisor} (hBefore : s.latch.latched = false)
    (hAfter : t.latch.latched = true) : restarts s t = true := by
  simp [restarts, hBefore, hAfter]

/-- A pass that fires a route latches. -/
theorem pass_latched_of_fired {s : Supervisor} {pass : Supervisor.Pass} {r : Supervisor.Route}
    (hWoken : pass.woken = true) (hFired : r ∈ (pass.swept cfg s).2) :
    (Supervisor.pass cfg pass s).1.latch.latched = true := by
  rw [Supervisor.pass_latch, Supervisor.taken, if_pos hWoken]
  apply Supervisor.actOn_latched_of_fired
  intro hNone
  rw [Supervisor.Pass.swept, hNone] at hFired
  exact absurd hFired List.not_mem_nil

/-- The floor's own latch leaves route 3 armed, or comes with the fault. -/
theorem pass_armed_of_missed {s : Supervisor} {pass : Supervisor.Pass}
    (hWoken : pass.woken = true)
    (hMissed : .emergencyStandstill ∈ (pass.swept cfg s).2 ∨
      .emergencyResponse ∈ (pass.swept cfg s).2) :
    floorArmed (Supervisor.pass cfg pass s).1 = true ∨
      (Supervisor.pass cfg pass s).1.fault.vehicleFault = true := by
  rcases hMissed with hFloor | hResponse
  · have hArmed := Supervisor.sweep_fired_armed (s := Supervisor.countWake s) hFloor
    have hMoving := (Supervisor.sweep_fired (s := Supervisor.countWake s) hFloor).2.2
    rcases Supervisor.pass_kept cfg pass s hWoken hArmed with ⟨hKept, -⟩ | hMet | hFault
    · exact .inl hKept
    · exact absurd hMet.2 (by rw [show s.standstillNow pass.now = false from hMoving]; decide)
    · exact .inr hFault
  · rcases Supervisor.sweep_responseLatch (s := Supervisor.countWake s) hResponse with
      ⟨hKept, -⟩ | hFault
    · have hTaken := (Supervisor.taken_of_woken cfg pass s hWoken).routes
      have hRoutes := Supervisor.pass_of_armed cfg pass s (by rw [hTaken]; exact hKept)
      refine .inl ?_
      rw [floorArmed, hRoutes, hTaken]
      exact hKept
    · refine .inr ?_
      rw [Supervisor.pass_fault_of_woken cfg pass s hWoken]
      exact hFault

/-- A pass that resumes the operator's slot leaves route 3 armed. -/
theorem pass_armed_of_resumed {s : Supervisor} {pass : Supervisor.Pass}
    (hBefore : (s.slots .operator).resumed = false)
    (hAfter : ((Supervisor.pass cfg pass s).1.slots .operator).resumed = true) :
    floorArmed (Supervisor.pass cfg pass s).1 = true := by
  have hTaken : ((Supervisor.taken cfg pass s).slots .operator).resumed = false := by
    rw [Supervisor.taken_slots]
    exact hBefore
  unfold Supervisor.pass at hAfter ⊢
  split_ifs at hAfter ⊢ with hLatched
  · have hResumed : ((Supervisor.directWatch cfg pass.serviceNow
        (Supervisor.taken cfg pass s)).1.slots .operator).resumed = true := by
      rcases Supervisor.directService_slots cfg pass.serviceNow pass.publishNow
        (Supervisor.taken cfg pass s) .operator with hSame | hPublished
      · rwa [hSame] at hAfter
      · rw [hPublished, Supervisor.DirectSlot.published_resumed] at hAfter
        exact hAfter
    rw [floorArmed, Supervisor.directService_frame.routes, Supervisor.directWatch_fst]
    rw [Supervisor.directWatch_slots] at hResumed
    cases hResumable : (Supervisor.taken cfg pass s).resumable cfg pass.serviceNow .operator with
    | true => exact Supervisor.resumeSlot_operator_armed
    | false => simp [hResumable, hTaken] at hResumed
  · exact absurd hAfter (by rw [hTaken]; decide)

/-- The braking command is watched from every start that finds route 3, or
opens it: by the supervisor at its own latch and at the resume, by the handler
at the next tick that reads the latch. -/
theorem floor_watches (cfg : Config) (p : Param) {sec : ℚ}
    (run : Reaches (Watching.step cfg p) (fun _ e => Composed e) (Watching.boot sec) w) :
    FloorWatched cfg p w where
  watched := by
    have hInv : WatchInv w := run.invariant (.boot sec) fun _ _ h hAllowed => h.step hAllowed
    exact hInv.watched
  missed pass hWoken hBefore hMissed := by
    have hLatched : (Supervisor.pass cfg pass w.state.supervisor).1.latch.latched = true :=
      hMissed.elim (pass_latched_of_fired hWoken) (pass_latched_of_fired hWoken)
    exact (pass_armed_of_missed hWoken hMissed).imp_left
      (notePass_opened w.history (restarts_of_latch hBefore hLatched))
  found pass hBefore hLatched hArmed :=
    (pass_armed_of_armed cfg pass hArmed).imp_left
      (notePass_opened w.history (restarts_of_latch hBefore hLatched))
  resumed pass hBefore hAfter := by
    have hStarts : restarts w.state.supervisor
        (Supervisor.pass cfg pass w.state.supervisor).1 = true := by
      rw [restarts, hBefore, show ((Supervisor.pass cfg pass w.state.supervisor).1.slots
        .operator).resumed = true from hAfter]
      exact Bool.or_true _
    exact notePass_opened w.history hStarts (pass_armed_of_resumed hBefore hAfter)
  called env hJudging hRead hFault hAutonomous hSerializes hEngaged hMoving := by
    have hInv : WatchInv w := run.invariant (.boot sec) fun _ _ h hAllowed => h.step hAllowed
    have hDecided : (w.step cfg p .decide).state = decideTick cfg p env w.state := by
      show next cfg p w.state .decide = _
      simp only [next, hJudging]
    rw [hDecided, pending, decideTick_callback]
    exact Handler.runTick_opens hInv.reported ((hInv.judging env hJudging).trans hRead) hRead hFault
      hAutonomous hSerializes hEngaged hMoving
  judged pass hWoken hLatched hDue hSeen hMoving := by
    by_cases hOld : BitVec.ofNat 32 cfg.floorSpanMs ≤ w.state.supervisor.brakedMs pass.now
    · refine .inl ?_
      show (Supervisor.pass cfg pass w.state.supervisor).1.fault.vehicleFault = true
      rw [Supervisor.pass_fault_of_woken cfg pass _ hWoken]
      exact Supervisor.sweep_of_faultFound (s := Supervisor.countWake w.state.supervisor)
        ⟨hLatched, .inl ⟨hDue, hSeen, hMoving, hOld⟩⟩
    · have hArmed : floorArmed w.state.supervisor = true := by
        simp only [Supervisor.dueBy, Bool.and_eq_true] at hDue
        exact hDue.1
      rcases Supervisor.pass_kept cfg pass _ hWoken hArmed with ⟨hKept, -⟩ | hMet | hFault
      · exact .inr ⟨BitVec.not_le.mp hOld, hKept⟩
      · exact absurd hMet.2 (by rw [hMoving]; decide)
      · exact .inl hFault

/-- The reaction hook latches the output of a moving vehicle, and the handler's
next tick calls the emergency stop. -/
def opened : List Event :=
  uninterrupted (Handler.establish { stop := true } ++
      [.take (.controlMode 1), .take (.odometry 8 150), .tick (.plain 200)]) ++
    [.supervisor (.setDirect .operator), .supervisor (.hook 0), .supervisor (.pass (.at 250))] ++
    uninterrupted [.take (.odometry 8 280), .tick (.plain 300)]

theorem floor_watches_opened :
    let w := follow (Watching.step Config.image .declared) (Watching.boot 0) opened
    w.state.supervisor.latch.latched = true ∧ w.history.opened = true ∧
      FloorWatched Config.image .declared w :=
  ⟨by decide +kernel, by decide +kernel,
    floor_watches Config.image .declared (reaches_follow opened (by decide +kernel))⟩

/-- The speed samples keep arriving fresh: every pass reads one. -/
def Sampled (w : Watching) : Event → Prop
  | .supervisor (.pass pass) => w.state.supervisor.speedFresh pass.now = true
  | e => Composed e

instance (w : Watching) (e : Event) : Decidable (Sampled w e) :=
  match e with
  | .supervisor (.pass _) => by unfold Sampled; infer_instance
  | .supervisor (.arm ..) | .supervisor (.done ..) | .supervisor (.noteSpeed ..)
  | .supervisor (.handover ..) | .supervisor (.setDirect ..) | .supervisor (.spin ..)
  | .supervisor (.spinAfter ..) | .supervisor .timerExpiry | .supervisor .swtTimeout
  | .supervisor (.hook ..) | .take .. | .tick .. | .decide | .act => by
      unfold Sampled
      infer_instance

/-- The reaction hook latches the output of a moving vehicle, and the handler's
timer never ticks again. -/
def hooked : List Event :=
  uninterrupted (Handler.establish {} ++ [.take (.controlMode 1), .take (.odometry 8 900)]) ++
    [.supervisor (.setDirect .operator), .supervisor (.hook 0), .supervisor (.pass (.at 1000))] ++
    uninterrupted [.take (.odometry 8 6900)] ++ [.supervisor (.pass (.at 7000))]

/-- A latch of the hook that no tick follows brakes unwatched. -/
theorem not_floor_watches : ¬ ∀ w,
    Reaches (Watching.step Config.image .declared) Sampled (Watching.boot 0) w →
      (w.state.supervisor.slots .operator).registered = true →
      w.state.supervisor.latch.latched = true → w.state.supervisor.fault.vehicleFault = false →
      floorArmed w.state.supervisor = true ∨ w.history.standstill = true := by
  intro hClaim
  have hWatched := hClaim
    (follow (Watching.step Config.image .declared) (Watching.boot 0) hooked)
    (reaches_follow hooked (by decide +kernel)) (by decide +kernel) (by decide +kernel)
    (by decide +kernel)
  exact absurd hWatched (by decide +kernel)

end Watched

end Island
end SafetyIsland
