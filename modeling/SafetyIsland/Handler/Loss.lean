import SafetyIsland.Handler.Run

/-! The tick that sees an input lost. It ends in the emergency stop and has
called the emergency operator, whatever was under way, unless it finds the
vehicle stopped in the comfortable stop: then it only declares that MRM
succeeded. -/
namespace SafetyIsland.Handler

open MrmState Transition

/-- The last emergency request made, whether or not it went out. -/
def Effect.emergencyRequest (last : Option RequestType) : Effect → Option RequestType
  | .request .emergencyStop type _ => some type
  | _ => last

/-- What an observer keeps of the handler's run: the last emergency request,
and what the ticks have read of the supervisor. -/
structure Seen where
  lastEmergency : Option RequestType := none
  latched : Bool := false
  vehicleFault : Bool := false

def Seen.note (cfg : Config) (p : Param) (seen : Seen) (h : Handler) (e : Event) (_ : Handler) :
    Seen where
  lastEmergency := (next cfg p h e).2.foldl Effect.emergencyRequest seen.lastEmergency
  latched := match e with
    | .tick env => seen.latched || env.latched
    | .take _ => seen.latched
  vehicleFault := match e with
    | .tick env => seen.vehicleFault || env.vehicleFault
    | .take _ => seen.vehicleFault

abbrev World := Observed Handler Seen

def World.step (cfg : Config) (p : Param) : World → Event → World :=
  observe (fun h e => (next cfg p h e).1) (Seen.note cfg p)

def World.boot (sec : ℚ) : World := { state := construct sec, history := {} }

/-- The supervisor's latch and its fault are final. -/
def Final (w : World) : Event → Prop
  | .tick env => (w.history.latched = true → env.latched = true) ∧
      (w.history.vehicleFault = true → env.vehicleFault = true)
  | .take _ => True

instance (w : World) (e : Event) : Decidable (Final w e) :=
  match e with
  | .tick .. => by unfold Final; infer_instance
  | .take .. => isTrue trivial

section Called
variable {cfg : Config} {p : Param} {env : Env} {h : Handler} {last : Option RequestType}

/-- Only a request to the emergency operator changes what it was last asked. -/
theorem emergencyRequest_request (o : Outcome) (behavior : Behavior) (type : RequestType) :
    (requestMrmBehavior cfg o behavior type).1.foldl Effect.emergencyRequest last =
      if behavior = .emergencyStop then some type else last := by
  unfold requestMrmBehavior
  cases o.serialized <;> cases o.sent <;> cases behavior <;> cases type <;>
    simp [Effect.emergencyRequest]

/-- The state's update asks the emergency operator nothing. -/
theorem emergencyRequest_updated :
    (updateMrmState p env h).2.foldl Effect.emergencyRequest last = last := by
  have hSpec := updateMrmState_spec p env h
  generalize updateMrmState p env h = r at hSpec ⊢
  cases hSpec with
  | stopped => cases h.mrmState.behavior <;> rfl
  | _ => rfl

theorem emergencyRequest_quiet (last : Option RequestType) (e : Effect) (hQuiet : e.Quiet) :
    Effect.emergencyRequest last e = last := by
  cases e <;> first | rfl | exact hQuiet.elim

/-- The emergency operator was last called, where the emergency stop is what
is reported. -/
def Called (behavior : Behavior) (last : Option RequestType) : Prop :=
  behavior = .emergencyStop → last = some .call

/-- What `operateMrm` calls is what it then reports. -/
theorem operateMrm_called (hCalled : Called h.mrmState.behavior last) :
    Called (operateMrm cfg p env h).1.mrmState.behavior
      ((operateMrm cfg p env h).2.foldl Effect.emergencyRequest last) := by
  have hSpec := operateMrm_spec cfg p env h
  generalize operateMrm cfg p env h = r at hSpec ⊢
  cases hSpec with
  | kept => exact hCalled
  | released => simp [Called, setBehavior]
  | refused => simp [Called, emergencyRequest_request]
  | exchanged hState hOther =>
      intro hBehavior
      have hCurrent : h.getCurrentMrmBehavior p = .emergencyStop := by
        simpa [setBehavior] using hBehavior
      simp [callCurrent, emergencyRequest_request, hCurrent]
  | uncalled => simp [Called, emergencyRequest_request]

/-- A tick keeps the emergency operator called, unless it is the fault that
makes it report the emergency stop. -/
theorem respond_called (hCalled : Called h.mrmState.behavior last)
    (hFault : ¬ (h.isSupervisorLatched = true ∧ env.vehicleFault = true)) :
    Called (respond cfg p env h).1.mrmState.behavior
      ((respond cfg p env h).2.foldl Effect.emergencyRequest last) := by
  have hUpdated : (updateMrmState p env h).1.mrmState.behavior = h.mrmState.behavior := by
    have hSpec := updateMrmState_spec p env h
    generalize updateMrmState p env h = r at hSpec ⊢
    cases hSpec with
    | fault hLatched hFault' => exact absurd ⟨hLatched, hFault'⟩ hFault
    | _ => rfl
  unfold respond
  dsimp only
  rw [List.foldl_append, emergencyRequest_updated]
  exact operateMrm_called (by rwa [hUpdated])

/-- Leaving another behavior for the emergency stop calls its operator. -/
theorem operateMrm_lost (hState : h.mrmState.state = .mrmOperating) (hLost : h.isInputLost = true) :
    Judge.gateEmergency (operateMrm cfg p env h).1.mrmState = true := by
  have hCurrent := getCurrentMrmBehavior_of_lost p h hLost
  have hFailed (o : Outcome) :
      Judge.gateEmergency (handleFailedRequest cfg o h).1.mrmState = true := by
    rw [handleFailedRequest_fst]
    simp only [setMrmState_mrmState]
    split_ifs <;> decide
  have hSpec := operateMrm_spec cfg p env h
  generalize operateMrm cfg p env h = r at hSpec ⊢
  cases hSpec with
  | kept hIdle hSame =>
      exact Judge.gateEmergency_eq_true.mpr
        ⟨by simp [hState], by rw [← hSame hState, hCurrent]⟩
  | released hNormal => simp [hState] at hNormal
  | refused => exact hFailed _
  | exchanged =>
      exact Judge.gateEmergency_eq_true.mpr ⟨by simp [setBehavior, hState], by
        simp [setBehavior, hCurrent]⟩
  | uncalled => exact hFailed _

end Called

/-- The vehicle is found stopped in the comfortable stop, and no fault is
reported over it. -/
def StoppedInComfort (h : Handler) (env : Env) : Prop :=
  h.mrmState = { state := .mrmOperating, behavior := .comfortableStop } ∧ h.isStopped = true ∧
    ¬ (env.latched = true ∧ env.vehicleFault = true)

instance (h : Handler) (env : Env) : Decidable (StoppedInComfort h env) := by
  unfold StoppedInComfort
  infer_instance

section Gate
variable {cfg : Config} {p : Param} {env : Env} {h : Handler}

variable (cfg p) in
/-- On a lost input the reported state opens the gate to the emergency
command, but for a comfortable stop found at standstill. -/
theorem respond_gate (hReported : Reported h.mrmState) (hLost : h.isInputLost = true)
    (hAutonomous : h.isControlModeAutonomous = true)
    (hLatched : h.isSupervisorLatched = env.latched) :
    Judge.gateEmergency (respond cfg p env h).1.mrmState = true ↔ ¬ StoppedInComfort h env := by
  by_cases hFault : env.latched = true ∧ env.vehicleFault = true
  · rw [(respond_of_fault (hLatched.trans hFault.1) hFault.2).1]
    simp [Judge.gateEmergency, StoppedInComfort, hFault]
  have hEmergency : h.isEmergency = true := by simp [isEmergency, hLost]
  have hCurrent := getCurrentMrmBehavior_of_lost p h hLost
  have hLagging := hReported.lagging_self
  have hSpec := updateMrmState_spec p env h
  unfold respond
  generalize updateMrmState p env h = r at hSpec ⊢
  cases hSpec with
  | fault hLatch hFault' => exact absurd ⟨hLatched ▸ hLatch, hFault'⟩ hFault
  | calm takeover hCalm => simp [hEmergency] at hCalm
  | waiting takeover hState hWhy => simp [hAutonomous, hLost] at hWhy
  | started takeover hState =>
      refine iff_of_true (operateMrm_lost rfl hLost) ?_
      simp [StoppedInComfort, MrmState.ext_iff, hState]
  | moving hState hMoving =>
      refine iff_of_true (operateMrm_lost hState hLost) ?_
      simp [StoppedInComfort, hMoving]
  | stopped hState hStopped =>
      dsimp only
      rw [operateMrm_of_succeeded rfl]
      rcases hReported with hM | ⟨-, hComfort | hEmer⟩ | hM
      · simp [hM] at hState
      · refine iff_of_false ?_ ?_
        · simp [Judge.gateEmergency, transitionTo, hComfort]
        · simpa [StoppedInComfort, MrmState.ext_iff, hState, hStopped, hComfort] using hFault
      · refine iff_of_true ?_ ?_
        · simp [Judge.gateEmergency, transitionTo, hEmer]
        · simp [StoppedInComfort, MrmState.ext_iff, hEmer]
      · simp [hM] at hState
  | pulledOver hBehavior => exact absurd hBehavior hLagging.1
  | rested hState hSame =>
      dsimp only
      rw [operateMrm_of_succeeded hState]
      refine iff_of_true ?_ ?_
      · exact Judge.gateEmergency_eq_true.mpr ⟨by simp [hState], by rw [hSame, hCurrent]⟩
      · simp [StoppedInComfort, MrmState.ext_iff, hState]
  | resumed hState =>
      refine iff_of_true (operateMrm_lost rfl hLost) ?_
      simp [StoppedInComfort, MrmState.ext_iff, hState]
  | failed hState =>
      dsimp only
      rw [operateMrm_of_failed hState]
      refine iff_of_true ?_ ?_
      · exact Judge.gateEmergency_eq_true.mpr ⟨by simp [hState], hLagging.2.2 hState⟩
      · simp [StoppedInComfort, MrmState.ext_iff, hState]

end Gate

section Run
variable {cfg : Config} {p : Param} {env : Env} {w : World} {e : Event}

variable (p env) in
theorem updatePhase_reads (h : Handler) :
    (judged p env (updatePhase p env h).1).isStopped = h.isStopped ∧
      (judged p env (updatePhase p env h).1).isControlModeAutonomous =
        h.isControlModeAutonomous := by
  unfold updatePhase armContractMonitors
  dsimp only
  split <;> split_ifs <;> exact ⟨rfl, rfl⟩

/-- What holds in every state of a run: the table, and the emergency operator
called wherever the emergency stop is reported before any fault. -/
structure LossInv (w : World) : Prop where
  reported : Reported w.state.mrmState
  called : w.history.vehicleFault = true ∨
    Called w.state.mrmState.behavior w.history.lastEmergency

/-- The last emergency request of a RUN tick is made in its response. -/
theorem emergencyRequest_tick {last : Option RequestType} {h : Handler}
    (hRun : (updatePhase p env h).2 = true) :
    (onTimer cfg p env h).2.foldl Effect.emergencyRequest last =
      (respond cfg p env (judged p env (updatePhase p env h).1)).2.foldl
        Effect.emergencyRequest last := by
  simp [onTimer, hRun, runTick, foldl_quiet emergencyRequest_quiet announce_quiet]

/-- A tick that reads no fault keeps the emergency operator called. -/
theorem LossInv.tick_called (h : LossInv w) (hFinal : Final w (.tick env))
    (hFault : env.vehicleFault = false) :
    Called (w.step cfg p (.tick env)).state.mrmState.behavior
      (w.step cfg p (.tick env)).history.lastEmergency := by
  have hBefore : Called w.state.mrmState.behavior w.history.lastEmergency := by
    refine h.called.resolve_left fun hSeen => ?_
    simp [hFinal.2 hSeen] at hFault
  change Called (onTimer cfg p env w.state).1.mrmState.behavior
    ((onTimer cfg p env w.state).2.foldl Effect.emergencyRequest w.history.lastEmergency)
  cases hRun : (updatePhase p env w.state).2 with
  | false =>
      rw [onTimer_of_init hRun]
      simpa using hBefore
  | true =>
      rw [emergencyRequest_tick hRun, onTimer_of_run hRun]
      exact respond_called (by simpa using hBefore) (by simp [hFault])

/-- A step keeps the emergency operator called wherever the stop is reported. -/
theorem LossInv.step (h : LossInv w) (hFinal : Final w e) : LossInv (w.step cfg p e) where
  reported := next_reported e h.reported
  called := by
    cases e with
    | take input =>
        change w.history.vehicleFault = true ∨
          Called (take cfg p w.state input).1.mrmState.behavior
            ((take cfg p w.state input).2.foldl Effect.emergencyRequest w.history.lastEmergency)
        rw [foldl_quiet emergencyRequest_quiet take_quiet, take_mrmState]
        exact h.called
    | tick env =>
        cases hFault : env.vehicleFault with
        | true => exact .inl (by simp [World.step, observe, Seen.note, hFault])
        | false => exact .inr (h.tick_called hFinal hFault)

/-- And so does a run. -/
theorem LossInv.of_reaches {boot : ℚ}
    (run : Reaches (World.step cfg p) Final (World.boot boot) w) : LossInv w := by
  induction run with
  | refl => exact ⟨.inl rfl, .inr nofun⟩
  | step prior last ih => exact ih.step last

/-- The reaction is out in this very tick: the gate is open to the emergency
command, the state published is the one the tick ends in, and the emergency
operator was called after any CANCEL, unless the fault is set. -/
structure LossAnswered (cfg : Config) (p : Param) (w : World) (env : Env) : Prop where
  gate : Judge.gateEmergency (w.step cfg p (.tick env)).state.mrmState = true
  published : (env.latched = true → env.resumedAtState = false) →
    .mrmState (w.step cfg p (.tick env)).state.mrmState ∈ (next cfg p w.state (.tick env)).2
  nothingElse : ∀ m, .mrmState m ∈ (next cfg p w.state (.tick env)).2 →
    m = (w.step cfg p (.tick env)).state.mrmState
  called : env.vehicleFault = false →
    (w.step cfg p (.tick env)).history.lastEmergency = some .call

/-- One-tick reaction to a lost input: a RUN tick that sees it under
autonomous control answers it exactly when it does not find the vehicle
stopped in the comfortable stop. -/
theorem loss_answered_iff (cfg : Config) (p : Param) {boot : ℚ}
    (run : Reaches (World.step cfg p) Final (World.boot boot) w) (hFinal : Final w (.tick env))
    (hRun : (updatePhase p env w.state).2 = true)
    (hLost : (judged p env (updatePhase p env w.state).1).isInputLost = true)
    (hAutonomous : w.state.isControlModeAutonomous = true) :
    LossAnswered cfg p w env ↔ ¬ StoppedInComfort w.state env := by
  have hInv := LossInv.of_reaches run
  have hTick : next cfg p w.state (.tick env) =
      runTick cfg p env (judged p env (updatePhase p env w.state).1) := onTimer_of_run hRun
  have hReads := updatePhase_reads p env w.state
  have hGate : Judge.gateEmergency (w.step cfg p (.tick env)).state.mrmState = true ↔
      ¬ StoppedInComfort w.state env := by
    change Judge.gateEmergency (next cfg p w.state (.tick env)).1.mrmState = true ↔ _
    rw [hTick]
    have hRespond := respond_gate cfg p (h := judged p env (updatePhase p env w.state).1)
      (by simpa using hInv.reported) hLost (by rw [hReads.2, hAutonomous]) rfl
    simpa [runTick, StoppedInComfort, hReads.1] using hRespond
  refine ⟨fun hAnswered => hGate.mp hAnswered.gate, fun hMoving => ?_⟩
  refine ⟨hGate.mpr hMoving, fun hOwner => ?_, fun m hEffect => ?_, fun hFault => ?_⟩
  · change Effect.mrmState (next cfg p w.state (.tick env)).1.mrmState ∈ _
    rw [hTick]
    exact runTick_publishes hOwner
  · change m = (next cfg p w.state (.tick env)).1.mrmState
    rw [hTick] at hEffect ⊢
    exact runTick_mrmState hEffect
  · exact hInv.tick_called hFinal hFault
      (Judge.gateEmergency_eq_true.mp (hGate.mpr hMoving)).2

/-- The gate stays shut on the tick that finds the vehicle stopped in the
comfortable stop: the vehicle in STOP mode, its availability lost. -/
def stopInComfort : List Event :=
  establish { comfortableStop := true } ++
    [.take (.controlMode 1), .tick (.plain 200), .take (.odometry 0 0)]

def rollInComfort : List Event :=
  establish { comfortableStop := true } ++
    [.take (.controlMode 1), .tick (.plain 200), .take (.odometry 1 0)]

theorem loss_answered_rollInComfort :
    LossAnswered Config.image .declared
      (follow (World.step Config.image .declared) (World.boot 0) rollInComfort) (.plain 1000) ↔
    ¬ StoppedInComfort
      (follow (World.step Config.image .declared) (World.boot 0) rollInComfort).state (.plain 1000) :=
  loss_answered_iff Config.image .declared (reaches_follow rollInComfort (by decide +kernel))
    (by decide +kernel) (by decide +kernel) (by decide +kernel) (by decide +kernel)

/-- At a standstill in the comfortable stop the tick reports success, and calls
nobody. -/
theorem not_loss_answered : ¬ ∀ w,
    Reaches (World.step Config.image .declared) Final (World.boot 0) w →
      ∀ env, Final w (.tick env) → (updatePhase .declared env w.state).2 = true →
        (judged .declared env (updatePhase .declared env w.state).1).isInputLost = true →
        w.state.isControlModeAutonomous = true → LossAnswered Config.image .declared w env := by
  intro hClaim
  have hAnswered := hClaim
    (follow (World.step Config.image .declared) (World.boot 0) stopInComfort)
    (reaches_follow stopInComfort (by decide +kernel)) (.plain 1000) (by decide +kernel)
    (by decide +kernel) (by decide +kernel) (by decide +kernel)
  exact absurd hAnswered.gate (by decide +kernel)

end Run
end SafetyIsland.Handler
