import SafetyIsland.Island.State

/-! What is engaged is what is reported: an operator whose last request was a
CALL that went out is the one the handler names, as long as no CANCEL of the
comfortable stop fails. -/
namespace SafetyIsland

open MrmState Transition

namespace Handler

/-- The last request that went out to each operator, after an effect. -/
def Effect.sentAfter (last : Behavior → Option RequestType) : Effect → Behavior → Option RequestType
  | .request behavior type true => Function.update last behavior (some type)
  | _ => last

/-- Whether route 2 is armed after an effect, from whether it was before. -/
def Effect.comfortAfter (armed : Bool) : Effect → Bool
  | .arm _ route _ => armed || route == 2
  | .done route => armed && route != 2
  | _ => armed

/-- What holds of the requests that went out, and of route 2, with the
behavior reported: an operator engaged is the one it names, and route 2 is
armed only for an engaged comfortable stop. -/
structure Consistent (behavior : Behavior) (last : Behavior → Option RequestType)
    (armed : Bool) : Prop where
  comfortable : last .comfortableStop = some .call → behavior = .comfortableStop
  emergency : last .emergencyStop = some .call → behavior = .emergencyStop
  timed : armed = true → last .comfortableStop = some .call

/-- The tick's CANCEL of the comfortable stop goes out, where it makes one. -/
def CancelsComfort (h : Handler) (env : Env) : Prop :=
  h.mrmState.behavior = .comfortableStop → env.first.serialized = true ∧ env.first.sent = true

instance (h : Handler) (env : Env) : Decidable (CancelsComfort h env) := by
  unfold CancelsComfort
  infer_instance

section Request
variable {cfg : Config} {o : Outcome} {behavior : Behavior} {type : RequestType}
  {last : Behavior → Option RequestType} {armed : Bool}

/-- A request is counted for its operator when it went out. -/
theorem sentAfter_request :
    (requestMrmBehavior cfg o behavior type).1.foldl Effect.sentAfter last =
      if o.serialized = true ∧ o.sent = true ∧
          (behavior = .comfortableStop ∨ behavior = .emergencyStop)
        then Function.update last behavior (some type) else last := by
  unfold requestMrmBehavior
  cases o.serialized <;> cases o.sent <;> cases behavior <;> cases type <;>
    simp [Effect.sentAfter]

/-- A request to the comfortable stop that went out arms or clears route 2. -/
theorem comfortAfter_request :
    (requestMrmBehavior cfg o behavior type).1.foldl Effect.comfortAfter armed =
      if o.serialized = true ∧ o.sent = true ∧ behavior = .comfortableStop
        then type == .call else armed := by
  unfold requestMrmBehavior
  cases o.serialized <;> cases o.sent <;> cases behavior <;> cases type <;>
    simp [Effect.comfortAfter]

/-- A request that failed changes nothing of what is engaged. -/
theorem Consistent.failed {engaged : Behavior} (h : Consistent engaged last armed)
    (hFailed : (requestMrmBehavior cfg o behavior type).2 = false) :
    Consistent engaged
      ((requestMrmBehavior cfg o behavior type).1.foldl Effect.sentAfter last)
      ((requestMrmBehavior cfg o behavior type).1.foldl Effect.comfortAfter armed) := by
  have hNone : ¬ (o.serialized = true ∧ o.sent = true ∧
      (behavior = .comfortableStop ∨ behavior = .emergencyStop)) := by
    rintro ⟨hSerialized, hSent, hOperator⟩
    rw [requestMrmBehavior_of_sent cfg o type ?_ hSerialized hSent] at hFailed
    · exact absurd hFailed (by decide)
    · rcases hOperator with rfl | rfl <;> decide
  rw [sentAfter_request, comfortAfter_request, if_neg hNone, if_neg (by tauto)]
  exact h

/-- The CANCEL of the running behavior, when it succeeds, leaves no operator
engaged. -/
theorem Consistent.cancelled (h : Consistent behavior last armed)
    (hCancel : (requestMrmBehavior cfg o behavior .cancel).2 = true) :
    Consistent .none
      ((requestMrmBehavior cfg o behavior .cancel).1.foldl Effect.sentAfter last)
      ((requestMrmBehavior cfg o behavior .cancel).1.foldl Effect.comfortAfter armed) := by
  obtain ⟨hComfort, hEmergency, hTimed⟩ := h
  rw [sentAfter_request, comfortAfter_request]
  cases behavior with
  | none => exact ⟨by simpa using hComfort, by simpa using hEmergency, by simpa using hTimed⟩
  | pullOver => simp [requestMrmBehavior_pullOver] at hCancel
  | emergencyStop =>
      obtain ⟨hSerialized, hSent⟩ : o.serialized = true ∧ o.sent = true := by
        cases hSerialized : o.serialized <;> simp_all [requestMrmBehavior]
      constructor <;> simp_all
  | comfortableStop =>
      obtain ⟨hSerialized, hSent⟩ : o.serialized = true ∧ o.sent = true := by
        cases hSerialized : o.serialized <;> cases hSent : o.sent <;>
          simp_all [requestMrmBehavior]
      constructor <;> simp_all

/-- A CALL engages its own operator, where none was. -/
theorem Consistent.called (h : Consistent .none last armed) :
    Consistent behavior
      ((requestMrmBehavior cfg o behavior .call).1.foldl Effect.sentAfter last)
      ((requestMrmBehavior cfg o behavior .call).1.foldl Effect.comfortAfter armed) := by
  obtain ⟨hComfort, hEmergency, hTimed⟩ := h
  rw [sentAfter_request, comfortAfter_request]
  cases o.serialized <;> cases o.sent <;> cases behavior <;> constructor <;> simp_all

/-- The emergency stop takes over from anything but the comfortable stop. -/
theorem Consistent.emergencyCalled (h : Consistent behavior last armed)
    (hOther : behavior ≠ .comfortableStop) :
    Consistent .emergencyStop
      ((requestMrmBehavior cfg o .emergencyStop .call).1.foldl Effect.sentAfter last)
      ((requestMrmBehavior cfg o .emergencyStop .call).1.foldl Effect.comfortAfter armed) := by
  obtain ⟨hComfort, hEmergency, hTimed⟩ := h
  rw [sentAfter_request, comfortAfter_request]
  cases o.serialized <;> cases o.sent <;> constructor <;> simp_all

end Request

section Tick
variable {cfg : Config} {p : Param} {env : Env} {h : Handler}
  {last : Behavior → Option RequestType} {armed : Bool}

variable (cfg p) in
/-- The requests of a tick keep what is engaged what is reported, if the
comfortable stop can be cancelled. -/
theorem operateMrm_consistent (hCancels : CancelsComfort h env)
    (hConsistent : Consistent h.mrmState.behavior last armed) :
    Consistent (operateMrm cfg p env h).1.mrmState.behavior
      ((operateMrm cfg p env h).2.foldl Effect.sentAfter last)
      ((operateMrm cfg p env h).2.foldl Effect.comfortAfter armed) := by
  have hFailed (o : Outcome) :
      (handleFailedRequest cfg o h).1.mrmState.behavior = .emergencyStop := by
    simp [handleFailedRequest_fst]
  have hSpec := operateMrm_spec cfg p env h
  generalize operateMrm cfg p env h = r at hSpec ⊢
  cases hSpec with
  | kept => exact hConsistent
  | released hState hRunning hCancel => exact hConsistent.cancelled hCancel
  | refused hLeaving hCancel =>
      have hOther : h.mrmState.behavior ≠ .comfortableStop := by
        intro hComfort
        obtain ⟨hSerialized, hSent⟩ := hCancels hComfort
        have hGoes : (cancelRunning cfg env h).2 = true :=
          requestMrmBehavior_of_sent cfg env.first .cancel (by simp [hComfort]) hSerialized hSent
        simp [hGoes] at hCancel
      rw [hFailed, List.foldl_append, List.foldl_append]
      exact (hConsistent.failed hCancel).emergencyCalled hOther
  | exchanged hState hOther hCancel hCall =>
      rw [List.foldl_append, List.foldl_append]
      exact (hConsistent.cancelled hCancel).called
  | uncalled hState hOther hCancel hCall =>
      simp only [hFailed, List.foldl_append]
      exact ((hConsistent.cancelled hCancel).failed hCall).emergencyCalled (by decide)

/-- The state machine requests nothing, and clears route 2 at most. -/
theorem updateMrmState_consistent (hNoFault : env.vehicleFault = false)
    (hConsistent : Consistent h.mrmState.behavior last armed) :
    Consistent (updateMrmState p env h).1.mrmState.behavior
      ((updateMrmState p env h).2.foldl Effect.sentAfter last)
      ((updateMrmState p env h).2.foldl Effect.comfortAfter armed) := by
  have hSpec := updateMrmState_spec p env h
  generalize updateMrmState p env h = r at hSpec ⊢
  cases hSpec with
  | fault hLatched hFault => simp [hNoFault] at hFault
  | stopped hState hStopped hOperator =>
      obtain ⟨hComfort, hEmergency, hTimed⟩ := hConsistent
      cases hBehavior : h.mrmState.behavior <;>
        constructor <;> simp_all [standstillDone, Effect.sentAfter, Effect.comfortAfter, transitionTo]
  | _ => exact hConsistent

theorem sentAfter_quiet (last : Behavior → Option RequestType) (e : Effect) (hQuiet : e.Quiet) :
    Effect.sentAfter last e = last := by
  cases e <;> first | rfl | exact hQuiet.elim

theorem comfortAfter_quiet (armed : Bool) (e : Effect) (hQuiet : e.Quiet) :
    Effect.comfortAfter armed e = armed := by
  cases e <;> simp_all [Effect.Quiet, Effect.comfortAfter]

/-- A RUN tick that reads no fault ends with what is engaged reported. -/
theorem runTick_consistent (hCancels : CancelsComfort h env) (hNoFault : env.vehicleFault = false)
    (hConsistent : Consistent h.mrmState.behavior last armed) :
    Consistent (runTick cfg p env h).1.mrmState.behavior
      ((runTick cfg p env h).2.foldl Effect.sentAfter last)
      ((runTick cfg p env h).2.foldl Effect.comfortAfter armed) := by
  have hUpdated : (updateMrmState p env h).1.mrmState.behavior = h.mrmState.behavior := by
    have hSpec := updateMrmState_spec p env h
    generalize updateMrmState p env h = r at hSpec ⊢
    cases hSpec with
    | fault hLatched hFault => simp [hNoFault] at hFault
    | _ => rfl
  have hOperated := operateMrm_consistent cfg p
    (by rwa [CancelsComfort, hUpdated] : CancelsComfort (updateMrmState p env h).1 env)
    (updateMrmState_consistent hNoFault hConsistent)
  simp only [runTick, respond, List.foldl_append, foldl_quiet sentAfter_quiet announce_quiet,
    foldl_quiet comfortAfter_quiet announce_quiet]
  exact hOperated

end Tick

/-- The more was armed before, the more is after. -/
theorem comfortAfter_mono {effects : List Effect} {armed later : Bool}
    (hLater : armed = true → later = true)
    (hAfter : effects.foldl Effect.comfortAfter armed = true) :
    effects.foldl Effect.comfortAfter later = true := by
  induction effects generalizing armed later with
  | nil => exact hLater hAfter
  | cons e rest ih =>
      refine ih (fun hArmed => ?_) hAfter
      cases e <;> simp_all [Effect.comfortAfter]
      exact hArmed.imp_left hLater

/-- Disarming route 2 loses no consistency. -/
theorem Consistent.disarmed {behavior : Behavior} {last : Behavior → Option RequestType}
    {armed less : Bool} (h : Consistent behavior last armed) (hLess : less = true → armed = true) :
    Consistent behavior last less :=
  ⟨h.comfortable, h.emergency, fun hArmed => h.timed (hLess hArmed)⟩

end Handler

namespace Island
open Handler (Effect Env Param RequestType CancelsComfort Consistent)

def Cancelling (w : World) : Event → Prop
  | .tick env => CancelsComfort w.state.handler env
  | e => Composed e

instance (w : World) (e : Event) : Decidable (Cancelling w e) :=
  match e with
  | .tick .. | .supervisor .. => by unfold Cancelling; infer_instance
  | .take .. | .decide | .act => isTrue trivial

def comfortArmed (s : Supervisor) : Bool := (s.routes .comfortableStandstill).dueValid

/-- What holds in every state of a run: once the callback under way is done,
what is engaged is what is reported. -/
structure EngagedInv (w : World) : Prop where
  cancels : ∀ env, w.state.callback = .judging env → CancelsComfort w.state.handler env
  consistent : w.state.supervisor.fault.vehicleFault = true ∨
    Consistent w.state.handler.mrmState.behavior
      (w.state.pending.foldl Effect.sentAfter w.history.lastSent)
      (w.state.pending.foldl Effect.comfortAfter (comfortArmed w.state.supervisor))

section Run
variable {cfg : Config} {p : Param} {w : World} {e : Event}

/-- At boot nothing is engaged. -/
theorem EngagedInv.boot (sec : ℚ) : EngagedInv (World.boot sec) where
  cancels := fun env hJudging => by cases hJudging
  consistent := .inr ⟨nofun, nofun, nofun⟩

theorem noteEffect_lastSent (history : History) (e : Effect) :
    (history.noteEffect e).lastSent = e.sentAfter history.lastSent := by
  cases e with
  | arm =>
      simp only [History.noteEffect, Effect.sentAfter]
      split_ifs <;> rfl
  | request behavior type sent => cases sent <;> rfl
  | _ => rfl

/-- Route 2 is armed after an effect only where the effect says so. -/
theorem serve_comfortable {s : Supervisor} {e : Effect}
    (hArmed : comfortArmed (serve cfg s e) = true) :
    e.comfortAfter (comfortArmed s) = true := by
  have hCall (call : Supervisor.Event) (hEvent : ∀ pass, call ≠ .pass pass)
      (hArm : ∀ now due, call ≠ .arm now 2 due)
      (h : comfortArmed (Supervisor.next cfg s call) = true) : comfortArmed s = true :=
    Supervisor.next_call_comfortable hEvent hArm h
  cases e with
  | arm now route due =>
      by_cases hRoute : route = 2
      · simp [Effect.comfortAfter, hRoute]
      · simp [Effect.comfortAfter,
          hCall (.arm now route due) nofun (fun _ _ h => hRoute (by cases h; rfl)) hArmed]
  | done route =>
      have hBefore := hCall (.done route) nofun nofun hArmed
      by_cases hRoute : route = 2
      · subst hRoute
        have hClosed : comfortArmed (serve cfg s (.done 2)) = false :=
          Supervisor.doneRoute_self .comfortableStandstill s
        simp [hClosed] at hArmed
      · simp [Effect.comfortAfter, hBefore, hRoute]
  | noteSpeed now speedMmS => exact hCall (.noteSpeed now speedMmS) nofun nofun hArmed
  | handover now slot periodMs => exact hCall (.handover now slot periodMs) nofun nofun hArmed
  | request | mrmState | takeoverRequestState | hazardLightsCmd => exact hArmed

/-- Where nothing is pending, what is engaged is reported now. -/
theorem EngagedInv.idle (h : EngagedInv w) (hIdle : w.state.pending = []) :
    w.state.supervisor.fault.vehicleFault = true ∨
      Consistent w.state.handler.mrmState.behavior w.history.lastSent
        (comfortArmed w.state.supervisor) := by
  simpa [hIdle] using h.consistent

/-- Every step of a callback leads to what it will report. -/
theorem EngagedInv.step (h : EngagedInv w) (hAllowed : Cancelling w e) :
    EngagedInv (w.step cfg p e) := by
  have hSpec := step_spec cfg p w e
  generalize w.step cfg p e = w' at hSpec ⊢
  cases hSpec with
  | stalled => exact h
  | took input hIdle =>
      refine ⟨fun env hJudging => by simp at hJudging, ?_⟩
      have hBefore := h.idle (by rw [pending, hIdle])
      simpa [pending, Handler.foldl_quiet Handler.sentAfter_quiet Handler.take_quiet,
        Handler.foldl_quiet Handler.comfortAfter_quiet Handler.take_quiet] using hBefore
  | began env hIdle =>
      have hBefore := h.idle (by rw [pending, hIdle])
      rcases beginTick_callback p w.state env with hSilent | ⟨hJudging, -⟩
      · have hPending : (beginTick p env w.state).pending = [] := by rw [pending, hSilent, hIdle]
        refine ⟨fun env' h' => ?_, by simpa [hPending] using hBefore⟩
        rw [hSilent, hIdle] at h'
        cases h'
      · have hPending : (beginTick p env w.state).pending = [] := by rw [pending, hJudging]
        refine ⟨fun env' h' => ?_, by simpa [hPending] using hBefore⟩
        rw [hJudging] at h'
        cases h'
        have hCancels : CancelsComfort w.state.handler env := hAllowed
        simpa [CancelsComfort] using hCancels
  | decided env hJudging =>
      refine ⟨fun env' h' => by simp at h', ?_⟩
      have hBefore := h.idle (by rw [pending, hJudging])
      cases hFault : w.state.supervisor.fault.vehicleFault with
      | true => exact .inl hFault
      | false =>
          exact .inr (Handler.runTick_consistent (h.cancels env hJudging) hFault
            (hBefore.resolve_left (by simp [hFault])))
  | acted e rest hActing =>
      refine ⟨fun env' h' => by simp at h', ?_⟩
      rcases h.consistent with hFault | hConsistent
      · refine .inl ?_
        rwa [(serve_frame cfg w.state.supervisor e).fault]
      · refine .inr ?_
        rw [pending, hActing, List.foldl_cons, List.foldl_cons] at hConsistent
        simp only [pending, noteEffect_lastSent]
        exact hConsistent.disarmed (Handler.comfortAfter_mono serve_comfortable)
  | called e hCall =>
      have hFrame := Supervisor.next_call cfg w.state.supervisor hCall
      refine ⟨h.cancels, ?_⟩
      rcases h.consistent with hFault | hConsistent
      · refine .inl ?_
        rwa [hFrame.fault]
      · refine .inr (hConsistent.disarmed (Handler.comfortAfter_mono ?_))
        refine Supervisor.next_call_comfortable hCall ?_
        rintro now due rfl
        exact hAllowed
  | passed pass =>
      refine ⟨h.cancels, ?_⟩
      rcases h.consistent with hFault | hConsistent
      · refine .inl ?_
        rwa [Supervisor.pass_fault_eq cfg pass w.state.supervisor hFault]
      · exact .inr (hConsistent.disarmed (Handler.comfortAfter_mono
          (Supervisor.pass_comfortable cfg pass w.state.supervisor)))

/-- Any operator whose last request that went out is a CALL is the one the
handler's behavior names; and where the handler reports normal operation
nothing is engaged, and no comfortable stop is timed. -/
structure EngagedReported (w : World) : Prop where
  comfortable : w.history.lastSent .comfortableStop = some .call →
    w.state.handler.mrmState.behavior = .comfortableStop
  emergency : w.history.lastSent .emergencyStop = some .call →
    w.state.handler.mrmState.behavior = .emergencyStop
  normal : w.state.handler.mrmState = { state := .normal, behavior := .none } →
    w.history.lastSent .comfortableStop ≠ some .call ∧
      w.history.lastSent .emergencyStop ≠ some .call ∧
      comfortArmed w.state.supervisor = false

/-- What is engaged is what is reported, between any two callbacks of a run
before the fault, if every CANCEL of the comfortable stop goes out. -/
theorem engaged_is_reported (cfg : Config) (p : Param) {sec : ℚ}
    (run : Reaches (World.step cfg p) Cancelling (World.boot sec) w) (hIdle : w.state.Idle)
    (hNoFault : w.state.supervisor.fault.vehicleFault = false) : EngagedReported w := by
  have hInv : EngagedInv w := run.invariant (.boot sec) fun _ _ h hAllowed => h.step hAllowed
  obtain ⟨hComfort, hEmergency, hTimed⟩ :=
    (hInv.idle (by rw [pending, hIdle])).resolve_left (by simp [hNoFault])
  refine ⟨hComfort, hEmergency, fun hNormal => ⟨fun h => ?_, fun h => ?_, ?_⟩⟩
  · simp [hNormal] at hComfort
    exact hComfort h
  · simp [hNormal] at hEmergency
    exact hEmergency h
  · by_contra hArmed
    have hCalled := hTimed (by simpa using hArmed)
    simp [hNormal] at hComfort
    exact hComfort hCalled

/-- A comfortable stop under way, called in autonomous control. -/
def comfortCalled : List Handler.Event :=
  Handler.establish { comfortableStop := true } ++
    [.take (.controlMode 1), .take (.odometry 8 150), .tick (.plain 200)]

/-- The fault clears, and the comfortable stop is released. -/
def comfortReleased : List Event :=
  uninterrupted <| comfortCalled ++
    [.take (.operationModeAvailability { stop := true } (3 / 10) 0 0 300 300),
      .tick (.plain 300)]

/-- The comfortable stop becomes unavailable, and its CANCEL does not go out. -/
def comfortLeft : List Event :=
  uninterrupted <| comfortCalled ++
    [.take (.operationModeAvailability {} (3 / 10) 0 0 300 300),
      .tick { Handler.Env.plain 300 with
        first := { serialized := true, sent := false, callMs := 300, armMs := 300 } }]

theorem engaged_is_reported_comfortReleased : EngagedReported
    (follow (World.step Config.image .declared) (World.boot 0) comfortReleased) :=
  engaged_is_reported Config.image .declared (reaches_follow comfortReleased (by decide +kernel))
    (by decide +kernel) (by decide +kernel)

/-- A failed CANCEL leaves the comfortable stop engaged under another name. -/
theorem not_engaged_is_reported : ¬ ∀ w,
    Reaches (World.step Config.image .declared) (fun _ e => Composed e) (World.boot 0) w →
      w.state.Idle → w.state.supervisor.fault.vehicleFault = false → EngagedReported w := by
  intro hClaim
  have hReported := hClaim (follow (World.step Config.image .declared) (World.boot 0) comfortLeft)
    (reaches_follow comfortLeft (by decide +kernel)) (by decide +kernel) (by decide +kernel)
  exact absurd (hReported.comfortable (by decide +kernel)) (by decide +kernel)

end Run
end Island
end SafetyIsland
