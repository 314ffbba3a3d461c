import SafetyIsland.Island.State

/-! The emergency stop in force is supervised: whatever requests fail and
whatever the reaction thread judges between them, route 3 is armed, or was
met since the CALL, or the fault is found. -/
namespace SafetyIsland

open MrmState Transition

namespace Handler

/-- The emergency stop is in force, operated or failed. -/
def InForce (m : MrmState) : Prop :=
  (m.state = .mrmOperating ∨ m.state = .mrmFailed) ∧ m.behavior = .emergencyStop

instance (m : MrmState) : Decidable (InForce m) := by
  unfold InForce
  infer_instance

def Env.Serializes (env : Env) : Prop :=
  env.first.serialized = true ∧ env.second.serialized = true ∧ env.third.serialized = true

instance (env : Env) : Decidable env.Serializes := by
  unfold Env.Serializes
  infer_instance

/-- Whether route 3 is watched after an effect, from whether it was before. -/
def Effect.floorAfter (watched : Bool) : Effect → Bool
  | .arm _ route _ => watched || route == 3
  | .done route => watched && route != 3
  | _ => watched

/-- The more was watched before, the more is after. -/
theorem floorAfter_mono {effects : List Effect} {watched later : Bool}
    (hLater : watched = true → later = true)
    (hAfter : effects.foldl Effect.floorAfter watched = true) :
    effects.foldl Effect.floorAfter later = true := by
  induction effects generalizing watched later with
  | nil => exact hLater hAfter
  | cons e rest ih =>
      refine ih (fun hWatched => ?_) hAfter
      cases e <;> simp_all [Effect.floorAfter]
      exact hWatched.imp_left hLater

section Tick
variable {cfg : Config} {p : Param} {env : Env} {h : Handler} {watched : Bool}

theorem floorAfter_quiet (watched : Bool) (e : Effect) (hQuiet : e.Quiet) :
    Effect.floorAfter watched e = watched := by
  cases e <;> simp_all [Effect.Quiet, Effect.floorAfter]

/-- An emergency CALL that serializes opens the floor before it is sent. -/
theorem floorAfter_call {o : Outcome} (hSerialized : o.serialized = true) :
    (requestMrmBehavior cfg o .emergencyStop .call).1.foldl Effect.floorAfter watched = true := by
  simp [requestMrmBehavior, hSerialized, Effect.floorAfter]

/-- The requests leave an emergency stop supervised: kept as it was, or called
again. -/
theorem operateMrm_floor (hSerializes : env.Serializes)
    (hKept : InForce h.mrmState →
      (h.mrmState.state = .mrmOperating → h.getCurrentMrmBehavior p = h.mrmState.behavior) →
      watched = true)
    (hForce : InForce (operateMrm cfg p env h).1.mrmState) :
    (operateMrm cfg p env h).2.foldl Effect.floorAfter watched = true := by
  obtain ⟨-, hSecond, hThird⟩ := hSerializes
  have hSpec := operateMrm_spec cfg p env h
  generalize operateMrm cfg p env h = r at hSpec hForce ⊢
  cases hSpec with
  | kept hIdle hCurrent => exact hKept hForce hCurrent
  | released hState => simp [InForce, setBehavior] at hForce
  | refused =>
      rw [List.foldl_append]
      exact floorAfter_call hSecond
  | exchanged hState hOther hCancel hCall =>
      have hCurrent : h.getCurrentMrmBehavior p = .emergencyStop := by
        simpa [setBehavior] using hForce.2
      rw [List.foldl_append, callCurrent, hCurrent]
      exact floorAfter_call hSecond
  | uncalled =>
      rw [List.foldl_append]
      exact floorAfter_call hThird

/-- A RUN tick that reads no fault leaves the emergency stop supervised. -/
theorem runTick_floor (hSerializes : env.Serializes) (hReported : Reported h.mrmState)
    (hNoFault : env.vehicleFault = false) (hHeld : InForce h.mrmState → watched = true)
    (hForce : InForce (runTick cfg p env h).1.mrmState) :
    (runTick cfg p env h).2.foldl Effect.floorAfter watched = true := by
  have hTick : (runTick cfg p env h).2.foldl Effect.floorAfter watched =
      (operateMrm cfg p env (updateMrmState p env h).1).2.foldl Effect.floorAfter
        ((updateMrmState p env h).2.foldl Effect.floorAfter watched) := by
    simp [runTick, respond, foldl_quiet floorAfter_quiet announce_quiet]
  rw [hTick]
  refine operateMrm_floor hSerializes (fun hUpdated hCurrent => ?_) hForce
  -- where the emergency stop is kept, the state machine cleared nothing
  have hSpec := updateMrmState_spec p env h
  generalize updateMrmState p env h = r at hSpec hUpdated hCurrent ⊢
  cases hSpec with
  | fault hLatched hFault => simp [hNoFault] at hFault
  | calm => simp [InForce, transitionTo] at hUpdated
  | waiting takeover hState => simp [InForce, hState] at hUpdated
  | started takeover hState =>
      rcases hReported with hNormal | ⟨hOther, -⟩ | hFailed
      · simp [InForce, transitionTo, hNormal] at hUpdated
      · simp [hState] at hOther
      · simp [hFailed] at hState
  | moving => exact hHeld hUpdated
  | stopped => simp [InForce, transitionTo] at hUpdated
  | pulledOver hBehavior => simp [InForce, transitionTo, hBehavior] at hUpdated
  | rested hState => simp [InForce, hState] at hUpdated
  | resumed hState hOther => exact absurd (hCurrent rfl).symm hOther
  | failed => exact hHeld hUpdated

end Tick
end Handler

namespace Island
open Handler (Effect Env Param InForce)

/-- Every request serializes, and the supervisor's other callers are foreign
to the handler. -/
def Serializing : Event → Prop
  | .tick env => env.Serializes
  | e => Composed e

instance (e : Event) : Decidable (Serializing e) :=
  match e with
  | .tick .. | .supervisor .. => by unfold Serializing; infer_instance
  | .take .. | .decide | .act => isTrue trivial

/-- Route 3 is armed, or was judged MET since the last emergency CALL. -/
def World.floorWatched (w : World) : Bool :=
  (w.state.supervisor.routes .emergencyStandstill).dueValid || w.history.floorMet

/-- What holds in every state of a run: once the callback under way is done,
an emergency stop in force is supervised. -/
structure FloorInv (w : World) : Prop where
  reported : Handler.Reported w.state.handler.mrmState
  serializes : ∀ env, w.state.callback = .judging env → env.Serializes
  held : w.state.supervisor.fault.vehicleFault = true ∨
    (InForce w.state.handler.mrmState →
      w.state.pending.foldl Effect.floorAfter w.floorWatched = true)

section Run
variable {cfg : Config} {p : Param} {w w' : World} {e : Event}

/-- At boot no emergency stop is in force. -/
theorem FloorInv.boot (sec : ℚ) : FloorInv (World.boot sec) where
  reported := .inl rfl
  serializes := fun env hJudging => by cases hJudging
  held := .inr fun hForce => by simp [InForce] at hForce

/-- Where nothing is pending, the emergency stop is supervised now. -/
theorem FloorInv.idle (h : FloorInv w) (hIdle : w.state.pending = []) :
    w.state.supervisor.fault.vehicleFault = true ∨
      (InForce w.state.handler.mrmState → w.floorWatched = true) := by
  simpa [hIdle] using h.held

/-- One effect leaves the floor watched, where it says so. -/
theorem floorWatched_act {i : Island} {history : History} (e : Effect) (rest : List Effect)
    (hAfter : e.floorAfter (World.floorWatched ⟨i, history⟩) = true) :
    World.floorWatched
      ⟨{ i with supervisor := serve cfg i.supervisor e, callback := .acting rest },
        history.noteEffect e⟩ = true := by
  simp only [World.floorWatched, Bool.or_eq_true] at hAfter ⊢
  by_cases hCall : ∃ now due, e = .arm now 3 due
  · obtain ⟨now, due, rfl⟩ := hCall
    refine .inl ?_
    change ((Supervisor.armRoute cfg now .emergencyStandstill due i.supervisor).routes
      .emergencyStandstill).dueValid = true
    simp [Supervisor.armRoute_floorRoute]
  · push Not at hCall
    have hDone : e ≠ .done 3 := by
      rintro rfl
      simp [Effect.floorAfter] at hAfter
    have hMet : (history.noteEffect e).floorMet = history.floorMet := by
      cases e <;> simp_all [History.noteEffect]
      split_ifs <;> rfl
    have hBefore : (i.supervisor.routes .emergencyStandstill).dueValid = true ∨
        history.floorMet = true := by
      cases e <;> simp_all [Effect.floorAfter]
    exact hBefore.imp (serve_armed hDone) (by rw [hMet]; exact id)

variable (cfg) in
/-- A pass leaves a watched floor watched, or finds the fault. -/
theorem floorWatched_pass (pass : Supervisor.Pass) (hWatched : w.floorWatched = true) :
    (Supervisor.pass cfg pass w.state.supervisor).1.fault.vehicleFault = true ∨
      ((Supervisor.pass cfg pass w.state.supervisor).1.routes .emergencyStandstill).dueValid = true ∨
      (w.history.floorMet || floorMetBy cfg w.state.supervisor pass) = true := by
  simp only [World.floorWatched, Bool.or_eq_true] at hWatched ⊢
  rcases hWatched with hArmed | hMet
  · cases hWoken : pass.woken with
    | true =>
        rcases Supervisor.pass_kept cfg pass w.state.supervisor hWoken hArmed with
          ⟨hKept, -⟩ | hMet | hFault
        · exact .inr (.inl hKept)
        · have hCount := Supervisor.pass_met cfg pass w.state.supervisor hWoken hMet
          exact .inr (.inr (.inr (by simp [floorMetBy, hCount])))
        · exact .inl hFault
    | false =>
        rw [Supervisor.pass_kept_of_timeout cfg pass w.state.supervisor hWoken hArmed]
        exact .inr (.inl hArmed)
  · exact .inr (.inr (.inl hMet))

/-- Every step of a callback leads to a stop that is supervised. -/
theorem FloorInv.step (h : FloorInv w) (hAllowed : Serializing e) : FloorInv (w.step cfg p e) := by
  have hSpec := step_spec cfg p w e
  generalize w.step cfg p e = w' at hSpec ⊢
  cases hSpec with
  | stalled => exact h
  | took input hIdle =>
      refine ⟨by simpa using h.reported, fun env hJudging => by simp at hJudging, ?_⟩
      have hHeld := h.idle (by rw [pending, hIdle])
      simpa [pending, World.floorWatched, Handler.foldl_quiet Handler.floorAfter_quiet
        Handler.take_quiet] using hHeld
  | began env hIdle =>
      have hHeld := h.idle (by rw [pending, hIdle])
      rcases beginTick_callback p w.state env with hSilent | ⟨hJudging, -⟩
      · refine ⟨by simpa using h.reported, fun env' h' => ?_, ?_⟩
        · rw [hSilent, hIdle] at h'
          cases h'
        · have hPending : (beginTick p env w.state).pending = [] := by rw [pending, hSilent, hIdle]
          simpa [hPending, World.floorWatched] using hHeld
      · refine ⟨by simpa using h.reported, fun env' h' => ?_, ?_⟩
        · rw [hJudging] at h'
          cases h'
          exact hAllowed
        · simpa [pending, hJudging, World.floorWatched] using hHeld
  | decided env hJudging =>
      have hSerializes := h.serializes env hJudging
      have hHeld := h.idle (by rw [pending, hJudging])
      refine ⟨Handler.runTick_reported h.reported, fun env' h' => by simp at h', ?_⟩
      cases hFault : w.state.supervisor.fault.vehicleFault with
      | true => exact .inl hFault
      | false =>
          refine .inr fun hForce => ?_
          exact Handler.runTick_floor hSerializes h.reported hFault
            (hHeld.resolve_left (by simp [hFault])) hForce
  | acted e rest hActing =>
      refine ⟨h.reported, fun env' h' => by simp at h', ?_⟩
      rcases h.held with hFault | hHeld
      · refine .inl ?_
        rwa [(serve_frame cfg w.state.supervisor e).fault]
      · refine .inr fun hForce => ?_
        have hAfter := hHeld hForce
        rw [pending, hActing] at hAfter
        exact Handler.floorAfter_mono (floorWatched_act e rest) hAfter
  | called e hCall =>
      have hFrame := Supervisor.next_call cfg w.state.supervisor hCall
      refine ⟨h.reported, h.serializes, ?_⟩
      rcases h.held with hFault | hHeld
      · refine .inl ?_
        rwa [hFrame.fault]
      · refine .inr fun hForce => Handler.floorAfter_mono (fun hWatched => ?_) (hHeld hForce)
        simp only [World.floorWatched, Bool.or_eq_true] at hWatched ⊢
        refine hWatched.imp_left (Supervisor.next_call_armed hCall ?_)
        rintro rfl
        exact hAllowed
  | passed pass =>
      refine ⟨h.reported, h.serializes, ?_⟩
      rcases h.held with hFault | hHeld
      · refine .inl ?_
        rwa [Supervisor.pass_fault_eq cfg pass w.state.supervisor hFault]
      · cases hFound : (Supervisor.pass cfg pass w.state.supervisor).1.fault.vehicleFault with
        | true => exact .inl rfl
        | false =>
            refine .inr fun hForce => Handler.floorAfter_mono (fun hWatched => ?_) (hHeld hForce)
            have hAfter := (floorWatched_pass cfg pass hWatched).resolve_left (by simp [hFound])
            simpa [World.floorWatched] using hAfter

/-- The emergency stop in force is supervised: in every reachable state
between two callbacks in which it is operated or failed, route 3 is armed, or
was judged MET at a due since the last emergency CALL, or the fault is found. -/
theorem emergency_stop_supervised (cfg : Config) (p : Param) {sec : ℚ}
    (run : Reaches (World.step cfg p) (fun _ e => Serializing e) (World.boot sec) w)
    (hIdle : w.state.Idle) (hForce : InForce w.state.handler.mrmState) :
    (w.state.supervisor.routes .emergencyStandstill).dueValid = true ∨
      w.history.floorMet = true ∨ w.state.supervisor.fault.vehicleFault = true := by
  have hInv : FloorInv w := run.invariant (.boot sec) fun _ _ h hAllowed => h.step hAllowed
  rcases hInv.idle (by rw [pending, hIdle]) with hFault | hHeld
  · exact .inr (.inr hFault)
  · simpa [World.floorWatched, or_assoc] using Or.inl (b := _) (hHeld hForce)

/-- A fault under autonomous control of which every CALL is refused. -/
def refused : List Event :=
  uninterrupted <| Handler.establish { comfortableStop := true } ++
    [.take (.controlMode 1), .take (.odometry 8 150), .tick
      { Handler.Env.plain 200 with
        second := { serialized := true, sent := false, callMs := 200, armMs := 200 }
        third := { serialized := true, sent := false, callMs := 201, armMs := 201 } }]

theorem emergency_stop_supervised_refused :
    let w := follow (World.step Config.image .declared) (World.boot 0) refused
    (w.state.supervisor.routes .emergencyStandstill).dueValid = true ∨
      w.history.floorMet = true ∨ w.state.supervisor.fault.vehicleFault = true :=
  emergency_stop_supervised Config.image .declared (reaches_follow refused (by decide +kernel))
    (by decide +kernel) (by decide +kernel)

end Run
end Island
end SafetyIsland
