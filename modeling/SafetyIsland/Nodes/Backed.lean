import SafetyIsland.Island.Engaged
import SafetyIsland.Island.Floor
import SafetyIsland.Nodes.State

/-! What the handler reports, against the requests that went out: an MRM under
way or ended has been called, and a tick that requests anything reports after
it. -/
namespace SafetyIsland

open MrmState

namespace Handler

/-- An MRM under way or ended was last called, if its operator was asked for
anything. -/
def Backed (m : MrmState) (last : Behavior → Option RequestType) : Prop :=
  m.state = .mrmOperating ∨ m.state = .mrmSucceeded → m.behavior ≠ .none →
    last m.behavior = some .call

section Tick
variable {cfg : Config} {p : Param} {env : Env} {h : Handler}
  {last : Behavior → Option RequestType}

/-- A CALL that succeeds went out to its operator. -/
theorem request_called {o : Outcome} {behavior : Behavior} (hBehavior : behavior ≠ .none)
    (hCalled : (requestMrmBehavior cfg o behavior .call).2 = true) :
    (requestMrmBehavior cfg o behavior .call).1.foldl Effect.sentAfter last behavior =
      some .call := by
  have hPullOver : behavior ≠ .pullOver := by
    rintro rfl
    simp [requestMrmBehavior_pullOver] at hCalled
  have hGoes : o.serialized = true ∧ o.sent = true := by
    cases hSerialized : o.serialized <;> cases hSent : o.sent <;> cases behavior <;>
      simp_all [requestMrmBehavior]
  have hOperator : behavior = .comfortableStop ∨ behavior = .emergencyStop := by
    cases behavior <;> simp_all
  rw [sentAfter_request, if_pos ⟨hGoes.1, hGoes.2, hOperator⟩, Function.update_self]

/-- The emergency stop that answers a failed request was called, or is
reported failed. -/
theorem handleFailedRequest_backed (o : Outcome) : Backed (handleFailedRequest cfg o h).1.mrmState
    ((requestMrmBehavior cfg o .emergencyStop .call).1.foldl Effect.sentAfter last) := by
  rw [handleFailedRequest_fst]
  intro hActive _
  have hCalled : (requestMrmBehavior cfg o .emergencyStop .call).2 = true := by
    by_contra hFailed
    simp [hFailed] at hActive
  exact request_called (by decide) hCalled

variable (cfg p env) in
/-- `operateMrm` leaves a behavior named only where its operator was called. -/
theorem operateMrm_backed (hBacked : Backed h.mrmState last) :
    Backed (operateMrm cfg p env h).1.mrmState
      ((operateMrm cfg p env h).2.foldl Effect.sentAfter last) := by
  have hSpec := operateMrm_spec cfg p env h
  generalize operateMrm cfg p env h = r at hSpec ⊢
  cases hSpec with
  | kept => exact hBacked
  | released => exact fun _ hBehavior => absurd rfl hBehavior
  | refused =>
      rw [List.foldl_append]
      exact handleFailedRequest_backed env.second
  | exchanged hState hOther hCancel hCall =>
      rw [List.foldl_append]
      exact fun _ _ => request_called (getCurrentMrmBehavior_ne_none p h) hCall
  | uncalled =>
      rw [List.foldl_append]
      exact handleFailedRequest_backed env.third

/-- The state machine names no behavior that was not called. -/
theorem updateMrmState_backed (hReported : Reported h.mrmState)
    (hNoFault : h.isSupervisorLatched = true → env.vehicleFault = false)
    (hBacked : Backed h.mrmState last) :
    Backed (updateMrmState p env h).1.mrmState
      ((updateMrmState p env h).2.foldl Effect.sentAfter last) := by
  have hStandstill : (standstillDone h.mrmState.behavior).foldl Effect.sentAfter last = last := by
    cases h.mrmState.behavior <;> rfl
  have hSpec := updateMrmState_spec p env h
  generalize updateMrmState p env h = r at hSpec ⊢
  cases hSpec with
  | fault hLatched hFault => simp [hNoFault hLatched] at hFault
  | calm => simp [Backed, transitionTo]
  | waiting takeover hState => simp [Backed, hState]
  | started takeover hState => simp [Backed, transitionTo, hReported.idle hState]
  | moving => exact hBacked
  | stopped hState =>
      rw [hStandstill]
      exact fun _ => hBacked (.inl hState)
  | pulledOver hBehavior =>
      rcases hReported with hM | ⟨-, hM⟩ | hM <;> simp_all
  | rested => exact hBacked
  | resumed hState => exact fun _ => hBacked (.inr hState)
  | failed => exact hBacked

/-- A RUN tick that reads no fault reports what it called. -/
theorem runTick_backed (hReported : Reported h.mrmState)
    (hNoFault : h.isSupervisorLatched = true → env.vehicleFault = false)
    (hBacked : Backed h.mrmState last) :
    Backed (runTick cfg p env h).1.mrmState
      ((runTick cfg p env h).2.foldl Effect.sentAfter last) := by
  simp only [runTick, respond, List.foldl_append, foldl_quiet sentAfter_quiet announce_quiet]
  exact operateMrm_backed cfg p env (updateMrmState_backed hReported hNoFault hBacked)

end Tick

/-- An effect that asks no operator for anything and reports no state. -/
def Effect.Silent (e : Effect) : Prop := e.Quiet ∧ ∀ m, e ≠ .mrmState m

/-- Effects whose last word on the operators is the report of a state. -/
def Reports (m : MrmState) (effects : List Effect) : Prop :=
  ∃ before after, effects = before ++ .mrmState m :: after ∧
    (∀ e ∈ before, ∀ m, e ≠ .mrmState m) ∧ ∀ e ∈ after, e.Silent

section Reports
variable {cfg : Config} {p : Param} {env : Env} {h : Handler}

/-- Unless the direct path has the slot, a tick reports the state it ends in
behind all its requests. -/
theorem runTick_reports (hOwner : env.resumedAtState = false) :
    Reports (runTick cfg p env h).1.mrmState (runTick cfg p env h).2 := by
  let t := (respond cfg p env h).1
  let rest := publishTakeoverRequestState p t ++
    (if t.isAvailabilityTimeout then [.done 0] else []) ++ publishHazardCmd p env t ++
    (if t.isSupervisorLatched then [.handover env.handoverMs 0 p.periodMs] else [])
  have hAnnounce : announce p env t = .mrmState t.mrmState :: rest := by
    simp [announce, publishMrmState, hOwner, rest]
  refine ⟨(respond cfg p env h).2, rest, congrArg _ hAnnounce, fun e hMem m hEffect => ?_,
    fun e hMem => ⟨announce_quiet e (hAnnounce ▸ List.mem_cons_of_mem _ hMem), fun m hEffect => ?_⟩⟩
  · simpa [hEffect, Effect.isPublish] using respond_effects cfg p env h e hMem
  · have hHazard : ∀ e ∈ publishHazardCmd p env t, ∀ m, e ≠ .mrmState m := by
      unfold publishHazardCmd
      split_ifs <;> simp
    subst hEffect
    simp only [rest, publishTakeoverRequestState, List.mem_append] at hMem
    rcases hMem with ((hTakeover | hDone) | hHaz) | hHandover
    · simp at hTakeover
    · split_ifs at hDone <;> simp at hDone
    · exact hHazard _ hHaz m rfl
    · split_ifs at hHandover <;> simp at hHandover

theorem take_silent {input : Input} : ∀ e ∈ (take cfg p h input).2, e.Silent := by
  intro e hMem
  refine ⟨take_quiet e hMem, fun m hEffect => ?_⟩
  simpa [hEffect, Effect.isPublish] using take_effects cfg p h input e hMem

end Reports
end Handler
end SafetyIsland
