import SafetyIsland.Handler.Tick

/-! What the handler's requests and its state machine can do: one case
analysis for each, from which the claims about ticks are derived. -/
namespace SafetyIsland.Handler

open MrmState

section Request
variable (cfg : Config) (o : Outcome) (type : RequestType)

/-- There is no pull-over operator on the island. -/
theorem requestMrmBehavior_pullOver : (requestMrmBehavior cfg o .pullOver type).2 = false := by
  unfold requestMrmBehavior
  split_ifs <;> rfl

/-- A request that is sent succeeds. -/
theorem requestMrmBehavior_of_sent {behavior : Behavior} (hOperator : behavior ≠ .pullOver)
    (hSerialized : o.serialized = true) (hSent : o.sent = true) :
    (requestMrmBehavior cfg o behavior type).2 = true := by
  cases behavior <;> simp_all [requestMrmBehavior]

end Request

section Failed
variable (cfg : Config) (o : Outcome) (h : Handler)

/-- A failed request ends in the emergency stop, called or not. -/
theorem handleFailedRequest_fst : (handleFailedRequest cfg o h).1 = h.setMrmState
    { state := if (requestMrmBehavior cfg o .emergencyStop .call).2 then .mrmOperating
        else .mrmFailed
      behavior := .emergencyStop } := by
  unfold handleFailedRequest
  dsimp only
  cases (requestMrmBehavior cfg o .emergencyStop .call).2 with
  | true =>
      by_cases hState : h.mrmState.state = .mrmOperating <;>
        simp [setBehavior, transitionTo, hState]
  | false => simp [setBehavior, transitionTo]

end Failed

section Current
variable (p : Param) (h : Handler)

/-- Some behavior is always chosen. -/
theorem getCurrentMrmBehavior_ne_none : h.getCurrentMrmBehavior p ≠ .none := by
  unfold getCurrentMrmBehavior
  cases h.mrmState.behavior <;> dsimp only <;> split_ifs <;> decide

/-- On a lost input it is the emergency stop, whatever was running. -/
theorem getCurrentMrmBehavior_of_lost (hLost : h.isInputLost = true) :
    h.getCurrentMrmBehavior p = .emergencyStop := by
  unfold getCurrentMrmBehavior
  cases h.mrmState.behavior <;> simp [hLost]

end Current

section Operate
variable (cfg : Config) (p : Param) (env : Env) (h : Handler)

/-- The running behavior is to be released, or exchanged for another. -/
def Leaving : Prop :=
  h.mrmState.state = .normal ∧ h.mrmState.behavior ≠ .none ∨
    h.mrmState.state = .mrmOperating ∧ h.getCurrentMrmBehavior p ≠ h.mrmState.behavior

/-- What `operateMrm` can do. -/
inductive Operated : Handler × List Effect → Prop where
  | kept (hIdle : h.mrmState.state = .normal → h.mrmState.behavior = .none)
      (hCurrent : h.mrmState.state = .mrmOperating →
        h.getCurrentMrmBehavior p = h.mrmState.behavior) : Operated (h, [])
  | released (hState : h.mrmState.state = .normal) (hRunning : h.mrmState.behavior ≠ .none)
      (hCancel : (cancelRunning cfg env h).2 = true) :
      Operated (setBehavior .none h, (cancelRunning cfg env h).1)
  | refused (hLeaving : Leaving p h) (hCancel : (cancelRunning cfg env h).2 = false) :
      Operated ((handleFailedRequest cfg env.second h).1, (cancelRunning cfg env h).1 ++
        (requestMrmBehavior cfg env.second .emergencyStop .call).1)
  | exchanged (hState : h.mrmState.state = .mrmOperating)
      (hOther : h.getCurrentMrmBehavior p ≠ h.mrmState.behavior)
      (hCancel : (cancelRunning cfg env h).2 = true)
      (hCall : (callCurrent cfg p env h).2 = true) :
      Operated (setBehavior (h.getCurrentMrmBehavior p) h,
        (cancelRunning cfg env h).1 ++ (callCurrent cfg p env h).1)
  | uncalled (hState : h.mrmState.state = .mrmOperating)
      (hOther : h.getCurrentMrmBehavior p ≠ h.mrmState.behavior)
      (hCancel : (cancelRunning cfg env h).2 = true)
      (hCall : (callCurrent cfg p env h).2 = false) :
      Operated ((handleFailedRequest cfg env.third h).1,
        (cancelRunning cfg env h).1 ++ (callCurrent cfg p env h).1 ++
          (requestMrmBehavior cfg env.third .emergencyStop .call).1)

/-- What `operateMrm` does is one of these. -/
theorem operateMrm_spec : Operated cfg p env h (operateMrm cfg p env h) := by
  unfold operateMrm
  dsimp only
  split
  · rename_i hState
    split_ifs with hIdle hCancel
    · exact .kept (fun _ => hIdle) (by simp [hState])
    · exact .released hState hIdle hCancel
    · exact .refused (.inl ⟨hState, hIdle⟩) (by simpa using hCancel)
  · rename_i hState
    split_ifs with hSame hCancel hCall
    · exact .kept (by simp [hState]) (fun _ => hSame)
    · exact .refused (.inr ⟨hState, hSame⟩) (by simpa using hCancel)
    · exact .exchanged hState hSame (by simpa using hCancel) hCall
    · exact .uncalled hState hSame (by simpa using hCancel) (by simpa using hCall)
  · rename_i hState
    exact .kept (by simp [hState]) (by simp [hState])
  · rename_i hState
    exact .kept (by simp [hState]) (by simp [hState])

/-- Requests change nothing of the handler but its reported state. -/
theorem operateMrm_eq :
    (operateMrm cfg p env h).1 = h.setMrmState (operateMrm cfg p env h).1.mrmState := by
  have hSpec := operateMrm_spec cfg p env h
  generalize operateMrm cfg p env h = r at hSpec ⊢
  cases hSpec <;> simp [setBehavior, handleFailedRequest_fst]

end Operate

section Update
variable (p : Param) (env : Env) (h : Handler)

/-- What the takeover request answers: wait for the driver, or go on. -/
theorem updateTakeoverRequest_spec (isAutonomous : Bool) : ∃ takeover,
    (updateTakeoverRequest p env isAutonomous h).1 = h.setTakeover takeover ∧
      ((updateTakeoverRequest p env isAutonomous h).2 = true → h.isInputLost = false) := by
  unfold updateTakeoverRequest clearTakeoverRequest
  split_ifs <;> exact ⟨_, rfl, by simp_all⟩

/-- What `updateMrmState` can do. -/
inductive Updated : Handler × List Effect → Prop where
  | fault (hLatched : h.isSupervisorLatched = true) (hFault : env.vehicleFault = true) :
      Updated (h.setMrmState { state := .mrmFailed, behavior := .emergencyStop }, [])
  | calm (takeover : Takeover) (hCalm : h.isEmergency = false) :
      Updated (transitionTo .normal (h.setTakeover takeover), [])
  | waiting (takeover : Takeover) (hState : h.mrmState.state = .normal)
      (hWhy : h.isControlModeAutonomous = false ∨ h.isInputLost = false) :
      Updated (h.setTakeover takeover, [])
  | started (takeover : Takeover) (hState : h.mrmState.state = .normal)
      (hAutonomous : h.isControlModeAutonomous = true) :
      Updated (transitionTo .mrmOperating (h.setTakeover takeover), [])
  | moving (hState : h.mrmState.state = .mrmOperating) (hMoving : h.isStopped = false) :
      Updated (h, [])
  | stopped (hState : h.mrmState.state = .mrmOperating) (hStopped : h.isStopped = true)
      (hOperator : h.mrmState.behavior ≠ .pullOver) :
      Updated (transitionTo .mrmSucceeded h, standstillDone h.mrmState.behavior)
  | pulledOver (hBehavior : h.mrmState.behavior = .pullOver) (state : State) :
      Updated (transitionTo state h, [])
  | rested (hState : h.mrmState.state = .mrmSucceeded)
      (hCurrent : h.mrmState.behavior = h.getCurrentMrmBehavior p) : Updated (h, [])
  | resumed (hState : h.mrmState.state = .mrmSucceeded)
      (hCurrent : h.mrmState.behavior ≠ h.getCurrentMrmBehavior p) :
      Updated (transitionTo .mrmOperating h, [])
  | failed (hState : h.mrmState.state = .mrmFailed) : Updated (h, [])

/-- With the fault cleared the state goes to NORMAL, whatever becomes of the
request. -/
theorem clearFault_eq : ∃ takeover, clearFault h = transitionTo .normal (h.setTakeover takeover) := by
  have hNormal (h' : Handler) :
      (if h'.mrmState.state ≠ .normal then transitionTo .normal h' else h') =
        transitionTo .normal h' := by
    split_ifs with hState
    · rfl
    · push Not at hState
      rw [transitionTo, ← hState]
      rfl
  unfold clearFault clearTakeoverRequest
  dsimp only
  rw [hNormal]
  split_ifs <;> exact ⟨_, rfl⟩

/-- The switch over the state does one of these. -/
theorem advance_spec : Updated p env h (advance p env h) := by
  unfold advance
  split
  · rename_i hState
    obtain ⟨takeover, hTakeover, hWaiting⟩ :=
      updateTakeoverRequest_spec p env h h.isControlModeAutonomous
    dsimp only
    rw [hTakeover]
    split_ifs with hWait hAutonomous
    · exact .waiting takeover hState (.inr (hWaiting hWait))
    · exact .started takeover hState hAutonomous
    · exact .waiting takeover hState (.inl (by simpa using hAutonomous))
  · rename_i hState
    split_ifs with hMoving hOperator
    · exact .moving hState (by simpa using hMoving)
    · by_cases hPull : h.mrmState.behavior = .pullOver
      · simpa [hPull, standstillDone] using Updated.pulledOver hPull .mrmSucceeded
      · exact .stopped hState (by simpa using hMoving) hPull
    · have hPull : h.mrmState.behavior = .pullOver := by
        by_contra hOther
        exact hOperator (.inl hOther)
      rw [hPull]
      exact Updated.pulledOver hPull h.mrmState.state
  · rename_i hState
    split_ifs with hCurrent
    · exact .resumed hState hCurrent
    · exact .rested hState (by simpa using hCurrent)
  · rename_i hState
    exact .failed hState

/-- And so does the whole update. -/
theorem updateMrmState_spec : Updated p env h (updateMrmState p env h) := by
  unfold updateMrmState
  split_ifs with hFault hCalm
  · simp only [Bool.and_eq_true] at hFault
    exact .fault hFault.1 hFault.2
  · obtain ⟨takeover, hClear⟩ := clearFault_eq h
    rw [hClear]
    exact .calm takeover (by simpa using hCalm)
  · exact advance_spec p env h

/-- The state machine writes the reported state and the takeover request. -/
theorem updateMrmState_eq : ∃ takeover, (updateMrmState p env h).1 =
    (h.setTakeover takeover).setMrmState (updateMrmState p env h).1.mrmState := by
  have hSpec := updateMrmState_spec p env h
  generalize updateMrmState p env h = r at hSpec ⊢
  cases hSpec with
  | calm takeover => exact ⟨takeover, rfl⟩
  | waiting takeover => exact ⟨takeover, rfl⟩
  | started takeover => exact ⟨takeover, rfl⟩
  | _ => exact ⟨h.takeover, rfl⟩

variable (cfg : Config)

/-- A RUN tick leaves the inputs it judged as they were. -/
theorem respond_eq : ∃ takeover, (respond cfg p env h).1 =
    (h.setTakeover takeover).setMrmState (respond cfg p env h).1.mrmState := by
  obtain ⟨takeover, hUpdated⟩ := updateMrmState_eq p env h
  refine ⟨takeover, ?_⟩
  unfold respond
  dsimp only
  rw [operateMrm_eq]
  generalize operateMrm cfg p env (updateMrmState p env h).1 = r
  rw [hUpdated]
  rfl

variable {cfg p env h}

/-- An MRM that succeeded is left alone. -/
theorem operateMrm_of_succeeded (hState : h.mrmState.state = .mrmSucceeded) :
    operateMrm cfg p env h = (h, []) := by
  simp [operateMrm, hState]

/-- So is one that failed. -/
theorem operateMrm_of_failed (hState : h.mrmState.state = .mrmFailed) :
    operateMrm cfg p env h = (h, []) := by
  simp [operateMrm, hState]

/-- In a fault the tick reports the emergency stop as failed. -/
theorem respond_of_fault (hLatched : h.isSupervisorLatched = true)
    (hFault : env.vehicleFault = true) : (respond cfg p env h).1.mrmState =
      { state := .mrmFailed, behavior := .emergencyStop } ∧ (respond cfg p env h).2 = [] := by
  have hUpdated : updateMrmState p env h =
      (h.setMrmState { state := .mrmFailed, behavior := .emergencyStop }, []) := by
    simp [updateMrmState, hLatched, hFault, setBehavior, transitionTo, Judge.mrmState]
  rw [respond, hUpdated]
  rw [operateMrm_of_failed rfl]
  exact ⟨rfl, rfl⟩

end Update
end SafetyIsland.Handler
