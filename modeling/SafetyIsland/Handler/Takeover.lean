import SafetyIsland.Handler.Run

/-! The takeover request: when it is on, what ends it, and which window the
next fault gets. -/
namespace SafetyIsland.Handler

open MrmState Transition

section Ask
variable (p : Param) (env : Env) (h : Handler)

/-- The driver may be asked: no window ran out, and the ADS drives. -/
def Askable : Prop :=
  p.useTakeoverRequest = true ∧ h.takeover.isExpired = false ∧
    h.getCurrentOperationMode = modeAutonomous

instance : Decidable (Askable p h) := by
  unfold Askable
  infer_instance

/-- What `updateTakeoverRequest` can do. -/
inductive Asked : Takeover × Bool → Prop where
  | manual (hManual : h.isControlModeAutonomous = false) :
      Asked ({ h.takeover with isRequested := false }, false)
  | unasked (hAutonomous : h.isControlModeAutonomous = true) (hWhy : ¬ Askable p h) :
      Asked (h.takeover, false)
  | lost (hAutonomous : h.isControlModeAutonomous = true) (hAsk : Askable p h)
      (hLost : h.isInputLost = true) : Asked ({ h.takeover with isRequested := false }, false)
  | raised (hAutonomous : h.isControlModeAutonomous = true) (hAsk : Askable p h)
      (hHeard : h.isInputLost = false) (hOff : h.takeover.isRequested = false) :
      Asked ({ h.takeover with isRequested := true, stamp := env.takeoverSec }, true)
  | waiting (hAutonomous : h.isControlModeAutonomous = true) (hAsk : Askable p h)
      (hHeard : h.isInputLost = false) (hOn : h.takeover.isRequested = true)
      (hWindow : Double.sub env.takeoverSec h.takeover.stamp < p.takeoverRequestTimeout) :
      Asked (h.takeover, true)
  | expired (hAutonomous : h.isControlModeAutonomous = true) (hAsk : Askable p h)
      (hHeard : h.isInputLost = false) (hOn : h.takeover.isRequested = true)
      (hWindow : p.takeoverRequestTimeout ≤ Double.sub env.takeoverSec h.takeover.stamp) :
      Asked ({ h.takeover with isRequested := false, isExpired := true }, false)

variable {p env h} in
/-- A driver who may be asked, and was not, is asked. -/
theorem Asked.raises {r : Takeover × Bool} (hAsked : Asked p env h r)
    (hAutonomous : h.isControlModeAutonomous = true) (hAsk : Askable p h)
    (hHeard : h.isInputLost = false) (hOff : h.takeover.isRequested = false) :
    r.1.isRequested = true := by
  cases hAsked with
  | manual hManual => simp [hAutonomous] at hManual
  | unasked _ hWhy => exact absurd hAsk hWhy
  | lost _ _ hLost => simp [hHeard] at hLost
  | raised => rfl
  | waiting _ _ _ hOn => simp [hOff] at hOn
  | expired _ _ _ hOn => simp [hOff] at hOn

/-- Clearing a request that is off changes nothing. -/
theorem clear_eq : (if h.takeover.isRequested then clearTakeoverRequest h else h) =
    h.setTakeover { h.takeover with isRequested := false } := by
  cases hOn : h.takeover.isRequested with
  | true => rfl
  | false =>
      have hSame : ({ h.takeover with isRequested := false } : Takeover) = h.takeover := by
        rw [← hOn]
      rw [hSame]
      rfl

/-- The request's update does one of these, and touches nothing else. -/
theorem updateTakeoverRequest_asked : ∃ r, Asked p env h r ∧
    updateTakeoverRequest p env h.isControlModeAutonomous h = (h.setTakeover r.1, r.2) := by
  unfold updateTakeoverRequest
  rw [clear_eq]
  split_ifs with hManual hWhy hLost hOff hWindow
  · exact ⟨_, .manual (by simpa using hManual), rfl⟩
  · refine ⟨_, .unasked (by simpa using hManual) ?_, rfl⟩
    intro hAsk
    obtain ⟨hUse, hFresh, hMode⟩ := hAsk
    simp [hUse, hFresh, hMode] at hWhy
  all_goals
    have hAutonomous : h.isControlModeAutonomous = true := by simpa using hManual
    have hAsk : Askable p h := by
      simp only [Bool.or_eq_true, Bool.not_eq_true', bne_iff_ne, ne_eq, not_or,
        Bool.not_eq_false, not_not] at hWhy
      exact ⟨hWhy.1.1, by simpa using hWhy.1.2, hWhy.2⟩
  · exact ⟨_, .lost hAutonomous hAsk hLost, rfl⟩
  · exact ⟨_, .raised hAutonomous hAsk (by simpa using hLost) (by simpa using hOff), rfl⟩
  · exact ⟨_, .waiting hAutonomous hAsk (by simpa using hLost) (by simpa using hOff) hWindow, rfl⟩
  · exact ⟨_, .expired hAutonomous hAsk (by simpa using hLost) (by simpa using hOff)
      (not_lt.mp hWindow), rfl⟩

end Ask

section Respond
variable (cfg : Config) {p : Param} {env : Env} {h : Handler}

/-- Operating an MRM leaves the request alone. -/
theorem operateMrm_takeover : (operateMrm cfg p env h).1.takeover = h.takeover := by
  rw [operateMrm_eq]
  rfl

/-- Requests never end an MRM. -/
theorem operateMrm_busy (hBusy : h.mrmState.state ≠ .normal) :
    (operateMrm cfg p env h).1.mrmState.state ≠ .normal := by
  have hFailed (o : Outcome) : (handleFailedRequest cfg o h).1.mrmState.state ≠ .normal := by
    rw [handleFailedRequest_fst]
    simp only [setMrmState_mrmState]
    split_ifs <;> decide
  have hSpec := operateMrm_spec cfg p env h
  generalize operateMrm cfg p env h = r at hSpec ⊢
  cases hSpec with
  | kept => exact hBusy
  | released hState => exact absurd hState hBusy
  | refused => exact hFailed _
  | exchanged => exact hBusy
  | uncalled => exact hFailed _

theorem mem_requestMrmBehavior (o : Outcome) (behavior : Behavior) (type : RequestType) :
    ∃ sent, .request behavior type sent ∈ (requestMrmBehavior cfg o behavior type).1 := by
  unfold requestMrmBehavior
  cases o.serialized <;> cases o.sent <;> cases behavior <;> cases type <;> simp

/-- An MRM just entered asks an operator for its behavior. -/
theorem operateMrm_enters (hState : h.mrmState.state = .mrmOperating)
    (hIdle : h.mrmState.behavior = .none) :
    (operateMrm cfg p env h).1.mrmState.behavior ≠ .none ∧
      ∃ behavior sent, .request behavior .call sent ∈ (operateMrm cfg p env h).2 := by
  have hFailed (o : Outcome) : (handleFailedRequest cfg o h).1.mrmState.behavior ≠ .none := by
    rw [handleFailedRequest_fst]
    simp
  have hCurrent := getCurrentMrmBehavior_ne_none p h
  have hSpec := operateMrm_spec cfg p env h
  generalize operateMrm cfg p env h = r at hSpec ⊢
  cases hSpec with
  | kept hNormal hSame => exact absurd ((hSame hState).trans hIdle) hCurrent
  | released hNormal => simp [hState] at hNormal
  | refused =>
      obtain ⟨sent, hCall⟩ := mem_requestMrmBehavior cfg env.second .emergencyStop .call
      exact ⟨hFailed _, _, sent, List.mem_append_right _ hCall⟩
  | exchanged =>
      obtain ⟨sent, hCall⟩ :=
        mem_requestMrmBehavior cfg env.second (h.getCurrentMrmBehavior p) .call
      exact ⟨hCurrent, _, sent, List.mem_append_right _ hCall⟩
  | uncalled =>
      obtain ⟨sent, hCall⟩ := mem_requestMrmBehavior cfg env.third .emergencyStop .call
      exact ⟨hFailed _, _, sent, List.mem_append_right _ hCall⟩

/-- The MRM has started: it is under way, and an operator was called for it. -/
def Started (r : Handler × List Effect) : Prop :=
  r.1.mrmState.state ≠ .normal ∧ r.1.mrmState.behavior ≠ .none ∧
    ∃ behavior sent, .request behavior .call sent ∈ r.2

/-- With no emergency there is no request, and no window has run out. -/
theorem respond_calm (hFault : env.vehicleFault = false) (hCalm : h.isEmergency = false) :
    (respond cfg p env h).1.takeover =
      { h.takeover with isRequested := false, isExpired := false } := by
  have hUpdated : updateMrmState p env h = (clearFault h, []) := by
    simp [updateMrmState, hFault, hCalm]
  have hCleared : (clearFault h).takeover =
      { h.takeover with isRequested := false, isExpired := false } := by
    unfold clearFault
    rw [clear_eq]
    dsimp only
    split_ifs <;> rfl
  rw [respond, hUpdated]
  exact (operateMrm_takeover cfg).trans hCleared

/-- While an MRM runs, the request is left as it is. -/
theorem respond_busy (hFault : env.vehicleFault = false) (hEmergency : h.isEmergency = true)
    (hBusy : h.mrmState.state ≠ .normal) :
    (respond cfg p env h).1.takeover = h.takeover ∧
      (respond cfg p env h).1.mrmState.state ≠ .normal := by
  have hUpdated : updateMrmState p env h = advance p env h := by
    simp [updateMrmState, hFault, hEmergency]
  have hKept : (advance p env h).1.takeover = h.takeover ∧
      (advance p env h).1.mrmState.state ≠ .normal := by
    unfold advance
    split
    · rename_i hState
      exact absurd hState hBusy
    all_goals
      rename_i hState
      try split_ifs
      all_goals simp [transitionTo, hState]
  rw [respond, hUpdated]
  exact ⟨(operateMrm_takeover cfg).trans hKept.1, operateMrm_busy cfg hKept.2⟩

/-- In NORMAL with nothing engaged, the request decides whether the MRM starts. -/
theorem respond_asked (hFault : env.vehicleFault = false) (hEmergency : h.isEmergency = true)
    (hIdle : h.mrmState = { state := .normal, behavior := .none }) :
    ∃ r, Asked p env h r ∧ (respond cfg p env h).1.takeover = r.1 ∧
      if r.2 = true ∨ h.isControlModeAutonomous = false then
        (respond cfg p env h).1.mrmState = h.mrmState
      else Started (respond cfg p env h) := by
  obtain ⟨r, hAsked, hAnswer⟩ := updateTakeoverRequest_asked p env h
  have hUpdated : updateMrmState p env h = advance p env h := by
    simp [updateMrmState, hFault, hEmergency]
  have hState : h.mrmState.state = .normal := by rw [hIdle]
  refine ⟨r, hAsked, ?_⟩
  rw [respond, hUpdated]
  simp only [advance, hState, hAnswer]
  cases hWait : r.2 with
  | true =>
      have hKept : operateMrm cfg p env (h.setTakeover r.1) = (h.setTakeover r.1, []) := by
        simp [operateMrm, hIdle]
      simp [hKept]
  | false =>
      cases hAutonomous : h.isControlModeAutonomous with
      | false =>
          have hKept : operateMrm cfg p env (h.setTakeover r.1) = (h.setTakeover r.1, []) := by
            simp [operateMrm, hIdle]
          simp [hKept]
      | true =>
          have hBusy : (transitionTo .mrmOperating (h.setTakeover r.1)).mrmState.state ≠ .normal :=
            State.noConfusion
          obtain ⟨hBehavior, hCall⟩ := @operateMrm_enters cfg p env
            (transitionTo .mrmOperating (h.setTakeover r.1)) rfl (by simp [transitionTo, hIdle])
          refine ⟨operateMrm_takeover cfg, ?_⟩
          simp only [Bool.false_eq_true, Bool.true_eq_false, or_self, if_false, if_true]
          exact ⟨operateMrm_busy cfg hBusy, hBehavior, hCall⟩

end Respond

/-- What an observer keeps of the driver's windows. -/
structure Windows where
  /-- `takeoverSec` of the tick the request last went on -/
  raisedAt : ℚ := 0
  /-- A window has run out since the emergency last cleared. -/
  expired : Bool := false

/-- The observer's note on one event: a tick that is silent shows nothing. -/
def Windows.note (p : Param) (seen : Windows) (h : Handler) (e : Event) (h' : Handler) : Windows :=
  match e with
  | .take _ => seen
  | .tick env =>
      if !(updatePhase p env h).2 then seen
      else
        { raisedAt := if !h.takeover.isRequested && h'.takeover.isRequested then env.takeoverSec
            else seen.raisedAt
          expired := (entering p env h).isEmergency && (seen.expired || (h.takeover.isRequested &&
            decide (p.takeoverRequestTimeout ≤ Double.sub env.takeoverSec seen.raisedAt))) }

abbrev Driven := Observed Handler Windows

def Driven.step (cfg : Config) (p : Param) : Driven → Event → Driven :=
  observe (fun h e => (next cfg p h e).1) (Windows.note p)

def Driven.boot (sec : ℚ) : Driven := { state := construct sec, history := {} }

/-- A fault the driver is asked about: NORMAL, an ODD exit under the ADS, every
input heard. -/
def Qualifies (h : Handler) : Prop :=
  h.mrmState.state = .normal ∧ h.isEmergency = true ∧ h.isControlModeAutonomous = true ∧
    h.getCurrentOperationMode = modeAutonomous ∧ h.isInputLost = false

instance (h : Handler) : Decidable (Qualifies h) := by
  unfold Qualifies
  infer_instance

/-- The takeover request law of one RUN tick. -/
structure TakeoverLaw (cfg : Config) (p : Param) (env : Env) (w : Driven) : Prop where
  on : let w' := w.step cfg p (.tick env)
    w'.state.takeover.isRequested = true →
      w'.state.mrmState = { state := .normal, behavior := .none } ∧ w'.state.isEmergency = true ∧
        w'.state.isControlModeAutonomous = true ∧
        w'.state.getCurrentOperationMode = modeAutonomous ∧ w'.state.isInputLost = false ∧
        Double.sub env.takeoverSec w'.history.raisedAt < p.takeoverRequestTimeout
  starts : let w' := w.step cfg p (.tick env)
    w.state.mrmState.state = .normal → w'.state.mrmState.state ≠ .normal →
      w'.state.takeover.isRequested = false
  /-- The driver has not answered: the control mode is still AUTONOMOUS. -/
  expires : w.state.takeover.isRequested = true →
    (entering p env w.state).isEmergency = true →
    (entering p env w.state).isControlModeAutonomous = true →
    p.takeoverRequestTimeout ≤ Double.sub env.takeoverSec w.history.raisedAt →
      Started (onTimer cfg p env w.state)
  opens : let w' := w.step cfg p (.tick env)
    p.useTakeoverRequest = true → Qualifies (entering p env w.state) →
    w.history.expired = false → w.state.takeover.isRequested = false →
      w'.state.takeover.isRequested = true ∧ w'.history.raisedAt = env.takeoverSec
  waits : let w' := w.step cfg p (.tick env)
    w.state.takeover.isRequested = true → Qualifies (entering p env w.state) →
    Double.sub env.takeoverSec w.history.raisedAt < p.takeoverRequestTimeout →
      w'.state.takeover.isRequested = true ∧ w'.history.raisedAt = w.history.raisedAt

/-- The tick does not find, with the request on, the operation mode changed in
an emergency under AUTONOMOUS control, and raises no request without a window. -/
def ModeKept (p : Param) (env : Env) (h : Handler) : Prop :=
  let j := entering p env h
  (h.takeover.isRequested = true → j.isEmergency = true → j.isControlModeAutonomous = true →
      j.getCurrentOperationMode = modeAutonomous) ∧
    (h.takeover.isRequested = false → Qualifies j → Askable p j → 0 < p.takeoverRequestTimeout)

instance (p : Param) (env : Env) (h : Handler) : Decidable (ModeKept p env h) := by
  unfold ModeKept
  infer_instance

/-- A step in which no fault of the vehicle is read and the mode is kept. -/
def KeepsMode (p : Param) (w : Driven) : Event → Prop
  | .take _ => True
  | .tick env => env.vehicleFault = false ∧
      ((updatePhase p env w.state).2 = true → ModeKept p env w.state)

instance (p : Param) (w : Driven) (e : Event) : Decidable (KeepsMode p w e) :=
  match e with
  | .tick .. => by unfold KeepsMode; infer_instance
  | .take .. => isTrue trivial

/-- What the request and the observer agree on. -/
structure Agrees (p : Param) (w : Driven) : Prop where
  reported : Reported w.state.mrmState
  requested : w.state.takeover.isRequested = true →
    w.state.mrmState.state = .normal ∧ p.useTakeoverRequest = true ∧
      w.state.takeover.isExpired = false ∧ w.state.takeover.stamp = w.history.raisedAt
  expired : w.state.takeover.isExpired = true → w.history.expired = true

section Law
variable (cfg : Config) {p : Param} {env : Env} {h : Handler} {w : Driven}

@[simp] theorem take_takeover (input : Input) : (take cfg p h input).1.takeover = h.takeover := by
  cases input with
  | operationModeAvailability =>
      simp only [take, onOperationModeAvailability]
      split_ifs <;> rfl
  | _ => rfl

@[simp] theorem updatePhase_takeover : (updatePhase p env h).1.takeover = h.takeover := by
  unfold updatePhase
  dsimp only
  split <;> split_ifs <;> rfl

@[simp] theorem entering_takeover : (entering p env h).takeover = h.takeover := updatePhase_takeover

/-- A RUN tick's end: the response, which keeps the inputs the tick judged. -/
theorem step_run (hRun : (updatePhase p env w.state).2 = true) :
    (w.step cfg p (.tick env)).state = (respond cfg p env (entering p env w.state)).1 := by
  show (onTimer cfg p env w.state).1 = _
  rw [onTimer_of_run hRun]
  rfl

variable (p env) in
/-- What a RUN tick judges by is not changed by its response. -/
theorem respond_reads (j : Handler) :
    (respond cfg p env j).1.isEmergency = j.isEmergency ∧
      (respond cfg p env j).1.isControlModeAutonomous = j.isControlModeAutonomous ∧
      (respond cfg p env j).1.getCurrentOperationMode = j.getCurrentOperationMode ∧
      (respond cfg p env j).1.isInputLost = j.isInputLost := by
  obtain ⟨takeover, hRespond⟩ := respond_eq p env j cfg
  rw [hRespond]
  exact ⟨rfl, rfl, rfl, rfl⟩

/-- The windows after a RUN tick. -/
theorem note_run (hRun : (updatePhase p env w.state).2 = true) :
    (w.step cfg p (.tick env)).history =
      { raisedAt := if !w.state.takeover.isRequested &&
            (w.step cfg p (.tick env)).state.takeover.isRequested then env.takeoverSec
          else w.history.raisedAt
        expired := (entering p env w.state).isEmergency && (w.history.expired ||
          (w.state.takeover.isRequested &&
            decide (p.takeoverRequestTimeout ≤ Double.sub env.takeoverSec w.history.raisedAt))) } := by
  show Windows.note p w.history w.state (.tick env) (w.step cfg p (.tick env)).state = _
  simp [Windows.note, hRun]

/-- The request on at a tick's end: raised by the tick, or still waiting. -/
inductive Waiting (p : Param) (env : Env) (w : Driven) (h' : Handler) : Prop where
  | raised (hOff : w.state.takeover.isRequested = false)
      (hStamp : h'.takeover.stamp = env.takeoverSec)
  | waiting (hOn : w.state.takeover.isRequested = true)
      (hStamp : h'.takeover.stamp = w.state.takeover.stamp)
      (hWindow : Double.sub env.takeoverSec w.state.takeover.stamp < p.takeoverRequestTimeout)

/-- The request is on only while a qualifying fault waits for the driver. -/
theorem waiting_of_requested (hAgrees : Agrees p w) (hKept : ModeKept p env w.state)
    (hFault : env.vehicleFault = false)
    (hOn : (respond cfg p env (entering p env w.state)).1.takeover.isRequested = true) :
    Qualifies (entering p env w.state) ∧ Askable p (entering p env w.state) ∧
      (respond cfg p env (entering p env w.state)).1.mrmState = w.state.mrmState ∧
      (respond cfg p env (entering p env w.state)).1.takeover.isExpired = false ∧
      Waiting p env w (respond cfg p env (entering p env w.state)).1 := by
  have hTakeover : (entering p env w.state).takeover = w.state.takeover := entering_takeover
  have hMrm : (entering p env w.state).mrmState = w.state.mrmState := entering_mrmState ..
  obtain ⟨hKeptMode, -⟩ := hKept
  generalize entering p env w.state = j at *
  cases hEmergency : j.isEmergency with
  | false => simp [respond_calm cfg hFault hEmergency] at hOn
  | true =>
      by_cases hState : j.mrmState.state = .normal
      · have hIdle : j.mrmState = { state := .normal, behavior := .none } := by
          rw [hMrm] at hState ⊢
          exact hAgrees.reported.idle hState
        obtain ⟨r, hAsked, hR, hMrm'⟩ := respond_asked cfg hFault hEmergency hIdle
        rw [hR] at hOn ⊢
        cases hAsked with
        | manual => simp at hOn
        | unasked hAutonomous hWhy =>
            have hOn' : w.state.takeover.isRequested = true := by rw [← hTakeover]; exact hOn
            obtain ⟨-, hUse, hFresh, -⟩ := hAgrees.requested hOn'
            rw [← hTakeover] at hFresh
            exact absurd ⟨hUse, hFresh, hKeptMode hOn' hEmergency hAutonomous⟩ hWhy
        | lost => simp at hOn
        | raised hAutonomous hAsk hHeard hOff =>
            simp only [true_or, if_true] at hMrm'
            refine ⟨⟨hState, hEmergency, hAutonomous, hAsk.2.2, hHeard⟩, hAsk, hMrm'.trans hMrm,
              hAsk.2.1, .raised (by rw [← hTakeover]; exact hOff) ?_⟩
            rw [hR]
        | waiting hAutonomous hAsk hHeard hOn' hWindow =>
            simp only [true_or, if_true] at hMrm'
            rw [hTakeover] at hWindow hOn'
            refine ⟨⟨hState, hEmergency, hAutonomous, hAsk.2.2, hHeard⟩, hAsk, hMrm'.trans hMrm,
              hAsk.2.1, .waiting hOn' ?_ hWindow⟩
            rw [hR, hTakeover]
        | expired => simp at hOn
      · obtain ⟨hSame, -⟩ := respond_busy cfg (p := p) hFault hEmergency hState
        rw [hSame, hTakeover] at hOn
        rw [hMrm] at hState
        exact absurd (hAgrees.requested hOn).1 hState

/-- A RUN tick that keeps the mode obeys the law. -/
theorem law_of_kept (hAgrees : Agrees p w) (hKept : ModeKept p env w.state)
    (hFault : env.vehicleFault = false) (hRun : (updatePhase p env w.state).2 = true) :
    TakeoverLaw cfg p env w := by
  have hMrm : (entering p env w.state).mrmState = w.state.mrmState := entering_mrmState ..
  have hTakeover : (entering p env w.state).takeover = w.state.takeover := entering_takeover
  have hReads := respond_reads cfg p env (entering p env w.state)
  have hOn : (w.step cfg p (.tick env)).state.takeover.isRequested = true →
      (w.step cfg p (.tick env)).state.mrmState = { state := .normal, behavior := .none } ∧
        Qualifies (entering p env w.state) ∧
        Double.sub env.takeoverSec (w.step cfg p (.tick env)).history.raisedAt <
          p.takeoverRequestTimeout := by
    intro hRequested
    rw [note_run cfg hRun]
    dsimp only
    rw [hRequested]
    rw [step_run cfg hRun] at hRequested ⊢
    obtain ⟨hQualifies, hAsk, hSame, -, hWaiting⟩ :=
      waiting_of_requested cfg hAgrees hKept hFault hRequested
    refine ⟨hSame.trans (hAgrees.reported.idle (hMrm ▸ hQualifies.1)), hQualifies, ?_⟩
    cases hWaiting with
    | raised hOff =>
        have hPositive := hKept.2 hOff hQualifies hAsk
        simpa [hOff] using hPositive
    | waiting hWas hStamp hWindow =>
        obtain ⟨-, -, -, hRaised⟩ := hAgrees.requested hWas
        rw [hRaised] at hWindow
        simpa [hWas] using hWindow
  constructor
  · intro w' hRequested
    obtain ⟨hIdle, ⟨-, hEmergency, hAutonomous, hMode, hHeard⟩, hWindow⟩ := hOn hRequested
    obtain ⟨hR₁, hR₂, hR₃, hR₄⟩ := hReads
    rw [← step_run cfg hRun] at hR₁ hR₂ hR₃ hR₄
    exact ⟨hIdle, hR₁.trans hEmergency, hR₂.trans hAutonomous, hR₃.trans hMode,
      hR₄.trans hHeard, hWindow⟩
  · intro w' _ hBusy
    by_contra hRequested
    have hIdle := (hOn (by simpa using hRequested)).1
    exact hBusy (by rw [hIdle])
  · intro hRequested hEmergency hAutonomous hWindow
    obtain ⟨hNormal, -, -, hRaised⟩ := hAgrees.requested hRequested
    rw [← hTakeover] at hRequested hRaised
    rw [← hRaised] at hWindow
    obtain ⟨r, hAsked, -, hAnswer⟩ := respond_asked cfg (p := p) hFault hEmergency
      (hMrm.trans (hAgrees.reported.idle hNormal))
    have hGo : r.2 = false := by
      cases hAsked with
      | raised _ _ _ hOff => exact absurd hRequested (by rw [hOff]; decide)
      | waiting _ _ _ _ hEarly => exact absurd hEarly (not_lt.mpr hWindow)
      | _ => rfl
    rw [onTimer_of_run hRun]
    obtain ⟨hState, hBehavior, behavior, sent, hCall⟩ :
        Started (respond cfg p env (entering p env w.state)) := by
      simpa [hGo, hAutonomous] using hAnswer
    exact ⟨hState, hBehavior, behavior, sent, List.mem_append_left _ hCall⟩
  · intro w' hUse hQualifies hFresh hOff
    obtain ⟨hState, hEmergency, hAutonomous, hMode, hHeard⟩ := hQualifies
    have hUnexpired : w.state.takeover.isExpired = false := by
      by_contra hExpired
      simp [hAgrees.expired (by simpa using hExpired)] at hFresh
    obtain ⟨r, hAsked, hR, -⟩ := respond_asked cfg (p := p) hFault hEmergency
      (hMrm.trans (hAgrees.reported.idle (hMrm ▸ hState)))
    have hAsk : Askable p (entering p env w.state) :=
      ⟨hUse, by rw [hTakeover]; exact hUnexpired, hMode⟩
    have hRaised : r.1.isRequested = true :=
      hAsked.raises hAutonomous hAsk hHeard (by rw [hTakeover]; exact hOff)
    have hRequested : (w.step cfg p (.tick env)).state.takeover.isRequested = true := by
      rw [step_run cfg hRun, hR, hRaised]
    refine ⟨hRequested, ?_⟩
    show (w.step cfg p (.tick env)).history.raisedAt = _
    simp [note_run cfg hRun, hOff, hRequested]
  · intro w' hWas hQualifies hWindow
    obtain ⟨hState, hEmergency, hAutonomous, hMode, hHeard⟩ := hQualifies
    obtain ⟨-, hUse, hUnexpired, hRaised⟩ := hAgrees.requested hWas
    obtain ⟨r, hAsked, hR, -⟩ := respond_asked cfg (p := p) hFault hEmergency
      (hMrm.trans (hAgrees.reported.idle (hMrm ▸ hState)))
    have hAsk : Askable p (entering p env w.state) :=
      ⟨hUse, by rw [hTakeover]; exact hUnexpired, hMode⟩
    have hStill : r.1.isRequested = true := by
      cases hAsked with
      | manual hManual => simp [hAutonomous] at hManual
      | unasked _ hWhy => exact absurd hAsk hWhy
      | lost _ _ hLost => simp [hHeard] at hLost
      | raised => rfl
      | waiting _ _ _ hOn' => exact hOn'
      | expired _ _ _ _ hLate =>
          rw [hTakeover, hRaised] at hLate
          exact absurd hWindow (not_lt.mpr hLate)
    have hRequested : (w.step cfg p (.tick env)).state.takeover.isRequested = true := by
      rw [step_run cfg hRun, hR, hStill]
    refine ⟨hRequested, ?_⟩
    show (w.step cfg p (.tick env)).history.raisedAt = _
    simp [note_run cfg hRun, hWas]

/-- A RUN tick that does not keep the mode ends with a request it may not have. -/
theorem kept_of_law (hAgrees : Agrees p w) (hFault : env.vehicleFault = false)
    (hRun : (updatePhase p env w.state).2 = true) (hLaw : TakeoverLaw cfg p env w) :
    ModeKept p env w.state := by
  have hMrm : (entering p env w.state).mrmState = w.state.mrmState := entering_mrmState ..
  have hTakeover : (entering p env w.state).takeover = w.state.takeover := entering_takeover
  constructor
  · intro hOn hEmergency hAutonomous
    by_contra hMode
    have hNormal := (hAgrees.requested hOn).1
    obtain ⟨r, hAsked, hR, -⟩ := respond_asked cfg (p := p) hFault hEmergency
      (hMrm.trans (hAgrees.reported.idle hNormal))
    have hWhy : ¬ Askable p (entering p env w.state) := fun hAsk => hMode hAsk.2.2
    have hStill : r.1.isRequested = true := by
      cases hAsked with
      | manual hManual => simp [hAutonomous] at hManual
      | unasked => rw [hTakeover]; exact hOn
      | lost _ hAsk => exact absurd hAsk hWhy
      | raised _ hAsk => exact absurd hAsk hWhy
      | waiting _ hAsk => exact absurd hAsk hWhy
      | expired _ hAsk => exact absurd hAsk hWhy
    have hRequested : (w.step cfg p (.tick env)).state.takeover.isRequested = true := by
      rw [step_run cfg hRun, hR, hStill]
    obtain ⟨-, -, -, hMode', -⟩ := hLaw.on hRequested
    rw [step_run cfg hRun, (respond_reads cfg p env _).2.2.1] at hMode'
    exact hMode hMode'
  · intro hOff hQualifies hAsk
    obtain ⟨hState, hEmergency, hAutonomous, hMode, hHeard⟩ := hQualifies
    obtain ⟨r, hAsked, hR, -⟩ := respond_asked cfg (p := p) hFault hEmergency
      (hMrm.trans (hAgrees.reported.idle (hMrm ▸ hState)))
    have hRaised : r.1.isRequested = true :=
      hAsked.raises hAutonomous hAsk hHeard (by rw [hTakeover]; exact hOff)
    have hRequested : (w.step cfg p (.tick env)).state.takeover.isRequested = true := by
      rw [step_run cfg hRun, hR, hRaised]
    obtain ⟨-, -, -, -, -, hWindow⟩ := hLaw.on hRequested
    rw [note_run cfg hRun] at hWindow
    simpa [hOff, hRequested] using hWindow

theorem agrees_boot (p : Param) (sec : ℚ) : Agrees p (.boot sec) where
  reported := .inl rfl
  requested := nofun
  expired := nofun

/-- A step that keeps the mode keeps the request and the observer together. -/
theorem agrees_step (e : Event) (hAgrees : Agrees p w) (hKept : KeepsMode p w e) :
    Agrees p (w.step cfg p e) := by
  have hReported : Reported (w.step cfg p e).state.mrmState := next_reported e hAgrees.reported
  cases e with
  | take input =>
      have hTakeover : (w.step cfg p (.take input)).state.takeover = w.state.takeover :=
        take_takeover cfg input
      have hMrm : (w.step cfg p (.take input)).state.mrmState = w.state.mrmState :=
        take_mrmState cfg p w.state input
      refine ⟨hReported, ?_, ?_⟩
      · rw [hTakeover, hMrm]
        exact hAgrees.requested
      · rw [hTakeover]
        exact hAgrees.expired
  | tick env =>
      obtain ⟨hFault, hKept⟩ := hKept
      cases hRun : (updatePhase p env w.state).2 with
      | false =>
          have hState : (w.step cfg p (.tick env)).state = (updatePhase p env w.state).1 := by
            show (onTimer cfg p env w.state).1 = _
            rw [onTimer_of_init hRun]
          have hNote : (w.step cfg p (.tick env)).history = w.history := by
            show Windows.note p w.history w.state (.tick env) _ = _
            simp [Windows.note, hRun]
          refine ⟨hReported, ?_, ?_⟩
          · rw [hState, hNote, updatePhase_takeover, updatePhase_mrmState]
            exact hAgrees.requested
          · rw [hState, hNote, updatePhase_takeover]
            exact hAgrees.expired
      | true =>
          have hTakeover : (entering p env w.state).takeover = w.state.takeover :=
            entering_takeover
          have hMrm : (entering p env w.state).mrmState = w.state.mrmState := entering_mrmState ..
          refine ⟨hReported, ?_, ?_⟩
          · rw [note_run cfg hRun]
            dsimp only
            intro hOn
            rw [hOn]
            rw [step_run cfg hRun] at hOn ⊢
            obtain ⟨hQualifies, hAsk, hSame, hUnexpired, hWaiting⟩ :=
              waiting_of_requested cfg hAgrees (hKept hRun) hFault hOn
            refine ⟨hSame ▸ hMrm ▸ hQualifies.1, hAsk.1, hUnexpired, ?_⟩
            cases hWaiting with
            | raised hOff hStamp => simp [hOff, hStamp]
            | waiting hWas hStamp =>
                simp [hWas, hStamp, (hAgrees.requested hWas).2.2.2]
          · rw [note_run cfg hRun]
            dsimp only
            intro hExpired
            rw [step_run cfg hRun] at hExpired
            cases hEmergency : (entering p env w.state).isEmergency with
            | false => simp [respond_calm cfg hFault hEmergency] at hExpired
            | true =>
                have hBefore (hWas : w.state.takeover.isExpired = true) :
                    w.history.expired = true := hAgrees.expired hWas
                by_cases hState : w.state.mrmState.state = .normal
                · obtain ⟨r, hAsked, hR, -⟩ := respond_asked cfg (p := p) hFault hEmergency
                    (hMrm.trans (hAgrees.reported.idle hState))
                  rw [hR] at hExpired
                  cases hAsked with
                  | expired _ _ _ hOn hWindow =>
                      rw [hTakeover] at hOn hWindow
                      rw [(hAgrees.requested hOn).2.2.2] at hWindow
                      simp [hOn, hWindow]
                  | _ => simp [hBefore (by simpa using hExpired)]
                · obtain ⟨hSame, -⟩ := respond_busy cfg (p := p) hFault hEmergency (hMrm ▸ hState)
                  rw [hSame, hTakeover] at hExpired
                  simp [hBefore hExpired]

/-- In every run without a fault of the vehicle, up to the first tick that does
not keep the mode, each RUN tick obeys the law exactly when it keeps the mode. -/
theorem takeover_law (cfg : Config) (p : Param) {sec : ℚ} {w : Driven}
    (run : Reaches (Driven.step cfg p) (KeepsMode p) (.boot sec) w) (env : Env)
    (hFault : env.vehicleFault = false) (hRun : (updatePhase p env w.state).2 = true) :
    TakeoverLaw cfg p env w ↔ ModeKept p env w.state := by
  have hAgrees : Agrees p w :=
    run.invariant (agrees_boot p sec) fun _ e hAgrees hKept => agrees_step cfg e hAgrees hKept
  exact ⟨kept_of_law cfg hAgrees hFault hRun,
    fun hKept => law_of_kept cfg hAgrees hKept hFault hRun⟩

/-- The ADS drives in AUTONOMOUS control, its mode is not available, and the
driver is asked at 0.3 s. -/
def asking : List Event :=
  establish { stop := true } ++ [.tick (.plain 200), .take (.controlMode controlAutonomous),
    .take (.operationModeState modeAutonomous), .tick (.plain 300)]

theorem takeover_law_asking :
    TakeoverLaw Config.image .declared (.plain 400)
        (follow (Driven.step Config.image .declared) (.boot 0) asking) ↔
      ModeKept .declared (.plain 400)
        (follow (Driven.step Config.image .declared) (.boot 0) asking).state :=
  takeover_law Config.image .declared
    (reaches_follow asking (by decide +kernel)) (.plain 400)
    (by decide) (by decide +kernel)

/-- A step in which no fault of the vehicle is read. -/
def NoVehicleFault (_ : Driven) : Event → Prop
  | .take _ => True
  | .tick env => env.vehicleFault = false

instance (w : Driven) (e : Event) : Decidable (NoVehicleFault w e) :=
  match e with
  | .tick .. => by unfold NoVehicleFault; infer_instance
  | .take .. => isTrue trivial

/-- With the request on, the operation mode goes to LOCAL, unavailable too: the
MRM starts and the request stays on. -/
theorem not_takeover_law :
    ¬ ∀ (p : Param) (w : Driven),
      Reaches (Driven.step Config.image p) NoVehicleFault (.boot 0) w →
      ∀ env : Env, env.vehicleFault = false → (updatePhase p env w.state).2 = true →
        TakeoverLaw Config.image p env w := by
  intro hLaw
  have run : Reaches (Driven.step Config.image .declared) NoVehicleFault (.boot 0) _ :=
    reaches_follow (asking ++ [.take (.operationModeState modeLocal)]) (by decide +kernel)
  have hOn := (hLaw .declared _ run (.plain 400) rfl (by decide +kernel)).starts
    (by decide +kernel) (by decide +kernel)
  exact absurd hOn (by decide +kernel)

end Law
end SafetyIsland.Handler
