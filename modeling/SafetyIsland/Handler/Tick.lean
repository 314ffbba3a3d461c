import SafetyIsland.Handler.State
import SafetyIsland.Supervisor.State

/-! The MRM handler's callbacks and its timer (`mrm_handler_core.cpp`). A
function that acts on the world returns what it does as a list of effects. -/
namespace SafetyIsland.Handler

/-- `static_cast<int64_t>` of a double: toward zero. -/
def toInt64 (q : ℚ) : Int := q.num.tdiv q.den

section Read
variable (p : Param) (h : Handler)

def isStopped : Bool := h.hasOdom && decide (|h.odomSpeed| < 1 / 1000)

def isControlModeAutonomous : Bool := h.hasControlMode && h.controlMode == controlAutonomous

def isComfortableStopStatusAvailable : Bool :=
  h.hasComfortableStopStatus && h.comfortableStopStatus != statusNotAvailable

def isEmergencyStopStatusAvailable : Bool :=
  h.hasEmergencyStopStatus && h.emergencyStopStatus != statusNotAvailable

def isArrivedAtGoal : Bool := h.hasOperationMode && h.operationMode == modeStop

def getCurrentOperationMode : U8 := if h.hasOperationMode then h.operationMode else modeUnknown

def isAvailableCurrentOperationMode : Bool :=
  let mode := h.getCurrentOperationMode
  if mode = modeUnknown then false
  else if mode = modeStop then h.availability.stop
  else if mode = modeAutonomous then h.availability.autonomous
  else if mode = modeLocal then h.availability.localMode
  else if mode = modeRemote then h.availability.remote
  else false

def isInputLost : Bool := h.isAvailabilityTimeout || h.isInitFailed || h.isSupervisorLatched

def isEmergency : Bool :=
  !h.isAvailableCurrentOperationMode || h.isEmergencyHolding || h.isInputLost

def getCurrentMrmBehavior : MrmState.Behavior :=
  match h.mrmState.behavior with
  | .none | .pullOver =>
      if h.isInputLost then .emergencyStop
      else if h.availability.pullOver && p.usePullOver then .pullOver
      else if h.availability.comfortableStop && p.useComfortableStop then .comfortableStop
      else .emergencyStop
  | .comfortableStop =>
      if h.isInputLost then .emergencyStop
      else if h.isStopped && h.availability.pullOver && p.usePullOver then .pullOver
      else if h.availability.comfortableStop && p.useComfortableStop then .comfortableStop
      else .emergencyStop
  | .emergencyStop =>
      if h.isInputLost then .emergencyStop
      else if h.isStopped && h.availability.pullOver && p.usePullOver then .pullOver
      else .emergencyStop

end Read

/-- `onOperationModeAvailability`: the sample, the readings of `now_sec()` at
its stamp, where the mode becomes unavailable and for the duration, and the
uptime the hpc_loss due is counted from and armed at. -/
def onOperationModeAvailability (cfg : Config) (p : Param) (msg : OperationModeAvailability)
    (stampSec unavailableSec durationSec : ℚ) (callMs armMs : Int) (h : Handler) :
    Handler × List Effect :=
  let effects := if h.monitorsArmedUptimeMs ≠ 0 then
      [.arm armMs 0
        (callMs + toInt64 (Double.mul p.timeoutOperationModeAvailability 1000) + cfg.callMrmMs)]
    else []
  let h := { h with
    stampAvailability := stampSec
    arrivalsAvailability := h.arrivalsAvailability.note stampSec
    availability := msg
    hasAvailability := true }
  if !p.useEmergencyHolding || h.isEmergencyHolding then (h, effects)
  else if h.isAvailableCurrentOperationMode then
    ({ h with hasStampBecomeUnavailable := false }, effects)
  else
    let h := if h.hasStampBecomeUnavailable then h
      else { h with stampBecomeUnavailable := unavailableSec, hasStampBecomeUnavailable := true }
    ({ h with isEmergencyHolding :=
        decide (Double.sub durationSec h.stampBecomeUnavailable > p.timeoutEmergencyRecovery) },
      effects)

def onOdometry (linearX : ℚ) (noteMs : Int) (h : Handler) : Handler × List Effect :=
  ({ h with odomSpeed := linearX, hasOdom := true },
    [.noteSpeed noteMs (BitVec.ofInt 32 (toInt64 (Double.mul |linearX| 1000)))])

def onControlMode (mode : U8) (h : Handler) : Handler :=
  { h with controlMode := mode, hasControlMode := true }

def onComfortableStopStatus (state : U8) (sec : ℚ) (h : Handler) : Handler :=
  let h := { h with comfortableStopStatus := state, hasComfortableStopStatus := true }
  { h with arrivalsComfortableStop :=
      if h.isComfortableStopStatusAvailable then h.arrivalsComfortableStop.note sec
      else h.arrivalsComfortableStop.reset }

def onEmergencyStopStatus (state : U8) (sec : ℚ) (h : Handler) : Handler :=
  let h := { h with emergencyStopStatus := state, hasEmergencyStopStatus := true }
  { h with arrivalsEmergencyStop :=
      if h.isEmergencyStopStatusAvailable then h.arrivalsEmergencyStop.note sec
      else h.arrivalsEmergencyStop.reset }

def onOperationModeState (mode : U8) (h : Handler) : Handler :=
  { h with operationMode := mode, hasOperationMode := true }

/-- The samples the handler takes, with the readings their callbacks make. -/
inductive Input where
  | operationModeAvailability (msg : OperationModeAvailability)
      (stampSec unavailableSec durationSec : ℚ) (callMs armMs : Int)
  | odometry (linearX : ℚ) (noteMs : Int)
  | controlMode (mode : U8)
  | comfortableStopStatus (state : U8) (sec : ℚ)
  | emergencyStopStatus (state : U8) (sec : ℚ)
  | operationModeState (mode : U8)

def take (cfg : Config) (p : Param) (h : Handler) : Input → Handler × List Effect
  | .operationModeAvailability msg stampSec unavailableSec durationSec callMs armMs =>
      onOperationModeAvailability cfg p msg stampSec unavailableSec durationSec callMs armMs h
  | .odometry linearX noteMs => onOdometry linearX noteMs h
  | .controlMode mode => (onControlMode mode h, [])
  | .comfortableStopStatus state sec => (onComfortableStopStatus state sec h, [])
  | .emergencyStopStatus state sec => (onEmergencyStopStatus state sec h, [])
  | .operationModeState mode => (onOperationModeState mode h, [])

def isEstablished (a : Arrivals) (window now : ℚ) : Bool :=
  decide (2 ≤ a.count) && decide (Double.sub a.last a.prev ≤ window) &&
    decide (Double.sub now a.last ≤ window)

/-- `getUnestablishedInputs`: the inputs never heard, and those not steady. -/
def getUnestablishedInputs (p : Param) (now : ℚ) (h : Handler) :
    List RequiredInput × List RequiredInput :=
  let window := p.timeoutOperationModeAvailability
  let judge (input : RequiredInput) (has : Bool) (a : Arrivals) :
      List RequiredInput × List RequiredInput :=
    if !has then ([input], []) else if !isEstablished a window now then ([], [input]) else ([], [])
  let availability := judge .operationModeAvailability h.hasAvailability h.arrivalsAvailability
  let mode := if h.hasOperationMode then [] else [RequiredInput.operationModeState]
  let comfortable := if p.useComfortableStop then
      judge .comfortableStopStatus h.hasComfortableStopStatus h.arrivalsComfortableStop
    else ([], [])
  let emergency := judge .emergencyStopStatus h.hasEmergencyStopStatus h.arrivalsEmergencyStop
  (availability.1 ++ mode ++ comfortable.1 ++ emergency.1,
    availability.2 ++ comfortable.2 ++ emergency.2)

def armContractMonitors (uptimeMs : U32) (h : Handler) : Handler :=
  { h with monitorsArmedUptimeMs := uptimeMs }

/-- `updatePhase`; false while the tick must stay silent. -/
def updatePhase (p : Param) (env : Env) (h : Handler) : Handler × Bool :=
  let unestablished := getUnestablishedInputs p env.establishedSec h
  let established := unestablished.1.isEmpty && unestablished.2.isEmpty
  let sinceBoot := Double.sub env.phaseSec h.stampBoot
  match h.phase with
  | .run =>
      if h.isInitFailed && established then
        (armContractMonitors env.monitorsMs { h with isInitFailed := false }, true)
      else (h, true)
  | .init =>
      if established then (armContractMonitors env.monitorsMs { h with phase := .run }, true)
      else if sinceBoot ≥ p.initTimeout then
        ({ h with phase := .run, isInitFailed := true }, true)
      else (h, false)

def checkOperationModeAvailabilityTimeout (p : Param) (now : ℚ) (h : Handler) : Handler :=
  { h with isAvailabilityTimeout :=
      decide (Double.sub now h.stampAvailability > p.timeoutOperationModeAvailability) }

/-- `requestMrmBehavior`; true when the request was sent, or needs no operator. -/
def requestMrmBehavior (cfg : Config) (o : Outcome) (behavior : MrmState.Behavior)
    (type : RequestType) : List Effect × Bool :=
  if !o.serialized then ([.request behavior type false], false)
  else
    match behavior with
    | .none => ([.request behavior type false], true)
    | .pullOver => ([.request behavior type false], false)
    | .comfortableStop =>
        if !o.sent then ([.request behavior type false], false)
        else
          let supervise := match type with
            | .call => Effect.arm o.armMs 2 (o.callMs + cfg.comfortableMs + cfg.observeMs)
            | .cancel => Effect.done 2
          ([.request behavior type true, supervise], true)
    | .emergencyStop =>
        let supervise := match type with
          | .call => Effect.arm o.armMs 3 (o.callMs + cfg.emergencyMs + cfg.observeMs)
          | .cancel => Effect.done 3
        ([supervise, .request behavior type o.sent], o.sent)

def transitionTo (state : MrmState.State) (h : Handler) : Handler :=
  h.setMrmState { h.mrmState with state := state }

def setBehavior (behavior : MrmState.Behavior) (h : Handler) : Handler :=
  h.setMrmState { h.mrmState with behavior := behavior }

def handleFailedRequest (cfg : Config) (o : Outcome) (h : Handler) : Handler × List Effect :=
  let r := requestMrmBehavior cfg o .emergencyStop .call
  let h := if r.2 then
      if h.mrmState.state ≠ .mrmOperating then transitionTo .mrmOperating h else h
    else transitionTo .mrmFailed h
  (setBehavior .emergencyStop h, r.1)

/-- The CANCEL of the running behavior, the tick's first request. -/
def cancelRunning (cfg : Config) (env : Env) (h : Handler) : List Effect × Bool :=
  requestMrmBehavior cfg env.first h.mrmState.behavior .cancel

/-- The CALL of the behavior chosen, after the CANCEL. -/
def callCurrent (cfg : Config) (p : Param) (env : Env) (h : Handler) : List Effect × Bool :=
  requestMrmBehavior cfg env.second (h.getCurrentMrmBehavior p) .call

def operateMrm (cfg : Config) (p : Param) (env : Env) (h : Handler) : Handler × List Effect :=
  let cancel := cancelRunning cfg env h
  let refused := handleFailedRequest cfg env.second h
  match h.mrmState.state with
  | .normal =>
      if h.mrmState.behavior = .none then (h, [])
      else if cancel.2 then (setBehavior .none h, cancel.1)
      else (refused.1, cancel.1 ++ refused.2)
  | .mrmOperating =>
      let current := h.getCurrentMrmBehavior p
      let call := callCurrent cfg p env h
      let uncalled := handleFailedRequest cfg env.third h
      if current = h.mrmState.behavior then (h, [])
      else if !cancel.2 then (refused.1, cancel.1 ++ refused.2)
      else if call.2 then (setBehavior current h, cancel.1 ++ call.1)
      else (uncalled.1, cancel.1 ++ call.1 ++ uncalled.2)
  | .mrmSucceeded => (h, [])
  | .mrmFailed => (h, [])

def clearTakeoverRequest (h : Handler) : Handler :=
  h.setTakeover { h.takeover with isRequested := false }

/-- `updateTakeoverRequest`; true while the MRM must wait for the driver. -/
def updateTakeoverRequest (p : Param) (env : Env) (isAutonomous : Bool) (h : Handler) :
    Handler × Bool :=
  if !isAutonomous then
    (if h.takeover.isRequested then clearTakeoverRequest h else h, false)
  else if !p.useTakeoverRequest || h.takeover.isExpired ||
      h.getCurrentOperationMode != modeAutonomous then (h, false)
  else if h.isInputLost then
    (if h.takeover.isRequested then clearTakeoverRequest h else h, false)
  else if !h.takeover.isRequested then
    (h.setTakeover { h.takeover with isRequested := true, stamp := env.takeoverSec }, true)
  else if Double.sub env.takeoverSec h.takeover.stamp < p.takeoverRequestTimeout then (h, true)
  else (clearTakeoverRequest (h.setTakeover { h.takeover with isExpired := true }), false)

/-- `updateMrmState` with no emergency: back to NORMAL, and the next fault gets
a fresh window. -/
def clearFault (h : Handler) : Handler :=
  let h := if h.takeover.isRequested then clearTakeoverRequest h else h
  let h := h.setTakeover { h.takeover with isExpired := false }
  if h.mrmState.state ≠ .normal then transitionTo .normal h else h

/-- The standstill an MRM reached, as the supervisor is told of it. -/
def standstillDone : MrmState.Behavior → List Effect
  | .comfortableStop => [.done 2]
  | .emergencyStop => [.done 3]
  | .none | .pullOver => []

/-- `updateMrmState`'s switch over the state, in an emergency. -/
def advance (p : Param) (env : Env) (h : Handler) : Handler × List Effect :=
  match h.mrmState.state with
  | .normal =>
      let waiting := updateTakeoverRequest p env h.isControlModeAutonomous h
      if waiting.2 then (waiting.1, [])
      else if h.isControlModeAutonomous then (transitionTo .mrmOperating waiting.1, [])
      else (waiting.1, [])
  | .mrmOperating =>
      if !h.isStopped then (h, [])
      else if h.mrmState.behavior ≠ .pullOver ∨ h.isArrivedAtGoal then
        (transitionTo .mrmSucceeded h, standstillDone h.mrmState.behavior)
      else (h, standstillDone h.mrmState.behavior)
  | .mrmSucceeded =>
      (if h.mrmState.behavior ≠ h.getCurrentMrmBehavior p then transitionTo .mrmOperating h
        else h, [])
  | .mrmFailed => (h, [])

def updateMrmState (p : Param) (env : Env) (h : Handler) : Handler × List Effect :=
  if h.isSupervisorLatched && env.vehicleFault then
    (setBehavior .emergencyStop (transitionTo (Judge.mrmState h.mrmState.state true) h), [])
  else if !h.isEmergency then (clearFault h, [])
  else advance p env h

def publishMrmState (env : Env) (h : Handler) : List Effect :=
  if h.isSupervisorLatched && env.resumedAtState then [] else [.mrmState h.mrmState]

def publishTakeoverRequestState (p : Param) (h : Handler) : List Effect :=
  [.takeoverRequestState <|
    if !p.useTakeoverRequest then statusNotAvailable
    else if h.takeover.isRequested then statusOperating else statusAvailable]

def publishHazardCmd (p : Param) (env : Env) (h : Handler) : List Effect :=
  if h.isSupervisorLatched && env.resumedAtHazard then []
  else [.hazardLightsCmd <|
    if p.turningHazardOnEmergency && h.isEmergency then hazardEnable else hazardNoCommand]

def Param.periodMs (p : Param) : U32 := BitVec.ofInt 32 (Int.tdiv 1000 p.updateRate)

/-- What a RUN tick decides on: the stream's timeout and the latch are read. -/
def judged (p : Param) (env : Env) (h : Handler) : Handler :=
  { checkOperationModeAvailabilityTimeout p env.timeoutSec h with
    isSupervisorLatched := env.latched }

def respond (cfg : Config) (p : Param) (env : Env) (h : Handler) : Handler × List Effect :=
  let updated := updateMrmState p env h
  let operated := operateMrm cfg p env updated.1
  (operated.1, updated.2 ++ operated.2)

/-- What a RUN tick publishes and reports once it has responded. -/
def announce (p : Param) (env : Env) (h : Handler) : List Effect :=
  publishMrmState env h ++ publishTakeoverRequestState p h ++
    (if h.isAvailabilityTimeout then [.done 0] else []) ++ publishHazardCmd p env h ++
    (if h.isSupervisorLatched then [.handover env.handoverMs 0 p.periodMs] else [])

/-- A RUN tick, from where it decides on. -/
def runTick (cfg : Config) (p : Param) (env : Env) (h : Handler) : Handler × List Effect :=
  let r := respond cfg p env h
  (r.1, r.2 ++ announce p env r.1)

def onTimer (cfg : Config) (p : Param) (env : Env) (h : Handler) : Handler × List Effect :=
  let phase := updatePhase p env h
  if !phase.2 then (phase.1, []) else runTick cfg p env (judged p env phase.1)

/-- `direct_emergency`: the handler's direct path, on the reaction thread. -/
def directEmergency (vehicleFault : Bool) : List Effect :=
  [.mrmState { state := Judge.mrmState .mrmOperating vehicleFault, behavior := .emergencyStop },
    .hazardLightsCmd hazardEnable]

end SafetyIsland.Handler
