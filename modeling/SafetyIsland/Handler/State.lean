import SafetyIsland.General.Double
import SafetyIsland.Supervisor.Judge
import Mathlib.Data.Rat.Floor
import Mathlib.Tactic.Simps.Basic

/-! The MRM handler's messages, parameters and state
(`mrm_handler_core.hpp`). A double is the rational it stands for. The log lines,
the trace, the LED and button hooks and the debug hooks are left out: they
change nothing. -/
namespace SafetyIsland

abbrev U8 := BitVec 8

namespace MrmState

/-- `NORMAL = 1` to `MRM_FAILED = 4`; no code writes any other value. -/
inductive State where
  | normal
  | mrmOperating
  | mrmSucceeded
  | mrmFailed
  deriving DecidableEq, Repr

/-- `NONE = 1` to `PULL_OVER = 4`; no code writes any other value. -/
inductive Behavior where
  | none
  | emergencyStop
  | comfortableStop
  | pullOver
  deriving DecidableEq, Repr

end MrmState

/-- `autoware_adapi_v1_msgs/MrmState`, less its stamp. -/
@[ext]
structure MrmState where
  state : MrmState.State
  behavior : MrmState.Behavior
  deriving DecidableEq, Repr

namespace Judge

def mrmState (state : MrmState.State) (vehicleFault : Bool) : MrmState.State :=
  if vehicleFault then .mrmFailed else state

def gateEmergency (m : MrmState) : Bool :=
  (m.state == .mrmOperating || m.state == .mrmSucceeded || m.state == .mrmFailed) &&
    m.behavior == .emergencyStop

theorem gateEmergency_eq_true {m : MrmState} :
    gateEmergency m = true ↔ m.state ≠ .normal ∧ m.behavior = .emergencyStop := by
  obtain ⟨state, behavior⟩ := m
  cases state <;> simp [gateEmergency]

end Judge

/-- `tier4_system_msgs/OperationModeAvailability`, less its stamp. -/
structure OperationModeAvailability where
  stop : Bool := false
  autonomous : Bool := false
  localMode : Bool := false
  remote : Bool := false
  emergencyStop : Bool := false
  comfortableStop : Bool := false
  pullOver : Bool := false
  deriving DecidableEq, Repr

def modeUnknown : U8 := 0
def modeStop : U8 := 1
def modeAutonomous : U8 := 2
def modeLocal : U8 := 3
def modeRemote : U8 := 4

def controlAutonomous : U8 := 1

def statusNotAvailable : U8 := 0
def statusAvailable : U8 := 1
def statusOperating : U8 := 2

def hazardNoCommand : U8 := 0
def hazardEnable : U8 := 2

namespace Handler

/-- `Param`, less what no code reads. -/
structure Param where
  updateRate : Int
  timeoutOperationModeAvailability : ℚ
  useEmergencyHolding : Bool
  timeoutEmergencyRecovery : ℚ
  usePullOver : Bool
  useComfortableStop : Bool
  turningHazardOnEmergency : Bool
  useTakeoverRequest : Bool
  takeoverRequestTimeout : ℚ
  initTimeout : ℚ

def Param.declared : Param where
  updateRate := 10
  timeoutOperationModeAvailability := 1 / 2
  useEmergencyHolding := false
  timeoutEmergencyRecovery := 5
  usePullOver := false
  useComfortableStop := true
  turningHazardOnEmergency := true
  useTakeoverRequest := true
  takeoverRequestTimeout := 10
  initTimeout := 3

/-- `Arrivals`: the last two arrivals of a required input. -/
structure Arrivals where
  /-- saturates at 2 -/
  count : Nat := 0
  prev : ℚ := 0
  last : ℚ := 0
  deriving DecidableEq

namespace Arrivals

def note (t : ℚ) (a : Arrivals) : Arrivals where
  prev := a.last
  last := t
  count := if a.count < 2 then a.count + 1 else a.count

def reset (a : Arrivals) : Arrivals := { a with count := 0 }

end Arrivals

/-- The takeover request's members. -/
structure Takeover where
  isRequested : Bool := false
  isExpired : Bool := false
  stamp : ℚ := 0
  deriving DecidableEq

inductive Phase where
  | init
  | run
  deriving DecidableEq, Repr

inductive RequiredInput where
  | operationModeAvailability
  | operationModeState
  | comfortableStopStatus
  | emergencyStopStatus
  deriving DecidableEq, Repr

inductive RequestType where
  | call
  | cancel
  deriving DecidableEq, Repr

end Handler

/-- `MrmHandler`'s members, and the file's `island_monitors_armed_uptime_ms`. -/
structure Handler where
  availability : OperationModeAvailability := {}
  hasAvailability : Bool := false
  /-- `odom_.twist.twist.linear.x` -/
  odomSpeed : ℚ := 0
  hasOdom : Bool := false
  controlMode : U8 := 0
  hasControlMode : Bool := false
  comfortableStopStatus : U8 := 0
  hasComfortableStopStatus : Bool := false
  emergencyStopStatus : U8 := 0
  hasEmergencyStopStatus : Bool := false
  operationMode : U8 := 0
  hasOperationMode : Bool := false
  mrmState : MrmState := { state := .normal, behavior := .none }
  phase : Handler.Phase := .init
  stampBoot : ℚ
  isInitFailed : Bool := false
  isSupervisorLatched : Bool := false
  arrivalsAvailability : Handler.Arrivals := {}
  arrivalsComfortableStop : Handler.Arrivals := {}
  arrivalsEmergencyStop : Handler.Arrivals := {}
  stampAvailability : ℚ
  stampBecomeUnavailable : ℚ := 0
  hasStampBecomeUnavailable : Bool := false
  isAvailabilityTimeout : Bool := false
  takeover : Handler.Takeover := {}
  isEmergencyHolding : Bool := false
  monitorsArmedUptimeMs : U32 := 0

namespace Handler

def nowSec (ns : Int) : ℚ := Double.seconds ns

def construct (boot : ℚ) : Handler where
  stampBoot := boot
  stampAvailability := boot

section Set
variable (h : Handler)

@[simps -fullyApplied]
def setMrmState (m : MrmState) : Handler := { h with mrmState := m }

@[simps -fullyApplied]
def setTakeover (takeover : Takeover) : Handler := { h with takeover := takeover }

@[simp] theorem setMrmState_self : h.setMrmState h.mrmState = h := rfl

@[simp] theorem setMrmState_setMrmState (m m' : MrmState) :
    (h.setMrmState m).setMrmState m' = h.setMrmState m' := rfl

@[simp] theorem setTakeover_self : h.setTakeover h.takeover = h := rfl

@[simp] theorem setTakeover_setTakeover (x y : Takeover) :
    (h.setTakeover x).setTakeover y = h.setTakeover y := rfl

end Set

/-- What the handler does to the world: its requests, its publishes and its
calls to the supervisor, in order. -/
inductive Effect where
  /-- `requestMrmBehavior`, and whether a request went out. -/
  | request (behavior : MrmState.Behavior) (type : RequestType) (sent : Bool)
  /-- `island_supervisor_arm(route, due)`, which reads the uptime `now`. -/
  | arm (now : Int) (route : Nat) (due : Int)
  | done (route : Nat)
  | noteSpeed (now : Int) (speedMmS : U32)
  | handover (now : Int) (slot : Nat) (periodMs : U32)
  | mrmState (m : MrmState)
  | takeoverRequestState (state : U8)
  | hazardLightsCmd (command : U8)
  deriving DecidableEq, Repr

/-- How one request goes: `ffi_serialize`, the send, the uptime its due is
counted from and the uptime `island_supervisor_arm` reads. -/
structure Outcome where
  serialized : Bool
  sent : Bool
  callMs : Int
  armMs : Int
  deriving DecidableEq, Repr

/-- What one tick reads of the clocks and of the supervisor. -/
structure Env where
  /-- `now_sec()` of `getUnestablishedInputs`, `updatePhase`,
  `checkOperationModeAvailabilityTimeout` and `updateTakeoverRequest` -/
  establishedSec : ℚ
  phaseSec : ℚ
  timeoutSec : ℚ
  takeoverSec : ℚ
  /-- `k_uptime_get_32()` of `arm_contract_monitors` -/
  monitorsMs : U32
  /-- `island_supervisor_latched()` -/
  latched : Bool
  /-- `island_supervisor_vehicle_fault()` -/
  vehicleFault : Bool
  /-- `island_supervisor_resumed(0u)` of the two publishes -/
  resumedAtState : Bool
  resumedAtHazard : Bool
  /-- The tick's first, second and third request. -/
  first : Outcome
  second : Outcome
  third : Outcome
  /-- The uptime `island_supervisor_handover` reads. -/
  handoverMs : Int

end Handler
end SafetyIsland
