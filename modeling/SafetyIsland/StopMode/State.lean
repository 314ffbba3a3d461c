import SafetyIsland.General.Double
import SafetyIsland.Operator.State

/-! The stop mode operator (`autoware_stop_mode_operator`): its standstill
condition, its callbacks and its timer. A double is the rational it stands
for. -/
namespace SafetyIsland

structure ContinuousCondition where
  hasLast : Bool := false
  hasStart : Bool := false
  lastStamp : ℚ := 0
  startStamp : ℚ := 0
  deriving DecidableEq, Repr

namespace ContinuousCondition

def update (stampSec : ℚ) (condition : Bool) (c : ContinuousCondition) : ContinuousCondition :=
  if !condition then { c with hasLast := false, hasStart := false }
  else
    let c := { c with lastStamp := stampSec, hasLast := true }
    if !c.hasStart then { c with startStamp := stampSec, hasStart := true } else c

def updateTimeout (stampSec timeout : ℚ) (c : ContinuousCondition) : ContinuousCondition :=
  if c.hasLast then
    if timeout ≤ Double.sub stampSec c.lastStamp then { c with hasLast := false, hasStart := false }
    else c
  else c

def check (stampSec duration : ℚ) (c : ContinuousCondition) : Bool :=
  if !c.hasStart then false else decide (duration ≤ Double.sub stampSec c.startStamp)

end ContinuousCondition

namespace StopMode

def nowSec (ns : Int) : ℚ := Double.seconds ns

def routeUnknown : U8 := 0
def routeUnset : U8 := 2
def routeArrived : U8 := 6

def gearNone : U8 := 0
def gearPark : U8 := 22

def turnDisable : U8 := 1
def hazardDisable : U8 := 1

def vehicleStopDuration : ℚ := 1
def vehicleStopTimeout : ℚ := 1

/-- The parameters the constructor declares, less the timer's rate. -/
structure Parameters where
  stopHoldAcceleration : ℚ := -3 / 2
  enableAutoParking : Bool := true
  deriving DecidableEq, Repr

/-- What a tick publishes. -/
inductive Effect where
  | control (c : Control)
  | gear (stamp : Time) (command : U8)
  | turnIndicators (stamp : Time) (command : U8)
  | hazardLights (stamp : Time) (command : U8)
  deriving DecidableEq, Repr

end StopMode

/-- `StopModeOperator`'s members. -/
structure StopMode where
  /-- `current_steering_.steering_tire_angle` -/
  currentSteering : ℚ := 0
  /-- `current_route_state_.state` -/
  currentRouteState : U8 := StopMode.routeUnknown
  vehicleStopCheck : ContinuousCondition := {}
  deriving DecidableEq, Repr

namespace StopMode

def onSteering (steeringTireAngle : ℚ) (m : StopMode) : StopMode :=
  { m with currentSteering := steeringTireAngle }

/-- The test of a sample in `on_velocity`. -/
def stopped (longitudinalVelocity : ℚ) : Bool := decide (|longitudinalVelocity| < 1 / 1000)

/-- `on_velocity`, its clock read at `ns`. -/
def onVelocity (ns : Int) (longitudinalVelocity : ℚ) (m : StopMode) : StopMode :=
  { m with vehicleStopCheck :=
      m.vehicleStopCheck.update (nowSec ns) (stopped longitudinalVelocity) }

def onRouteState (state : U8) (m : StopMode) : StopMode := { m with currentRouteState := state }

/-- The clock as a tick reads it, in this order. -/
structure Env where
  timeoutNs : Int
  controlNs : Int
  checkNs : Int
  gearNs : Int
  turnIndicatorsNs : Int
  hazardLightsNs : Int
  deriving DecidableEq, Repr

def controlCommand (p : Parameters) (ns : Int) (m : StopMode) : Control where
  stamp := Operator.nowStamp ns
  lateral :=
    { stamp := Operator.nowStamp ns
      steeringTireAngle := m.currentSteering
      steeringTireRotationRate := 0 }
  longitudinal :=
    { stamp := Operator.nowStamp ns
      velocity := 0
      acceleration := p.stopHoldAcceleration }

def parking (p : Parameters) (checkNs : Int) (m : StopMode) : Bool :=
  if p.enableAutoParking then
    let parkingVehicleStop := m.vehicleStopCheck.check (nowSec checkNs) vehicleStopDuration
    let parkingRouteState :=
      m.currentRouteState == routeUnset || m.currentRouteState == routeArrived
    parkingRouteState && parkingVehicleStop
  else false

def onTimer (p : Parameters) (env : Env) (m : StopMode) : StopMode × List Effect :=
  let m := { m with vehicleStopCheck :=
    m.vehicleStopCheck.updateTimeout (nowSec env.timeoutNs) vehicleStopTimeout }
  (m,
    [.control (controlCommand p env.controlNs m),
      .gear (Operator.nowStamp env.gearNs)
        (if parking p env.checkNs m then gearPark else gearNone),
      .turnIndicators (Operator.nowStamp env.turnIndicatorsNs) turnDisable,
      .hazardLights (Operator.nowStamp env.hazardLightsNs) hazardDisable])

end StopMode
end SafetyIsland
