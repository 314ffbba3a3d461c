import SafetyIsland.Handler.State

/-! The emergency stop operator (`mrm_emergency_stop_operator_core.cpp`): its
messages, its half of the direct path and its callbacks. Numbers are rationals
and nothing is rounded; a time stamp's seconds do not overflow. -/
namespace SafetyIsland

structure Time where
  sec : Int := 0
  nanosec : Int := 0
  deriving DecidableEq, Repr

structure Lateral where
  stamp : Time := {}
  controlTime : Time := {}
  steeringTireAngle : ℚ := 0
  steeringTireRotationRate : ℚ := 0
  isDefinedSteeringTireRotationRate : Bool := false
  deriving DecidableEq, Repr

structure Longitudinal where
  stamp : Time := {}
  controlTime : Time := {}
  velocity : ℚ := 0
  acceleration : ℚ := 0
  jerk : ℚ := 0
  isDefinedAcceleration : Bool := false
  isDefinedJerk : Bool := false
  deriving DecidableEq, Repr

structure Control where
  stamp : Time := {}
  controlTime : Time := {}
  lateral : Lateral := {}
  longitudinal : Longitudinal := {}
  deriving DecidableEq, Repr

namespace Operator

structure Parameters where
  updateRate : Int
  targetAcceleration : ℚ
  targetJerk : ℚ

def Parameters.declared : Parameters where
  updateRate := 30
  targetAcceleration := -5 / 2
  targetJerk := -3 / 2

/-- `now_stamp`, where the clock it reads stands at `ns`. -/
def nowStamp (ns : Int) : Time where
  sec := ns / 1000000000
  nanosec := ns % 1000000000

def secondsSince (ns : Int) (before : Time) : ℚ :=
  let now := nowStamp ns
  ((now.sec : ℚ) - before.sec) + ((now.nanosec : ℚ) - before.nanosec) * (1 / 1000000000)

/-- `DirectBrake::Seed`: the last control command taken outside OPERATING. -/
structure Seed where
  velocity : ℚ := 0
  acceleration : ℚ := 0
  steering : ℚ := 0
  valid : Bool := false
  deriving DecidableEq, Repr

/-- `DirectBrake`, less its publisher and its lock. -/
structure DirectBrake where
  targetAcceleration : ℚ
  targetJerk : ℚ
  seed : Seed := {}
  v0 : ℚ := 0
  a0 : ℚ := 0
  steer : ℚ := 0
  last : Control := {}
  hasLast : Bool := false
  deriving DecidableEq, Repr

namespace DirectBrake

/-- `direct_brake`'s first call copies the seed. -/
def load (seq : U32) (d : DirectBrake) : DirectBrake :=
  if seq = 0 then
    { d with
      v0 := if d.seed.valid then d.seed.velocity else 0
      a0 := if d.seed.valid then d.seed.acceleration else 0
      steer := if d.seed.valid then d.seed.steering else 0 }
  else d

/-- `direct_brake`'s command, `t` seconds after the latch. -/
def command (stampNs : Int) (t : ℚ) (d : DirectBrake) : Control :=
  let A := d.targetAcceleration
  let J := d.targetJerk
  let a0 := if d.a0 < A then A else d.a0
  let tRamp := (A - a0) / J
  let acc := if t < tRamp then a0 + J * t else A
  let vel :=
    if t < tRamp then d.v0 + a0 * t + 1 / 2 * J * t * t
    else d.v0 + a0 * tRamp + 1 / 2 * J * tRamp * tRamp + A * (t - tRamp)
  let vel := if vel < 0 then 0 else vel
  { stamp := nowStamp stampNs
    longitudinal :=
      { stamp := nowStamp stampNs
        velocity := vel
        acceleration := acc
        jerk := if acc > A then J else 0 }
    lateral :=
      { stamp := nowStamp stampNs
        steeringTireAngle := d.steer
        steeringTireRotationRate := 0 } }

end DirectBrake

def sinceLatch (ms : U32) : ℚ := ms.toNat * (1 / 1000)

/-- `direct_brake`: what it publishes, and leaves for the takeover. -/
def directBrake (seq sinceLatchMs : U32) (stampNs : Int) (d : DirectBrake) :
    DirectBrake × Control :=
  let d := d.load seq
  let c := d.command stampNs (sinceLatch sinceLatchMs)
  ({ d with last := c, hasLast := true }, c)

/-- `dt` of `calcTargetAcceleration`: the clock-domain guard. -/
def guardedDt (rawDt : ℚ) : ℚ :=
  if rawDt < 0 then 0 else if rawDt > 1 / 10 then 1 / 10 else rawDt

/-- `calcTargetAcceleration`: the reading of `seconds_since`, and the one the
command is stamped by. -/
def calcTargetAcceleration (p : Parameters) (isPrevControlCmdSubscribed : Bool)
    (sinceNs stampNs : Int) (prev : Control) : Control :=
  if !isPrevControlCmdSubscribed then
    { stamp := nowStamp stampNs
      longitudinal :=
        { stamp := nowStamp stampNs
          velocity := 0
          acceleration := p.targetAcceleration
          jerk := 0 }
      lateral :=
        { stamp := nowStamp stampNs
          steeringTireAngle := 0
          steeringTireRotationRate := 0 } }
  else
    let dt := guardedDt (secondsSince sinceNs prev.stamp)
    { prev with
      stamp := nowStamp stampNs
      longitudinal := { prev.longitudinal with
        stamp := nowStamp stampNs
        velocity := max (prev.longitudinal.velocity + prev.longitudinal.acceleration * dt) 0
        acceleration :=
          max (prev.longitudinal.acceleration + p.targetJerk * dt) p.targetAcceleration
        jerk :=
          if prev.longitudinal.acceleration = p.targetAcceleration then 0 else p.targetJerk } }

end Operator

/-- `MrmEmergencyStopOperator`'s members, and the file's `g_direct_brake`. -/
structure Operator where
  status : U8 := statusAvailable
  prevControlCmd : Control := {}
  isPrevControlCmdSubscribed : Bool := false
  directTakenOver : Bool := false
  direct : Operator.DirectBrake

namespace Operator

def construct (p : Parameters) : Operator where
  direct := { targetAcceleration := p.targetAcceleration, targetJerk := p.targetJerk }

def onControlCommand (msg : Control) (o : Operator) : Operator :=
  if o.status ≠ statusOperating then
    { o with
      prevControlCmd := msg
      isPrevControlCmdSubscribed := true
      direct := { o.direct with seed :=
        { velocity := msg.longitudinal.velocity
          acceleration := msg.longitudinal.acceleration
          steering := msg.lateral.steeringTireAngle
          valid := true } } }
  else o

def operateEmergencyStop (operate : Bool) (o : Operator) : Operator :=
  { o with status := if operate then statusOperating else statusAvailable }

/-- What a tick does to the world. -/
inductive Effect where
  /-- `island_supervisor_handover(1, periodMs)` -/
  | handover (periodMs : U32)
  | controlCmd (c : Control)
  | status (state : U8)
  deriving DecidableEq, Repr

/-- What a tick reads of the supervisor and of the clocks. -/
structure Env where
  /-- `island_supervisor_latched()` -/
  latched : Bool
  /-- what `island_supervisor_handover` answers -/
  granted : Bool
  sinceNs : Int
  stampNs : Int
  deriving DecidableEq, Repr

def Parameters.periodMs (p : Parameters) : U32 := BitVec.ofInt 32 (Int.tdiv 1000 p.updateRate)

/-- The first OPERATING tick that reads the latch continues the direct path's
ramp. -/
def takeOver (latched : Bool) (o : Operator) : Operator :=
  if !o.directTakenOver && latched then
    if o.direct.hasLast then
      { o with
        directTakenOver := true
        prevControlCmd := o.direct.last
        isPrevControlCmdSubscribed := true }
    else { o with directTakenOver := true }
  else o

def onTimer (p : Parameters) (env : Env) (o : Operator) : Operator × List Effect :=
  if o.status = statusOperating then
    let o := takeOver env.latched o
    let report := if o.directTakenOver then [Effect.handover p.periodMs] else []
    if !o.directTakenOver || env.granted then
      let c := calcTargetAcceleration p o.isPrevControlCmdSubscribed env.sinceNs env.stampNs
        o.prevControlCmd
      ({ o with prevControlCmd := c }, report ++ [.controlCmd c, .status o.status])
    else (o, report ++ [.status o.status])
  else if !env.latched then (o, [.controlCmd o.prevControlCmd, .status o.status])
  else (o, [.status o.status])

end Operator
end SafetyIsland
