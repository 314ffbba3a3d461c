import SafetyIsland.Operator.State

/-! The comfortable stop operator (`mrm_comfortable_stop_operator_core.cpp`):
its messages and its callbacks. Numbers are rationals and nothing is
rounded. -/
namespace SafetyIsland

structure VelocityLimitConstraints where
  maxAcceleration : ℚ := 0
  minAcceleration : ℚ := 0
  maxJerk : ℚ := 0
  minJerk : ℚ := 0
  deriving DecidableEq, Repr

structure VelocityLimit where
  stamp : Time := {}
  maxVelocity : ℚ := 0
  useConstraints : Bool := false
  constraints : VelocityLimitConstraints := {}
  sender : String := ""
  deriving DecidableEq, Repr

structure VelocityLimitClearCommand where
  stamp : Time := {}
  command : Bool := false
  sender : String := ""
  deriving DecidableEq, Repr

/-- `MrmComfortableStopOperator`'s one member, `status_.state`. -/
structure ComfortableStop where
  status : U8 := statusAvailable
  deriving DecidableEq, Repr

namespace ComfortableStop

structure Parameters where
  updateRate : Int
  minAcceleration : ℚ
  maxJerk : ℚ
  minJerk : ℚ

def Parameters.declared : Parameters where
  updateRate := 10
  minAcceleration := -1
  maxJerk := 3 / 10
  minJerk := -3 / 10

inductive Effect where
  | velocityLimit (limit : VelocityLimit)
  | velocityLimitClear (clear : VelocityLimitClearCommand)
  | status (stamp : Time) (state : U8)
  deriving DecidableEq, Repr

def sender : String := "mrm_comfortable_stop_operator"

def publishVelocityLimit (p : Parameters) (stampNs : Int) : Effect :=
  .velocityLimit
    { stamp := Operator.nowStamp stampNs
      maxVelocity := 0
      useConstraints := true
      constraints :=
        { minAcceleration := p.minAcceleration, maxJerk := p.maxJerk, minJerk := p.minJerk }
      sender := sender }

def publishVelocityLimitClearCommand (stampNs : Int) : Effect :=
  .velocityLimitClear { stamp := Operator.nowStamp stampNs, command := true, sender := sender }

def operateComfortableStop (p : Parameters) (stampNs : Int) (operate : Bool)
    (o : ComfortableStop) : ComfortableStop × List Effect :=
  if operate then
    ({ o with status := statusOperating }, [publishVelocityLimit p stampNs])
  else
    ({ o with status := statusAvailable }, [publishVelocityLimitClearCommand stampNs])

def publishStatus (stampNs : Int) (o : ComfortableStop) : Effect :=
  .status (Operator.nowStamp stampNs) o.status

def onTimer (stampNs : Int) (o : ComfortableStop) : List Effect := [publishStatus stampNs o]

end ComfortableStop
end SafetyIsland
