import SafetyIsland.Operator.AnyClock
import SafetyIsland.Slots.Owner

/-! The emergency operator and the supervisor on one braking command: both
publish on `/system/emergency/control_cmd`, the operator from its tick and the
direct path from the reaction thread. A tick is one step here; one clock is
read in nanoseconds by the stamps and in milliseconds by the uptime. -/
namespace SafetyIsland

structure Braking where
  operator : Operator
  supervisor : Supervisor

namespace Braking
open Operator (Parameters Effect)

/-- The uptime while the clock stands at `ns`. -/
def uptimeMs (ns : Int) : Int := ns / 1000000

inductive Event where
  | controlCommand (msg : Control)
  | operate (operate : Bool)
  /-- The operator's tick. -/
  | tick (ns : Int)
  /-- A pass of the reaction thread, and the clock where it stamps the braking
  command. -/
  | pass (p : Supervisor.Pass) (stampNs : Int)
  /-- Any other call to the supervisor, or one of its interrupts. -/
  | call (e : Supervisor.Event)

/-- The handover the operator's tick makes, if it makes one. -/
def handover (p : Parameters) (ns : Int) (s : Supervisor) : Supervisor × Bool :=
  Supervisor.handover (uptimeMs ns) 1 p.periodMs s

/-- What the operator's tick reads of the supervisor. -/
def readEnv (p : Parameters) (ns : Int) (s : Supervisor) : Operator.Env where
  latched := s.latch.latched
  granted := (handover p ns s).2
  sinceNs := ns
  stampNs := ns

/-- What an effect of the tick does to the supervisor. -/
def serve (ns : Int) (s : Supervisor) : Effect → Supervisor
  | .handover periodMs => (Supervisor.handover (uptimeMs ns) 1 periodMs s).1
  | .controlCmd _ | .status _ => s

/-- One call of `direct_brake`, and what has been published so far. -/
def serveCall (stampNs : Int) (x : Operator × List Control) (call : Supervisor.DirectCall) :
    Operator × List Control :=
  if call.slot = .operator then
    let y := Operator.directBrake call.seq call.sinceLatchMs stampNs x.1.direct
    ({ x.1 with direct := y.1 }, x.2 ++ [y.2])
  else x

/-- The direct path's calls of a pass. -/
def serveCalls (stampNs : Int) (calls : List Supervisor.DirectCall) (o : Operator) :
    Operator × List Control :=
  calls.foldl (serveCall stampNs) (o, [])

def next (cfg : Config) (p : Parameters) (k : Braking) : Event → Braking
  | .controlCommand msg => { k with operator := Operator.onControlCommand msg k.operator }
  | .operate operate => { k with operator := Operator.operateEmergencyStop operate k.operator }
  | .tick ns =>
      let x := Operator.onTimer p (readEnv p ns k.supervisor) k.operator
      { operator := x.1, supervisor := x.2.foldl (serve ns) k.supervisor }
  | .pass pass stampNs =>
      let r := Supervisor.pass cfg pass k.supervisor
      { operator := (serveCalls stampNs r.2 k.operator).1, supervisor := r.1 }
  | .call e => { k with supervisor := Supervisor.next cfg k.supervisor e }

/-- What an event publishes on `/system/emergency/control_cmd`. -/
def published (cfg : Config) (p : Parameters) (k : Braking) : Event → List Control
  | .tick ns =>
      (Operator.onTimer p (readEnv p ns k.supervisor) k.operator).2.filterMap Effect.command?
  | .pass pass stampNs =>
      (serveCalls stampNs (Supervisor.pass cfg pass k.supervisor).2 k.operator).2
  | _ => []

/-- A braking command, and not the last control command passed through. -/
def brakes (k : Braking) : Event → Bool
  | .tick _ => k.operator.status == statusOperating
  | _ => true

/-- The acceleration the direct path's first call starts from. -/
def seedAcceleration (k : Braking) : ℚ :=
  if k.operator.direct.seed.valid then k.operator.direct.seed.acceleration else 0

/-- The first call's ramp begins no higher than the last command. -/
def startsNoHigher (p : Parameters) (k : Braking) (call : Supervisor.DirectCall) (c : Control) :
    Bool :=
  decide (k.seedAcceleration + p.targetJerk * Operator.sinceLatch call.sinceLatchMs ≤
    max c.longitudinal.acceleration p.targetAcceleration)

/-- Every first call of a pass begins no higher than the last command. -/
def passAligned (cfg : Config) (p : Parameters) (k : Braking) (pass : Supervisor.Pass)
    (last : Option Control) : Bool :=
  (Supervisor.pass cfg pass k.supervisor).2.all fun call =>
    call.slot != .operator || call.seq != 0 || last.all (startsNoHigher p k call)

structure History where
  clock : Int := 0
  /-- What has been published from the first braking command on. -/
  commands : List Control := []
  /-- No first call of the direct path has begun higher than the last command. -/
  aligned : Bool := true

def note (cfg : Config) (p : Parameters) (h : History) (k : Braking) (e : Event) (_ : Braking) :
    History where
  clock := match e with
    | .tick ns => ns
    | .pass _ stampNs => stampNs
    | _ => h.clock
  commands :=
    if h.commands = [] ∧ k.brakes e = false then []
    else h.commands ++ published cfg p k e
  aligned := match e with
    | .pass pass _ => h.aligned && passAligned cfg p k pass h.commands.getLast?
    | _ => h.aligned

abbrev World := Transition.Observed Braking History

/-- The operator has just been constructed: its direct function is registered. -/
def World.boot (p : Parameters) (levels : Supervisor.Levels) : World where
  state :=
    { operator := Operator.construct p
      supervisor := { slots := fun _ => { registered := true }, levels := levels } }
  history := {}

def World.step (cfg : Config) (p : Parameters) : World → Event → World :=
  Transition.observe (next cfg p) (note cfg p)

/-- The supervisor's other callers report nothing for the operator's slot. -/
def Foreign : Supervisor.Event → Prop
  | .pass _ => False
  | .handover _ slot _ => slot ≠ 1
  | _ => True

instance (e : Supervisor.Event) : Decidable (Foreign e) :=
  match e with
  | .pass _ => isFalse id
  | .handover .. => by unfold Foreign; infer_instance
  | .arm .. | .done .. | .noteSpeed .. | .setDirect .. | .spin .. | .spinAfter .. | .timerExpiry
  | .swtTimeout | .hook .. => isTrue trivial

/-- The clock does not go back, no request cancels the stop, and the direct
path brakes less than 2^32 ms after the latch. -/
def Allowed (cfg : Config) (w : World) : Event → Prop
  | .controlCommand _ => True
  | .operate operate => operate = true
  | .tick ns => w.history.clock ≤ ns
  | .pass p stampNs =>
      p.Ordered (uptimeMs w.history.clock) ∧ w.history.clock ≤ stampNs ∧
        p.publishNow ≤ uptimeMs stampNs ∧
        p.publishNow - (Supervisor.pass cfg p w.state.supervisor).1.latch.ms < 2 ^ 32
  | .call e => Foreign e

instance (cfg : Config) (w : World) (e : Event) : Decidable (Allowed cfg w e) :=
  match e with
  | .controlCommand _ => isTrue trivial
  | .operate .. | .tick .. | .pass .. | .call .. => by unfold Allowed; infer_instance

section Step
variable (cfg : Config) (p : Parameters) (w : World) (e : Event)

@[simp] theorem World.step_state : (w.step cfg p e).state = next cfg p w.state e := rfl

@[simp] theorem World.step_history :
    (w.step cfg p e).history = note cfg p w.history w.state e (next cfg p w.state e) := rfl

end Step

end Braking
end SafetyIsland
