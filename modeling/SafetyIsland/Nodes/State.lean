import SafetyIsland.Braking.State
import SafetyIsland.Comfortable.State
import SafetyIsland.General.Mailbox
import SafetyIsland.Island.State

/-! The island's three nodes of the minimal risk manoeuvre, and the supervisor:
the handler asks the two stop operators over services whose requests are on
their way for any time, and may be lost. A step of one node can fall between
any two steps of another. -/
namespace SafetyIsland

structure Nodes where
  island : Island
  comfortable : ComfortableStop := {}
  emergency : Operator
  /-- The requests to each operator. -/
  requests : MrmState.Behavior → Mailbox Handler.RequestType := fun _ => {}

namespace Nodes
open MrmState (Behavior)
open Handler (RequestType)

/-- The parameters of the nodes, and the image's. -/
structure Setup where
  config : Config
  handler : Handler.Param
  comfortable : ComfortableStop.Parameters
  emergency : Operator.Parameters

def Setup.declared : Setup where
  config := Config.image
  handler := .declared
  comfortable := .declared
  emergency := .declared

inductive Event where
  /-- A step of the handler or of the supervisor; a pass stamps its braking
  commands at `stampNs`. -/
  | island (e : Island.Event) (stampNs : Int)
  /-- The oldest request on its way to an operator arrives there, or is lost. -/
  | request (behavior : Behavior) (arrives : Bool) (stampNs : Int)
  | comfortableTimer (stampNs : Int)
  | controlCommand (msg : Control)
  | emergencyTimer (ns : Int)

/-- What a step of the handler's callback does to the world. -/
def performed (i : Island) : Island.Event → List Handler.Effect
  | .act => i.pending.take 1
  | _ => []

/-- A request that was sent is on its way. -/
def post (requests : Behavior → Mailbox RequestType) :
    Handler.Effect → Behavior → Mailbox RequestType
  | .request behavior type true =>
      Function.update requests behavior ((requests behavior).send type)
  | _ => requests

/-- The direct path's calls, in a pass. -/
def directCalls (cfg : Config) (i : Island) : Island.Event → List Supervisor.DirectCall
  | .supervisor (.pass pass) => (Supervisor.pass cfg pass i.supervisor).2
  | _ => []

/-- An operator serves a request; the comfortable stop publishes for it. -/
def operate (c : Setup) (stampNs : Int) (behavior : Behavior) (type : RequestType) (n : Nodes) :
    Nodes × List ComfortableStop.Effect :=
  match behavior with
  | .comfortableStop =>
      let x := ComfortableStop.operateComfortableStop c.comfortable stampNs (type == .call)
        n.comfortable
      ({ n with comfortable := x.1 }, x.2)
  | .emergencyStop =>
      ({ n with emergency := Operator.operateEmergencyStop (type == .call) n.emergency }, [])
  | .none | .pullOver => (n, [])

/-- The oldest request to an operator leaves its channel. -/
def request (c : Setup) (behavior : Behavior) (arrives : Bool) (stampNs : Int) (n : Nodes) :
    Nodes × List ComfortableStop.Effect :=
  let left :=
    { n with
      requests := Function.update n.requests behavior ((n.requests behavior).take arrives) }
  match arrives, (n.requests behavior).inFlight with
  | true, type :: _ => operate c stampNs behavior type left
  | _, _ => (left, [])

def next (c : Setup) (n : Nodes) : Event → Nodes
  | .island e stampNs =>
      { n with
        island := Island.next c.config c.handler n.island e
        emergency := (Braking.serveCalls stampNs (directCalls c.config n.island e) n.emergency).1
        requests := (performed n.island e).foldl post n.requests }
  | .request behavior arrives stampNs => (request c behavior arrives stampNs n).1
  | .comfortableTimer _ => n
  | .controlCommand msg => { n with emergency := Operator.onControlCommand msg n.emergency }
  | .emergencyTimer ns =>
      let x := Operator.onTimer c.emergency (Braking.readEnv c.emergency ns n.island.supervisor)
        n.emergency
      { n with
        island := { n.island with
          supervisor := x.2.foldl (Braking.serve ns) n.island.supervisor }
        emergency := x.1 }

/-- What a step publishes on `/system/emergency/control_cmd`. -/
def commands (c : Setup) (n : Nodes) : Event → List Control
  | .island e stampNs =>
      (Braking.serveCalls stampNs (directCalls c.config n.island e) n.emergency).2
  | .emergencyTimer ns =>
      (Operator.onTimer c.emergency (Braking.readEnv c.emergency ns n.island.supervisor)
        n.emergency).2.filterMap Operator.Effect.command?
  | _ => []

/-- What it publishes there brakes, and is not the last control command passed
through. -/
def brakes (n : Nodes) : Event → Bool
  | .emergencyTimer _ => n.emergency.status == statusOperating
  | _ => true

/-- What a step publishes for the handler. -/
def published (c : Setup) (n : Nodes) : Event → List Handler.Effect
  | .island e _ => Island.published c.config n.island e
  | _ => []

/-- What a step publishes for the comfortable stop. -/
def limits (c : Setup) (n : Nodes) : Event → List ComfortableStop.Effect
  | .request behavior arrives stampNs => (request c behavior arrives stampNs n).2
  | .comfortableTimer stampNs => ComfortableStop.onTimer stampNs n.comfortable
  | _ => []

/-- The `mrm_state` that the vehicle command gate goes by, after an effect. -/
def gateAfter (gate : Option MrmState) : Handler.Effect → Option MrmState
  | .mrmState m => some m
  | _ => gate

/-- The last velocity limit command, a limit or a clear command, after an effect. -/
def limitAfter (limit : Option ComfortableStop.Effect) :
    ComfortableStop.Effect → Option ComfortableStop.Effect
  | .status _ _ => limit
  | e => some e

structure History where
  island : Island.History := {}
  /-- The last `mrm_state` published. -/
  gate : Option MrmState := none
  /-- The last velocity limit command published. -/
  limit : Option ComfortableStop.Effect := none

def note (c : Setup) (h : History) (n : Nodes) (e : Event) (t : Nodes) : History where
  island := match e with
    | .island e _ => h.island.note c.config n.island e t.island
    | _ => h.island
  gate := (published c n e).foldl gateAfter h.gate
  limit := (limits c n e).foldl limitAfter h.limit

abbrev World := Transition.Observed Nodes History

def World.boot (c : Setup) (sec : ℚ) : World where
  state :=
    { island := { handler := Handler.construct sec }
      emergency := Operator.construct c.emergency }
  history := {}

def World.step (c : Setup) : World → Event → World := Transition.observe (next c) (note c)

/-- The handler and the supervisor of the nodes. -/
def World.island (w : World) : Island.World := ⟨w.state.island, w.history.island⟩

/-- What the gate goes by opens it to the emergency commands. -/
def World.gateOpen (w : World) : Bool :=
  w.history.gate.any Judge.gateEmergency

section Step
variable (c : Setup) (w : World)

@[simp] theorem World.step_state (e : Event) : (w.step c e).state = next c w.state e := rfl

@[simp] theorem World.step_history (e : Event) :
    (w.step c e).history = note c w.history w.state e (next c w.state e) := rfl

end Step

end Nodes
end SafetyIsland
