import SafetyIsland.Nodes.Gate

/-! Runs of the nodes: each operator stands as the last request that arrived
left it, the comfortable stop has published its limit last while it is
OPERATING, and the handler and the supervisor run as they do alone. -/
namespace SafetyIsland

open MrmState Transition

namespace Operator

@[simp] theorem onControlCommand_status (msg : Control) (o : Operator) :
    (onControlCommand msg o).status = o.status := by
  unfold onControlCommand
  split_ifs <;> rfl

@[simp] theorem takeOver_status (latched : Bool) (o : Operator) :
    (takeOver latched o).status = o.status := by
  unfold takeOver
  split_ifs <;> rfl

@[simp] theorem onTimer_status (p : Parameters) (env : Env) (o : Operator) :
    (onTimer p env o).1.status = o.status := by
  unfold onTimer
  dsimp only
  split_ifs <;> simp

/-- Outside OPERATING a command goes out only while nothing is latched. -/
theorem unlatched_of_command {p : Parameters} {env : Env} {o : Operator}
    (hStatus : o.status ≠ statusOperating)
    (hCommand : (onTimer p env o).2.filterMap Effect.command? ≠ []) : env.latched = false := by
  unfold onTimer at hCommand
  rw [if_neg hStatus] at hCommand
  cases hLatched : env.latched with
  | false => rfl
  | true => simp [hLatched, Effect.command?] at hCommand

end Operator

namespace Braking

@[simp] theorem serveCalls_status (stampNs : Int) (calls : List Supervisor.DirectCall)
    (o : Operator) : (serveCalls stampNs calls o).1.status = o.status := by
  have hFold (x : Operator × List Control) :
      (calls.foldl (serveCall stampNs) x).1.status = x.1.status := by
    induction calls generalizing x with
    | nil => rfl
    | cons call rest ih =>
        rw [List.foldl_cons, ih]
        unfold serveCall
        split_ifs <;> rfl
  exact hFold (o, [])

end Braking

namespace Nodes
open Handler (Effect RequestType)

/-- An operator stands as the last request that arrived left it. -/
structure Obeys (b : Mailbox RequestType) (status : U8) : Prop where
  arrived : ∀ type, b.left = some (type, true) → (status = statusOperating ↔ type = .call)
  untouched : b.left = none → status ≠ statusOperating

/-- What holds of the operators in every state of a run. -/
structure OperatorsInv (c : Setup) (n : Nodes) (limit : Option ComfortableStop.Effect) :
    Prop where
  comfortable : Obeys (n.requests .comfortableStop) n.comfortable.status
  emergency : Obeys (n.requests .emergencyStop) n.emergency.status
  limited : n.comfortable.status = statusOperating → ∃ stampNs,
    limit = some (ComfortableStop.publishVelocityLimit c.comfortable stampNs)
  cleared : n.comfortable.status ≠ statusOperating → limit = none ∨ ∃ stampNs,
    limit = some (ComfortableStop.publishVelocityLimitClearCommand stampNs)

section Obeys
variable {b : Mailbox RequestType} {status : U8}

theorem Obeys.congr {b' : Mailbox RequestType} (h : Obeys b status) (hLeft : b'.left = b.left) :
    Obeys b' status := by
  obtain ⟨hArrived, hUntouched⟩ := h
  rw [← hLeft] at hArrived hUntouched
  exact ⟨hArrived, hUntouched⟩

/-- A request that is lost leaves the operator's obedience open. -/
theorem Obeys.lost (h : Obeys b status) : Obeys (b.take false) status := by
  cases hInFlight : b.inFlight with
  | nil => exact h.congr (by rw [Mailbox.left_take, hInFlight])
  | cons type rest => constructor <;> simp [Mailbox.left_take, hInFlight]

/-- A request that arrives is obeyed. -/
theorem Obeys.served {type : RequestType} {rest : List RequestType}
    (hInFlight : b.inFlight = type :: rest) :
    Obeys (b.take true) (if type == .call then statusOperating else statusAvailable) := by
  constructor
  · intro last hLeft
    obtain rfl : type = last := by simpa [Mailbox.left_take, hInFlight] using hLeft
    cases type <;> decide
  · simp [Mailbox.left_take, hInFlight]

/-- A settled channel: its operator is OPERATING if it was called last. -/
theorem Obeys.of_settled (h : Obeys b status) (hSettled : b.Settled) :
    status = statusOperating ↔ b.sent = some .call := by
  constructor
  · intro hStatus
    cases hLeft : b.left with
    | none => exact absurd hStatus (h.untouched hLeft)
    | some last =>
        obtain ⟨type, arrives⟩ := last
        obtain rfl : arrives = true := hSettled.2 (type, arrives) hLeft
        obtain rfl := (h.arrived type hLeft).mp hStatus
        exact hSettled.sent_of_left hLeft
  · exact fun hSent => (h.arrived .call (hSettled.left_of_sent hSent)).mpr rfl

end Obeys

section Step
variable {c : Setup} {w : World} {e : Event}

/-- A request that is posted changes nothing of what has left. -/
theorem foldl_post_left (effects : List Effect) (requests : Behavior → Mailbox RequestType)
    (behavior : Behavior) :
    (effects.foldl post requests behavior).left = (requests behavior).left := by
  induction effects generalizing requests with
  | nil => rfl
  | cons e rest ih =>
      rw [List.foldl_cons, ih]
      cases e with
      | request other type sent =>
          cases sent with
          | false => rfl
          | true => by_cases hOther : behavior = other <;> simp [post, hOther]
      | _ => rfl

/-- The oldest request is served, or leaves with nothing done. -/
theorem request_cases (n : Nodes) (behavior : Behavior) (arrives : Bool) (stampNs : Int) :
    let left := { n with
      requests := Function.update n.requests behavior ((n.requests behavior).take arrives) }
    (∃ type rest, arrives = true ∧ (n.requests behavior).inFlight = type :: rest ∧
        n.request c behavior arrives stampNs = left.operate c stampNs behavior type) ∨
      (arrives = false ∨ (n.requests behavior).inFlight = []) ∧
        n.request c behavior arrives stampNs = (left, []) := by
  intro left
  unfold request
  cases arrives with
  | false => exact .inr ⟨.inl rfl, rfl⟩
  | true =>
      cases (n.requests behavior).inFlight with
      | nil => exact .inr ⟨.inr rfl, rfl⟩
      | cons type rest => exact .inl ⟨type, rest, rfl, rfl, rfl⟩

@[simp] theorem operate_requests (stampNs : Int) (behavior : Behavior) (type : RequestType)
    (n : Nodes) : (n.operate c stampNs behavior type).1.requests = n.requests := by
  cases behavior <;> rfl

@[simp] theorem operate_island (stampNs : Int) (behavior : Behavior) (type : RequestType)
    (n : Nodes) : (n.operate c stampNs behavior type).1.island = n.island := by
  cases behavior <;> rfl

@[simp] theorem request_requests (n : Nodes) (behavior : Behavior) (arrives : Bool)
    (stampNs : Int) : (n.request c behavior arrives stampNs).1.requests =
      Function.update n.requests behavior ((n.requests behavior).take arrives) := by
  rcases n.request_cases (c := c) behavior arrives stampNs with
    ⟨type, rest, -, -, hRequest⟩ | ⟨-, hRequest⟩ <;> simp [hRequest]

@[simp] theorem request_island (n : Nodes) (behavior : Behavior) (arrives : Bool)
    (stampNs : Int) : (n.request c behavior arrives stampNs).1.island = n.island := by
  rcases n.request_cases (c := c) behavior arrives stampNs with
    ⟨type, rest, -, -, hRequest⟩ | ⟨-, hRequest⟩ <;> simp [hRequest]

/-- A request is served or lost, and its operator stands as it was left. -/
theorem OperatorsInv.request {n : Nodes} {limit : Option ComfortableStop.Effect}
    (h : OperatorsInv c n limit) (behavior : Behavior) (arrives : Bool) (stampNs : Int) :
    OperatorsInv c (n.request c behavior arrives stampNs).1
      ((n.request c behavior arrives stampNs).2.foldl limitAfter limit) := by
  obtain ⟨hComfortable, hEmergency, hLimited, hCleared⟩ := h
  rcases n.request_cases (c := c) behavior arrives stampNs with
    ⟨type, rest, rfl, hInFlight, hRequest⟩ | ⟨hSilent, hRequest⟩
  · rw [hRequest]
    have hServed := Obeys.served hInFlight
    cases behavior with
    | comfortableStop =>
        have hDistinct : statusAvailable ≠ statusOperating := by decide
        cases type with
        | call =>
            refine ⟨hServed, by simpa [operate] using hEmergency, fun _ => ⟨stampNs, rfl⟩, ?_⟩
            exact fun hStatus => absurd rfl hStatus
        | cancel =>
            refine ⟨hServed, by simpa [operate] using hEmergency, ?_, fun _ => .inr ⟨stampNs, rfl⟩⟩
            exact fun hStatus => absurd hStatus hDistinct
    | emergencyStop =>
        refine ⟨by simpa [operate] using hComfortable, ?_, hLimited, hCleared⟩
        simpa [operate, Operator.operateEmergencyStop] using hServed
    | none | pullOver =>
        exact ⟨by simpa [operate] using hComfortable, by simpa [operate] using hEmergency, hLimited,
          hCleared⟩
  · rw [hRequest]
    have hLeft {other : Behavior} {status : U8} (hObeys : Obeys (n.requests other) status) :
        Obeys (Function.update n.requests behavior ((n.requests behavior).take arrives) other)
          status := by
      by_cases hOther : other = behavior
      · subst hOther
        rw [Function.update_self]
        rcases hSilent with rfl | hNone
        · exact hObeys.lost
        · exact hObeys.congr (by rw [Mailbox.left_take, hNone])
      · rwa [Function.update_of_ne hOther]
    exact ⟨hLeft hComfortable, hLeft hEmergency, hLimited, hCleared⟩

/-- Only a request changes an operator's status and its last limit command. -/
theorem OperatorsInv.step (h : OperatorsInv c w.state w.history.limit) :
    OperatorsInv c (w.step c e).state (w.step c e).history.limit := by
  cases e with
  | island e stampNs =>
      obtain ⟨hComfortable, hEmergency, hLimited, hCleared⟩ := h
      refine ⟨hComfortable.congr (foldl_post_left ..), ?_, hLimited, hCleared⟩
      rw [World.step_state, next, Braking.serveCalls_status]
      exact hEmergency.congr (foldl_post_left ..)
  | request behavior arrives stampNs => exact h.request behavior arrives stampNs
  | comfortableTimer => exact h
  | controlCommand msg =>
      obtain ⟨hComfortable, hEmergency, hLimited, hCleared⟩ := h
      refine ⟨hComfortable, ?_, hLimited, hCleared⟩
      rw [World.step_state, next, Operator.onControlCommand_status]
      exact hEmergency
  | emergencyTimer ns =>
      obtain ⟨hComfortable, hEmergency, hLimited, hCleared⟩ := h
      refine ⟨hComfortable, ?_, hLimited, hCleared⟩
      rw [World.step_state, next, Operator.onTimer_status]
      exact hEmergency

/-- The operator's tick reaches the supervisor by its handovers alone. -/
theorem serve_frame (ns : Int) (s : Supervisor) (effects : List Operator.Effect) :
    Supervisor.CallFrame s (effects.foldl (Braking.serve ns) s) := by
  induction effects generalizing s with
  | nil => exact .refl s
  | cons e rest ih =>
      refine Supervisor.CallFrame.trans ?_ (ih (Braking.serve ns s e))
      cases e with
      | handover periodMs =>
          exact Supervisor.next_call Config.image s
            (e := .handover (Braking.uptimeMs ns) 1 periodMs) fun _ hPass => by cases hPass
      | controlCmd | status => exact .refl s

/-- What was sent last does not depend on what has left. -/
theorem sentTo_take (requests : Behavior → Mailbox RequestType) (behavior : Behavior)
    (arrives : Bool) :
    sentTo (Function.update requests behavior ((requests behavior).take arrives)) =
      sentTo requests := by
  funext other
  by_cases hOther : other = behavior
  · subst hOther
    simp [sentTo]
  · simp [sentTo, hOther]

theorem HandlerInv.congr {i : Island} {requests requests' : Behavior → Mailbox RequestType}
    {gate : Option MrmState} (h : HandlerInv i requests gate)
    (hSent : sentTo requests' = sentTo requests) : HandlerInv i requests' gate :=
  { h with backed := hSent ▸ h.backed }

/-- The handler's account survives every step of the nodes. -/
theorem HandlerInv.nodes (h : HandlerInv w.state.island w.state.requests w.history.gate) :
    HandlerInv (w.step c e).state.island (w.step c e).state.requests (w.step c e).history.gate := by
  cases e with
  | island e stampNs => exact h.step e
  | request behavior arrives stampNs =>
      rw [World.step_state, next, request_island, request_requests]
      exact h.congr (sentTo_take ..)
  | comfortableTimer => exact h
  | controlCommand => exact h
  | emergencyTimer ns => exact h.called (serve_frame ns _ _)

end Step

section Island
variable {c : Setup} {w : World} {Allowed : Island.World → Island.Event → Prop}

/-- The operator's tick, in the steps of the island. -/
theorem reaches_serve (ns : Int) (effects : List Operator.Effect)
    (hHandover : ∀ i periodMs,
      Allowed i (.supervisor (.handover (Braking.uptimeMs ns) 1 periodMs))) (i : Island.World) :
    Reaches (Island.World.step c.config c.handler) Allowed i
      ⟨{ i.state with supervisor := effects.foldl (Braking.serve ns) i.state.supervisor },
        i.history⟩ := by
  induction effects generalizing i with
  | nil => exact .refl
  | cons e rest ih =>
      cases e with
      | handover periodMs =>
          exact (Reaches.refl.step (hHandover i periodMs)).trans
            (ih (i.step c.config c.handler (.supervisor (.handover (Braking.uptimeMs ns) 1 periodMs))))
      | controlCmd | status => exact ih i

/-- Every run of the nodes is one of the handler and the supervisor, to which
the operators' ticks are other calls. -/
theorem reaches_island {start : World} {AllowedHere : World → Event → Prop}
    (run : Reaches (World.step c) AllowedHere start w)
    (hIsland : ∀ w e stampNs, AllowedHere w (.island e stampNs) → Allowed w.island e)
    (hHandover : ∀ i now periodMs, Allowed i (.supervisor (.handover now 1 periodMs))) :
    Reaches (Island.World.step c.config c.handler) Allowed start.island w.island := by
  refine run.simulate World.island fun w e hAllowed => ?_
  cases e with
  | island e stampNs => exact Reaches.refl.step (hIsland w e stampNs hAllowed)
  | request behavior arrives stampNs =>
      have hSame : (w.step c (.request behavior arrives stampNs)).island = w.island :=
        congrArg (fun i => (⟨i, w.history.island⟩ : Island.World)) (request_island ..)
      rw [hSame]
      exact .refl
  | comfortableTimer | controlCommand => exact .refl
  | emergencyTimer ns => exact reaches_serve ns _ (fun i => hHandover i _) w.island

end Island

theorem foldl_noteEffect_lastSent (effects : List Effect) (h : Island.History) :
    (effects.foldl Island.History.noteEffect h).lastSent =
      effects.foldl Effect.sentAfter h.lastSent := by
  induction effects generalizing h with
  | nil => rfl
  | cons e rest ih => rw [List.foldl_cons, ih, Island.noteEffect_lastSent, List.foldl_cons]

theorem foldl_sentTo_post (effects : List Effect) (requests : Behavior → Mailbox RequestType) :
    sentTo (effects.foldl post requests) = effects.foldl Effect.sentAfter (sentTo requests) := by
  induction effects generalizing requests with
  | nil => rfl
  | cons e rest ih => rw [List.foldl_cons, ih, sentTo_post, List.foldl_cons]

/-- Besides the callback's own effects no step of the island sends anything. -/
theorem note_lastSent (cfg : Config) (h : Island.History) (i t : Island) (e : Island.Event) :
    (h.note cfg i e t).lastSent = (performed i e).foldl Effect.sentAfter h.lastSent := by
  cases e with
  | act => exact foldl_noteEffect_lastSent ..
  | tick env =>
      simp only [Island.History.note, performed]
      split <;> rfl
  | supervisor e => cases e <;> rfl
  | take | decide => rfl

structure NodesInv (c : Setup) (w : World) : Prop where
  handler : HandlerInv w.state.island w.state.requests w.history.gate
  operators : OperatorsInv c w.state w.history.limit
  /-- The channels agree with what the island's observer noted. -/
  noted : w.history.island.lastSent = sentTo w.state.requests

/-- At boot nothing is sent and nothing operated. -/
theorem NodesInv.boot (c : Setup) (sec : ℚ) : NodesInv c (World.boot c sec) := by
  have hIdle : statusAvailable ≠ statusOperating := by decide
  have hObeys : Obeys {} statusAvailable := ⟨fun _ hLeft => (by cases hLeft), fun _ => hIdle⟩
  refine ⟨?_, ?_, rfl⟩
  · exact
      { reported := .inl rfl
        faulted := fun hFault => by cases hFault
        backed := .inr fun _ hBehavior => absurd rfl hBehavior
        gate := .inr ⟨rfl, .inr ⟨by simp [Island.pending, World.boot], fun _ hM => by cases hM⟩⟩ }
  · exact
      { comfortable := hObeys
        emergency := hObeys
        limited := fun hStatus => absurd hStatus hIdle
        cleared := fun _ => .inl rfl }

/-- One step, whichever it is. -/
theorem NodesInv.step {c : Setup} {w : World} {e : Event} (h : NodesInv c w) :
    NodesInv c (w.step c e) := by
  refine ⟨h.handler.nodes, h.operators.step, ?_⟩
  cases e with
  | island e stampNs =>
      rw [World.step_state, World.step_history, next, note, note_lastSent, foldl_sentTo_post, h.noted]
  | request behavior arrives stampNs =>
      rw [World.step_state, next, request_requests, sentTo_take]
      exact h.noted
  | comfortableTimer | controlCommand | emergencyTimer => exact h.noted

end Nodes
end SafetyIsland
