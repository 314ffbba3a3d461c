import SafetyIsland.Nodes.Backed

/-! The control commands of the emergency operator and the gate they pass: a
command that is only passed through finds the gate shut, but for the time a
request takes, for a request that is lost or refused, and for a handler that
has still to report. -/
namespace SafetyIsland

open MrmState Transition

namespace Handler

@[simp] theorem updatePhase_isSupervisorLatched (p : Param) (env : Env) (h : Handler) :
    (updatePhase p env h).1.isSupervisorLatched = h.isSupervisorLatched := by
  unfold updatePhase armContractMonitors
  dsimp only
  split <;> split_ifs <;> rfl

@[simp] theorem take_isSupervisorLatched (cfg : Config) (p : Param) (h : Handler) (input : Input) :
    (take cfg p h input).1.isSupervisorLatched = h.isSupervisorLatched := by
  cases input with
  | operationModeAvailability =>
      simp only [take, onOperationModeAvailability]
      split_ifs <;> rfl
  | _ => rfl

end Handler

namespace Nodes
open Handler (Effect Reports Backed RequestType Reported)

/-- The last request sent to each operator. -/
def sentTo (requests : Behavior → Mailbox RequestType) (behavior : Behavior) :
    Option RequestType := (requests behavior).sent

/-- The gate goes by what the handler reports, or is about to. -/
def GateFollows (i : Island) (gate : Option MrmState) : Prop :=
  Reports i.handler.mrmState i.pending ∨
    (∀ e ∈ i.pending, e.Silent) ∧ ∀ m, gate = some m → m = i.handler.mrmState

/-- What holds of the handler, its requests and the gate in every state of a
run, until the output is latched or the fault found. -/
structure HandlerInv (i : Island) (requests : Behavior → Mailbox RequestType)
    (gate : Option MrmState) : Prop where
  reported : Reported i.handler.mrmState
  faulted : i.supervisor.fault.vehicleFault = true → i.supervisor.latch.latched = true
  backed : i.supervisor.fault.vehicleFault = true ∨
    Backed i.handler.mrmState (i.pending.foldl Effect.sentAfter (sentTo requests))
  gate : i.supervisor.latch.latched = true ∨
    i.handler.isSupervisorLatched = false ∧ GateFollows i gate

section Effects
variable {requests : Behavior → Mailbox RequestType} {gate : Option MrmState}

/-- A request that goes out is the last one sent to its operator. -/
theorem sentTo_post (e : Effect) : sentTo (post requests e) = e.sentAfter (sentTo requests) := by
  cases e with
  | request behavior type sent =>
      cases sent with
      | false => rfl
      | true =>
          funext other
          by_cases hOther : other = behavior
          · subst hOther
            simp [sentTo, post, Effect.sentAfter]
          · simp [sentTo, post, Effect.sentAfter, hOther]
  | _ => rfl

theorem gateAfter_silent {e : Effect} (hSilent : ∀ m, e ≠ .mrmState m) :
    gateAfter gate e = gate := by
  cases e <;> first | rfl | exact absurd rfl (hSilent _)

/-- One effect, and what goes out of it. -/
theorem GateFollows.act {i : Island} {e : Effect} {rest : List Effect} {supervisor : Supervisor}
    (hUnlatched : i.handler.isSupervisorLatched = false)
    (h : GateFollows { i with callback := .acting (e :: rest) } gate) :
    GateFollows { i with supervisor := supervisor, callback := .acting rest }
      (([e].filter i.goesOut).foldl gateAfter gate) := by
  have hState (m : MrmState) : i.goesOut (.mrmState m) = true := by
    simp [Island.goesOut, hUnlatched]
  have hKept (hSilent : ∀ m, e ≠ .mrmState m) :
      ([e].filter i.goesOut).foldl gateAfter gate = gate := by
    cases hGoes : i.goesOut e <;> simp [hGoes, gateAfter_silent hSilent]
  rcases h with ⟨before, after, hPending, hBefore, hAfter⟩ | ⟨hSilent, hGate⟩
  · change e :: rest = before ++ .mrmState i.handler.mrmState :: after at hPending
    cases before with
    | nil =>
        obtain ⟨rfl, rfl⟩ := List.cons.inj hPending
        refine .inr ⟨hAfter, fun m hM => ?_⟩
        simpa [List.filter_cons, hState, gateAfter, eq_comm] using hM
    | cons first before =>
        obtain ⟨rfl, rfl⟩ := List.cons.inj hPending
        exact .inl ⟨before, after, rfl, fun e hMem => hBefore e (List.mem_cons_of_mem _ hMem),
          hAfter⟩
  · have hHead : e.Silent := hSilent e List.mem_cons_self
    rw [hKept hHead.2]
    exact .inr ⟨fun e hMem => hSilent e (List.mem_cons_of_mem _ hMem), hGate⟩

end Effects

section Step
variable {cfg : Config} {p : Handler.Param} {i : Island}
  {requests : Behavior → Mailbox RequestType} {gate : Option MrmState}

/-- Nothing pending, the gate goes by the state reported last. -/
theorem GateFollows.settled (h : GateFollows i gate) (hNone : i.pending = []) :
    ∀ m, gate = some m → m = i.handler.mrmState := by
  rcases h with ⟨before, after, hPending, -, -⟩ | ⟨-, hGate⟩
  · simp [hNone] at hPending
  · exact hGate

/-- Where the callback does nothing to the world, the reported state stays. -/
theorem HandlerInv.quiet (h : HandlerInv i requests gate) {t : Island}
    (hState : t.handler.mrmState = i.handler.mrmState) (hSupervisor : t.supervisor = i.supervisor)
    (hBefore : i.pending = []) (hAfter : ∀ e ∈ t.pending, e.Silent)
    (hLatched : t.handler.isSupervisorLatched = i.handler.isSupervisorLatched ∨
      t.handler.isSupervisorLatched = i.supervisor.latch.latched) :
    HandlerInv t requests gate where
  reported := hState ▸ h.reported
  faulted := hSupervisor ▸ h.faulted
  backed := by
    rw [hSupervisor, hState,
      Handler.foldl_quiet Handler.sentAfter_quiet fun e hMem => (hAfter e hMem).1]
    simpa [hBefore] using h.backed
  gate := by
    rw [hSupervisor]
    rcases h.gate with hNow | ⟨hUnlatched, hGate⟩
    · exact .inl hNow
    · cases hNow : i.supervisor.latch.latched with
      | true => exact .inl rfl
      | false =>
          refine .inr ⟨by simpa [hUnlatched, hNow] using hLatched, .inr ⟨hAfter, ?_⟩⟩
          rw [hState]
          exact hGate.settled hBefore

/-- A tick that begins changes nothing that is reported. -/
theorem HandlerInv.tick (h : HandlerInv i requests gate) {env : Handler.Env} (hIdle : i.Idle) :
    HandlerInv (Island.beginTick p env i) requests gate := by
  have hNone : (Island.beginTick p env i).pending = [] := by
    rcases Island.beginTick_callback p i env with hSilent | ⟨hJudging, -⟩
    · rw [Island.pending, hSilent, hIdle]
    · rw [Island.pending, hJudging]
  refine h.quiet (Island.beginTick_mrmState p i env) (Island.beginTick_supervisor p i env)
    (by rw [Island.pending, hIdle]) (by simp [hNone]) ?_
  unfold Island.beginTick
  dsimp only
  split_ifs
  · exact .inl (Handler.updatePhase_isSupervisorLatched p env i.handler)
  · exact .inr rfl

/-- What a tick decides is still to be published. -/
theorem HandlerInv.decide (h : HandlerInv i requests gate) {env : Handler.Env}
    (hJudging : i.callback = .judging env) :
    HandlerInv (Island.decideTick cfg p env i) requests gate where
  reported := Handler.runTick_reported h.reported
  faulted := h.faulted
  backed := by
    rcases h.backed with hFault | hBacked
    · exact .inl hFault
    · cases hFault : i.supervisor.fault.vehicleFault with
      | true => exact .inl hFault
      | false =>
          refine .inr (Handler.runTick_backed h.reported (fun _ => hFault) ?_)
          simpa [Island.pending, hJudging] using hBacked
  gate := by
    rcases h.gate with hFault | hGate
    · exact .inl hFault
    · refine .inr ⟨?_, .inl (Handler.runTick_reports rfl)⟩
      rw [Island.decideTick_handler, Handler.runTick_isSupervisorLatched, hGate.1]

/-- An effect goes out, and what is left to publish is one less. -/
theorem HandlerInv.act {e : Effect} {rest : List Effect}
    (h : HandlerInv { i with callback := .acting (e :: rest) } requests gate) :
    HandlerInv { i with supervisor := Island.serve cfg i.supervisor e, callback := .acting rest }
      (post requests e) (([e].filter i.goesOut).foldl gateAfter gate) where
  reported := h.reported
  faulted := by
    have hFrame := Island.serve_frame cfg i.supervisor e
    rw [hFrame.fault, hFrame.latch]
    exact h.faulted
  backed := by
    rw [sentTo_post, (Island.serve_frame cfg i.supervisor e).fault]
    exact h.backed
  gate := by
    rw [(Island.serve_frame cfg i.supervisor e).latch]
    exact h.gate.imp_right fun hGate => ⟨hGate.1, hGate.2.act hGate.1⟩

/-- A call to the supervisor leaves the handler and what it goes by. -/
theorem HandlerInv.called (h : HandlerInv i requests gate) {supervisor : Supervisor}
    (hFrame : Supervisor.CallFrame i.supervisor supervisor) :
    HandlerInv { i with supervisor := supervisor } requests gate where
  reported := h.reported
  faulted := by
    rw [hFrame.fault, hFrame.latch]
    exact h.faulted
  backed := by
    rw [hFrame.fault]
    exact h.backed
  gate := by
    rw [hFrame.latch]
    exact h.gate

/-- The direct path publishes the emergency stop once latched, and nothing else.
-/
theorem HandlerInv.passed (h : HandlerInv i requests gate) (pass : Supervisor.Pass) :
    HandlerInv { i with supervisor := (Supervisor.pass cfg pass i.supervisor).1 } requests
      ((Island.published cfg i (.supervisor (.pass pass))).foldl gateAfter gate) where
  reported := h.reported
  faulted := fun hFault => by
    refine Supervisor.pass_latched cfg pass i.supervisor ?_
    cases hBefore : i.supervisor.fault.vehicleFault with
    | true => exact h.faulted hBefore
    | false => exact (Supervisor.pass_faultFound cfg pass i.supervisor hBefore hFault).2.1
  backed := h.backed.imp_left fun hFault => by
    rwa [Supervisor.pass_fault_eq cfg pass i.supervisor hFault]
  gate := by
    cases hNow : (Supervisor.pass cfg pass i.supervisor).1.latch.latched with
    | true => exact .inl rfl
    | false =>
        have hNone : (Supervisor.pass cfg pass i.supervisor).2 = [] := by
          rw [List.eq_nil_iff_forall_not_mem]
          intro call hCall
          have hLatched := (Supervisor.pass_calls cfg pass i.supervisor hCall).1
          exact absurd (hLatched.symm.trans hNow) (by decide)
        have hPublished : Island.published cfg i (.supervisor (.pass pass)) = [] := by
          simp [Island.published, hNone]
        rw [hPublished]
        refine .inr (h.gate.resolve_left fun hBefore => ?_)
        have hLatched := Supervisor.pass_latched cfg pass i.supervisor hBefore
        exact absurd (hLatched.symm.trans hNow) (by decide)

/-- One step of the island, whichever it is. -/
theorem HandlerInv.step (h : HandlerInv i requests gate) (e : Island.Event) :
    HandlerInv (Island.next cfg p i e) ((performed i e).foldl post requests)
      ((Island.published cfg i e).foldl gateAfter gate) := by
  obtain ⟨handler, supervisor, callback⟩ := i
  cases e with
  | take input =>
      match callback with
      | .acting [] =>
          exact h.quiet (Handler.take_mrmState cfg p handler input) rfl rfl Handler.take_silent
            (.inl (Handler.take_isSupervisorLatched cfg p handler input))
      | .acting (_ :: _) | .judging _ => exact h
  | tick env =>
      match callback with
      | .acting [] =>
          exact h.tick rfl
      | .acting (_ :: _) | .judging _ => exact h
  | decide =>
      match callback with
      | .judging env => exact h.decide rfl
      | .acting _ => exact h
  | act =>
      match callback with
      | .acting (e :: rest) => exact HandlerInv.act (i := ⟨handler, supervisor, .acting rest⟩) h
      | .acting [] | .judging _ => exact h
  | supervisor e =>
      by_cases hPass : ∃ pass, e = .pass pass
      · obtain ⟨pass, rfl⟩ := hPass
        exact h.passed pass
      · push Not at hPass
        have hPublished : Island.published cfg ⟨handler, supervisor, callback⟩ (.supervisor e) = [] := by
          cases e with
          | pass pass => exact absurd rfl (hPass pass)
          | _ => rfl
        rw [hPublished]
        exact h.called (Supervisor.next_call cfg supervisor hPass)

end Step
end Nodes
end SafetyIsland
