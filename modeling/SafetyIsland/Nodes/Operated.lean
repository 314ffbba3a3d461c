import SafetyIsland.Nodes.Run

/-! What the handler reports is what its operators do, once their requests
have arrived: the comfortable stop's last velocity limit command is its limit
exactly while it is reported, and the emergency stop is OPERATING under its own
name alone. -/
namespace SafetyIsland

open MrmState Transition

namespace Nodes

def Cancelling (w : World) : Event → Prop
  | .island e _ => Island.Cancelling w.island e
  | _ => True

instance (w : World) (e : Event) : Decidable (Cancelling w e) :=
  match e with
  | .island .. => by unfold Cancelling; infer_instance
  | .request .. | .comfortableTimer .. | .controlCommand .. | .emergencyTimer .. => isTrue trivial

/-- The operators do what is reported. -/
structure Operated (c : Setup) (w : World) : Prop where
  comfortable : w.state.comfortable.status = statusOperating ↔
    w.state.island.handler.mrmState.behavior = .comfortableStop
  limited : w.state.island.handler.mrmState.behavior = .comfortableStop → ∃ stampNs,
    w.history.limit = some (ComfortableStop.publishVelocityLimit c.comfortable stampNs)
  cleared : w.state.island.handler.mrmState.behavior ≠ .comfortableStop →
    w.history.limit = none ∨ ∃ stampNs,
      w.history.limit = some (ComfortableStop.publishVelocityLimitClearCommand stampNs)
  emergency : w.state.emergency.status = statusOperating →
    w.state.island.handler.mrmState.behavior = .emergencyStop
  called : w.state.island.handler.mrmState.behavior = .emergencyStop →
    w.state.island.handler.mrmState.state ≠ .mrmFailed →
      w.state.emergency.status = statusOperating

section Run
variable {c : Setup} {w : World}

/-- What is reported is operated: between two callbacks of the handler, before
the fault, once every request has arrived and none was lost last, if every
CANCEL of the comfortable stop goes out. -/
theorem reported_is_operated (c : Setup) {sec : ℚ}
    (run : Reaches (World.step c) Cancelling (World.boot c sec) w)
    (hIdle : w.state.island.Idle)
    (hNoFault : w.state.island.supervisor.fault.vehicleFault = false)
    (hComfortable : (w.state.requests .comfortableStop).Settled)
    (hEmergency : (w.state.requests .emergencyStop).Settled) : Operated c w := by
  obtain ⟨hHandler, hOperators, hNoted⟩ : NodesInv c w :=
    run.invariant (.boot c sec) fun _ _ h _ => h.step
  have islandRun : Reaches (Island.World.step c.config c.handler) Island.Cancelling
      (World.boot c sec).island w.island :=
    reaches_island run (fun _ _ _ h => h) fun _ _ _ => Nat.one_ne_zero
  have hEngaged : Island.EngagedInv w.island :=
    islandRun.invariant (Island.EngagedInv.boot sec) fun _ _ h hAllowed => h.step hAllowed
  have hPending : w.state.island.pending = [] := by rw [Island.pending, hIdle]
  -- an operator that was called is the one reported, and the other way round
  have hConsistent := (hEngaged.idle hPending).resolve_left (by simp [World.island, hNoFault])
  have hBacked := hHandler.backed.resolve_left (by simp [hNoFault])
  rw [hPending, List.foldl_nil] at hBacked
  have hNamed : w.island.history.lastSent = sentTo w.state.requests := hNoted
  rw [hNamed] at hConsistent
  have hActive (hOther : w.state.island.handler.mrmState.state ≠ .mrmFailed)
      (hBehavior : w.state.island.handler.mrmState.behavior ≠ .none) :
      sentTo w.state.requests w.state.island.handler.mrmState.behavior = some .call := by
    refine hBacked ?_ hBehavior
    rcases hHandler.reported with hM | ⟨hState, -⟩ | hM
    · simp [hM] at hBehavior
    · exact hState
    · simp [hM] at hOther
  have hComfort : w.state.comfortable.status = statusOperating ↔
      w.state.island.handler.mrmState.behavior = .comfortableStop := by
    rw [hOperators.comfortable.of_settled hComfortable]
    refine ⟨hConsistent.comfortable, fun hBehavior => ?_⟩
    have hCalled := hActive (fun hFailed => ?_) (by simp [hBehavior])
    · rwa [hBehavior] at hCalled
    · rcases hHandler.reported with hM | ⟨hState, -⟩ | hM <;> simp_all
  refine ⟨hComfort, fun hBehavior => hOperators.limited (hComfort.mpr hBehavior),
    fun hBehavior => hOperators.cleared fun hStatus => hBehavior (hComfort.mp hStatus),
    fun hStatus => ?_, fun hBehavior hOther => ?_⟩
  · exact hConsistent.emergency ((hOperators.emergency.of_settled hEmergency).mp hStatus)
  · have hCalled := hActive hOther (by simp [hBehavior])
    rw [hBehavior] at hCalled
    exact (hOperators.emergency.of_settled hEmergency).mpr hCalled

/-- A comfortable stop is called, and its CALL arrives. -/
def comfortOperated : List Event :=
  (Island.uninterrupted Island.comfortCalled).map (fun e => .island e 0) ++
    [.request .comfortableStop true 0]

theorem reported_is_operated_comfortOperated : Operated .declared
    (follow (World.step .declared) (World.boot .declared 0) comfortOperated) :=
  reported_is_operated .declared (reaches_follow comfortOperated (by decide +kernel))
    (by decide +kernel) (by decide +kernel) (by decide +kernel) (by decide +kernel)

end Run
end Nodes
end SafetyIsland
