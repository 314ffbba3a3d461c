import SafetyIsland.Nodes.Run

/-! No control command is only passed through an open gate, but while a CALL
of the emergency stop is on its way, was lost or could not be sent, or the
handler is about to report; and the floor is watched then. -/
namespace SafetyIsland

open MrmState Transition

namespace Nodes
open Handler (Effect RequestType)

/-- Why a command that is only passed through may find the gate open. -/
inductive Excused (w : World) : Prop where
  | reporting (m : MrmState) (hPending : .mrmState m ∈ w.state.island.pending)
  | underWay (hCall : .call ∈ (w.state.requests .emergencyStop).inFlight)
  | lost (hLost : (w.state.requests .emergencyStop).left = some (.call, false))
  | refused (hFailed : w.state.island.handler.mrmState.state = .mrmFailed)

/-- A command goes out of a step through an open gate, and it does not brake. -/
def PassesThrough (c : Setup) (w : World) (e : Event) : Prop :=
  commands c w.state e ≠ [] ∧ brakes w.state e = false ∧ w.gateOpen = true

instance (c : Setup) (w : World) (e : Event) : Decidable (PassesThrough c w e) := by
  unfold PassesThrough
  infer_instance

/-- The requests of the handler serialize, and the supervisor's other callers
are foreign to it. -/
def Serializing : Event → Prop
  | .island e _ => Island.Serializing e
  | _ => True

instance (e : Event) : Decidable (Serializing e) :=
  match e with
  | .island .. => by unfold Serializing; infer_instance
  | .request .. | .comfortableTimer .. | .controlCommand .. | .emergencyTimer .. => isTrue trivial

section Run
variable {c : Setup} {w : World} {e : Event}

/-- Only the operator's tick passes a command through, outside OPERATING and
before the latch. -/
theorem PassesThrough.unlatched (h : PassesThrough c w e) :
    w.state.emergency.status ≠ statusOperating ∧
      w.state.island.supervisor.latch.latched = false := by
  obtain ⟨hCommand, hBrakes, -⟩ := h
  cases e with
  | emergencyTimer ns =>
      have hStatus : w.state.emergency.status ≠ statusOperating := by simpa [brakes] using hBrakes
      exact ⟨hStatus, Operator.unlatched_of_command hStatus hCommand⟩
  | island | request | comfortableTimer | controlCommand => simp [brakes] at hBrakes

/-- A command that is only passed through an open gate is excused, and the
floor is watched: the island brakes at its due if nobody has. -/
theorem passed_through_excused (c : Setup) {sec : ℚ}
    (run : Reaches (World.step c) (fun _ e => Serializing e) (World.boot c sec) w)
    (hPasses : PassesThrough c w e) : Excused w ∧
      ((∃ m, .mrmState m ∈ w.state.island.pending) ∨ w.island.floorWatched = true ∨
        w.state.island.handler.mrmState.state = .mrmSucceeded) := by
  have hInv : NodesInv c w := run.invariant (.boot c sec) fun _ _ h _ => h.step
  have islandRun : Reaches (Island.World.step c.config c.handler)
      (fun _ e => Island.Serializing e) (World.boot c sec).island w.island :=
    reaches_island run (fun _ _ _ h => h) fun _ _ _ => Nat.one_ne_zero
  have hFloor : Island.FloorInv w.island :=
    islandRun.invariant (Island.FloorInv.boot sec) fun _ _ h hAllowed => h.step hAllowed
  obtain ⟨hStatus, hUnlatched⟩ := hPasses.unlatched
  have hNoFault : w.state.island.supervisor.fault.vehicleFault = false := by
    by_contra hFault
    simp [hInv.handler.faulted (by simpa using hFault)] at hUnlatched
  obtain ⟨-, hGate⟩ := hInv.handler.gate.resolve_left (by simp [hUnlatched])
  rcases hGate with ⟨before, after, hPending, -, -⟩ | ⟨hSilent, hGate⟩
  · have hMem : .mrmState w.state.island.handler.mrmState ∈ w.state.island.pending := by
      simp [hPending]
    exact ⟨.reporting _ hMem, .inl ⟨_, hMem⟩⟩
  · have hQuiet : ∀ e ∈ w.state.island.pending, e.Quiet := fun e hMem => (hSilent e hMem).1
    -- the gate goes by what the handler reports now
    obtain ⟨m, hLast, hOpens⟩ : ∃ m, w.history.gate = some m ∧ Judge.gateEmergency m = true := by
      simpa [World.gateOpen, Option.any_eq_true] using hPasses.2.2
    rw [hGate m hLast] at hOpens
    obtain ⟨hActive, hBehavior⟩ := Judge.gateEmergency_eq_true.mp hOpens
    have hBacked := hInv.handler.backed.resolve_left (by simp [hNoFault])
    rw [Handler.foldl_quiet Handler.sentAfter_quiet hQuiet] at hBacked
    refine ⟨?_, ?_⟩
    · by_cases hFailed : w.state.island.handler.mrmState.state = .mrmFailed
      · exact .refused hFailed
      · have hSent : (w.state.requests .emergencyStop).sent = some .call := by
          have hCalled := hBacked (by
            cases hState : w.state.island.handler.mrmState.state <;> simp_all) (by simp [hBehavior])
          rwa [hBehavior] at hCalled
        rcases Mailbox.cases_of_sent hSent with hWay | hLost | hArrived
        · exact .underWay hWay
        · exact .lost hLost
        · exact absurd ((hInv.operators.emergency.arrived .call hArrived).mpr rfl) hStatus
    · by_cases hDone : w.state.island.handler.mrmState.state = .mrmSucceeded
      · exact .inr (.inr hDone)
      · have hForce : Handler.InForce w.state.island.handler.mrmState :=
          ⟨by cases hState : w.state.island.handler.mrmState.state <;> simp_all, hBehavior⟩
        have hHeld := hFloor.held.resolve_left (by simp [World.island, hNoFault]) hForce
        exact .inr (.inl ((Handler.foldl_quiet Handler.floorAfter_quiet hQuiet _).symm.trans hHeld))

/-- An emergency stop called in autonomous control, its CALL still on its
way. -/
def calledOut : List Event :=
  (Island.uninterrupted <| Handler.establish {} ++
    [.take (.controlMode 1), .take (.odometry 8 150), .tick (.plain 200)]).map
      fun e => .island e 0

theorem passed_through_excused_calledOut :
    let w := follow (World.step .declared) (World.boot .declared 0) calledOut
    Excused w ∧ ((∃ m, .mrmState m ∈ w.state.island.pending) ∨ w.island.floorWatched = true ∨
      w.state.island.handler.mrmState.state = .mrmSucceeded) :=
  passed_through_excused .declared (e := .emergencyTimer 0)
    (reaches_follow calledOut (by decide +kernel)) (by decide +kernel)

end Run
end Nodes
end SafetyIsland
