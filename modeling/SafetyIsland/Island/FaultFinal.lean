import SafetyIsland.Island.State

/-! The vehicle fault is final: its words and the latch stand, the floor stays
closed and every state published from then on reports it, as long as the
operator's slot does not resume in a fault. -/
namespace SafetyIsland

open MrmState Transition

namespace Handler

/-- An effect that arms neither floor route. -/
def Effect.LeavesFloor : Effect → Prop
  | .arm _ route _ => route ≠ 3 ∧ route ≠ 4
  | _ => True

instance (e : Effect) : Decidable e.LeavesFloor :=
  match e with
  | .arm .. => by unfold Effect.LeavesFloor; infer_instance
  | .request .. | .done .. | .noteSpeed .. | .handover .. | .mrmState ..
  | .takeoverRequestState .. | .hazardLightsCmd .. => isTrue trivial

/-- A quiet effect arms nothing. -/
theorem Effect.Quiet.leavesFloor {e : Effect} (hQuiet : e.Quiet) : e.LeavesFloor := by
  cases e <;> simp_all [Effect.Quiet, Effect.LeavesFloor]

/-- What is published reports the fault: the emergency stop as failed, which
the gate holds the emergency command for, and the hazard lights where they are
configured. -/
def FaultReported (p : Param) : Effect → Prop
  | .mrmState m => m = { state := .mrmFailed, behavior := .emergencyStop } ∧
      Judge.gateEmergency m = true
  | .hazardLightsCmd command => p.turningHazardOnEmergency = true → command = hazardEnable
  | _ => True

section Tick
variable {cfg : Config} {p : Param} {env : Env} {h : Handler}

theorem faultReported_of_not_publish {e : Effect} (hSilent : e.isPublish = false) :
    FaultReported p e := by
  cases e <;> simp_all [FaultReported, Effect.isPublish]

/-- Once it has read the fault, a RUN tick only announces. -/
theorem respond_snd_of_fault (hLatched : h.isSupervisorLatched = true)
    (hFault : env.vehicleFault = true) : runTick cfg p env h =
      ((respond cfg p env h).1, announce p env (respond cfg p env h).1) := by
  rw [runTick, (respond_of_fault hLatched hFault).2]
  rfl

/-- In a fault a tick requests nothing. -/
theorem runTick_quiet (hLatched : h.isSupervisorLatched = true) (hFault : env.vehicleFault = true) :
    ∀ e ∈ (runTick cfg p env h).2, e.Quiet := by
  rw [respond_snd_of_fault hLatched hFault]
  exact announce_quiet

/-- In a fault a tick reports it. -/
theorem runTick_faultReported (hLatched : h.isSupervisorLatched = true)
    (hFault : env.vehicleFault = true) : ∀ e ∈ (runTick cfg p env h).2, FaultReported p e := by
  have hState : (respond cfg p env h).1.mrmState =
      { state := .mrmFailed, behavior := .emergencyStop } := (respond_of_fault hLatched hFault).1
  have hEmergency : (respond cfg p env h).1.isEmergency = true := by
    obtain ⟨takeover, hAfter⟩ := respond_eq p env h cfg
    rw [hAfter]
    simp [isEmergency, isInputLost, hLatched]
  rw [respond_snd_of_fault hLatched hFault]
  intro e hEffect
  simp only [announce, List.mem_append] at hEffect
  rcases hEffect with (((hMrm | hTakeover) | hDone) | hHazard) | hHandover
  · unfold publishMrmState at hMrm
    split_ifs at hMrm
    · simp at hMrm
    · obtain rfl : e = .mrmState (respond cfg p env h).1.mrmState := by simpa using hMrm
      rw [hState]
      exact ⟨rfl, rfl⟩
  · simp_all [publishTakeoverRequestState, FaultReported]
  · split_ifs at hDone <;> simp_all [FaultReported]
  · unfold publishHazardCmd at hHazard
    split_ifs at hHazard <;> simp_all [FaultReported]
  · split_ifs at hHandover <;> simp_all [FaultReported]

/-- In a fault the direct path reports it. -/
theorem directEmergency_faultReported : ∀ e ∈ directEmergency true, FaultReported p e := by
  simp [directEmergency, FaultReported, Judge.mrmState, Judge.gateEmergency]

end Tick
end Handler

namespace Island
open Handler (Effect Env Param FaultReported)

/-- The callback under way no longer calls the emergency operator, should the
fault be found now: it has read the latch, or has no such call left. -/
def Settled (i : Island) : Prop :=
  match i.callback with
  | .judging _ => i.handler.isSupervisorLatched = true
  | .acting effects => ∀ e ∈ effects, e.LeavesFloor

instance (i : Island) : Decidable i.Settled := by
  unfold Settled
  cases i.callback <;> infer_instance

/-- A pass that finds the fault finds the callback settled, and neither it nor
a later one finds the operator's slot silent. -/
def FaultKept (cfg : Config) (i : Island) : Event → Prop
  | .supervisor (.pass pass) =>
      (i.supervisor.fault.vehicleFault = true ∨
          pass.woken = true ∧ i.supervisor.FaultFound cfg pass.now) →
        i.supervisor.resumable cfg pass.serviceNow .operator = false ∧ i.Settled
  | e => Composed e

instance (cfg : Config) (i : Island) (e : Event) : Decidable (FaultKept cfg i e) :=
  match e with
  | .supervisor (.pass _) | .supervisor (.arm ..) | .supervisor (.done _)
  | .supervisor (.noteSpeed ..) | .supervisor (.handover ..) | .supervisor (.setDirect _)
  | .supervisor (.spin _) | .supervisor (.spinAfter ..) | .supervisor .timerExpiry
  | .supervisor .swtTimeout | .supervisor (.hook _) => by unfold FaultKept; infer_instance
  | .take _ | .tick _ | .decide | .act => isTrue trivial

/-- What one step may do once the fault is found. -/
structure FaultFinal (cfg : Config) (p : Param) (w : World) (e : Event) : Prop where
  /-- The fault's words and the latch stand. -/
  kept : w.state.supervisor.fault.vehicleFault = true →
    (w.step cfg p e).state.supervisor.fault = w.state.supervisor.fault ∧
      (w.step cfg p e).state.supervisor.latch = w.state.supervisor.latch ∧
      w.state.supervisor.latch.latched = true
  /-- Routes 3 and 4 stay disarmed. -/
  closed : (w.step cfg p e).state.supervisor.fault.vehicleFault = true →
    (w.step cfg p e).state.supervisor.FloorClosed
  /-- A tick begun in the fault reports it. -/
  tick : w.history.begunInFault = true →
    e = .act → ∀ x ∈ published cfg w.state e, FaultReported p x
  /-- A direct-path call made in the fault reports it. -/
  direct : ∀ pass, e = .supervisor (.pass pass) →
    (w.step cfg p e).state.supervisor.fault.vehicleFault = true →
    ∀ x ∈ published cfg w.state e, FaultReported p x

structure FaultInv (p : Param) (w : World) : Prop where
  latched : w.state.supervisor.fault.vehicleFault = true →
    w.state.supervisor.latch.latched = true
  closed : w.state.supervisor.fault.vehicleFault = true → w.state.supervisor.FloorClosed
  settled : w.state.supervisor.fault.vehicleFault = true → w.state.Settled
  begun : w.history.begunInFault = true → w.state.supervisor.fault.vehicleFault = true
  reported : w.history.begunInFault = true → ∀ e ∈ w.state.pending, FaultReported p e

section Run
variable {cfg : Config} {p : Param} {w : World} {e : Event}

/-- At boot there is no fault. -/
theorem FaultInv.boot (sec : ℚ) : FaultInv p (World.boot sec) where
  latched := nofun
  closed := nofun
  settled := nofun
  begun := nofun
  reported := nofun

variable (cfg) in
/-- Such an effect leaves the floor closed. -/
theorem serve_floorClosed {s : Supervisor} {e : Effect} (hLeaves : e.LeavesFloor)
    (hClosed : s.FloorClosed) : (serve cfg s e).FloorClosed := by
  cases e with
  | arm now route due =>
      exact Supervisor.next_call_floorClosed cfg (e := .arm now route due) nofun hLeaves hClosed
  | done route =>
      exact Supervisor.next_call_floorClosed cfg (e := .done route) nofun trivial hClosed
  | noteSpeed now speedMmS =>
      exact Supervisor.next_call_floorClosed cfg (e := .noteSpeed now speedMmS) nofun trivial hClosed
  | handover now slot periodMs =>
      exact Supervisor.next_call_floorClosed cfg (e := .handover now slot periodMs) nofun trivial
        hClosed
  | request | mrmState | takeoverRequestState | hazardLightsCmd => exact hClosed

theorem Foreign.leavesFloor {e : Supervisor.Event} (hForeign : Foreign e) : e.LeavesFloor := by
  cases e <;> first | exact hForeign.elim | trivial

theorem noteEffect_begunInFault (history : History) (e : Effect) :
    (history.noteEffect e).begunInFault = history.begunInFault := by
  cases e <;> simp only [History.noteEffect] <;> split_ifs <;> rfl

/-- What an allowed pass that ends in the fault found. -/
theorem pass_found (pass : Supervisor.Pass) (h : FaultInv p w)
    (hAllowed : FaultKept cfg w.state (.supervisor (.pass pass)))
    (hFault : (Supervisor.pass cfg pass w.state.supervisor).1.fault.vehicleFault = true) :
    w.state.supervisor.latch.latched = true ∧
      w.state.supervisor.resumable cfg pass.serviceNow .operator = false ∧ w.state.Settled := by
  cases hBefore : w.state.supervisor.fault.vehicleFault with
  | true => exact ⟨h.latched hBefore, hAllowed (.inl hBefore)⟩
  | false =>
      obtain ⟨hWoken, hFound⟩ :=
        Supervisor.pass_faultFound cfg pass w.state.supervisor hBefore hFault
      exact ⟨hFound.1, hAllowed (.inr ⟨hWoken, hFound⟩)⟩

/-- A step keeps the fault final, and what is reported of it. -/
theorem FaultInv.step (h : FaultInv p w) (hAllowed : FaultKept cfg w.state e) :
    FaultInv p (w.step cfg p e) := by
  have hSpec := step_spec cfg p w e
  generalize w.step cfg p e = w' at hSpec ⊢
  cases hSpec with
  | stalled => exact h
  | took input hIdle =>
      refine ⟨h.latched, h.closed, fun _ e hEffect => ?_, h.begun, fun _ e hEffect => ?_⟩
      · exact (Handler.take_quiet e hEffect).leavesFloor
      · exact Handler.faultReported_of_not_publish (Handler.take_effects cfg p _ input e hEffect)
  | began env hIdle =>
      refine ⟨by simpa using h.latched, by simpa using h.closed, fun hFault => ?_,
        by simp, fun hBegun e hEffect => ?_⟩
      · rw [beginTick_supervisor] at hFault
        rcases beginTick_callback p w.state env with hSilent | ⟨hJudging, hRead⟩
        · have hStill : (beginTick p env w.state).callback = .acting [] := hSilent.trans hIdle
          simp [Settled, hStill]
        · simp only [Settled, hJudging]
          rw [hRead, h.latched hFault]
      · rcases beginTick_callback p w.state env with hSilent | ⟨hJudging, -⟩
        · have hStill : (beginTick p env w.state).callback = .acting [] := hSilent.trans hIdle
          simp [pending, hStill] at hEffect
        · simp [pending, hJudging] at hEffect
  | decided env hJudging =>
      have hRead : w.state.supervisor.fault.vehicleFault = true →
          w.state.handler.isSupervisorLatched = true := by
        intro hFault
        have hSettled := h.settled hFault
        rwa [Settled, hJudging] at hSettled
      refine ⟨h.latched, h.closed, fun hFault e hEffect => ?_, h.begun, fun hBegun e hEffect => ?_⟩
      · exact (Handler.runTick_quiet (hRead hFault) hFault e hEffect).leavesFloor
      · exact Handler.runTick_faultReported (hRead (h.begun hBegun)) (h.begun hBegun) e hEffect
  | acted e rest hActing =>
      have hFrame := serve_frame cfg w.state.supervisor e
      have hPending : w.state.pending = e :: rest := by rw [pending, hActing]
      refine ⟨?_, ?_, ?_, ?_, fun hBegun x hEffect => ?_⟩
      · rw [hFrame.fault, hFrame.latch]
        exact h.latched
      · rw [hFrame.fault]
        intro hFault
        have hSettled := h.settled hFault
        rw [Settled, hActing] at hSettled
        exact serve_floorClosed cfg (hSettled e List.mem_cons_self) (h.closed hFault)
      · rw [hFrame.fault]
        intro hFault x hEffect
        have hSettled := h.settled hFault
        rw [Settled, hActing] at hSettled
        exact hSettled x (List.mem_cons_of_mem e hEffect)
      · rw [hFrame.fault, noteEffect_begunInFault]
        exact h.begun
      · rw [noteEffect_begunInFault] at hBegun
        refine h.reported hBegun x ?_
        rw [hPending]
        exact List.mem_cons_of_mem e hEffect
  | called e hCall =>
      have hFrame := Supervisor.next_call cfg w.state.supervisor hCall
      have hForeign : Foreign e := by
        cases e with
        | pass pass => exact absurd rfl (hCall pass)
        | _ => exact hAllowed
      refine ⟨?_, ?_, ?_, ?_, h.reported⟩
      · rw [hFrame.fault, hFrame.latch]
        exact h.latched
      · rw [hFrame.fault]
        exact fun hFault => Supervisor.next_call_floorClosed cfg hCall hForeign.leavesFloor
          (h.closed hFault)
      · rw [hFrame.fault]
        exact h.settled
      · rw [hFrame.fault]
        exact h.begun
  | passed pass =>
      refine ⟨fun hFault => ?_, fun hFault => ?_, fun hFault => (pass_found pass h hAllowed hFault).2.2,
        fun hBegun => ?_, h.reported⟩
      · have hLatched := (pass_found pass h hAllowed hFault).1
        rw [Supervisor.pass_latch, Supervisor.taken_latch cfg pass _ hLatched, hLatched]
      · refine Supervisor.pass_floorClosed cfg pass _ (pass_found pass h hAllowed hFault).2.1 ?_
        cases hBefore : w.state.supervisor.fault.vehicleFault with
        | true => exact .inl (h.closed hBefore)
        | false => exact .inr ⟨rfl, hFault⟩
      · have hBefore := h.begun hBegun
        rwa [Supervisor.pass_fault_eq cfg pass _ hBefore]

/-- One step keeps the fault final. -/
theorem FaultInv.final (h : FaultInv p w) (hAllowed : FaultKept cfg w.state e) :
    FaultFinal cfg p w e where
  kept := by
    intro hFault
    refine And.imp_right (fun hLatch => ⟨hLatch, h.latched hFault⟩) ?_
    have hSpec := step_spec cfg p w e
    generalize w.step cfg p e = w' at hSpec ⊢
    cases hSpec with
    | stalled | took | decided => exact ⟨rfl, rfl⟩
    | began => simp
    | acted e =>
        have hFrame := serve_frame cfg w.state.supervisor e
        exact ⟨hFrame.fault, hFrame.latch⟩
    | called e hCall =>
        have hFrame := Supervisor.next_call cfg w.state.supervisor hCall
        exact ⟨hFrame.fault, hFrame.latch⟩
    | passed pass =>
        refine ⟨Supervisor.pass_fault_eq cfg pass _ hFault, ?_⟩
        exact (Supervisor.pass_latch ..).trans (Supervisor.taken_latch cfg pass _ (h.latched hFault))
  closed := (h.step hAllowed).closed
  tick := by
    rintro hBegun rfl x hEffect
    refine h.reported hBegun x (List.mem_of_mem_take (List.mem_of_mem_filter hEffect))
  direct := by
    rintro pass rfl hFault x hEffect
    have hAfter : (Supervisor.pass cfg pass w.state.supervisor).1.fault.vehicleFault = true := hFault
    simp only [published, List.mem_flatMap, hAfter] at hEffect
    obtain ⟨call, -, hEffect⟩ := hEffect
    split_ifs at hEffect
    · exact Handler.directEmergency_faultReported x hEffect
    · simp at hEffect

/-- The vehicle fault is final and reported by whoever holds the slot, in every
run whose passes find it and go on in it as `FaultKept` says. -/
theorem fault_final (cfg : Config) (p : Param) {sec : ℚ}
    (run : Reaches (World.step cfg p) (fun w e => FaultKept cfg w.state e) (World.boot sec) w)
    (hAllowed : FaultKept cfg w.state e) : FaultFinal cfg p w e := by
  have hInv : FaultInv p w := run.invariant (.boot sec) fun _ _ h hAllowed => h.step hAllowed
  exact hInv.final hAllowed

/-- The output latches, the emergency stop is called and the vehicle drives on
for a settle: the fault. The operator holds its slot all the while. -/
def drivenOn : List Event :=
  uninterrupted (Handler.establish {} ++ [.take (.controlMode 1), .take (.odometry 8 100)]) ++
    [.supervisor (.setDirect .operator), .supervisor (.hook 0), .supervisor (.pass (.at 1000))] ++
    uninterrupted [.tick { Handler.Env.plain 200 with
        second := { serialized := true, sent := true, callMs := 1100, armMs := 1100 } },
      .take (.odometry 8 5600)] ++
    [.supervisor (.handover 5700 1 33), .supervisor (.pass (.at 5721))]

theorem fault_final_drivenOn : FaultFinal Config.image .declared
    (follow (World.step Config.image .declared) (World.boot 0) drivenOn)
    (.tick (.plain 6000)) :=
  fault_final Config.image .declared (reaches_follow drivenOn (by decide +kernel)) trivial

/-- An operator that falls silent in the fault re-opens the floor. -/
theorem not_fault_final : ¬ ∀ w,
    Reaches (World.step Config.image .declared) (fun _ e => Composed e) (World.boot 0) w →
      ∀ e, Composed e → FaultFinal Config.image .declared w e := by
  intro hClaim
  have hFinal := hClaim (follow (World.step Config.image .declared) (World.boot 0) drivenOn)
    (reaches_follow drivenOn (by decide +kernel))
    (.supervisor (.pass { Supervisor.Pass.at 5900 with woken := false })) trivial
  exact absurd (hFinal.closed (by decide +kernel)).1 (by decide +kernel)

end Run
end Island
end SafetyIsland
