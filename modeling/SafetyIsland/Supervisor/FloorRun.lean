import SafetyIsland.Supervisor.Track

/-! The floor over whole runs: route 3, once armed, is disarmed only by the
caller, by a standstill or by the fault; and nothing is judged of a vehicle
that was never seen. -/
namespace SafetyIsland.Supervisor

open Transition

/-- Callers leave route 4 to the supervisor, the clock goes forward and the
ages stay below one turn of the 32-bit clock. -/
structure FloorAllowed (w : World) (e : Event) : Prop where
  ordered : e.Ordered w.history.clock
  aged : e.Aged w.history
  leavesResponse : e.LeavesResponse

instance (w : World) (e : Event) : Decidable (FloorAllowed w e) :=
  decidable_of_iff (e.Ordered w.history.clock ∧ e.Aged w.history ∧ e.LeavesResponse)
    ⟨fun ⟨hOrder, hAged, hLeaves⟩ => ⟨hOrder, hAged, hLeaves⟩,
      fun h => ⟨h.ordered, h.aged, h.leavesResponse⟩⟩

/-- Before the first kinematic_state nothing is judged: route 4 is closed, no
reference was kept and no fault was found. -/
structure Unseen (s : Supervisor) : Prop where
  atMs : s.speed.atMs = 0
  closed : (s.routes .emergencyResponse).dueValid = false
  refOk : s.brake.refOk = false
  fault : s.fault.vehicleFault = false

namespace Unseen
variable {cfg : Config} {s : Supervisor}

/-- Before the first sample none is fresh. -/
theorem speedFresh (h : s.Unseen) (now : Int) : s.speedFresh now = false := by
  simp [Supervisor.speedFresh, Judge.stale, h.atMs]

/-- Route 3 waits for a vehicle to be seen. -/
theorem expireFloor (h : s.Unseen) (now : Int) :
    Supervisor.expireFloor cfg now s = (floorUnseen cfg now s, false) := by
  simp [Supervisor.expireFloor, Judge.unseen, h.atMs]

variable (cfg) in
/-- Without a reference route 4 is not armed. -/
theorem responseArmLocked (h : s.Unseen) (start : Int) (refMmS : U32) :
    (Supervisor.responseArmLocked cfg start refMmS false s).Unseen where
  atMs := by rw [(responseArmLocked_frame ..).speed, h.atMs]
  closed := by
    rw [responseArmLocked_response]
    by_cases hOff : cfg.responseMs = 0 <;> simp [hOff, h.closed]
  refOk := by rw [(responseArmLocked_frame ..).brake, h.refOk]
  fault := by rw [responseArmLocked_fault, h.fault]

/-- A sweep sees no vehicle by itself. -/
theorem swept (h : s.Unseen) (sw : Sweep) : (sweep cfg sw s).1.Unseen := by
  have hFrame := sweep_frame cfg s sw
  obtain ⟨low, hLowFrame, hSame, -, hSweep⟩ := sweep_turns cfg s sw
  have hLow : low.1.Unseen :=
    ⟨by rw [hLowFrame.speed, h.atMs], by rw [hSame.responseRoute, h.closed],
      by rw [hLowFrame.brake, h.refOk], by rw [hSame.fault, h.fault]⟩
  have hTurn : (sweepRoute cfg sw low .emergencyStandstill).1.Unseen := by
    cases hDue : low.1.dueBy .emergencyStandstill sw.now with
    | false => rwa [sweepRoute_of_not_due hDue]
    | true =>
        have hCleared : (low.1.setRoute .emergencyStandstill
            (low.1.routes .emergencyStandstill).clear).Unseen :=
          ⟨hLow.atMs, by simpa using hLow.closed, hLow.refOk, hLow.fault⟩
        rw [(sweepRoute_of_due hDue).1, expire, hCleared.expireFloor]
        exact ⟨hLow.atMs, by simpa [floorUnseen] using hLow.closed, hLow.refOk, hLow.fault⟩
  have hNotDue : (sweepRoute cfg sw low .emergencyStandstill).1.dueBy
      .emergencyResponse sw.now = false := by
    simp [dueBy, hTurn.closed]
  rw [hSweep, sweepRoute_of_not_due hNotDue]
  exact ⟨hTurn.atMs, hTurn.closed, hTurn.refOk, hTurn.fault⟩

theorem startBrake (h : s.Unseen) (now : Int) : (Supervisor.startBrake now s).Unseen :=
  ⟨h.atMs, h.closed, h.speedFresh now, h.fault⟩

theorem reopenFloor (h : s.Unseen) (now : Int) : (Supervisor.reopenFloor cfg now s).Unseen := by
  unfold Supervisor.reopenFloor
  split_ifs
  · exact h
  · rw [h.refOk]
    have hArmed := responseArmLocked cfg
      (s := (s.setRoute .emergencyStandstill
        ((s.routes .emergencyStandstill).arm (now + cfg.floorSpanMs))).setFloor
          { s.floor with stage := .direct })
      ⟨h.atMs, by simpa using h.closed, h.refOk, h.fault⟩ now s.brake.refMmS
    exact ⟨hArmed.atMs, hArmed.closed, hArmed.refOk, hArmed.fault⟩

theorem resumeSlot (h : s.Unseen) (now : Int) (i : Slot) :
    (Supervisor.resumeSlot cfg now i s).Unseen := by
  have hSlot : (s.setSlot i ((s.slots i).resume now)).Unseen := ⟨h.atMs, h.closed, h.refOk, h.fault⟩
  unfold Supervisor.resumeSlot
  split_ifs
  · exact (hSlot.startBrake now).reopenFloor now
  · exact hSlot

/-- Nor does a pass. -/
theorem pass (h : s.Unseen) (p : Pass) : (Supervisor.pass cfg p s).1.Unseen := by
  have hSwept : (p.swept cfg s).1.Unseen :=
    swept (s := countWake s) ⟨h.atMs, h.closed, h.refOk, h.fault⟩ _
  have hRoutes : ((taken cfg p s).routes .emergencyResponse).dueValid = false := by
    cases hWoken : p.woken with
    | false => rw [taken_of_timeout cfg p s hWoken, h.closed]
    | true => rw [(taken_of_woken cfg p s hWoken).routes, hSwept.closed]
  have hTaken : (taken cfg p s).Unseen := by
    refine ⟨by rw [taken_speed, h.atMs], hRoutes, ?_, ?_⟩
    · rw [taken_brake]
      split_ifs
      · exact h.speedFresh p.now
      · exact h.refOk
    · cases hWoken : p.woken with
      | false => rw [taken_of_timeout cfg p s hWoken, h.fault]
      | true => rw [(taken_of_woken cfg p s hWoken).fault, hSwept.fault]
  have hWatch : (directWatch cfg p.serviceNow (taken cfg p s)).1.Unseen := by
    rw [directWatch_fst]
    split_ifs
    · exact (hTaken.resumeSlot _ _).resumeSlot _ _
    · exact hTaken.resumeSlot _ _
    · exact hTaken.resumeSlot _ _
    · exact hTaken
  unfold Supervisor.pass
  split_ifs
  · exact ⟨by rw [directService_frame.speed, hWatch.atMs],
      by rw [directService_frame.routes, hWatch.closed],
      by rw [directService_frame.brake, hWatch.refOk],
      by rw [directService_frame.fault, hWatch.fault]⟩
  · exact hTaken

variable (cfg) in
/-- Before the first kinematic_state no call makes anything to judge. -/
theorem call (h : s.Unseen) {e : Event} (hCall : ∀ p, e ≠ .pass p)
    (hNote : ∀ now speedMmS, e ≠ .noteSpeed now speedMmS) (hResponse : e.LeavesResponse) :
    (next cfg s e).Unseen := by
  have hFrame := next_call cfg s hCall
  refine ⟨by rw [next_speed hNote, h.atMs], ?_, by rw [hFrame.brake, h.refOk],
    by rw [hFrame.fault, h.fault]⟩
  cases e with
  | arm now route due =>
      simp only [next, arm]
      split
      · exact h.closed
      · rename_i r hRoute
        by_cases hFloor : r = .emergencyStandstill
        · subst hFloor
          rw [armRoute_response, h.speedFresh]
          by_cases hOff : cfg.responseMs = 0 <;> simp [hOff, h.closed]
        · rw [armRoute_response_of_other _ _ _ _ _ hFloor, h.closed]
          rintro rfl
          exact hResponse (Route.ofId_eq_some hRoute)
  | done route =>
      simp only [next, done]
      split
      · exact h.closed
      · exact doneRoute_closed _ _ h.closed
  | handover now slot periodMs =>
      simp only [next, handover]
      split
      · exact h.closed
      · rw [handoverSlot_routes, h.closed]
  | spinAfter now nowUs report =>
      obtain ⟨levels, h' | ⟨due, h'⟩ | h'⟩ := spinAfter_cases cfg now nowUs report s <;>
        rw [next, h']
      · exact h.closed
      · simpa [armRoute_response_of_other] using h.closed
      · exact doneRoute_closed _ _ h.closed
  | pass p => exact absurd rfl (hCall p)
  | noteSpeed now speedMmS => exact absurd rfl (hNote now speedMmS)
  | setDirect | spin | timerExpiry | swtTimeout | hook => exact h.closed

end Unseen

structure FloorInv (w : World) : Prop where
  tracks : w.Tracks
  nested : w.state.Nested
  unseen : w.history.sample = none → w.state.Unseen

/-- The floor answered a standstill in this pass: route 3 was due, and the
last sample reads 0 and is fresh. -/
def FloorMetBy (w : World) (p : Pass) : Prop :=
  p.woken = true ∧ w.state.dueBy .emergencyStandstill p.now = true ∧ w.FreshStandstill p.now

def FloorArmed (s : Supervisor) : Prop := (s.routes .emergencyStandstill).dueValid = true

instance (s : Supervisor) : Decidable s.FloorArmed := by
  unfold FloorArmed
  infer_instance

/-- What one event may do to the supervision of the floor. -/
structure FloorKept (cfg : Config) (w : World) (e : Event) : Prop where
  /-- Route 3 is disarmed by the caller, a standstill or the fault only. -/
  disarmed : FloorArmed w.state → ¬ FloorArmed (w.step cfg e).state →
    e = .done 3 ∨ ∃ p, e = .pass p ∧
      (FloorMetBy w p ∨ (w.step cfg e).state.fault.vehicleFault = true)
  /-- Any other pass that judged route 3, or latched for route 4, leaves route
  3 armed beyond its own time. -/
  later : ∀ p, e = .pass p → p.woken = true →
    w.state.dueBy .emergencyStandstill p.now = true ∨
      .emergencyResponse ∈ (p.swept cfg w.state).2 →
    (FloorArmed (w.step cfg e).state ∧
        p.now < ((w.step cfg e).state.routes .emergencyStandstill).dueMs) ∨
      FloorMetBy w p ∨ (w.step cfg e).state.fault.vehicleFault = true
  /-- Of a vehicle never seen route 3 neither latches nor finds a fault. -/
  unseen : ∀ p, e = .pass p → w.history.sample = none →
    .emergencyStandstill ∉ (p.swept cfg w.state).2 ∧
      (w.step cfg e).state.fault.vehicleFault = false

section Run
variable {cfg : Config} {w : World} {e : Event}

theorem FloorInv.boot : FloorInv World.boot where
  tracks := .boot
  nested := nofun
  unseen := fun _ => ⟨rfl, rfl, rfl, rfl⟩

/-- One event, whichever it is. -/
theorem FloorInv.step (h : FloorInv w) (hAllowed : FloorAllowed w e) :
    FloorInv (w.step cfg e) where
  tracks := h.tracks.step hAllowed.ordered
  nested := by
    by_cases hPass : ∃ p, e = .pass p
    · obtain ⟨p, rfl⟩ := hPass
      exact pass_nested cfg p w.state h.nested
    · push Not at hPass
      exact next_call_nested hPass hAllowed.leavesResponse h.nested
  unseen := by
    intro hNone
    by_cases hPass : ∃ p, e = .pass p
    · obtain ⟨p, rfl⟩ := hPass
      exact (h.unseen hNone).pass p
    · push Not at hPass
      cases e with
      | noteSpeed now speedMmS => simp [note] at hNone
      | pass p => exact absurd rfl (hPass p)
      | _ => exact (h.unseen hNone).call cfg hPass (by simp) hAllowed.leavesResponse

variable (cfg) in
/-- A pass that judges route 3 keeps it armed past its own time, or met the
floor, or found the fault. -/
theorem FloorInv.pass_kept (h : FloorInv w) {p : Pass} (hAllowed : FloorAllowed w (.pass p))
    (hWoken : p.woken = true) (hArmed : FloorArmed w.state) :
    (FloorArmed (pass cfg p w.state).1 ∧
        p.now < ((pass cfg p w.state).1.routes .emergencyStandstill).dueMs) ∨
      FloorMetBy w p ∨ (pass cfg p w.state).1.fault.vehicleFault = true := by
  obtain ⟨hBrake, hSample⟩ := hAllowed.aged hWoken
  have hAge : w.state.BrakeAge p.now := h.tracks.brakeAge hAllowed.ordered hBrake
  rcases Supervisor.pass_kept cfg p w.state hWoken hArmed with ⟨hKept, hLater⟩ | hMet | hFault
  · exact .inl ⟨hKept, hLater hAge⟩
  · exact .inr (.inl ⟨hWoken, hMet.1,
      h.tracks.freshStandstill hAllowed.ordered hSample hMet.2⟩)
  · exact .inr (.inr hFault)

/-- What the invariant says of the next event. -/
theorem FloorInv.kept (h : FloorInv w) (hAllowed : FloorAllowed w e) : FloorKept cfg w e where
  disarmed := by
    intro hArmed hDisarmed
    by_cases hPass : ∃ p, e = .pass p
    · obtain ⟨p, rfl⟩ := hPass
      refine .inr ⟨p, rfl, ?_⟩
      cases hWoken : p.woken with
      | true =>
          rcases h.pass_kept cfg hAllowed hWoken hArmed with ⟨hKept, -⟩ | hMet | hFault
          · exact absurd hKept hDisarmed
          · exact .inl hMet
          · exact .inr hFault
      | false =>
          have hRoutes := pass_kept_of_timeout cfg p w.state hWoken hArmed
          exact absurd (by rwa [World.step_state, next, FloorArmed, hRoutes]) hDisarmed
    · push Not at hPass
      by_contra hOther
      push Not at hOther
      exact hDisarmed (next_call_armed hPass hOther.1 hArmed)
  later := by
    rintro p rfl hWoken (hDue | hLatch)
    · have hArmed : FloorArmed w.state := by
        simp only [dueBy, Bool.and_eq_true] at hDue
        exact hDue.1
      exact h.pass_kept cfg hAllowed hWoken hArmed
    · have hTaken := (taken_of_woken cfg p w.state hWoken).routes
      rcases sweep_responseLatch (s := countWake w.state) hLatch with ⟨hKept, hLater⟩ | hFault
      · have hRoutes := pass_of_armed cfg p w.state (by rw [hTaken]; exact hKept)
        rw [World.step_state, next, FloorArmed, hRoutes, hTaken]
        exact .inl ⟨hKept, hLater⟩
      · refine .inr (.inr ?_)
        rw [World.step_state, next, pass_fault_of_woken cfg p w.state hWoken]
        exact hFault
  unseen := by
    rintro p rfl hNone
    refine ⟨fun hFired => ?_, ((h.unseen hNone).pass p).fault⟩
    exact (sweep_fired (s := countWake w.state) hFired).1 (h.unseen hNone).atMs

/-- Floor supervision is never dropped: in every state of every allowed run
route 4 is armed only under route 3, and every event that may follow keeps
route 3 as `FloorKept` says. -/
theorem floor_supervision_kept (cfg : Config) {w : World}
    (run : Reaches (World.step cfg) FloorAllowed World.boot w) :
    w.state.Nested ∧ ∀ e, FloorAllowed w e → FloorKept cfg w e := by
  have hInv : FloorInv w := run.invariant .boot fun _ _ h hAllowed => h.step hAllowed
  exact ⟨hInv.nested, fun e hAllowed => hInv.kept hAllowed⟩

/-- The emergency call of a moving vehicle, not stopped a settle later. -/
def overrun : List Event :=
  [.noteSpeed 100 8000, .arm 200 3 4821, .noteSpeed 4800 3000, .pass (.at 4821)]

theorem floor_supervision_kept_overrun :
    (follow (World.step Config.image) World.boot overrun).state.Nested ∧
      ∀ e, FloorAllowed (follow (World.step Config.image) World.boot overrun) e →
        FloorKept Config.image (follow (World.step Config.image) World.boot overrun) e :=
  floor_supervision_kept Config.image (reaches_follow overrun (by decide))

end Run
end SafetyIsland.Supervisor
