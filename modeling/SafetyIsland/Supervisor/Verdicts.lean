import SafetyIsland.Supervisor.FloorRun

/-! The verdicts of a run are bounded: the output latches once, and a floor
route waits at most once for each start of the island's braking command. -/
namespace SafetyIsland.Supervisor

open Transition

/-- The starts of the braking command: the latch, and the operator slot's
resume. -/
def starts (s : Supervisor) : Nat :=
  (if s.latch.latched then 1 else 0) + (if (s.slots .operator).resumed then 1 else 0)

/-- Route `r` is armed for a time at which the braking command has not run its
span yet. -/
def pendingWait (span : Nat) (r : Route) (s : Supervisor) : Nat :=
  if s.latch.latched = true ∧ (s.routes r).dueValid = true ∧
    (s.routes r).dueMs < s.brake.since + span then 1 else 0

/-- The braking command starts at most twice. -/
theorem starts_le_two (s : Supervisor) : s.starts ≤ 2 := by
  unfold starts
  split_ifs <;> omega

section Pending
variable {span : Nat} {r : Route} {s t : Supervisor}

variable (span r s) in
theorem pendingWait_le_one : s.pendingWait span r ≤ 1 := by
  unfold pendingWait
  split_ifs <;> omega

theorem pendingWait_of_unlatched (h : s.latch.latched = false) : s.pendingWait span r = 0 := by
  simp [pendingWait, h]

theorem pendingWait_of_closed (h : (s.routes r).dueValid = false) : s.pendingWait span r = 0 := by
  simp [pendingWait, h]

theorem pendingWait_of_later (h : s.brake.since + span ≤ (s.routes r).dueMs) :
    s.pendingWait span r = 0 := by
  simp [pendingWait, h]

theorem pendingWait_congr (hLatch : t.latch = s.latch) (hBrake : t.brake = s.brake)
    (hRoute : t.routes r = s.routes r) : t.pendingWait span r = s.pendingWait span r := by
  simp [pendingWait, hLatch, hBrake, hRoute]

/-- A wait at its due was pending. -/
theorem pendingWait_of_young {now : Int} (hSpan : span < 2 ^ 32) (hAge : s.BrakeAge now)
    (hLatched : s.latch.latched = true) (hDue : s.dueBy r now = true)
    (hYoung : s.brakedMs now < BitVec.ofNat 32 span) : s.pendingWait span r = 1 := by
  have hLater := lt_since_add hSpan hLatched hAge hYoung
  simp only [dueBy, Bool.and_eq_true, decide_eq_true_eq] at hDue
  exact if_pos ⟨hLatched, hDue.1, by omega⟩

end Pending

/-- From `s` to `t`, a floor route's waits and the one it may still have to
make grow by no more than the starts of the braking command. -/
structure Waited (cfg : Config) (s t : Supervisor) : Prop where
  floor : t.floor.waits.toNat + t.pendingWait cfg.floorSpanMs .emergencyStandstill + s.starts ≤
    s.floor.waits.toNat + s.pendingWait cfg.floorSpanMs .emergencyStandstill + t.starts
  response : t.response.waits.toNat + t.pendingWait cfg.responseSpanMs .emergencyResponse +
      s.starts ≤
    s.response.waits.toNat + s.pendingWait cfg.responseSpanMs .emergencyResponse + t.starts

def latches (s : Supervisor) : Nat := s.floor.latches.toNat + s.response.latches.toNat

/-- The verdicts that arm route 3 again. -/
def rearms (s : Supervisor) : Nat := s.floor.waits.toNat + s.latches

/-- Without a response span route 4 is never armed. -/
def ResponseOff (cfg : Config) (s : Supervisor) : Prop :=
  cfg.responseMs = 0 → (s.routes .emergencyResponse).dueValid = false

namespace Waited
variable {cfg : Config} {s t u : Supervisor}

/-- Waits add up over two steps. -/
theorem trans (first : Waited cfg s t) (second : Waited cfg t u) : Waited cfg s u where
  floor := by
    have := first.floor
    have := second.floor
    omega
  response := by
    have := first.response
    have := second.response
    omega

/-- A step that leaves both floor routes and the braking command alone. -/
theorem of_same (hFrame : SweepFrame s t) (hFloor : t.floor.waits = s.floor.waits)
    (hResponse : t.response.waits = s.response.waits)
    (hFloorRoute : t.routes .emergencyStandstill = s.routes .emergencyStandstill)
    (hResponseRoute : t.routes .emergencyResponse = s.routes .emergencyResponse) :
    Waited cfg s t := by
  have hStarts : t.starts = s.starts := by simp [starts, hFrame.latch, hFrame.slots]
  constructor
  · rw [hStarts, hFloor, pendingWait_congr hFrame.latch hFrame.brake hFloorRoute]
  · rw [hStarts, hResponse, pendingWait_congr hFrame.latch hFrame.brake hResponseRoute]

end Waited

section Turn
variable {cfg : Config} {sw : Sweep} {s : Supervisor} {x : Supervisor × List Route}

@[simp] theorem responseArmLocked_waits (start : Int) (refMmS : U32) (refOk : Bool) :
    (responseArmLocked cfg start refMmS refOk s).response.waits = s.response.waits := by
  unfold responseArmLocked
  split_ifs <;> rfl

@[simp] theorem responseArmLocked_latches (start : Int) (refMmS : U32) (refOk : Bool) :
    (responseArmLocked cfg start refMmS refOk s).response.latches = s.response.latches := by
  unfold responseArmLocked
  split_ifs <;> rfl

@[simp] theorem latchFloor_waits (now : Int) :
    (latchFloor cfg now s).floor.waits = s.floor.waits ∧
      (latchFloor cfg now s).response.waits = s.response.waits := by
  simp [latchFloor]

@[simp] theorem latchFloor_latches (now : Int) :
    (latchFloor cfg now s).floor.latches = s.floor.latches ∧
      (latchFloor cfg now s).response.latches = s.response.latches := by
  simp [latchFloor]

theorem toNat_succ_le (n : U32) : (n + 1).toNat ≤ n.toNat + 1 := by
  rw [BitVec.toNat_add]
  exact Nat.mod_le _ _

/-- A turn of the sweep, from what it leaves of the two routes. -/
theorem Waited.of_turn {t : Supervisor} (hFrame : SweepFrame s t)
    (hFloor : t.floor.waits.toNat + t.pendingWait cfg.floorSpanMs .emergencyStandstill ≤
      s.floor.waits.toNat + s.pendingWait cfg.floorSpanMs .emergencyStandstill)
    (hResponse : t.response.waits.toNat + t.pendingWait cfg.responseSpanMs .emergencyResponse ≤
      s.response.waits.toNat + s.pendingWait cfg.responseSpanMs .emergencyResponse) :
    Waited cfg s t := by
  have hStarts : t.starts = s.starts := by simp [starts, hFrame.latch, hFrame.slots]
  constructor <;> omega

/-- A route armed a whole span from now has nothing to wait for. -/
theorem pendingWait_of_span {now : Int} {span : Nat} {r : Route} (hAge : s.BrakeAge now)
    (hDue : (s.routes r).dueMs = now + span) : s.pendingWait span r = 0 := by
  cases hLatched : s.latch.latched with
  | false => exact pendingWait_of_unlatched hLatched
  | true =>
      have := (hAge hLatched).1
      exact pendingWait_of_later (by omega)

/-- Route 4 armed from the braking command's start, or later, has nothing to
wait for. -/
theorem responseArmLocked_pendingWait {start : Int} {refMmS : U32} {refOk : Bool}
    (hStart : s.latch.latched = true → s.brake.since ≤ start) :
    (responseArmLocked cfg start refMmS refOk s).pendingWait cfg.responseSpanMs
      .emergencyResponse ≤ s.pendingWait cfg.responseSpanMs .emergencyResponse := by
  have hFrame := responseArmLocked_frame cfg s start refMmS refOk
  have hRoute := responseArmLocked_response cfg s start refMmS refOk
  by_cases hOff : cfg.responseMs = 0
  · rw [if_pos hOff] at hRoute
    rw [pendingWait_congr hFrame.latch hFrame.brake hRoute]
  · rw [if_neg hOff] at hRoute
    cases hLatched : s.latch.latched with
    | false =>
        rw [pendingWait_of_unlatched (by rw [hFrame.latch, hLatched])]
        exact Nat.zero_le _
    | true =>
        have := hStart hLatched
        cases refOk with
        | true =>
            rw [if_pos rfl] at hRoute
            rw [pendingWait_of_later (by rw [hRoute, hFrame.brake]; simp; omega)]
            exact Nat.zero_le _
        | false =>
            rw [if_neg (by decide)] at hRoute
            rw [pendingWait_of_closed (by rw [hRoute]; simp)]
            exact Nat.zero_le _

theorem responseWait_pendingWait (hClosed : (s.routes .emergencyResponse).dueValid = false) :
    (responseWait cfg s).pendingWait cfg.responseSpanMs .emergencyResponse = 0 := by
  have hArmed : (responseWait cfg s).pendingWait cfg.responseSpanMs .emergencyResponse ≤ _ :=
    responseArmLocked_pendingWait (fun _ => le_rfl)
  exact Nat.le_zero.mp (hArmed.trans (pendingWait_of_closed hClosed).le)

/-- Route 3's turn waits at most once for a start. -/
theorem floorTurn_waited (hAge : x.1.BrakeAge sw.now) :
    Waited cfg x.1 (sweepRoute cfg sw x .emergencyStandstill).1 := by
  have hFrame := sweepRoute_frame cfg sw x .emergencyStandstill
  have hAge' := hFrame.brakeAge hAge
  cases hDue : x.1.dueBy .emergencyStandstill sw.now with
  | false =>
      rw [sweepRoute_of_not_due hDue]
      exact .of_same (.refl _) rfl rfl rfl rfl
  | true =>
      rw [(sweepRoute_of_due hDue).1, expire] at hFrame hAge' ⊢
      rcases expireFloor_cases cfg sw.now (x.1.setRoute .emergencyStandstill
        (x.1.routes .emergencyStandstill).clear) with
        ⟨-, h⟩ | ⟨-, h⟩ | ⟨hLatched, hYoung, h⟩ | ⟨-, -, hUnlatched, h⟩ | ⟨-, -, -, -, h⟩ <;>
        rw [h] at hFrame hAge' ⊢
      · apply Waited.of_turn hFrame
        · rw [pendingWait_of_span hAge' (by simp [floorUnseen])]
          simp [floorUnseen]
        · rw [pendingWait_congr hFrame.latch hFrame.brake (by simp [floorUnseen])]
          simp [floorUnseen]
      · apply Waited.of_turn hFrame
        · rw [pendingWait_of_closed (by simp [floorMet, noteStale])]
          simp [floorMet, noteStale]
        · rw [pendingWait_of_closed (by simp [floorMet])]
          simp [floorMet, noteStale]
      · apply Waited.of_turn hFrame
        · rw [pendingWait_of_later (by simp [floorWait, noteStale]),
            pendingWait_of_young (by have := cfg.floorSpanMs_lt; omega) hAge hLatched hDue hYoung]
          simpa [floorWait, noteStale] using toNat_succ_le x.1.floor.waits
        · rw [pendingWait_congr hFrame.latch hFrame.brake (by simp [floorWait, noteStale])]
          simp [floorWait, noteStale]
      · have hUnlatched' := (congrArg Latch.latched hFrame.latch).trans hUnlatched
        apply Waited.of_turn hFrame
        · rw [pendingWait_of_unlatched hUnlatched']
          simp [floorLatch, countMiss, noteStale]
        · rw [pendingWait_of_unlatched hUnlatched']
          simp [floorLatch, countMiss, noteStale]
      · apply Waited.of_turn hFrame
        · rw [pendingWait_of_closed (by simp [declareFault, countMiss, noteStale])]
          simp [declareFault, countMiss, noteStale]
        · rw [pendingWait_of_closed (by simp [declareFault])]
          simp [declareFault, countMiss, noteStale]

/-- And so does route 4's. -/
theorem responseTurn_waited (hAge : x.1.BrakeAge sw.now) :
    Waited cfg x.1 (sweepRoute cfg sw x .emergencyResponse).1 := by
  have hFrame := sweepRoute_frame cfg sw x .emergencyResponse
  cases hDue : x.1.dueBy .emergencyResponse sw.now with
  | false =>
      rw [sweepRoute_of_not_due hDue]
      exact .of_same (.refl _) rfl rfl rfl rfl
  | true =>
      rw [(sweepRoute_of_due hDue).1, expire] at hFrame ⊢
      rcases expireResponse_cases cfg sw.now (x.1.setRoute .emergencyResponse
        (x.1.routes .emergencyResponse).clear) with
        ⟨-, h⟩ | ⟨hLatched, hYoung, h⟩ | ⟨-, hUnlatched, h⟩ | ⟨-, -, -, h⟩ <;>
        rw [h] at hFrame ⊢
      · apply Waited.of_turn hFrame
        · rw [pendingWait_congr hFrame.latch hFrame.brake
            (by simp [responseMet, noteShed, noteStale])]
          simp [responseMet, noteShed, noteStale]
        · rw [pendingWait_of_closed (by simp [responseMet, noteShed, noteStale])]
          simp [responseMet, noteShed, noteStale]
      · apply Waited.of_turn hFrame
        · rw [pendingWait_congr hFrame.latch hFrame.brake
            (by simp [responseWait, noteShed, noteStale, responseArmLocked_routes_of_ne])]
          simp [responseWait, noteShed, noteStale]
        · have hSpan : cfg.responseSpanMs < 2 ^ 32 := by
            have := cfg.responseSpanMs_lt
            have := cfg.floorSpanMs_lt
            omega
          rw [responseWait_pendingWait (by simp [noteShed, noteStale]),
            pendingWait_of_young hSpan hAge hLatched hDue hYoung]
          simpa [responseWait, noteShed, noteStale] using toNat_succ_le x.1.response.waits
      · have hUnlatched' := (congrArg Latch.latched hFrame.latch).trans hUnlatched
        apply Waited.of_turn hFrame
        · rw [pendingWait_of_unlatched hUnlatched']
          simp [responseLatch, countMiss, noteShed, noteStale]
        · rw [pendingWait_of_unlatched hUnlatched']
          simp [responseLatch, countMiss, noteShed, noteStale]
      · apply Waited.of_turn hFrame
        · rw [pendingWait_of_closed (by simp [declareFault])]
          simp [declareFault, countMiss, noteShed, noteStale]
        · rw [pendingWait_of_closed (by simp [declareFault, countMiss, noteShed, noteStale])]
          simp [declareFault, countMiss, noteShed, noteStale]

/-- A check that is off is not armed. -/
theorem ResponseOff.responseArmLocked (h : s.ResponseOff cfg) (start : Int) (refMmS : U32)
    (refOk : Bool) : (responseArmLocked cfg start refMmS refOk s).ResponseOff cfg := by
  intro hOff
  rw [responseArmLocked_response, if_pos hOff]
  exact h hOff

/-- Armed or not, route 4 is not due at the start of its span. -/
theorem responseArmLocked_not_due (h : s.ResponseOff cfg) (now : Int) (refMmS : U32)
    (refOk : Bool) :
    (responseArmLocked cfg now refMmS refOk s).dueBy .emergencyResponse now = false := by
  rw [dueBy, responseArmLocked_response]
  by_cases hOff : cfg.responseMs = 0
  · simp [hOff, h hOff]
  · have hSpan : 0 < cfg.responseSpanMs := by
      unfold Config.responseSpanMs
      omega
    cases refOk <;> simp [hOff]
    omega

/-- Route 3's turn leaves it off. -/
theorem floorTurn_off (h : x.1.ResponseOff cfg) :
    (sweepRoute cfg sw x .emergencyStandstill).1.ResponseOff cfg := by
  cases hDue : x.1.dueBy .emergencyStandstill sw.now with
  | false => rwa [sweepRoute_of_not_due hDue]
  | true =>
      rw [(sweepRoute_of_due hDue).1, expire]
      rcases expireFloor_cases cfg sw.now (x.1.setRoute .emergencyStandstill
        (x.1.routes .emergencyStandstill).clear) with
        ⟨-, h'⟩ | ⟨-, h'⟩ | ⟨-, -, h'⟩ | ⟨-, -, -, h'⟩ | ⟨-, -, -, -, h'⟩ <;> rw [h']
      · intro hOff
        simpa [floorUnseen] using h hOff
      · simp [ResponseOff, floorMet]
      · intro hOff
        simpa [floorWait, noteStale] using h hOff
      · apply ResponseOff.responseArmLocked
        intro hOff
        simpa [countMiss, noteStale] using h hOff
      · simp [ResponseOff, declareFault]

theorem responseTurn_off (h : x.1.ResponseOff cfg) :
    (sweepRoute cfg sw x .emergencyResponse).1.ResponseOff cfg := by
  cases hDue : x.1.dueBy .emergencyResponse sw.now with
  | false => rwa [sweepRoute_of_not_due hDue]
  | true =>
      intro hOff
      simp [dueBy, h hOff] at hDue

variable (cfg sw) in
/-- Route 3's turn latches only before the output is latched; then route 3 is
due a whole span from now, and route 4 is not due. -/
theorem floorTurn_latches (hOff : x.1.ResponseOff cfg) :
    (sweepRoute cfg sw x .emergencyStandstill).1.latches = x.1.latches ∨
    x.1.latch.latched = false ∧
      (sweepRoute cfg sw x .emergencyStandstill).1.latches ≤ x.1.latches + 1 ∧
      .emergencyStandstill ∈ (sweepRoute cfg sw x .emergencyStandstill).2 ∧
      ((sweepRoute cfg sw x .emergencyStandstill).1.routes .emergencyStandstill).dueMs =
        sw.now + cfg.floorSpanMs ∧
      (sweepRoute cfg sw x .emergencyStandstill).1.dueBy .emergencyResponse sw.now = false := by
  cases hDue : x.1.dueBy .emergencyStandstill sw.now with
  | false => exact .inl (by rw [sweepRoute_of_not_due hDue])
  | true =>
      rw [(sweepRoute_of_due hDue).1, (sweepRoute_of_due hDue).2, expire]
      rcases expireFloor_cases cfg sw.now (x.1.setRoute .emergencyStandstill
        (x.1.routes .emergencyStandstill).clear) with
        ⟨-, h⟩ | ⟨-, h⟩ | ⟨-, -, h⟩ | ⟨-, -, hUnlatched, h⟩ | ⟨-, -, -, -, h⟩ <;> rw [h]
      · exact .inl (by simp [latches, floorUnseen])
      · exact .inl (by simp [latches, floorMet, noteStale])
      · exact .inl (by simp [latches, floorWait, noteStale])
      · refine .inr ⟨hUnlatched, ?_, .inr rfl, by simp [floorLatch], ?_⟩
        · have := toNat_succ_le x.1.floor.latches
          simp [latches, floorLatch, countMiss, noteStale]
          omega
        · apply responseArmLocked_not_due
          intro hNone
          simpa [countMiss, noteStale] using hOff hNone
      · exact .inl (by simp [latches, declareFault, countMiss, noteStale])

variable (cfg sw) in
/-- And so does route 4's. -/
theorem responseTurn_latches :
    (sweepRoute cfg sw x .emergencyResponse).1.latches = x.1.latches ∨
    x.1.latch.latched = false ∧ x.1.dueBy .emergencyResponse sw.now = true ∧
      (sweepRoute cfg sw x .emergencyResponse).1.latches ≤ x.1.latches + 1 ∧
      .emergencyResponse ∈ (sweepRoute cfg sw x .emergencyResponse).2 ∧
      ((sweepRoute cfg sw x .emergencyResponse).1.routes .emergencyStandstill).dueMs =
        sw.now + cfg.floorSpanMs := by
  cases hDue : x.1.dueBy .emergencyResponse sw.now with
  | false => exact .inl (by rw [sweepRoute_of_not_due hDue])
  | true =>
      rw [(sweepRoute_of_due hDue).1, (sweepRoute_of_due hDue).2, expire]
      rcases expireResponse_cases cfg sw.now (x.1.setRoute .emergencyResponse
        (x.1.routes .emergencyResponse).clear) with
        ⟨-, h⟩ | ⟨-, -, h⟩ | ⟨-, hUnlatched, h⟩ | ⟨-, -, -, h⟩ <;> rw [h]
      · exact .inl (by simp [latches, responseMet, noteShed, noteStale])
      · exact .inl (by simp [latches, responseWait, noteShed, noteStale])
      · refine .inr ⟨hUnlatched, rfl, ?_, .inr rfl, by simp [responseLatch]⟩
        have := toNat_succ_le x.1.response.latches
        simp [latches, responseLatch, countMiss, noteShed, noteStale]
        omega
      · exact .inl (by simp [latches, declareFault, countMiss, noteShed, noteStale])

theorem toNat_succ {n : U32} (h : n.toNat < 2 ^ 31) : (n + 1).toNat = n.toNat + 1 := by
  rw [BitVec.toNat_add, Nat.mod_eq_of_lt]
  · rfl
  · simp
    omega

variable (cfg sw) in
/-- Route 3's due, of a vehicle that was seen, counts a wait or a latch, meets
the floor or finds the fault. -/
theorem floorTurn_rearms (hSmall : x.1.rearms < 2 ^ 31) (hSeen : x.1.speed.atMs ≠ 0) :
    (sweepRoute cfg sw x .emergencyStandstill).1.rearms =
        x.1.rearms + (if x.1.dueBy .emergencyStandstill sw.now then 1 else 0) ∨
      x.1.FloorMet sw.now ∨
      (sweepRoute cfg sw x .emergencyStandstill).1.fault.vehicleFault = true := by
  cases hDue : x.1.dueBy .emergencyStandstill sw.now with
  | false => exact .inl (by rw [sweepRoute_of_not_due hDue]; rfl)
  | true =>
      rw [(sweepRoute_of_due hDue).1, expire]
      rcases expireFloor_cases cfg sw.now (x.1.setRoute .emergencyStandstill
        (x.1.routes .emergencyStandstill).clear) with
        ⟨hUnseen, -⟩ | ⟨hStopped, -⟩ | ⟨-, -, h⟩ | ⟨-, -, -, h⟩ | ⟨-, -, -, -, h⟩
      · exact absurd hUnseen hSeen
      · exact .inr (.inl ⟨hDue, hStopped⟩)
      · have hSucc : (x.1.floor.waits + 1).toNat = x.1.floor.waits.toNat + 1 :=
          toNat_succ (by unfold rearms latches at hSmall; omega)
        left
        rw [h, if_pos rfl]
        simp only [rearms, latches, floorWait, noteStale, setFloor_floor, setFloor_response,
          setRoute_floor, setRoute_response, setCounts_floor, setCounts_response, hSucc]
        omega
      · have hSucc : (x.1.floor.latches + 1).toNat = x.1.floor.latches.toNat + 1 :=
          toNat_succ (by unfold rearms latches at hSmall; omega)
        left
        rw [h, if_pos rfl]
        simp [rearms, latches, floorLatch, countMiss, noteStale] at hSucc ⊢
        omega
      · exact .inr (.inr (by rw [h]; simp [declareFault]))

variable (cfg sw) in
/-- Route 4's turn takes no wait back. -/
theorem responseTurn_rearms (hSmall : x.1.rearms < 2 ^ 31) :
    x.1.rearms ≤ (sweepRoute cfg sw x .emergencyResponse).1.rearms := by
  cases hDue : x.1.dueBy .emergencyResponse sw.now with
  | false => rw [sweepRoute_of_not_due hDue]
  | true =>
      rw [(sweepRoute_of_due hDue).1, expire]
      rcases expireResponse_cases cfg sw.now (x.1.setRoute .emergencyResponse
        (x.1.routes .emergencyResponse).clear) with
        ⟨-, h⟩ | ⟨-, -, h⟩ | ⟨-, -, h⟩ | ⟨-, -, -, h⟩ <;> rw [h]
      · simp [rearms, latches, responseMet, noteShed, noteStale]
      · simp [rearms, latches, responseWait, noteShed, noteStale]
      · have hSucc : (x.1.response.latches + 1).toNat = x.1.response.latches.toNat + 1 :=
          toNat_succ (by unfold rearms latches at hSmall; omega)
        simp [rearms, latches, responseLatch, countMiss, noteShed, noteStale] at hSucc ⊢
        omega
      · simp [rearms, latches, declareFault, countMiss, noteShed, noteStale]

end Turn

section Sweep
variable {cfg : Config} {sw : Sweep} {s : Supervisor}

variable (cfg sw) in
/-- A sweep waits at most once for each start. -/
theorem sweep_waited (hAge : s.BrakeAge sw.now) : Waited cfg s (sweep cfg sw s).1 := by
  obtain ⟨low, hFrame, hSame, -, hSweep⟩ := sweep_turns cfg s sw
  have hLow : low.1.BrakeAge sw.now := hFrame.brakeAge hAge
  have hFloor : (sweepRoute cfg sw low .emergencyStandstill).1.BrakeAge sw.now :=
    (sweepRoute_frame ..).brakeAge hLow
  rw [hSweep]
  apply Waited.trans (t := low.1)
  · exact .of_same hFrame (by rw [hSame.floor]) (by rw [hSame.response]) hSame.floorRoute
      hSame.responseRoute
  · apply (floorTurn_waited hLow).trans
    apply (responseTurn_waited hFloor).trans
    exact .of_same (rearmLocked_frame _) rfl rfl rfl rfl

/-- A sweep leaves a check that is off as it is. -/
theorem sweep_off (h : s.ResponseOff cfg) : (sweep cfg sw s).1.ResponseOff cfg := by
  obtain ⟨low, -, hSame, -, hSweep⟩ := sweep_turns cfg s sw
  have hLow : low.1.ResponseOff cfg := by
    intro hOff
    rw [hSame.responseRoute]
    exact h hOff
  rw [hSweep]
  exact responseTurn_off (floorTurn_off hLow)

variable (cfg sw) in
/-- A sweep finds at most one latching verdict, and none once latched. -/
theorem sweep_latches (hOff : s.ResponseOff cfg) :
    (sweep cfg sw s).1.latches = s.latches ∨
    s.latch.latched = false ∧ (sweep cfg sw s).1.latches ≤ s.latches + 1 ∧
      (sweep cfg sw s).2 ≠ [] ∧
      ((sweep cfg sw s).1.routes .emergencyStandstill).dueMs = sw.now + cfg.floorSpanMs := by
  obtain ⟨low, hFrame, hSame, -, hSweep⟩ := sweep_turns cfg s sw
  have hLow : low.1.ResponseOff cfg := by
    intro hNone
    rw [hSame.responseRoute]
    exact hOff hNone
  have hLowLatches : low.1.latches = s.latches := by
    rw [latches, hSame.floor, hSame.response, latches]
  have hRearm (t : Supervisor) : (rearmLocked t).latches = t.latches := rfl
  rw [hSweep, hRearm]
  rcases floorTurn_latches cfg sw hLow with hFloor | ⟨hUnlatched, hFloor, hFired, hLater, hNotDue⟩
  · rcases responseTurn_latches cfg sw
      (x := sweepRoute cfg sw low .emergencyStandstill) with
      hResponse | ⟨hUnlatched, -, hResponse, hFired, hLater⟩
    · exact .inl (by rw [hResponse, hFloor, hLowLatches])
    · right
      rw [(sweepRoute_frame ..).latch, hFrame.latch] at hUnlatched
      exact ⟨hUnlatched, by omega, List.ne_nil_of_mem hFired, hLater⟩
  · right
    rw [sweepRoute_of_not_due hNotDue]
    exact ⟨by rwa [hFrame.latch] at hUnlatched, by omega, List.ne_nil_of_mem hFired, hLater⟩

variable (cfg sw) in
/-- A due of route 3 that ends nothing is one more wait. -/
theorem sweep_rearms (hSmall : s.rearms + 1 < 2 ^ 31) (hSeen : s.speed.atMs ≠ 0) :
    s.rearms + (if s.dueBy .emergencyStandstill sw.now then 1 else 0) ≤
        (sweep cfg sw s).1.rearms ∨
      s.FloorMet sw.now ∨ (sweep cfg sw s).1.fault.vehicleFault = true := by
  obtain ⟨low, hFrame, hSame, -, hSweep⟩ := sweep_turns cfg s sw
  have hLow : low.1.rearms = s.rearms := by
    rw [rearms, latches, hSame.floor, hSame.response, rearms, latches]
  have hRearm (t : Supervisor) : (rearmLocked t).rearms = t.rearms := rfl
  rw [hSweep, hRearm]
  rcases floorTurn_rearms cfg sw (x := low) (by omega)
    (by rwa [hFrame.speed]) with hCount | hMet | hFault
  · left
    rw [hSame.dueBy_floor] at hCount
    have hSmallTurn : (sweepRoute cfg sw low .emergencyStandstill).1.rearms < 2 ^ 31 := by
      rw [hCount, hLow]
      split_ifs <;> omega
    have := responseTurn_rearms cfg sw hSmallTurn
    omega
  · refine .inr (.inl ⟨?_, ?_⟩)
    · rw [← hSame.dueBy_floor]
      exact hMet.1
    · rw [← hFrame.standstillNow_eq]
      exact hMet.2
  · exact .inr (.inr (sweepRoute_fault_mono hFault))

end Sweep

/-- What the verdicts have counted. -/
structure CountsSame (s t : Supervisor) : Prop where
  floorWaits : t.floor.waits = s.floor.waits
  responseWaits : t.response.waits = s.response.waits
  latches : t.latches = s.latches

section Pass
variable {cfg : Config} {p : Pass} {s t u : Supervisor}

theorem CountsSame.trans (first : CountsSame s t) (second : CountsSame t u) : CountsSame s u where
  floorWaits := second.floorWaits.trans first.floorWaits
  responseWaits := second.responseWaits.trans first.responseWaits
  latches := second.latches.trans first.latches

/-- A start of the braking command is one more wait to come. -/
theorem Waited.of_start (hCounts : CountsSame s t) (hStart : s.starts + 1 ≤ t.starts) :
    Waited cfg s t := by
  constructor
  · have := pendingWait_le_one cfg.floorSpanMs .emergencyStandstill t
    rw [hCounts.floorWaits]
    omega
  · have := pendingWait_le_one cfg.responseSpanMs .emergencyResponse t
    rw [hCounts.responseWaits]
    omega

/-- What a pass acts on may start the braking command, and waits for nothing. -/
theorem actOn_waited (fired : List Route) : Waited cfg s (actOn p fired s) := by
  have hFrame := actOn_frame p fired s
  have hCounts : CountsSame s (actOn p fired s) :=
    ⟨by rw [hFrame.floor], by rw [hFrame.response], by rw [latches, hFrame.floor, hFrame.response,
      latches]⟩
  have hBrake := actOn_brake p fired s
  cases hWas : s.latch.latched with
  | true =>
      have hLatch := actOn_latch p fired s hWas
      rw [if_neg (by simp [hWas])] at hBrake
      have hStarts : (actOn p fired s).starts = s.starts := by
        simp [starts, hLatch, hFrame.slots]
      constructor
      · rw [hStarts, hCounts.floorWaits, pendingWait_congr hLatch hBrake (by rw [hFrame.routes])]
      · rw [hStarts, hCounts.responseWaits,
          pendingWait_congr hLatch hBrake (by rw [hFrame.routes])]
  | false =>
      cases hIs : (actOn p fired s).latch.latched with
      | true =>
          apply Waited.of_start hCounts
          have hBefore : s.starts = if (s.slots .operator).resumed then 1 else 0 := by
            simp [starts, hWas]
          have hAfter : (actOn p fired s).starts =
              1 + if (s.slots .operator).resumed then 1 else 0 := by
            simp [starts, hIs, hFrame.slots]
          omega
      | false =>
          have hStarts : (actOn p fired s).starts = s.starts := by
            simp [starts, hWas, hIs, hFrame.slots]
          constructor
          · rw [hStarts, hCounts.floorWaits, pendingWait_of_unlatched hIs,
              pendingWait_of_unlatched hWas]
          · rw [hStarts, hCounts.responseWaits, pendingWait_of_unlatched hIs,
              pendingWait_of_unlatched hWas]

theorem reopenFloor_counts (now : Int) : CountsSame s (reopenFloor cfg now s) := by
  unfold reopenFloor
  split_ifs
  · exact ⟨rfl, rfl, rfl⟩
  · exact ⟨by simp [rearmLocked], by simp [rearmLocked], by simp [latches, rearmLocked]⟩

theorem resumeSlot_counts (now : Int) (i : Slot) : CountsSame s (resumeSlot cfg now i s) := by
  unfold resumeSlot
  split_ifs
  · exact .trans (t := startBrake now (s.setSlot i ((s.slots i).resume now))) ⟨rfl, rfl, rfl⟩
      (reopenFloor_counts now)
  · exact ⟨rfl, rfl, rfl⟩

theorem directWatch_counts (now : Int) : CountsSame s (directWatch cfg now s).1 := by
  rw [directWatch_fst]
  split_ifs
  · exact (resumeSlot_counts now .handler).trans (resumeSlot_counts now .operator)
  · exact resumeSlot_counts now .operator
  · exact resumeSlot_counts now .handler
  · exact ⟨rfl, rfl, rfl⟩

theorem directService_counts (now publishNow : Int) :
    CountsSame s (directService cfg now publishNow s).1 := by
  have hFrame : PublishFrame (directWatch cfg now s).1 (directService cfg now publishNow s).1 :=
    directService_frame
  exact (directWatch_counts now).trans
    ⟨by rw [hFrame.floor], by rw [hFrame.response],
      by rw [latches, hFrame.floor, hFrame.response, latches]⟩

/-- The service may start it again. -/
theorem directService_waited (now publishNow : Int) :
    Waited cfg s (directService cfg now publishNow s).1 := by
  have hFrame : PublishFrame (directWatch cfg now s).1 (directService cfg now publishNow s).1 :=
    directService_frame
  have hCounts : CountsSame s (directService cfg now publishNow s).1 :=
    directService_counts now publishNow
  have hLatch : (directService cfg now publishNow s).1.latch = s.latch :=
    hFrame.latch.trans directWatch_latch
  have hResumed : ((directService cfg now publishNow s).1.slots .operator).resumed =
      ((s.slots .operator).resumed || s.resumable cfg now .operator) := directService_resumed _
  cases hQuiet : s.resumable cfg now .operator with
  | true =>
      have hHeld : (s.slots .operator).resumed = false := by
        simp [resumable, DirectSlot.watched] at hQuiet
        exact hQuiet.1.2
      apply Waited.of_start hCounts
      simp [starts, hLatch, hResumed, hHeld, hQuiet]
  | false =>
      have hBrake : (directService cfg now publishNow s).1.brake = s.brake := by
        rw [hFrame.brake, directWatch_brake, if_neg (by simp [hQuiet])]
      have hRoutes : (directService cfg now publishNow s).1.routes = s.routes :=
        hFrame.routes.trans (directWatch_of_not_resumable hQuiet)
      have hStarts : (directService cfg now publishNow s).1.starts = s.starts := by
        simp [starts, hLatch, hResumed, hQuiet]
      constructor
      · rw [hStarts, hCounts.floorWaits, pendingWait_congr hLatch hBrake (by rw [hRoutes])]
      · rw [hStarts, hCounts.responseWaits, pendingWait_congr hLatch hBrake (by rw [hRoutes])]

variable (cfg p s) in
/-- Together a pass waits at most once for each start. -/
theorem pass_waited (hAge : p.woken = true → s.BrakeAge p.now) :
    Waited cfg s (taken cfg p s) ∧ Waited cfg (taken cfg p s) (pass cfg p s).1 := by
  constructor
  · cases hWoken : p.woken with
    | true =>
        have hCounted : Waited cfg s (countWake s) :=
          .of_same ⟨rfl, rfl, rfl, rfl, rfl, rfl, rfl⟩ rfl rfl rfl rfl
        have hSwept : Waited cfg (countWake s) (p.swept cfg s).1 :=
          sweep_waited cfg (p.sweep s) (s := countWake s) (hAge hWoken)
        rw [taken, if_pos hWoken]
        exact (hCounted.trans hSwept).trans (actOn_waited _)
    | false =>
        rw [taken_of_timeout cfg p s hWoken]
        exact .of_same (.refl s) rfl rfl rfl rfl
  · unfold pass
    split_ifs
    · exact directService_waited ..
    · exact .of_same (.refl _) rfl rfl rfl rfl

variable (cfg p s) in
/-- Only what a pass takes latches. -/
theorem pass_latches_eq : (pass cfg p s).1.latches = (taken cfg p s).latches := by
  unfold pass
  split_ifs
  · exact (directService_counts ..).latches
  · rfl

/-- Each start of the braking command is for one verdict that arms route 3
again, or for one that may still come. -/
theorem taken_rearms (hAge : p.woken = true → s.BrakeAge p.now) (hOff : s.ResponseOff cfg)
    (h : s.rearms + s.pendingWait cfg.floorSpanMs .emergencyStandstill ≤ s.starts) :
    (taken cfg p s).rearms +
        (taken cfg p s).pendingWait cfg.floorSpanMs .emergencyStandstill ≤
      (taken cfg p s).starts := by
  cases hWoken : p.woken with
  | false => rwa [taken_of_timeout cfg p s hWoken]
  | true =>
      have hFrame := taken_of_woken cfg p s hWoken
      have hSwept := swept_frame cfg p s
      have hTaken : (taken cfg p s).latches = (p.swept cfg s).1.latches := by
        rw [latches, hFrame.floor, hFrame.response, latches]
      rcases sweep_latches cfg (p.sweep s) (s := countWake s) hOff with
        hSame | ⟨hUnlatched, hOnce, hFired, hLater⟩
      · have hWaited := (pass_waited cfg p s hAge).1.floor
        have hLatches : (taken cfg p s).latches = s.latches := hTaken.trans hSame
        unfold rearms at h ⊢
        omega
      · have hLatched : (taken cfg p s).latch.latched = true := by
          rw [taken, if_pos hWoken]
          exact actOn_latched_of_fired p _ _ hFired
        have hUnlatched : s.latch.latched = false := hUnlatched
        have hBrake : (taken cfg p s).brake.since = p.now := by
          rw [taken_brake, if_pos ⟨hUnlatched, hLatched⟩]
          rfl
        have hNone : (taken cfg p s).pendingWait cfg.floorSpanMs .emergencyStandstill = 0 := by
          apply pendingWait_of_later
          rw [hBrake, hFrame.routes]
          exact hLater.ge
        have hStarts : (taken cfg p s).starts = s.starts + 1 := by
          simp [starts, hLatched, hUnlatched, taken_slots]
          omega
        have hWaits : (taken cfg p s).floor.waits.toNat ≤ s.floor.waits.toNat := by
          have hWaited := (sweep_waited cfg (p.sweep s) (s := countWake s)
            (hAge hWoken)).floor
          have hStartsSame : (p.swept cfg s).1.starts = s.starts := by
            simp [starts, hSwept.latch, hSwept.slots]
          have hBefore : (countWake s).pendingWait cfg.floorSpanMs .emergencyStandstill = 0 :=
            pendingWait_of_unlatched hUnlatched
          have hCountStarts : (countWake s).starts = s.starts := rfl
          have hCountWaits : (countWake s).floor.waits = s.floor.waits := rfl
          rw [hFrame.floor]
          rw [← Pass.swept, hStartsSame, hBefore, hCountStarts, hCountWaits] at hWaited
          omega
        have hOnce : (p.swept cfg s).1.latches ≤ s.latches + 1 := hOnce
        unfold rearms at h ⊢
        omega

variable (cfg p s) in
/-- A pass that finds a latching verdict latches. -/
theorem pass_latches (hOff : s.ResponseOff cfg) :
    (pass cfg p s).1.latches = s.latches ∨
      s.latch.latched = false ∧ (pass cfg p s).1.latch.latched = true ∧
        (pass cfg p s).1.latches ≤ s.latches + 1 := by
  rw [pass_latches_eq, pass_latch]
  cases hWoken : p.woken with
  | true =>
      have hFrame := taken_of_woken cfg p s hWoken
      have hTaken : (taken cfg p s).latches = (p.swept cfg s).1.latches := by
        rw [latches, hFrame.floor, hFrame.response, latches]
      rw [hTaken]
      rcases sweep_latches cfg (p.sweep s) (s := countWake s) hOff with
        hSame | ⟨hUnlatched, hOnce, hFired, -⟩
      · exact .inl hSame
      · refine .inr ⟨hUnlatched, ?_, hOnce⟩
        rw [taken, if_pos hWoken]
        exact actOn_latched_of_fired p _ _ hFired
  | false => exact .inl (by rw [taken_of_timeout cfg p s hWoken])

theorem reopenFloor_off (h : s.ResponseOff cfg) (now : Int) :
    (reopenFloor cfg now s).ResponseOff cfg := by
  unfold reopenFloor
  split_ifs
  · exact h
  · have hArmed : ((s.setRoute .emergencyStandstill
        ((s.routes .emergencyStandstill).arm (now + cfg.floorSpanMs))).setFloor
          { s.floor with stage := .direct }).ResponseOff cfg := by
      intro hOff
      simpa using h hOff
    exact hArmed.responseArmLocked now s.brake.refMmS s.brake.refOk

/-- A pass leaves a check that is off as it is. -/
theorem pass_off (h : s.ResponseOff cfg) : (pass cfg p s).1.ResponseOff cfg := by
  have hTaken : (taken cfg p s).ResponseOff cfg := by
    cases hWoken : p.woken with
    | true =>
        have hSwept : (p.swept cfg s).1.ResponseOff cfg := sweep_off (s := countWake s) h
        intro hOff
        rw [(taken_of_woken cfg p s hWoken).routes]
        exact hSwept hOff
    | false => rwa [taken_of_timeout cfg p s hWoken]
  have hResume (now : Int) (i : Slot) {t : Supervisor} (ht : t.ResponseOff cfg) :
      (resumeSlot cfg now i t).ResponseOff cfg := by
    unfold resumeSlot
    split_ifs
    · exact reopenFloor_off (s := startBrake now (t.setSlot i ((t.slots i).resume now))) ht now
    · exact ht
  have hWatch : (directWatch cfg p.serviceNow (taken cfg p s)).1.ResponseOff cfg := by
    rw [directWatch_fst]
    split_ifs
    · exact hResume _ _ (hResume _ _ hTaken)
    · exact hResume _ _ hTaken
    · exact hResume _ _ hTaken
    · exact hTaken
  unfold pass
  split_ifs
  · intro hOff
    rw [directService_frame.routes]
    exact hWatch hOff
  · exact hTaken

variable (cfg p s) in
/-- A pass that judges route 3 of a vehicle it has seen meets the floor, finds
the fault, or has counted one more verdict that armed the route again. -/
theorem pass_rearms (hSmall : s.rearms + 1 < 2 ^ 31) (hSeen : s.speed.atMs ≠ 0) :
    s.rearms + (if p.woken && s.dueBy .emergencyStandstill p.now then 1 else 0) ≤
        (pass cfg p s).1.rearms ∨
      p.woken = true ∧ s.FloorMet p.now ∨ (pass cfg p s).1.fault.vehicleFault = true := by
  have hService : (pass cfg p s).1.rearms = (taken cfg p s).rearms := by
    unfold pass
    split_ifs
    · have hCounts : CountsSame (taken cfg p s)
          (directService cfg p.serviceNow p.publishNow (taken cfg p s)).1 :=
        directService_counts ..
      rw [rearms, hCounts.floorWaits, hCounts.latches, rearms]
    · rfl
  rw [hService]
  cases hWoken : p.woken with
  | true =>
      have hFrame := taken_of_woken cfg p s hWoken
      have hTaken : (taken cfg p s).rearms = (p.swept cfg s).1.rearms := by
        rw [rearms, latches, hFrame.floor, hFrame.response, rearms, latches]
      rw [hTaken, pass_fault_of_woken cfg p s hWoken, Bool.true_and]
      rcases sweep_rearms cfg (p.sweep s) (s := countWake s) hSmall hSeen with
        hCount | hMet | hFault
      · exact .inl hCount
      · exact .inr (.inl ⟨rfl, hMet⟩)
      · exact .inr (.inr hFault)
  | false =>
      left
      rw [taken_of_timeout cfg p s hWoken]
      simp

end Pass

/-- The caller arms route 3 a floor span ahead. -/
def Event.ArmsFloor (cfg : Config) : Event → Prop
  | .arm now route due => route = 3 → due = now + cfg.floorSpanMs
  | _ => True

instance (cfg : Config) (e : Event) : Decidable (e.ArmsFloor cfg) :=
  match e with
  | .arm .. => by unfold Event.ArmsFloor; infer_instance
  | .done .. | .noteSpeed .. | .handover .. | .setDirect .. | .spin .. | .spinAfter ..
  | .timerExpiry | .swtTimeout | .hook .. | .pass .. => isTrue trivial

/-- Callers arm route 3 a floor span ahead and leave route 4 to the
supervisor, the clock goes forward and the ages stay below one turn of the
32-bit clock. -/
structure VerdictAllowed (cfg : Config) (w : World) (e : Event) : Prop where
  ordered : e.Ordered w.history.clock
  aged : e.Aged w.history
  leavesResponse : e.LeavesResponse
  armsFloor : e.ArmsFloor cfg

instance (cfg : Config) (w : World) (e : Event) : Decidable (VerdictAllowed cfg w e) :=
  decidable_of_iff
    (e.Ordered w.history.clock ∧ e.Aged w.history ∧ e.LeavesResponse ∧ e.ArmsFloor cfg)
    ⟨fun ⟨hOrder, hAged, hLeaves, hArms⟩ => ⟨hOrder, hAged, hLeaves, hArms⟩,
      fun h => ⟨h.ordered, h.aged, h.leavesResponse, h.armsFloor⟩⟩

/-- The bounds on what a run's verdicts count. -/
structure VerdictsBounded (s : Supervisor) : Prop where
  latches : s.floor.latches.toNat + s.response.latches.toNat ≤ 1
  floorWaits : s.floor.waits.toNat ≤ 2
  responseWaits : s.response.waits.toNat ≤ 2

structure VerdictInv (cfg : Config) (w : World) : Prop where
  tracks : w.Tracks
  off : w.state.ResponseOff cfg
  latches : w.state.latches ≤ if w.state.latch.latched then 1 else 0
  rearms : w.state.rearms + w.state.pendingWait cfg.floorSpanMs .emergencyStandstill ≤
    w.state.starts
  responseWaits : w.state.response.waits.toNat +
    w.state.pendingWait cfg.responseSpanMs .emergencyResponse ≤ w.state.starts

/-- Two starts bound the verdicts. -/
theorem VerdictInv.bounded {cfg : Config} {w : World} (h : VerdictInv cfg w) :
    VerdictsBounded w.state := by
  have hStarts := w.state.starts_le_two
  have hFloor := h.rearms
  have hResponse := h.responseWaits
  have hLatches := h.latches
  rw [Supervisor.rearms] at hFloor
  constructor
  · rw [Supervisor.latches] at hLatches
    split_ifs at hLatches <;> omega
  · omega
  · omega

section Call
variable {cfg : Config} {w : World} {e : Event}

variable (cfg) in
/-- A call counts no verdict. -/
theorem next_call_counts (hCall : ∀ p, e ≠ .pass p) (s : Supervisor) :
    CountsSame s (next cfg s e) := by
  have hArmed (now : Int) (r : Route) (due : Int) (t : Supervisor) :
      CountsSame t (armRoute cfg now r due t) := by
    unfold armRoute
    dsimp only
    split_ifs
    · exact ⟨by simp [rearmLocked], by simp [rearmLocked], by simp [latches, rearmLocked]⟩
    · exact ⟨rfl, rfl, rfl⟩
  have hDone (r : Route) (t : Supervisor) : CountsSame t (doneRoute r t) := by
    unfold doneRoute responseClearLocked
    dsimp only
    split_ifs <;> exact ⟨rfl, rfl, rfl⟩
  cases e with
  | arm now route due =>
      simp only [next, arm]
      split
      · exact ⟨rfl, rfl, rfl⟩
      · exact hArmed ..
  | done route =>
      simp only [next, done]
      split
      · exact ⟨rfl, rfl, rfl⟩
      · exact hDone ..
  | handover now slot periodMs =>
      simp only [next, handover]
      split
      · exact ⟨rfl, rfl, rfl⟩
      · unfold handoverSlot
        dsimp only
        split_ifs <;> exact ⟨rfl, rfl, rfl⟩
  | spinAfter now nowUs report =>
      obtain ⟨levels, h | ⟨due, h⟩ | h⟩ := spinAfter_cases cfg now nowUs report s <;>
        rw [next, h]
      · exact ⟨rfl, rfl, rfl⟩
      · exact .trans (t := s.setLevels levels) ⟨rfl, rfl, rfl⟩ (hArmed ..)
      · exact .trans (t := s.setLevels levels) ⟨rfl, rfl, rfl⟩ (hDone ..)
  | pass p => exact absurd rfl (hCall p)
  | noteSpeed | setDirect | spin | timerExpiry | swtTimeout | hook => exact ⟨rfl, rfl, rfl⟩

/-- Clearing a route leaves no more to wait for. -/
theorem doneRoute_pendingWait (r q : Route) (span : Nat) (s : Supervisor) :
    (doneRoute r s).pendingWait span q ≤ s.pendingWait span q := by
  have hFrame := doneRoute_frame r s
  have hRoute : (doneRoute r s).routes q = s.routes q ∨
      ((doneRoute r s).routes q).dueValid = false := by
    unfold doneRoute responseClearLocked
    dsimp only
    split_ifs <;>
      by_cases hSame : q = r <;> by_cases hResponse : q = .emergencyResponse <;>
      simp_all [rearmLocked]
  rcases hRoute with hSame | hClosed
  · rw [pendingWait_congr hFrame.latch hFrame.brake hSame]
  · rw [pendingWait_of_closed hClosed]
    exact Nat.zero_le _

/-- Arming one leaves nothing of what has gone by to wait for. -/
theorem armRoute_pendingWait {now due : Int} {r : Route} {s : Supervisor}
    (hStart : s.latch.latched = true → s.brake.since ≤ now) (hResponse : r ≠ .emergencyResponse)
    (hDue : r = .emergencyStandstill → due = now + cfg.floorSpanMs) :
    (armRoute cfg now r due s).pendingWait cfg.floorSpanMs .emergencyStandstill ≤
        s.pendingWait cfg.floorSpanMs .emergencyStandstill ∧
      (armRoute cfg now r due s).pendingWait cfg.responseSpanMs .emergencyResponse ≤
        s.pendingWait cfg.responseSpanMs .emergencyResponse := by
  have hFrame := armRoute_frame cfg now r s due
  by_cases hFloor : r = .emergencyStandstill
  · subst hFloor
    have hRoute := armRoute_floorRoute cfg now .emergencyStandstill s due
    constructor
    · cases hLatched : s.latch.latched with
      | false =>
          rw [pendingWait_of_unlatched (by rw [hFrame.latch, hLatched])]
          exact Nat.zero_le _
      | true =>
          have := hStart hLatched
          rw [pendingWait_of_later (by rw [hRoute, hFrame.brake, hDue rfl]; simp; omega)]
          exact Nat.zero_le _
    · let called := (s.setRoute .emergencyStandstill
        ((s.routes .emergencyStandstill).arm due)).setFloor { s.floor with stage := .operator }
      have hArm : armRoute cfg now .emergencyStandstill due s =
          rearmLocked (responseArmLocked cfg now called.speed.mmS (called.speedFresh now) called) :=
        rfl
      have hSame : called.pendingWait cfg.responseSpanMs .emergencyResponse =
          s.pendingWait cfg.responseSpanMs .emergencyResponse :=
        pendingWait_congr rfl rfl (by simp [called])
      rw [hArm, pendingWait_congr (t := rearmLocked _) rfl rfl rfl, ← hSame]
      exact responseArmLocked_pendingWait hStart
  · rw [pendingWait_congr hFrame.latch hFrame.brake
        (by rw [armRoute_floorRoute, if_neg hFloor]),
      pendingWait_congr hFrame.latch hFrame.brake
        (armRoute_response_of_other cfg now r s due hFloor hResponse)]
    exact ⟨le_rfl, le_rfl⟩

/-- Nor does it leave one more to wait for. -/
theorem next_call_pendingWait (hTracks : w.Tracks) (hAllowed : VerdictAllowed cfg w e)
    (hCall : ∀ p, e ≠ .pass p) :
    (next cfg w.state e).pendingWait cfg.floorSpanMs .emergencyStandstill ≤
        w.state.pendingWait cfg.floorSpanMs .emergencyStandstill ∧
      (next cfg w.state e).pendingWait cfg.responseSpanMs .emergencyResponse ≤
        w.state.pendingWait cfg.responseSpanMs .emergencyResponse := by
  have hStart (now : Int) (hClock : w.history.clock ≤ now) (hLatched : w.state.latch.latched = true) :
      w.state.brake.since ≤ now :=
    (hTracks.brake_le _ (hTracks.brake hLatched)).trans hClock
  cases e with
  | arm now route due =>
      simp only [next, arm]
      split
      · exact ⟨le_rfl, le_rfl⟩
      · rename_i r hRoute
        obtain rfl := Route.ofId_eq_some hRoute
        apply armRoute_pendingWait (hStart now hAllowed.ordered)
        · rintro rfl
          exact hAllowed.leavesResponse rfl
        · rintro rfl
          exact hAllowed.armsFloor rfl
  | done route =>
      simp only [next, done]
      split
      · exact ⟨le_rfl, le_rfl⟩
      · exact ⟨doneRoute_pendingWait .., doneRoute_pendingWait ..⟩
  | handover now slot periodMs =>
      simp only [next, handover]
      split
      · exact ⟨le_rfl, le_rfl⟩
      · unfold handoverSlot
        dsimp only
        split_ifs <;> exact ⟨le_rfl, le_rfl⟩
  | spinAfter now nowUs report =>
      obtain ⟨levels, h | ⟨due, h⟩ | h⟩ := spinAfter_cases cfg now nowUs report w.state <;>
        rw [next, h]
      · exact ⟨le_rfl, le_rfl⟩
      · exact armRoute_pendingWait (s := w.state.setLevels levels)
          (hStart now hAllowed.ordered) (by decide) (by simp)
      · exact ⟨doneRoute_pendingWait _ _ _ (w.state.setLevels levels),
          doneRoute_pendingWait _ _ _ (w.state.setLevels levels)⟩
  | pass p => exact absurd rfl (hCall p)
  | noteSpeed | setDirect | spin | timerExpiry | swtTimeout | hook => exact ⟨le_rfl, le_rfl⟩

theorem next_call_off (hOff : w.state.ResponseOff cfg) (hAllowed : VerdictAllowed cfg w e)
    (hCall : ∀ p, e ≠ .pass p) : (next cfg w.state e).ResponseOff cfg := by
  have hArmed (now : Int) (r : Route) (due : Int) (t : Supervisor) (ht : t.ResponseOff cfg)
      (hResponse : r ≠ .emergencyResponse) : (armRoute cfg now r due t).ResponseOff cfg := by
    intro hNone
    by_cases hFloor : r = .emergencyStandstill
    · rw [hFloor, armRoute_response, if_pos hNone]
      exact ht hNone
    · rw [armRoute_response_of_other _ _ _ _ _ hFloor hResponse]
      exact ht hNone
  cases e with
  | arm now route due =>
      simp only [next, arm]
      split
      · exact hOff
      · rename_i r hRoute
        obtain rfl := Route.ofId_eq_some hRoute
        apply hArmed _ _ _ _ hOff
        rintro rfl
        exact hAllowed.leavesResponse rfl
  | done route =>
      simp only [next, done]
      split
      · exact hOff
      · exact fun hNone => doneRoute_closed _ _ (hOff hNone)
  | handover now slot periodMs =>
      simp only [next, handover]
      split
      · exact hOff
      · intro hNone
        rw [handoverSlot_routes]
        exact hOff hNone
  | spinAfter now nowUs report =>
      obtain ⟨levels, h | ⟨due, h⟩ | h⟩ := spinAfter_cases cfg now nowUs report w.state <;>
        rw [next, h]
      · exact hOff
      · exact hArmed _ _ _ (w.state.setLevels levels) hOff (by decide)
      · exact fun hNone => doneRoute_closed _ (w.state.setLevels levels) (hOff hNone)
  | pass p => exact absurd rfl (hCall p)
  | noteSpeed | setDirect | spin | timerExpiry | swtTimeout | hook => exact hOff

theorem VerdictInv.boot : VerdictInv cfg World.boot where
  tracks := .boot
  off _ := rfl
  latches := Nat.zero_le _
  rearms := Nat.zero_le _
  responseWaits := Nat.zero_le _

/-- One event, whichever it is. -/
theorem VerdictInv.step (h : VerdictInv cfg w) (hAllowed : VerdictAllowed cfg w e) :
    VerdictInv cfg (w.step cfg e) := by
  have hTracks : (w.step cfg e).Tracks := h.tracks.step hAllowed.ordered
  by_cases hPass : ∃ p, e = .pass p
  · obtain ⟨p, rfl⟩ := hPass
    have hAge : p.woken = true → w.state.BrakeAge p.now := fun hWoken =>
      h.tracks.brakeAge hAllowed.ordered (hAllowed.aged hWoken).1
    refine ⟨hTracks, pass_off h.off, ?_, ?_, ?_⟩
    · show (pass cfg p w.state).1.latches ≤ if (pass cfg p w.state).1.latch.latched then 1 else 0
      have hBefore := h.latches
      rcases pass_latches cfg p w.state h.off with hSame | ⟨hUnlatched, hLatched, hOnce⟩
      · rw [hSame]
        cases hWas : w.state.latch.latched with
        | true => rwa [pass_latch, taken_latch cfg p _ hWas]
        | false =>
            rw [hWas] at hBefore
            exact hBefore.trans (Nat.zero_le _)
      · rw [hUnlatched] at hBefore
        rw [hLatched, if_pos rfl]
        exact hOnce.trans (by simpa using hBefore)
    · have hTaken := taken_rearms hAge h.off h.rearms
      have hWaited := (pass_waited cfg p w.state hAge).2.floor
      have hLatches := pass_latches_eq cfg p w.state
      rw [World.step_state, next]
      unfold Supervisor.rearms at hTaken ⊢
      omega
    · have hFirst := (pass_waited cfg p w.state hAge).1.response
      have hSecond := (pass_waited cfg p w.state hAge).2.response
      have := h.responseWaits
      rw [World.step_state, next]
      omega
  · push Not at hPass
    have hFrame := next_call cfg w.state hPass
    have hCounts := next_call_counts cfg hPass w.state
    obtain ⟨hFloor, hResponse⟩ := next_call_pendingWait h.tracks hAllowed hPass
    have hStarts : (next cfg w.state e).starts = w.state.starts := by
      simp [starts, hFrame.latch, hFrame.resumed]
    refine ⟨hTracks, next_call_off h.off hAllowed hPass, ?_, ?_, ?_⟩
    · rw [World.step_state, hCounts.latches, hFrame.latch]
      exact h.latches
    · have := h.rearms
      rw [World.step_state, Supervisor.rearms, hCounts.floorWaits, hCounts.latches, hStarts]
      unfold Supervisor.rearms at this
      omega
    · have := h.responseWaits
      rw [World.step_state, hCounts.responseWaits, hStarts]
      omega

/-- Route 3's due is judged in this step. -/
def judgesFloor (w : World) : Event → Bool
  | .pass p => p.woken && w.state.dueBy .emergencyStandstill p.now
  | _ => false

/-- Route 3 is met in this step. -/
def meetsFloor (w : World) : Event → Bool
  | .pass p =>
      p.woken && w.state.dueBy .emergencyStandstill p.now && w.state.standstillNow p.now
  | _ => false

/-- Route 3 ends: the floor is met, or the fault is found. -/
def FloorEnds (cfg : Config) (w : World) (e : Event) : Prop :=
  meetsFloor w e = true ∨ (w.step cfg e).state.fault.vehicleFault = true

instance (cfg : Config) (w : World) (e : Event) : Decidable (FloorEnds cfg w e) := by
  unfold FloorEnds
  infer_instance

def LeavesFloorArmed : Event → Prop
  | .arm _ route _ | .done route => route ≠ 3
  | _ => True

instance (e : Event) : Decidable (LeavesFloorArmed e) :=
  match e with
  | .arm .. | .done .. => by unfold LeavesFloorArmed; infer_instance
  | .noteSpeed .. | .handover .. | .setDirect .. | .spin .. | .spinAfter .. | .timerExpiry
  | .swtTimeout | .hook .. | .pass .. => isTrue trivial

/-- Once a sample is noted, there is one. -/
theorem sample_step (hSome : w.history.sample ≠ none) : (w.step cfg e).history.sample ≠ none := by
  cases e with
  | noteSpeed now speedMmS => simp [note]
  | _ => exact hSome

/-- A stamped sample is one the verdicts see. -/
theorem World.Tracks.seen (h : w.Tracks)
    (hStamped : ∀ sample ∈ w.history.sample, uptime32 sample.1 ≠ 0)
    (hSome : w.history.sample ≠ none) : w.state.speed.atMs ≠ 0 := by
  obtain ⟨sample, hSample⟩ := Option.ne_none_iff_exists'.mp hSome
  rw [h.speed, hSample]
  exact hStamped sample hSample

/-- What a step that does not end route 3 leaves of the verdicts to come. -/
theorem VerdictInv.rearms_step (h : VerdictInv cfg w) (hAllowed : VerdictAllowed cfg w e)
    (hSeen : w.state.speed.atMs ≠ 0) :
    FloorEnds cfg w e ∨
      w.state.rearms + (if judgesFloor w e then 1 else 0) ≤ (w.step cfg e).state.rearms := by
  by_cases hPass : ∃ p, e = .pass p
  · obtain ⟨p, rfl⟩ := hPass
    have hSmall : w.state.rearms + 1 < 2 ^ 31 := by
      have := h.rearms
      have := w.state.starts_le_two
      omega
    rcases pass_rearms cfg p w.state hSmall hSeen with hCount | ⟨hWoken, hMet⟩ | hFault
    · exact .inr hCount
    · exact .inl (.inl (by simp [meetsFloor, hWoken, hMet.1, hMet.2]))
    · exact .inl (.inr hFault)
  · push Not at hPass
    have hCounts := next_call_counts cfg hPass w.state
    have hNone : judgesFloor w e = false := by
      cases e with
      | pass p => exact absurd rfl (hPass p)
      | _ => rfl
    right
    rw [hNone, World.step_state, Supervisor.rearms, Supervisor.rearms, hCounts.floorWaits, hCounts.latches]
    simp

end Call

/-- The verdicts of every run are bounded. Once a vehicle has been seen, route
3 ends by its third due, if the caller leaves it alone. -/
theorem verdicts_bounded (cfg : Config) :
    (∀ w, Reaches (World.step cfg) (VerdictAllowed cfg) World.boot w →
      VerdictsBounded w.state) ∧
    ∀ w, Reaches (World.step cfg) (fun w e => VerdictAllowed cfg w e ∧ e.Stamped)
        World.boot w →
      FloorArmed w.state → w.history.sample ≠ none →
      ∀ es, AllowedAlong (World.step cfg)
          (fun w e => VerdictAllowed cfg w e ∧ e.Stamped ∧ LeavesFloorArmed e) w es →
        3 ≤ countAlong (World.step cfg) judgesFloor w es →
        SomeAlong (World.step cfg) (FloorEnds cfg) w es := by
  have hInv : ∀ w, Reaches (World.step cfg) (VerdictAllowed cfg) World.boot w →
      VerdictInv cfg w := by
    intro w run
    exact run.invariant .boot fun _ _ h hAllowed => h.step hAllowed
  constructor
  · intro w run
    exact (hInv w run).bounded
  · intro w run _ hSome es hAllowed hThree
    have hStamped : ∀ sample ∈ w.history.sample, uptime32 sample.1 ≠ 0 :=
      run.invariant (P := fun w => ∀ sample ∈ w.history.sample, uptime32 sample.1 ≠ 0)
        (by simp [World.boot]) (fun _ _ h hAllowed => stamped_step h hAllowed.2)
    have hCount : SomeAlong (World.step cfg) (FloorEnds cfg) w es ∨
        countAlong (World.step cfg) judgesFloor w es ≤ 2 - w.state.rearms := by
      apply countAlong_le
        (fun w => VerdictInv cfg w ∧ w.history.sample ≠ none ∧
          ∀ sample ∈ w.history.sample, uptime32 sample.1 ≠ 0)
        (fun w => 2 - w.state.rearms) ?_ es ⟨hInv w (run.mono fun _ _ h => h.1), hSome, hStamped⟩
        hAllowed
      rintro w e ⟨h, hSome, hStamped⟩ ⟨hAllowed, hEvent, -⟩
      rcases h.rearms_step hAllowed (h.tracks.seen hStamped hSome) with hEnds | hCount
      · exact .inl hEnds
      · have hNext := h.step hAllowed
        refine .inr ⟨⟨hNext, sample_step hSome, stamped_step hStamped hEvent⟩, ?_⟩
        have := hNext.rearms
        have := (w.step cfg e).state.starts_le_two
        omega
    apply hCount.resolve_right
    omega

/-- A moving vehicle, the emergency call not answered: route 3 latches, and the
operator takes the slot over and stalls. -/
def called : List Event :=
  [.setDirect .operator, .noteSpeed 100 8000, .arm 200 3 4821]

def stalled : List Event :=
  [.pass (.at 4821), .handover 4900 1 33, .pass (.at 5000), .noteSpeed 9400 8000,
    .pass (.at 9442), .noteSpeed 9600 8000, .pass (.at 9621)]

theorem verdicts_bounded_stalled :
    VerdictsBounded (follow (World.step Config.image) World.boot (called ++ stalled)).state ∧
      SomeAlong (World.step Config.image) (FloorEnds Config.image)
        (follow (World.step Config.image) World.boot called) stalled :=
  ⟨(verdicts_bounded Config.image).1 _ (reaches_follow (called ++ stalled) (by decide +kernel)),
    (verdicts_bounded Config.image).2 _ (reaches_follow called (by decide +kernel))
      (by decide +kernel) (by decide +kernel) stalled (by decide +kernel) (by decide +kernel)⟩

/-- The last sample is noted as the 32-bit clock turns over, and route 3 is
armed. -/
def turnedOver : List Event :=
  [.noteSpeed 4294967296 8000, .arm 4294967306 3 4294971927]

/-- Four dues on, route 3 is armed for a fifth. -/
def unseenDues : List Event :=
  [4294971927, 4294976548, 4294981169, 4294985790].map fun now => .pass (.at now)

/-- A sample in the one millisecond the clock reads as 0 hides the vehicle, and
route 3 waits a fourth time. -/
theorem not_verdicts_bounded : ¬ ∀ w,
    Reaches (World.step Config.image) (VerdictAllowed Config.image) World.boot w →
      FloorArmed w.state → w.history.sample ≠ none →
      ∀ es, AllowedAlong (World.step Config.image)
          (fun w e => VerdictAllowed Config.image w e ∧ LeavesFloorArmed e) w es →
        4 ≤ countAlong (World.step Config.image) judgesFloor w es →
        SomeAlong (World.step Config.image) (FloorEnds Config.image) w es := by
  intro h
  have hEnds := h _ (reaches_follow turnedOver (by decide +kernel)) (by decide +kernel)
    (by decide +kernel) unseenDues (by decide +kernel) (by decide +kernel)
  revert hEnds
  decide +kernel

end SafetyIsland.Supervisor
