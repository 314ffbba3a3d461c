import SafetyIsland.Supervisor.Reaction

/-! What one sweep can do. Every invariant of the reaction thread is derived
from the lemmas here: a frame for what no verdict touches, what happens to
the floor's two routes and to the fault, and the sweep as a composition of
its five turns. -/
namespace SafetyIsland.Supervisor

/-- The words no verdict writes. -/
structure SweepFrame (s t : Supervisor) : Prop where
  slots : t.slots = s.slots
  directNextMs : t.directNextMs = s.directNextMs
  latch : t.latch = s.latch
  speed : t.speed = s.speed
  brake : t.brake = s.brake
  pending : t.pending = s.pending
  levels : t.levels = s.levels

namespace SweepFrame
variable {s t u : Supervisor}

theorem refl (s : Supervisor) : SweepFrame s s := ⟨rfl, rfl, rfl, rfl, rfl, rfl, rfl⟩

/-- What two verdicts leave alone, both together do. -/
theorem trans (first : SweepFrame s t) (second : SweepFrame t u) : SweepFrame s u where
  slots := second.slots.trans first.slots
  directNextMs := second.directNextMs.trans first.directNextMs
  latch := second.latch.trans first.latch
  speed := second.speed.trans first.speed
  brake := second.brake.trans first.brake
  pending := second.pending.trans first.pending
  levels := second.levels.trans first.levels

end SweepFrame

section Frame
variable (cfg : Config) (now : Int) (s : Supervisor)

theorem rearmLocked_frame : SweepFrame s (rearmLocked s) := ⟨rfl, rfl, rfl, rfl, rfl, rfl, rfl⟩

theorem setRoute_frame (r : Route) (x : RouteState) : SweepFrame s (s.setRoute r x) :=
  ⟨rfl, rfl, rfl, rfl, rfl, rfl, rfl⟩

theorem noteStale_frame : SweepFrame s (noteStale now s) := ⟨rfl, rfl, rfl, rfl, rfl, rfl, rfl⟩

/-- A miss is counted on its own route. -/
theorem countMiss_frame (r : Route) : SweepFrame s (countMiss r s) :=
  ⟨rfl, rfl, rfl, rfl, rfl, rfl, rfl⟩

theorem responseArmLocked_frame (start : Int) (refMmS : U32) (refOk : Bool) :
    SweepFrame s (responseArmLocked cfg start refMmS refOk s) := by
  unfold responseArmLocked
  split_ifs <;> exact ⟨rfl, rfl, rfl, rfl, rfl, rfl, rfl⟩

theorem latchFloor_frame : SweepFrame s (latchFloor cfg now s) := by
  refine .trans ?_ (responseArmLocked_frame ..)
  exact ⟨rfl, rfl, rfl, rfl, rfl, rfl, rfl⟩

theorem floorLatch_frame : SweepFrame s (floorLatch cfg now s) := by
  refine .trans ?_ (latchFloor_frame ..)
  exact ⟨rfl, rfl, rfl, rfl, rfl, rfl, rfl⟩

theorem responseWait_frame : SweepFrame s (responseWait cfg s) := by
  refine .trans ?_ (responseArmLocked_frame ..)
  exact ⟨rfl, rfl, rfl, rfl, rfl, rfl, rfl⟩

theorem responseLatch_frame : SweepFrame s (responseLatch cfg now s) := by
  refine .trans ?_ (latchFloor_frame ..)
  exact ⟨rfl, rfl, rfl, rfl, rfl, rfl, rfl⟩

theorem expireExecutor_frame (sw : Sweep) : SweepFrame s (expireExecutor sw s).1 := by
  unfold expireExecutor
  dsimp only
  split_ifs <;> exact ⟨rfl, rfl, rfl, rfl, rfl, rfl, rfl⟩

theorem expireComfortable_frame : SweepFrame s (expireComfortable now s).1 := by
  unfold expireComfortable
  split_ifs <;> exact ⟨rfl, rfl, rfl, rfl, rfl, rfl, rfl⟩

theorem expireFloor_frame : SweepFrame s (expireFloor cfg now s).1 := by
  unfold expireFloor
  split_ifs with hUnseen
  · exact ⟨rfl, rfl, rfl, rfl, rfl, rfl, rfl⟩
  · cases s.floorVerdict cfg now with
    | met => exact ⟨rfl, rfl, rfl, rfl, rfl, rfl, rfl⟩
    | wait => exact ⟨rfl, rfl, rfl, rfl, rfl, rfl, rfl⟩
    | vehicleFault => exact ⟨rfl, rfl, rfl, rfl, rfl, rfl, rfl⟩
    | latch => exact (noteStale_frame now s).trans (floorLatch_frame ..)

theorem expireResponse_frame : SweepFrame s (expireResponse cfg now s).1 := by
  have hJudged : SweepFrame s (noteShed (noteStale now s)) := ⟨rfl, rfl, rfl, rfl, rfl, rfl, rfl⟩
  unfold expireResponse
  cases s.responseVerdict cfg now with
  | met => exact ⟨rfl, rfl, rfl, rfl, rfl, rfl, rfl⟩
  | wait => exact hJudged.trans (responseWait_frame ..)
  | vehicleFault => exact ⟨rfl, rfl, rfl, rfl, rfl, rfl, rfl⟩
  | latch => exact hJudged.trans (responseLatch_frame ..)

/-- A verdict writes no word but its own. -/
theorem expire_frame (sw : Sweep) (r : Route) : SweepFrame s (expire cfg sw r s).1 := by
  cases r with
  | callMrmHpcLoss => exact countMiss_frame ..
  | executor => exact expireExecutor_frame ..
  | comfortableStandstill => exact expireComfortable_frame ..
  | emergencyStandstill => exact expireFloor_frame ..
  | emergencyResponse => exact expireResponse_frame ..

theorem sweepRoute_frame (sw : Sweep) (x : Supervisor × List Route) (r : Route) :
    SweepFrame x.1 (sweepRoute cfg sw x r).1 := by
  unfold sweepRoute
  split_ifs with hDue
  · exact (setRoute_frame ..).trans (expire_frame ..)
  · exact .refl _

/-- And neither does a sweep. -/
theorem sweep_frame (sw : Sweep) : SweepFrame s (sweep cfg sw s).1 := by
  have hFold : ∀ (rs : List Route) (x : Supervisor × List Route),
      SweepFrame x.1 (rs.foldl (sweepRoute cfg sw) x).1 := by
    intro rs
    induction rs with
    | nil => exact fun x => .refl _
    | cons r rs ih => exact fun x => (sweepRoute_frame ..).trans (ih _)
  exact (hFold Route.all (s, [])).trans (rearmLocked_frame _)

end Frame

/-- The floor's words are those of the other state. -/
structure FloorSame (s t : Supervisor) : Prop where
  floorRoute : t.routes .emergencyStandstill = s.routes .emergencyStandstill
  responseRoute : t.routes .emergencyResponse = s.routes .emergencyResponse
  floor : t.floor = s.floor
  response : t.response = s.response
  fault : t.fault = s.fault

namespace FloorSame
variable {s t u : Supervisor}

theorem refl (s : Supervisor) : FloorSame s s := ⟨rfl, rfl, rfl, rfl, rfl⟩

theorem trans (first : FloorSame s t) (second : FloorSame t u) : FloorSame s u where
  floorRoute := second.floorRoute.trans first.floorRoute
  responseRoute := second.responseRoute.trans first.responseRoute
  floor := second.floor.trans first.floor
  response := second.response.trans first.response
  fault := second.fault.trans first.fault

end FloorSame

section Floor
variable (cfg : Config) (now : Int) (s : Supervisor)

theorem responseArmLocked_routes_of_ne {r : Route} (hOther : r ≠ .emergencyResponse)
    (start : Int) (refMmS : U32) (refOk : Bool) :
    (responseArmLocked cfg start refMmS refOk s).routes r = s.routes r := by
  unfold responseArmLocked
  split_ifs <;> simp [hOther]

/-- Route 4 is armed only against a reference that was fresh. -/
theorem responseArmLocked_response (start : Int) (refMmS : U32) (refOk : Bool) :
    (responseArmLocked cfg start refMmS refOk s).routes .emergencyResponse =
      if cfg.responseMs = 0 then s.routes .emergencyResponse
      else if refOk then (s.routes .emergencyResponse).arm (start + cfg.responseSpanMs)
      else (s.routes .emergencyResponse).clear := by
  unfold responseArmLocked
  cases refOk <;> split_ifs <;> simp_all

@[simp] theorem responseArmLocked_floor (start : Int) (refMmS : U32) (refOk : Bool) :
    (responseArmLocked cfg start refMmS refOk s).floor = s.floor := by
  unfold responseArmLocked
  split_ifs <;> rfl

@[simp] theorem responseArmLocked_fault (start : Int) (refMmS : U32) (refOk : Bool) :
    (responseArmLocked cfg start refMmS refOk s).fault = s.fault := by
  unfold responseArmLocked
  split_ifs <;> rfl

@[simp] theorem latchFloor_floorRoute :
    (latchFloor cfg now s).routes .emergencyStandstill =
      (s.routes .emergencyStandstill).rearm (now + cfg.floorSpanMs) := by
  rw [latchFloor, responseArmLocked_routes_of_ne _ _ (by decide)]
  simp

@[simp] theorem latchFloor_fault : (latchFloor cfg now s).fault = s.fault := by
  simp [latchFloor]

/-- Route 3 at its due, one case for each verdict. -/
theorem expireFloor_cases :
    (s.speed.atMs = 0 ∧ expireFloor cfg now s = (floorUnseen cfg now s, false)) ∨
    (s.standstillNow now = true ∧
      expireFloor cfg now s = (floorMet (noteStale now s), false)) ∨
    (s.latch.latched = true ∧ s.brakedMs now < BitVec.ofNat 32 cfg.floorSpanMs ∧
      expireFloor cfg now s = (floorWait cfg (noteStale now s), false)) ∨
    (s.speed.atMs ≠ 0 ∧ s.standstillNow now = false ∧ s.latch.latched = false ∧
      expireFloor cfg now s = (floorLatch cfg now (noteStale now s), true)) ∨
    (s.speed.atMs ≠ 0 ∧ s.standstillNow now = false ∧ s.latch.latched = true ∧
      BitVec.ofNat 32 cfg.floorSpanMs ≤ s.brakedMs now ∧
      expireFloor cfg now s =
        (declareFault now .emergencyStandstill .emergencyResponse
          (countMiss .emergencyStandstill (noteStale now s)), false)) := by
  unfold expireFloor
  by_cases hUnseen : s.speed.atMs = 0
  · exact .inl ⟨hUnseen, by simp [Judge.unseen, hUnseen]⟩
  · have hSeen : Judge.unseen s.speed.atMs = false := by simpa [Judge.unseen] using hUnseen
    simp only [hSeen, Bool.false_eq_true, if_false]
    cases hVerdict : s.floorVerdict cfg now with
    | met => exact .inr (.inl ⟨Judge.floor_eq_met.mp hVerdict, rfl⟩)
    | wait =>
        obtain ⟨-, hLatched, hYoung⟩ := Judge.floor_eq_wait.mp hVerdict
        exact .inr (.inr (.inl ⟨hLatched, hYoung, rfl⟩))
    | latch =>
        obtain ⟨hMoving, hUnlatched⟩ := Judge.floor_eq_latch.mp hVerdict
        exact .inr (.inr (.inr (.inl ⟨hUnseen, hMoving, hUnlatched, rfl⟩)))
    | vehicleFault =>
        obtain ⟨hMoving, hLatched, hOld⟩ := Judge.floor_eq_vehicleFault.mp hVerdict
        exact .inr (.inr (.inr (.inr ⟨hUnseen, hMoving, hLatched, hOld, rfl⟩)))

/-- At a standstill route 3 is met. -/
theorem expireFloor_of_standstill (hStopped : s.standstillNow now = true) :
    expireFloor cfg now s = (floorMet (noteStale now s), false) := by
  have hSeen : Judge.unseen s.speed.atMs = false := by
    simpa [Judge.unseen] using (Judge.standstill_eq_true.mp hStopped).1
  have hVerdict : s.floorVerdict cfg now = .met := Judge.floor_eq_met.mpr hStopped
  simp [expireFloor, hSeen, hVerdict]

/-- Route 4 at its due, one case for each verdict. -/
theorem expireResponse_cases :
    (s.respondedNow cfg now = true ∧
      expireResponse cfg now s = (responseMet (noteShed (noteStale now s)), false)) ∨
    (s.latch.latched = true ∧ s.brakedMs now < BitVec.ofNat 32 cfg.responseSpanMs ∧
      expireResponse cfg now s = (responseWait cfg (noteShed (noteStale now s)), false)) ∨
    (s.respondedNow cfg now = false ∧ s.latch.latched = false ∧
      expireResponse cfg now s = (responseLatch cfg now (noteShed (noteStale now s)), true)) ∨
    (s.respondedNow cfg now = false ∧ s.latch.latched = true ∧
      BitVec.ofNat 32 cfg.responseSpanMs ≤ s.brakedMs now ∧
      expireResponse cfg now s =
        (declareFault now .emergencyResponse .emergencyStandstill
          (countMiss .emergencyResponse (noteShed (noteStale now s))), false)) := by
  unfold expireResponse
  cases hVerdict : s.responseVerdict cfg now with
  | met => exact .inl ⟨Judge.floor_eq_met.mp hVerdict, rfl⟩
  | wait =>
      obtain ⟨-, hLatched, hYoung⟩ := Judge.floor_eq_wait.mp hVerdict
      exact .inr (.inl ⟨hLatched, hYoung, rfl⟩)
  | latch =>
      obtain ⟨hSlow, hUnlatched⟩ := Judge.floor_eq_latch.mp hVerdict
      exact .inr (.inr (.inl ⟨hSlow, hUnlatched, rfl⟩))
  | vehicleFault =>
      obtain ⟨hSlow, hLatched, hOld⟩ := Judge.floor_eq_vehicleFault.mp hVerdict
      exact .inr (.inr (.inr ⟨hSlow, hLatched, hOld, rfl⟩))

/-- The first three routes' verdicts do not touch the floor. -/
theorem expire_floorSame (sw : Sweep) {r : Route} (hFloor : r ≠ .emergencyStandstill)
    (hResponse : r ≠ .emergencyResponse) : FloorSame s (expire cfg sw r s).1 := by
  cases r with
  | callMrmHpcLoss => exact ⟨rfl, rfl, rfl, rfl, rfl⟩
  | executor =>
      simp only [expire, expireExecutor]
      split_ifs <;> exact ⟨rfl, rfl, rfl, rfl, rfl⟩
  | comfortableStandstill =>
      simp only [expire, expireComfortable]
      split_ifs <;> exact ⟨rfl, rfl, rfl, rfl, rfl⟩
  | emergencyStandstill => exact absurd rfl hFloor
  | emergencyResponse => exact absurd rfl hResponse

/-- Routes 0 to 2 leave both floor routes alone. -/
theorem sweepRoute_floorSame (sw : Sweep) (x : Supervisor × List Route) {r : Route}
    (hFloor : r ≠ .emergencyStandstill) (hResponse : r ≠ .emergencyResponse) :
    FloorSame x.1 (sweepRoute cfg sw x r).1 := by
  unfold sweepRoute
  split_ifs with hDue
  · refine .trans ?_ (expire_floorSame cfg _ sw hFloor hResponse)
    exact ⟨by simp [hFloor.symm], by simp [hResponse.symm], rfl, rfl, rfl⟩
  · exact .refl _

/-- A sweep is three turns that leave the floor alone, then its two routes'
turns. -/
theorem sweep_turns (sw : Sweep) : ∃ low : Supervisor × List Route,
    SweepFrame s low.1 ∧ FloorSame s low.1 ∧
    (∀ r ∈ low.2, r ≠ .emergencyStandstill ∧ r ≠ .emergencyResponse) ∧
    sweep cfg sw s =
      (rearmLocked (sweepRoute cfg sw (sweepRoute cfg sw low .emergencyStandstill)
          .emergencyResponse).1,
        (sweepRoute cfg sw (sweepRoute cfg sw low .emergencyStandstill) .emergencyResponse).2) := by
  have hFired : ∀ (x : Supervisor × List Route) (r : Route), r ≠ .emergencyStandstill →
      r ≠ .emergencyResponse → (∀ q ∈ x.2, q ≠ .emergencyStandstill ∧ q ≠ .emergencyResponse) →
      ∀ q ∈ (sweepRoute cfg sw x r).2, q ≠ .emergencyStandstill ∧ q ≠ .emergencyResponse := by
    intro x r hFloor hResponse hBefore
    unfold sweepRoute
    split_ifs with hDue
    · dsimp only
      split_ifs with hMiss
      · simpa [or_imp, forall_and, hFloor, hResponse] using hBefore
      · exact hBefore
    · exact hBefore
  let first := sweepRoute cfg sw (s, []) .callMrmHpcLoss
  let second := sweepRoute cfg sw first .executor
  refine ⟨sweepRoute cfg sw second .comfortableStandstill, ?_, ?_, ?_, rfl⟩
  · exact (sweepRoute_frame cfg sw (s, []) _).trans
      ((sweepRoute_frame cfg sw first _).trans (sweepRoute_frame cfg sw second _))
  · exact (sweepRoute_floorSame cfg sw (s, []) (by decide) (by decide)).trans
      ((sweepRoute_floorSame cfg sw first (by decide) (by decide)).trans
        (sweepRoute_floorSame cfg sw second (by decide) (by decide)))
  · refine hFired _ _ (by decide) (by decide) ?_
    refine hFired _ _ (by decide) (by decide) ?_
    exact hFired _ _ (by decide) (by decide) (by simp)

end Floor

section Turn
variable {cfg : Config} {sw : Sweep} {s : Supervisor} {x : Supervisor × List Route}

/-- Route 3's answer at its due is a standstill by a fresh sample. -/
def FloorMet (s : Supervisor) (now : Int) : Prop :=
  s.dueBy .emergencyStandstill now = true ∧ s.standstillNow now = true

/-- The braking command is younger than one turn of the 32-bit clock. -/
def BrakeAge (s : Supervisor) (now : Int) : Prop :=
  s.latch.latched = true → s.brake.since ≤ now ∧ now - s.brake.since < (2 ^ 32 : Nat)

/-- Route 4 is open only under route 3. -/
def Nested (s : Supervisor) : Prop :=
  (s.routes .emergencyResponse).dueValid = true →
    (s.routes .emergencyStandstill).dueValid = true

/-- Already latched, route 3 is due of a vehicle that still moves a settle into
the braking command, or route 4 of one that does not respond a response span
into it. -/
def FaultFound (cfg : Config) (s : Supervisor) (now : Int) : Prop :=
  s.latch.latched = true ∧
    (s.dueBy .emergencyStandstill now = true ∧ s.speed.atMs ≠ 0 ∧ s.standstillNow now = false ∧
        BitVec.ofNat 32 cfg.floorSpanMs ≤ s.brakedMs now ∨
      s.dueBy .emergencyResponse now = true ∧ s.respondedNow cfg now = false ∧
        BitVec.ofNat 32 cfg.responseSpanMs ≤ s.brakedMs now)

instance (cfg : Config) (s : Supervisor) (now : Int) : Decidable (s.FaultFound cfg now) := by
  unfold FaultFound
  infer_instance

/-- The age of the braking command is true while it fits a word. -/
theorem toNat_brakedMs {now : Int} (hLatched : s.latch.latched = true) (hAge : s.BrakeAge now) :
    ((s.brakedMs now).toNat : Int) = now - s.brake.since := by
  obtain ⟨hLe, hLt⟩ := hAge hLatched
  rw [brakedMs, if_pos hLatched, WrappingClock.toNat_stamp]
  exact Int.emod_eq_of_lt (by omega) hLt

/-- A wait ends after now: the command is younger than the span. -/
theorem lt_since_add {now : Int} {span : Nat} (hSpan : span < 2 ^ 32)
    (hLatched : s.latch.latched = true) (hAge : s.BrakeAge now)
    (hYoung : s.brakedMs now < BitVec.ofNat 32 span) : now < s.brake.since + span := by
  have hBraked := toNat_brakedMs hLatched hAge
  rw [BitVec.lt_def, BitVec.toNat_ofNat, Nat.mod_eq_of_lt hSpan] at hYoung
  omega

/-- Past a span: the command has run at least that long. -/
theorem since_add_le {now : Int} {span : Nat} (hSpan : span < 2 ^ 32)
    (hLatched : s.latch.latched = true) (hAge : s.BrakeAge now)
    (hOld : BitVec.ofNat 32 span ≤ s.brakedMs now) : s.brake.since + span ≤ now := by
  have hBraked := toNat_brakedMs hLatched hAge
  rw [BitVec.le_def, BitVec.toNat_ofNat, Nat.mod_eq_of_lt hSpan] at hOld
  omega

@[simp] theorem Fault.declare_vehicleFault (now : Int) (speedMmS : U32) (r : Route) (f : Fault) :
    (f.declare now speedMmS r).vehicleFault = true := by
  unfold Fault.declare
  split_ifs with hFault
  · exact hFault
  · rfl

/-- The supervisor a verdict starts from: the route just cleared. -/
theorem sweepRoute_of_due {r : Route} (hDue : x.1.dueBy r sw.now = true) :
    (sweepRoute cfg sw x r).1 = (expire cfg sw r (x.1.setRoute r (x.1.routes r).clear)).1 ∧
    (r ∈ (sweepRoute cfg sw x r).2 ↔
      r ∈ x.2 ∨ (expire cfg sw r (x.1.setRoute r (x.1.routes r).clear)).2 = true) := by
  rw [sweepRoute, if_pos hDue]
  refine ⟨rfl, ?_⟩
  dsimp only
  split_ifs with hMiss <;> simp [hMiss]

/-- A route that is not due is left alone. -/
theorem sweepRoute_of_not_due {r : Route} (hDue : x.1.dueBy r sw.now = false) :
    sweepRoute cfg sw x r = x := by
  simp [sweepRoute, hDue]

variable (cfg sw) in
/-- Route 3's turn keeps the route armed, for longer when it was due, unless
the verdict is a standstill or the fault. -/
theorem floorTurn_kept (hArmed : (x.1.routes .emergencyStandstill).dueValid = true) :
    (((sweepRoute cfg sw x .emergencyStandstill).1.routes .emergencyStandstill).dueValid = true ∧
      (x.1.BrakeAge sw.now → sw.now <
        ((sweepRoute cfg sw x .emergencyStandstill).1.routes .emergencyStandstill).dueMs)) ∨
    x.1.FloorMet sw.now ∨
    (sweepRoute cfg sw x .emergencyStandstill).1.fault.vehicleFault = true := by
  cases hDue : x.1.dueBy .emergencyStandstill sw.now with
  | false =>
      rw [sweepRoute_of_not_due hDue]
      exact .inl ⟨hArmed, fun _ => by simpa [dueBy, hArmed] using hDue⟩
  | true =>
      rw [(sweepRoute_of_due hDue).1, expire]
      have hSpan := cfg.floorSpanMs_pos
      rcases expireFloor_cases cfg sw.now (x.1.setRoute .emergencyStandstill
        (x.1.routes .emergencyStandstill).clear) with
        ⟨-, h⟩ | ⟨hStopped, -⟩ | ⟨hLatched, hYoung, h⟩ | ⟨-, -, -, h⟩ | ⟨-, -, -, -, h⟩
      · rw [h]
        exact .inl ⟨by simp [floorUnseen], fun _ => by simp [floorUnseen]; omega⟩
      · exact .inr (.inl ⟨hDue, hStopped⟩)
      · rw [h]
        refine .inl ⟨by simp [floorWait], fun hAge => ?_⟩
        have hLater := lt_since_add (by have := cfg.floorSpanMs_lt; omega) hLatched hAge hYoung
        simpa [floorWait, noteStale] using hLater
      · rw [h]
        exact .inl ⟨by simp [floorLatch], fun _ => by simp [floorLatch]; omega⟩
      · rw [h]
        exact .inr (.inr (by simp [declareFault]))

/-- Route 3's turn keeps the response check inside the floor's. -/
theorem floorTurn_nested (hNested : x.1.Nested) :
    (sweepRoute cfg sw x .emergencyStandstill).1.Nested := by
  cases hDue : x.1.dueBy .emergencyStandstill sw.now with
  | false => rwa [sweepRoute_of_not_due hDue]
  | true =>
      rw [(sweepRoute_of_due hDue).1, expire]
      rcases expireFloor_cases cfg sw.now (x.1.setRoute .emergencyStandstill
        (x.1.routes .emergencyStandstill).clear) with
        ⟨-, h⟩ | ⟨-, h⟩ | ⟨-, -, h⟩ | ⟨-, -, -, h⟩ | ⟨-, -, -, -, h⟩ <;> rw [h]
      · simp [Nested, floorUnseen]
      · simp [Nested, floorMet]
      · simp [Nested, floorWait]
      · simp [Nested, floorLatch]
      · simp [Nested, declareFault]

/-- Route 3's turn declares a fault only on a seen vehicle that still moves
after a whole span of the island's own braking. -/
theorem floorTurn_fault (hBefore : x.1.fault.vehicleFault = false)
    (hAfter : (sweepRoute cfg sw x .emergencyStandstill).1.fault.vehicleFault = true) :
    x.1.dueBy .emergencyStandstill sw.now = true ∧ x.1.speed.atMs ≠ 0 ∧
      x.1.standstillNow sw.now = false ∧ x.1.latch.latched = true ∧
      BitVec.ofNat 32 cfg.floorSpanMs ≤ x.1.brakedMs sw.now := by
  cases hDue : x.1.dueBy .emergencyStandstill sw.now with
  | false => simp [sweepRoute_of_not_due hDue, hBefore] at hAfter
  | true =>
      rw [(sweepRoute_of_due hDue).1, expire] at hAfter
      rcases expireFloor_cases cfg sw.now (x.1.setRoute .emergencyStandstill
        (x.1.routes .emergencyStandstill).clear) with
        ⟨-, h⟩ | ⟨-, h⟩ | ⟨-, -, h⟩ | ⟨-, -, -, h⟩ | ⟨hSeen, hMoving, hLatched, hOld, h⟩ <;>
        rw [h] at hAfter
      · simp [floorUnseen, hBefore] at hAfter
      · simp [floorMet, noteStale, hBefore] at hAfter
      · simp [floorWait, noteStale, hBefore] at hAfter
      · simp [floorLatch, countMiss, noteStale, hBefore] at hAfter
      · exact ⟨rfl, hSeen, hMoving, hLatched, hOld⟩

variable (cfg sw) in
/-- Once latched, route 3's turn never opens route 4, and route 4's
reference stands. -/
theorem floorTurn_latched (hLatched : x.1.latch.latched = true) :
    (((sweepRoute cfg sw x .emergencyStandstill).1.dueBy .emergencyResponse sw.now = true →
      x.1.dueBy .emergencyResponse sw.now = true)) ∧
    (sweepRoute cfg sw x .emergencyStandstill).1.response = x.1.response := by
  cases hDue : x.1.dueBy .emergencyStandstill sw.now with
  | false => simp [sweepRoute_of_not_due hDue]
  | true =>
      rw [(sweepRoute_of_due hDue).1, expire]
      rcases expireFloor_cases cfg sw.now (x.1.setRoute .emergencyStandstill
        (x.1.routes .emergencyStandstill).clear) with
        ⟨-, h⟩ | ⟨-, h⟩ | ⟨-, -, h⟩ | ⟨-, -, hUnlatched, h⟩ | ⟨-, -, -, -, h⟩
      · rw [h]
        simp [floorUnseen, dueBy]
      · rw [h]
        simp [floorMet, dueBy, noteStale]
      · rw [h]
        simp [floorWait, dueBy, noteStale]
      · simp [hLatched] at hUnlatched
      · rw [h]
        simp [declareFault, dueBy, countMiss, noteStale]

/-- Route 3 goes into `fired_routes` only for a vehicle that was seen. -/
theorem floorTurn_fired
    (hFired : .emergencyStandstill ∈ (sweepRoute cfg sw x .emergencyStandstill).2) :
    .emergencyStandstill ∈ x.2 ∨ x.1.speed.atMs ≠ 0 ∧ x.1.latch.latched = false ∧
      x.1.standstillNow sw.now = false := by
  cases hDue : x.1.dueBy .emergencyStandstill sw.now with
  | false => exact .inl (by rwa [sweepRoute_of_not_due hDue] at hFired)
  | true =>
      refine ((sweepRoute_of_due hDue).2.mp hFired).imp_right fun hMiss => ?_
      rw [expire] at hMiss
      rcases expireFloor_cases cfg sw.now (x.1.setRoute .emergencyStandstill
        (x.1.routes .emergencyStandstill).clear) with
        ⟨-, h⟩ | ⟨-, h⟩ | ⟨-, -, h⟩ | ⟨hSeen, hMoving, hUnlatched, h⟩ | ⟨-, -, -, -, h⟩ <;>
        simp [h] at hMiss
      exact ⟨hSeen, hUnlatched, hMoving⟩

variable (cfg sw x) in
/-- Route 4's turn keeps route 3, as it was or for longer, unless it declares
the fault. -/
theorem responseTurn_kept :
    ((sweepRoute cfg sw x .emergencyResponse).1.routes .emergencyStandstill =
        x.1.routes .emergencyStandstill ∧
      (.emergencyResponse ∈ (sweepRoute cfg sw x .emergencyResponse).2 →
        .emergencyResponse ∈ x.2)) ∨
    (((sweepRoute cfg sw x .emergencyResponse).1.routes .emergencyStandstill).dueValid = true ∧
      sw.now < ((sweepRoute cfg sw x .emergencyResponse).1.routes .emergencyStandstill).dueMs) ∨
    (sweepRoute cfg sw x .emergencyResponse).1.fault.vehicleFault = true := by
  cases hDue : x.1.dueBy .emergencyResponse sw.now with
  | false => simp [sweepRoute_of_not_due hDue]
  | true =>
      rw [(sweepRoute_of_due hDue).1, (sweepRoute_of_due hDue).2, expire]
      have hSpan := cfg.floorSpanMs_pos
      rcases expireResponse_cases cfg sw.now (x.1.setRoute .emergencyResponse
        (x.1.routes .emergencyResponse).clear) with
        ⟨-, h⟩ | ⟨-, -, h⟩ | ⟨-, -, h⟩ | ⟨-, -, -, h⟩ <;> rw [h]
      · exact .inl (by simp [responseMet, noteShed, noteStale])
      · exact .inl (by simp [responseWait, noteShed, noteStale,
          responseArmLocked_routes_of_ne])
      · exact .inr (.inl ⟨by simp [responseLatch], by simp [responseLatch]; omega⟩)
      · exact .inr (.inr (by simp [declareFault]))

/-- And so does route 4's. -/
theorem responseTurn_nested (hNested : x.1.Nested) :
    (sweepRoute cfg sw x .emergencyResponse).1.Nested := by
  cases hDue : x.1.dueBy .emergencyResponse sw.now with
  | false => rwa [sweepRoute_of_not_due hDue]
  | true =>
      have hOpen : (x.1.routes .emergencyStandstill).dueValid = true :=
        hNested (by simp [dueBy] at hDue; exact hDue.1)
      rw [(sweepRoute_of_due hDue).1, expire]
      rcases expireResponse_cases cfg sw.now (x.1.setRoute .emergencyResponse
        (x.1.routes .emergencyResponse).clear) with
        ⟨-, h⟩ | ⟨-, -, h⟩ | ⟨-, -, h⟩ | ⟨-, -, -, h⟩ <;> rw [h]
      · simp [Nested, responseMet, noteShed, noteStale]
      · simp [Nested, responseWait, noteShed, noteStale, responseArmLocked_routes_of_ne, hOpen]
      · simp [Nested, responseLatch]
      · simp [Nested, declareFault, countMiss, noteShed, noteStale]

/-- Route 4's turn declares a fault only on a vehicle that has not responded
after a response span of the island's own braking. -/
theorem responseTurn_fault (hBefore : x.1.fault.vehicleFault = false)
    (hAfter : (sweepRoute cfg sw x .emergencyResponse).1.fault.vehicleFault = true) :
    x.1.dueBy .emergencyResponse sw.now = true ∧ x.1.respondedNow cfg sw.now = false ∧
      x.1.latch.latched = true ∧
      BitVec.ofNat 32 cfg.responseSpanMs ≤ x.1.brakedMs sw.now := by
  cases hDue : x.1.dueBy .emergencyResponse sw.now with
  | false => simp [sweepRoute_of_not_due hDue, hBefore] at hAfter
  | true =>
      rw [(sweepRoute_of_due hDue).1, expire] at hAfter
      rcases expireResponse_cases cfg sw.now (x.1.setRoute .emergencyResponse
        (x.1.routes .emergencyResponse).clear) with
        ⟨-, h⟩ | ⟨-, -, h⟩ | ⟨-, -, h⟩ | ⟨hSlow, hLatched, hOld, h⟩ <;> rw [h] at hAfter
      · simp [responseMet, noteShed, noteStale, hBefore] at hAfter
      · simp [responseWait, noteShed, noteStale, hBefore] at hAfter
      · simp [responseLatch, countMiss, noteShed, noteStale, hBefore] at hAfter
      · exact ⟨rfl, hSlow, hLatched, hOld⟩

/-- Route 3's turn declares the fault of a vehicle that still moves a settle
into the island's own braking. -/
theorem floorTurn_of_found (hDue : x.1.dueBy .emergencyStandstill sw.now = true)
    (hSeen : x.1.speed.atMs ≠ 0) (hMoving : x.1.standstillNow sw.now = false)
    (hLatched : x.1.latch.latched = true)
    (hOld : BitVec.ofNat 32 cfg.floorSpanMs ≤ x.1.brakedMs sw.now) :
    (sweepRoute cfg sw x .emergencyStandstill).1.fault.vehicleFault = true := by
  rw [(sweepRoute_of_due hDue).1, expire]
  rcases expireFloor_cases cfg sw.now (x.1.setRoute .emergencyStandstill
    (x.1.routes .emergencyStandstill).clear) with
    ⟨hUnseen, -⟩ | ⟨hStopped, -⟩ | ⟨-, hYoung, -⟩ | ⟨-, -, hUnlatched, -⟩ | ⟨-, -, -, -, h⟩
  · exact absurd hUnseen hSeen
  · exact absurd (hStopped.symm.trans hMoving) (by decide)
  · exact absurd hOld (BitVec.not_le.mpr hYoung)
  · exact absurd (hUnlatched.symm.trans hLatched) (by decide)
  · rw [h]
    simp [declareFault]

/-- Once latched, route 3's turn leaves route 4 to judge a vehicle that does
not stand still, or finds the fault itself. -/
theorem floorTurn_response_kept (hLatched : x.1.latch.latched = true)
    (hMoving : x.1.standstillNow sw.now = false) :
    (sweepRoute cfg sw x .emergencyStandstill).1.routes .emergencyResponse =
        x.1.routes .emergencyResponse ∨
      (sweepRoute cfg sw x .emergencyStandstill).1.fault.vehicleFault = true := by
  cases hDue : x.1.dueBy .emergencyStandstill sw.now with
  | false => exact .inl (by rw [sweepRoute_of_not_due hDue])
  | true =>
      rw [(sweepRoute_of_due hDue).1, expire]
      rcases expireFloor_cases cfg sw.now (x.1.setRoute .emergencyStandstill
        (x.1.routes .emergencyStandstill).clear) with
        ⟨-, h⟩ | ⟨hStopped, -⟩ | ⟨-, -, h⟩ | ⟨-, -, hUnlatched, -⟩ | ⟨-, -, -, -, h⟩
      · exact .inl (by rw [h]; simp [floorUnseen])
      · exact absurd (hStopped.symm.trans hMoving) (by decide)
      · exact .inl (by rw [h]; simp [floorWait, noteStale])
      · exact absurd (hUnlatched.symm.trans hLatched) (by decide)
      · exact .inr (by rw [h]; simp [declareFault])

/-- The turn that finds the fault closes both floor routes. -/
theorem floorTurn_closed (hBefore : x.1.fault.vehicleFault = false)
    (hAfter : (sweepRoute cfg sw x .emergencyStandstill).1.fault.vehicleFault = true) :
    ((sweepRoute cfg sw x .emergencyStandstill).1.routes .emergencyStandstill).dueValid = false ∧
      ((sweepRoute cfg sw x .emergencyStandstill).1.routes .emergencyResponse).dueValid = false := by
  cases hDue : x.1.dueBy .emergencyStandstill sw.now with
  | false => simp [sweepRoute_of_not_due hDue, hBefore] at hAfter
  | true =>
      rw [(sweepRoute_of_due hDue).1, expire] at hAfter ⊢
      rcases expireFloor_cases cfg sw.now (x.1.setRoute .emergencyStandstill
        (x.1.routes .emergencyStandstill).clear) with
        ⟨-, h⟩ | ⟨-, h⟩ | ⟨-, -, h⟩ | ⟨-, -, -, h⟩ | ⟨-, -, -, -, h⟩ <;> rw [h] at hAfter ⊢
      · simp [floorUnseen, hBefore] at hAfter
      · simp [floorMet, noteStale, hBefore] at hAfter
      · simp [floorWait, noteStale, hBefore] at hAfter
      · simp [floorLatch, countMiss, noteStale, hBefore] at hAfter
      · simp [declareFault, countMiss, noteStale]

/-- A fault that route 4 finds closes the floor. -/
theorem responseTurn_closed (hBefore : x.1.fault.vehicleFault = false)
    (hAfter : (sweepRoute cfg sw x .emergencyResponse).1.fault.vehicleFault = true) :
    ((sweepRoute cfg sw x .emergencyResponse).1.routes .emergencyStandstill).dueValid = false ∧
      ((sweepRoute cfg sw x .emergencyResponse).1.routes .emergencyResponse).dueValid = false := by
  cases hDue : x.1.dueBy .emergencyResponse sw.now with
  | false => simp [sweepRoute_of_not_due hDue, hBefore] at hAfter
  | true =>
      rw [(sweepRoute_of_due hDue).1, expire] at hAfter ⊢
      rcases expireResponse_cases cfg sw.now (x.1.setRoute .emergencyResponse
        (x.1.routes .emergencyResponse).clear) with
        ⟨-, h⟩ | ⟨-, -, h⟩ | ⟨-, -, h⟩ | ⟨-, -, -, h⟩ <;> rw [h] at hAfter ⊢
      · simp [responseMet, noteShed, noteStale, hBefore] at hAfter
      · simp [responseWait, noteShed, noteStale, hBefore] at hAfter
      · simp [responseLatch, countMiss, noteShed, noteStale, hBefore] at hAfter
      · simp [declareFault, countMiss, noteShed, noteStale]

/-- Route 4's turn declares the fault of a vehicle that does not respond a
response span into the island's own braking. -/
theorem responseTurn_of_found (hDue : x.1.dueBy .emergencyResponse sw.now = true)
    (hSlow : x.1.respondedNow cfg sw.now = false) (hLatched : x.1.latch.latched = true)
    (hOld : BitVec.ofNat 32 cfg.responseSpanMs ≤ x.1.brakedMs sw.now) :
    (sweepRoute cfg sw x .emergencyResponse).1.fault.vehicleFault = true := by
  rw [(sweepRoute_of_due hDue).1, expire]
  rcases expireResponse_cases cfg sw.now (x.1.setRoute .emergencyResponse
    (x.1.routes .emergencyResponse).clear) with
    ⟨hResponded, -⟩ | ⟨-, hYoung, -⟩ | ⟨-, hUnlatched, -⟩ | ⟨-, -, -, h⟩
  · exact absurd (hResponded.symm.trans hSlow) (by decide)
  · exact absurd hOld (BitVec.not_le.mpr hYoung)
  · exact absurd (hUnlatched.symm.trans hLatched) (by decide)
  · rw [h]
    simp [declareFault]

/-- The fault is final: no turn changes its words. -/
theorem sweepRoute_fault_eq {r : Route} (hFault : x.1.fault.vehicleFault = true) :
    (sweepRoute cfg sw x r).1.fault = x.1.fault := by
  cases hDue : x.1.dueBy r sw.now with
  | false => rw [sweepRoute_of_not_due hDue]
  | true =>
      rw [(sweepRoute_of_due hDue).1]
      by_cases hFloor : r = .emergencyStandstill
      · subst hFloor
        rw [expire]
        rcases expireFloor_cases cfg sw.now (x.1.setRoute .emergencyStandstill
          (x.1.routes .emergencyStandstill).clear) with
          ⟨-, h⟩ | ⟨-, h⟩ | ⟨-, -, h⟩ | ⟨-, -, -, h⟩ | ⟨-, -, -, -, h⟩ <;> rw [h]
        · simp [floorUnseen]
        · simp [floorMet, noteStale]
        · simp [floorWait, noteStale]
        · simp [floorLatch, countMiss, noteStale]
        · simp [declareFault, Fault.declare, countMiss, noteStale, hFault]
      by_cases hResponse : r = .emergencyResponse
      · subst hResponse
        rw [expire]
        rcases expireResponse_cases cfg sw.now (x.1.setRoute .emergencyResponse
          (x.1.routes .emergencyResponse).clear) with
          ⟨-, h⟩ | ⟨-, -, h⟩ | ⟨-, -, h⟩ | ⟨-, -, -, h⟩ <;> rw [h]
        · simp [responseMet, noteShed, noteStale]
        · simp [responseWait, noteShed, noteStale]
        · simp [responseLatch, countMiss, noteShed, noteStale]
        · simp [declareFault, Fault.declare, countMiss, noteShed, noteStale, hFault]
      · exact (expire_floorSame cfg _ sw hFloor hResponse).fault

/-- The fault is final through a sweep. -/
theorem sweepRoute_fault_mono {r : Route} (hFault : x.1.fault.vehicleFault = true) :
    (sweepRoute cfg sw x r).1.fault.vehicleFault = true := by
  rwa [sweepRoute_fault_eq hFault]

end Turn

section Whole
variable {cfg : Config} {sw : Sweep} {s low : Supervisor}

theorem SweepFrame.brakedMs_eq (h : SweepFrame s low) (now : Int) :
    low.brakedMs now = s.brakedMs now := by
  simp [brakedMs, h.latch, h.brake]

theorem SweepFrame.standstillNow_eq (h : SweepFrame s low) (now : Int) :
    low.standstillNow now = s.standstillNow now := by
  simp [standstillNow, h.speed]

theorem SweepFrame.respondedNow_eq (h : SweepFrame s low) (hResponse : low.response = s.response)
    (now : Int) : low.respondedNow cfg now = s.respondedNow cfg now := by
  simp [respondedNow, h.standstillNow_eq, speedFresh, h.speed, hResponse]

theorem SweepFrame.brakeAge (h : SweepFrame s low) {now : Int} (hAge : s.BrakeAge now) :
    low.BrakeAge now := by
  simpa [BrakeAge, h.latch, h.brake] using hAge

theorem FloorSame.nested (h : FloorSame s low) (hNested : s.Nested) : low.Nested := by
  simpa [Nested, h.floorRoute, h.responseRoute] using hNested

theorem FloorSame.dueBy_floor (h : FloorSame s low) (now : Int) :
    low.dueBy .emergencyStandstill now = s.dueBy .emergencyStandstill now := by
  simp [dueBy, h.floorRoute]

theorem FloorSame.dueBy_response (h : FloorSame s low) (now : Int) :
    low.dueBy .emergencyResponse now = s.dueBy .emergencyResponse now := by
  simp [dueBy, h.responseRoute]

/-- A sweep keeps the response check inside the floor's. -/
theorem sweep_nested (hNested : s.Nested) : (sweep cfg sw s).1.Nested := by
  obtain ⟨low, -, hSame, -, hSweep⟩ := sweep_turns cfg s sw
  rw [hSweep]
  exact responseTurn_nested (floorTurn_nested (hSame.nested hNested))

variable (cfg sw) in
/-- A sweep keeps route 3 armed past its own time, unless the floor was met or
the fault is declared. -/
theorem sweep_kept (hArmed : (s.routes .emergencyStandstill).dueValid = true) :
    (((sweep cfg sw s).1.routes .emergencyStandstill).dueValid = true ∧
      (s.BrakeAge sw.now →
        sw.now < ((sweep cfg sw s).1.routes .emergencyStandstill).dueMs)) ∨
    s.FloorMet sw.now ∨ (sweep cfg sw s).1.fault.vehicleFault = true := by
  obtain ⟨low, hFrame, hSame, -, hSweep⟩ := sweep_turns cfg s sw
  rw [hSweep]
  have hMid := floorTurn_kept cfg sw (x := low) (by rwa [hSame.floorRoute])
  rcases hMid with ⟨hKept, hLonger⟩ | hMet | hFault
  · rcases responseTurn_kept cfg sw (sweepRoute cfg sw low .emergencyStandstill) with
      ⟨hSameRoute, -⟩ | hLater | hFault
    · exact .inl ⟨by simpa [rearmLocked, hSameRoute] using hKept,
        fun hAge => by simpa [rearmLocked, hSameRoute] using hLonger (hFrame.brakeAge hAge)⟩
    · exact .inl ⟨hLater.1, fun _ => hLater.2⟩
    · exact .inr (.inr hFault)
  · refine .inr (.inl ?_)
    rwa [FloorMet, ← hSame.dueBy_floor, ← hFrame.standstillNow_eq]
  · exact .inr (.inr (sweepRoute_fault_mono hFault))

/-- A floor that is met is counted. -/
theorem sweep_met (hMet : s.FloorMet sw.now) :
    (sweep cfg sw s).1.floor.met = s.floor.met + 1 := by
  obtain ⟨low, hFrame, hSame, -, hSweep⟩ := sweep_turns cfg s sw
  have hDue : low.1.dueBy .emergencyStandstill sw.now = true := by
    rw [hSame.dueBy_floor]
    exact hMet.1
  have hStopped : low.1.standstillNow sw.now = true := by
    rw [hFrame.standstillNow_eq]
    exact hMet.2
  have hTurn : (sweepRoute cfg sw low .emergencyStandstill).1 = floorMet (noteStale sw.now
      (low.1.setRoute .emergencyStandstill (low.1.routes .emergencyStandstill).clear)) := by
    rw [(sweepRoute_of_due hDue).1, expire, expireFloor_of_standstill]
    exact hStopped
  have hNotDue : (sweepRoute cfg sw low .emergencyStandstill).1.dueBy
      .emergencyResponse sw.now = false := by
    simp [hTurn, dueBy, floorMet]
  rw [hSweep, sweepRoute_of_not_due hNotDue]
  simp [rearmLocked, hTurn, floorMet, noteStale, hSame.floor]

/-- A response latch opens route 3 for a settle from the sweep's own time. -/
theorem sweep_responseLatch (hFired : .emergencyResponse ∈ (sweep cfg sw s).2) :
    (((sweep cfg sw s).1.routes .emergencyStandstill).dueValid = true ∧
      sw.now < ((sweep cfg sw s).1.routes .emergencyStandstill).dueMs) ∨
    (sweep cfg sw s).1.fault.vehicleFault = true := by
  obtain ⟨low, -, -, hLow, hSweep⟩ := sweep_turns cfg s sw
  rw [hSweep] at hFired ⊢
  have hNotYet : .emergencyResponse ∉ (sweepRoute cfg sw low .emergencyStandstill).2 := by
    have hNotLow : .emergencyResponse ∉ low.2 := fun h => (hLow _ h).2 rfl
    unfold sweepRoute
    split_ifs with hDue
    · dsimp only
      split_ifs <;> simpa using hNotLow
    · exact hNotLow
  rcases responseTurn_kept cfg sw (sweepRoute cfg sw low .emergencyStandstill) with
    ⟨-, hOnly⟩ | hLater | hFault
  · exact absurd (hOnly hFired) hNotYet
  · exact .inl hLater
  · exact .inr hFault

/-- Route 3 fires only on a vehicle that was seen, and moves, and only
unlatched. -/
theorem sweep_fired (hFired : .emergencyStandstill ∈ (sweep cfg sw s).2) :
    s.speed.atMs ≠ 0 ∧ s.latch.latched = false ∧ s.standstillNow sw.now = false := by
  obtain ⟨low, hFrame, -, hLow, hSweep⟩ := sweep_turns cfg s sw
  rw [hSweep] at hFired
  have hTurn : .emergencyStandstill ∈ (sweepRoute cfg sw low .emergencyStandstill).2 := by
    generalize sweepRoute cfg sw low .emergencyStandstill = x at hFired ⊢
    unfold sweepRoute at hFired
    split_ifs at hFired with hDue
    · dsimp only at hFired
      split_ifs at hFired <;> simpa using hFired
    · exact hFired
  rcases floorTurn_fired hTurn with hEarly | ⟨hSeen, hUnlatched, hMoving⟩
  · exact absurd rfl (hLow _ hEarly).1
  · exact ⟨by rwa [← hFrame.speed], by rwa [← hFrame.latch],
      by rwa [← hFrame.standstillNow_eq]⟩

/-- Route 3 fires only at its due. -/
theorem sweep_fired_armed (hFired : .emergencyStandstill ∈ (sweep cfg sw s).2) :
    (s.routes .emergencyStandstill).dueValid = true := by
  obtain ⟨low, -, hSame, hLow, hSweep⟩ := sweep_turns cfg s sw
  rw [hSweep] at hFired
  rw [← hSame.floorRoute]
  cases hDue : low.1.dueBy .emergencyStandstill sw.now with
  | true =>
      simp only [dueBy, Bool.and_eq_true] at hDue
      exact hDue.1
  | false =>
      rw [sweepRoute_of_not_due hDue] at hFired
      have hEarly : .emergencyStandstill ∈ low.2 := by
        unfold sweepRoute at hFired
        split_ifs at hFired with hResponse
        · dsimp only at hFired
          split_ifs at hFired <;> simpa using hFired
        · exact hFired
      exact absurd rfl (hLow _ hEarly).1

/-- A sweep declares the fault only when already latched, at the due of the
route that found it. -/
theorem faultFound_of_sweep (hBefore : s.fault.vehicleFault = false)
    (hAfter : (sweep cfg sw s).1.fault.vehicleFault = true) : s.FaultFound cfg sw.now := by
  obtain ⟨low, hFrame, hSame, -, hSweep⟩ := sweep_turns cfg s sw
  rw [hSweep] at hAfter
  have hLow : low.1.fault.vehicleFault = false := by rwa [hSame.fault]
  cases hMid : (sweepRoute cfg sw low .emergencyStandstill).1.fault.vehicleFault with
  | true =>
      obtain ⟨hDue, hSeen, hMoving, hLatched, hOld⟩ := floorTurn_fault hLow hMid
      exact ⟨by rwa [← hFrame.latch], .inl ⟨by rwa [← hSame.dueBy_floor], by rwa [← hFrame.speed],
        by rwa [← hFrame.standstillNow_eq], by rwa [← hFrame.brakedMs_eq]⟩⟩
  | false =>
      obtain ⟨hDue, hSlow, hLatched, hOld⟩ := responseTurn_fault hMid hAfter
      have hMidFrame := sweepRoute_frame cfg sw low .emergencyStandstill
      have hAll := hFrame.trans hMidFrame
      have hLowLatched : low.1.latch.latched = true := by rwa [← hMidFrame.latch]
      obtain ⟨hDueBefore, hResponse⟩ := floorTurn_latched cfg sw hLowLatched
      exact ⟨by rwa [← hAll.latch], .inr ⟨by rw [← hSame.dueBy_response]; exact hDueBefore hDue,
        by rwa [← hAll.respondedNow_eq (hResponse.trans hSame.response)],
        by rwa [← hAll.brakedMs_eq]⟩⟩

/-- And there it does. -/
theorem sweep_of_faultFound (hFound : s.FaultFound cfg sw.now) :
    (sweep cfg sw s).1.fault.vehicleFault = true := by
  obtain ⟨low, hFrame, hSame, -, hSweep⟩ := sweep_turns cfg s sw
  obtain ⟨hLatched, hJudged⟩ := hFound
  have hLowLatched : low.1.latch.latched = true := by rwa [hFrame.latch]
  rw [hSweep]
  rcases hJudged with ⟨hDue, hSeen, hMoving, hOld⟩ | ⟨hDue, hSlow, hOld⟩
  · refine sweepRoute_fault_mono (floorTurn_of_found ?_ ?_ ?_ hLowLatched ?_)
    · rwa [hSame.dueBy_floor]
    · rwa [hFrame.speed]
    · rwa [hFrame.standstillNow_eq]
    · rwa [hFrame.brakedMs_eq]
  · have hLowSlow : low.1.respondedNow cfg sw.now = false := by
      rwa [hFrame.respondedNow_eq hSame.response]
    have hMidFrame := sweepRoute_frame cfg sw low .emergencyStandstill
    rcases floorTurn_response_kept hLowLatched (Judge.responded_eq_false.mp hLowSlow).1 with
      hKept | hFault
    · obtain ⟨-, hResponse⟩ := floorTurn_latched cfg sw hLowLatched
      refine responseTurn_of_found ?_ ?_ ?_ ?_
      · rwa [dueBy, hKept, ← dueBy, hSame.dueBy_response]
      · rwa [hMidFrame.respondedNow_eq hResponse]
      · rwa [hMidFrame.latch]
      · rwa [hMidFrame.brakedMs_eq, hFrame.brakedMs_eq]
    · exact sweepRoute_fault_mono hFault

/-- The fault is final over a sweep. -/
theorem sweep_fault_eq (hFault : s.fault.vehicleFault = true) :
    (sweep cfg sw s).1.fault = s.fault := by
  obtain ⟨low, -, hSame, -, hSweep⟩ := sweep_turns cfg s sw
  have hLow : low.1.fault.vehicleFault = true := by rwa [hSame.fault]
  rw [hSweep]
  exact (sweepRoute_fault_eq (sweepRoute_fault_mono hLow)).trans
    ((sweepRoute_fault_eq hLow).trans hSame.fault)

/-- A sweep opens no floor that is closed. -/
theorem sweep_closed (hNested : s.Nested)
    (hClosed : (s.routes .emergencyStandstill).dueValid = false) :
    ((sweep cfg sw s).1.routes .emergencyStandstill).dueValid = false := by
  obtain ⟨low, -, hSame, -, hSweep⟩ := sweep_turns cfg s sw
  have hFloor : low.1.dueBy .emergencyStandstill sw.now = false := by
    rw [hSame.dueBy_floor, dueBy, hClosed, Bool.false_and]
  have hResponse : low.1.dueBy .emergencyResponse sw.now = false := by
    rw [hSame.dueBy_response, dueBy]
    cases hOpen : (s.routes .emergencyResponse).dueValid with
    | false => rfl
    | true => simp [hNested hOpen] at hClosed
  rw [hSweep, sweepRoute_of_not_due hFloor, sweepRoute_of_not_due hResponse]
  simpa [rearmLocked, hSame.floorRoute] using hClosed

/-- A sweep that finds the fault closes both floor routes. -/
theorem sweep_closed_of_fault (hBefore : s.fault.vehicleFault = false)
    (hAfter : (sweep cfg sw s).1.fault.vehicleFault = true) :
    ((sweep cfg sw s).1.routes .emergencyStandstill).dueValid = false ∧
      ((sweep cfg sw s).1.routes .emergencyResponse).dueValid = false := by
  obtain ⟨low, -, hSame, -, hSweep⟩ := sweep_turns cfg s sw
  have hLow : low.1.fault.vehicleFault = false := by rwa [hSame.fault]
  rw [hSweep] at hAfter ⊢
  cases hMid : (sweepRoute cfg sw low .emergencyStandstill).1.fault.vehicleFault with
  | true =>
      have hClosed := floorTurn_closed hLow hMid
      have hNotDue : (sweepRoute cfg sw low .emergencyStandstill).1.dueBy
          .emergencyResponse sw.now = false := by
        simp [dueBy, hClosed]
      rw [sweepRoute_of_not_due hNotDue]
      simpa [rearmLocked] using hClosed
  | false => simpa [rearmLocked] using responseTurn_closed hMid hAfter

end Whole

section OffFloor
variable (cfg : Config) (sw : Sweep) (s : Supervisor) {q r : Route}

/-- Only its own verdict touches a route the floor does not arm. -/
theorem expire_routes_of_ne (hOther : r ≠ q) (hFloor : q ≠ .emergencyStandstill)
    (hResponse : q ≠ .emergencyResponse) : (expire cfg sw r s).1.routes q = s.routes q := by
  have hSet : ∀ (t : Supervisor) (x : RouteState), (t.setRoute r x).routes q = t.routes q :=
    fun t x => Function.update_of_ne (Ne.symm hOther) ..
  cases r with
  | callMrmHpcLoss => exact hSet ..
  | executor =>
      simp only [expire, expireExecutor]
      split_ifs <;> exact hSet ..
  | comfortableStandstill =>
      simp only [expire, expireComfortable]
      split_ifs <;> exact hSet ..
  | emergencyStandstill =>
      rw [expire]
      rcases expireFloor_cases cfg sw.now s with
        ⟨-, h⟩ | ⟨-, h⟩ | ⟨-, -, h⟩ | ⟨-, -, -, h⟩ | ⟨-, -, -, -, h⟩ <;> rw [h]
      · simp [floorUnseen, hFloor]
      · simp [floorMet, noteStale, hFloor, hResponse]
      · simp [floorWait, noteStale, hFloor]
      · simp [floorLatch, latchFloor, countMiss, noteStale, hFloor, hResponse,
          responseArmLocked_routes_of_ne]
      · simp [declareFault, countMiss, noteStale, hFloor, hResponse]
  | emergencyResponse =>
      rw [expire]
      rcases expireResponse_cases cfg sw.now s with
        ⟨-, h⟩ | ⟨-, -, h⟩ | ⟨-, -, h⟩ | ⟨-, -, -, h⟩ <;> rw [h]
      · simp [responseMet, noteShed, noteStale, hResponse]
      · simp [responseWait, noteShed, noteStale, hResponse, responseArmLocked_routes_of_ne]
      · simp [responseLatch, latchFloor, countMiss, noteShed, noteStale, hFloor, hResponse,
          responseArmLocked_routes_of_ne]
      · simp [declareFault, countMiss, noteShed, noteStale, hFloor, hResponse]

/-- A turn writes no other route, the floor's two apart. -/
theorem sweepRoute_routes_of_ne (x : Supervisor × List Route) (hOther : r ≠ q)
    (hFloor : q ≠ .emergencyStandstill) (hResponse : q ≠ .emergencyResponse) :
    (sweepRoute cfg sw x r).1.routes q = x.1.routes q := by
  cases hDue : x.1.dueBy r sw.now with
  | false => rw [sweepRoute_of_not_due hDue]
  | true =>
      rw [(sweepRoute_of_due hDue).1, expire_routes_of_ne cfg sw _ hOther hFloor hResponse]
      exact Function.update_of_ne (Ne.symm hOther) ..

end OffFloor

section Executor
variable (cfg : Config) (sw : Sweep) (s : Supervisor)

/-- Route 1's verdict on its own entry. -/
def executorVerdict (sw : Sweep) (r : RouteState) : RouteState :=
  if sw.route1Left = answered then r.clear.countDone
  else if sw.route1Left ≠ 0 then r.clear.rearm (executorDueMs sw.nowUs sw.route1Left)
  else r.clear.countFired

/-- Route 1 after a sweep: its own verdict at its due, and no other route's. -/
theorem sweep_executor : (sweep cfg sw s).1.routes .executor =
    if s.dueBy .executor sw.now then executorVerdict sw (s.routes .executor)
    else s.routes .executor := by
  let first := sweepRoute cfg sw (s, []) .callMrmHpcLoss
  have hFirst : first.1.routes .executor = s.routes .executor :=
    sweepRoute_routes_of_ne cfg sw (s, []) (by decide) (by decide) (by decide)
  have hDueBy : first.1.dueBy .executor sw.now = s.dueBy .executor sw.now := by
    rw [dueBy, dueBy, hFirst]
  have hLater : (sweep cfg sw s).1.routes .executor =
      (sweepRoute cfg sw first .executor).1.routes .executor := by
    show (sweepRoute cfg sw (sweepRoute cfg sw (sweepRoute cfg sw
      (sweepRoute cfg sw first .executor) .comfortableStandstill) .emergencyStandstill)
      .emergencyResponse).1.routes .executor = _
    rw [sweepRoute_routes_of_ne cfg sw _ (by decide) (by decide) (by decide),
      sweepRoute_routes_of_ne cfg sw _ (by decide) (by decide) (by decide),
      sweepRoute_routes_of_ne cfg sw _ (by decide) (by decide) (by decide)]
  rw [hLater]
  cases hDue : first.1.dueBy .executor sw.now with
  | false =>
      rw [sweepRoute_of_not_due hDue, hFirst, ← hDueBy, hDue]
      rfl
  | true =>
      rw [(sweepRoute_of_due hDue).1, ← hDueBy, hDue, if_pos rfl, expire, expireExecutor,
        executorVerdict, hFirst]
      split_ifs <;> simp [countMiss]

/-- Only its own turn tells whether route 1 has fired. -/
theorem sweep_fired_executor : .executor ∈ (sweep cfg sw s).2 ↔
    .executor ∈ (sweepRoute cfg sw (sweepRoute cfg sw (s, []) .callMrmHpcLoss) .executor).2 := by
  have hTurn : ∀ (x : Supervisor × List Route) (r : Route), r ≠ .executor →
      (.executor ∈ (sweepRoute cfg sw x r).2 ↔ .executor ∈ x.2) := by
    intro x r hOther
    unfold sweepRoute
    split_ifs with hDue
    · dsimp only
      split_ifs
      · simp [Ne.symm hOther]
      · rfl
    · rfl
  show .executor ∈ (sweepRoute cfg sw (sweepRoute cfg sw (sweepRoute cfg sw (sweepRoute cfg sw
    (sweepRoute cfg sw (s, []) .callMrmHpcLoss) .executor) .comfortableStandstill)
    .emergencyStandstill) .emergencyResponse).2 ↔ _
  rw [hTurn _ _ (by decide), hTurn _ _ (by decide), hTurn _ _ (by decide)]

/-- Route 1 fires exactly where no time is left. -/
theorem expireExecutor_fires : (expireExecutor sw s).2 = true ↔ sw.route1Left = 0 := by
  unfold expireExecutor
  dsimp only
  split_ifs with hAnswered hLater
  · rw [hAnswered]
    decide
  · exact iff_of_false id hLater
  · exact iff_of_true rfl (not_not.mp hLater)

/-- Its turn counts a miss exactly where it is due and no time is left. -/
theorem mem_executorTurn {x : Supervisor × List Route} (hNone : .executor ∉ x.2) :
    .executor ∈ (sweepRoute cfg sw x .executor).2 ↔
      x.1.dueBy .executor sw.now = true ∧ sw.route1Left = 0 := by
  cases hDue : x.1.dueBy .executor sw.now with
  | false => simp [sweepRoute_of_not_due hDue, hNone]
  | true =>
      rw [(sweepRoute_of_due hDue).2, expire, expireExecutor_fires]
      simp [hNone]

/-- Route 1's miss: at its due, with a take overdue by the watch. -/
theorem sweep_misses_iff : .executor ∈ (sweep cfg sw s).2 ↔
    s.dueBy .executor sw.now = true ∧ sw.route1Left = 0 := by
  have hFirst : (sweepRoute cfg sw (s, []) .callMrmHpcLoss).1.routes .executor =
      s.routes .executor :=
    sweepRoute_routes_of_ne cfg sw (s, []) (by decide) (by decide) (by decide)
  have hNone : .executor ∉ (sweepRoute cfg sw (s, []) .callMrmHpcLoss).2 := by
    unfold sweepRoute
    split_ifs <;> simp [expire]
  rw [sweep_fired_executor, mem_executorTurn cfg sw hNone, dueBy, dueBy, hFirst]

end Executor

section Comfortable
variable (cfg : Config) (sw : Sweep) (s : Supervisor)

/-- No verdict arms route 2. -/
theorem sweepRoute_comfortable (x : Supervisor × List Route) (r : Route)
    (hArmed : ((sweepRoute cfg sw x r).1.routes .comfortableStandstill).dueValid = true) :
    (x.1.routes .comfortableStandstill).dueValid = true := by
  by_cases hOwn : r = .comfortableStandstill
  · subst hOwn
    cases hDue : x.1.dueBy .comfortableStandstill sw.now with
    | false => rwa [sweepRoute_of_not_due hDue] at hArmed
    | true =>
        simp only [dueBy, Bool.and_eq_true] at hDue
        exact hDue.1
  · rwa [sweepRoute_routes_of_ne cfg sw x hOwn (by decide) (by decide)] at hArmed

theorem sweep_comfortable
    (hArmed : ((sweep cfg sw s).1.routes .comfortableStandstill).dueValid = true) :
    (s.routes .comfortableStandstill).dueValid = true := by
  have hFold : ∀ (rs : List Route) (x : Supervisor × List Route),
      ((rs.foldl (sweepRoute cfg sw) x).1.routes .comfortableStandstill).dueValid = true →
        (x.1.routes .comfortableStandstill).dueValid = true := by
    intro rs
    induction rs with
    | nil => exact fun x h => h
    | cons r rs ih => exact fun x h => sweepRoute_comfortable cfg sw x r (ih _ h)
  exact hFold Route.all (s, []) hArmed

end Comfortable
end SafetyIsland.Supervisor
