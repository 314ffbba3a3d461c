import SafetyIsland.Handler.Tick
import SafetyIsland.Operator.Ramp
import SafetyIsland.Supervisor.Reaction

/-! The floor's verdicts on a vehicle that follows the direct path's command
exactly, with the image's parameters and spans. -/
namespace SafetyIsland.Tracking

open Operator

/-- What `onOdometry` notes of a speed, its product taken exactly. -/
def noted (speed : ℚ) : U32 := BitVec.ofInt 32 (Handler.toInt64 (|speed| * 1000))

/-- The direct path, its seed a command of `v` and `a`. -/
def seeded (v a : ℚ) : DirectBrake where
  targetAcceleration := Parameters.declared.targetAcceleration
  targetJerk := Parameters.declared.targetJerk
  seed := { velocity := v, acceleration := a, valid := true }

/-- The closed form, `t` seconds after the latch. -/
def commanded (v a t : ℚ) : ℚ := (((seeded v a).load 0).command 0 t).longitudinal.velocity

/-- The direct path's first call commands the closed form's velocity. -/
theorem directBrake_commanded (v a : ℚ) (sinceLatchMs : U32) (stampNs : Int) :
    (directBrake 0 sinceLatchMs stampNs (seeded v a)).2.longitudinal.velocity =
      commanded v a (sinceLatch sinceLatchMs) := rfl

def floorSpan : ℚ := Config.image.floorSpanMs / 1000
def responseSpan : ℚ := Config.image.responseSpanMs / 1000

theorem floorSpan_eq : floorSpan = 4621 / 1000 := by
  norm_num [floorSpan, Config.floorSpanMs, Config.image]

theorem responseSpan_eq : responseSpan = 1455 / 1000 := by
  norm_num [responseSpan, Config.responseSpanMs, Config.image]

/-- The sample noted is fresh and reads the speed. -/
structure Reports (s : Supervisor) (now : Int) (speed : ℚ) : Prop where
  fresh : s.speedFresh now = true
  speed : s.speed.mmS = noted speed

/-- A vehicle at the commanded speed is never declared faulty: it stops, or
slows, within the spans, and routes 3 and 4 find it so. -/
structure NeverFaulty (v a : ℚ) : Prop where
  stops : ∀ t, floorSpan ≤ t → commanded v a t = 0
  slows : commanded v a responseSpan = 0 ∨
    commanded v a responseSpan ≤ v - Config.image.dropMmS / 1000
  floorMet : ∀ (s : Supervisor) (now : Int) (t : ℚ), floorSpan ≤ t →
    Reports s now (commanded v a t) → s.floorVerdict .image now = .met
  responseMet : ∀ (s : Supervisor) (now : Int) (t : ℚ), responseSpan ≤ t →
    Reports s now (commanded v a t) → s.response.refMmS = noted v →
      s.responseVerdict .image now = .met

/-- The seeds whose ramp fits the spans: the speed the jerk still adds is off
by the end of the settle, and by the response check the acceleration has been
taken back, or the vehicle has stopped. -/
structure Fits (v a : ℚ) : Prop where
  settle : v + (max a (-5 / 2) + 5 / 2) * (max a (-5 / 2) + 5 / 2) / 3 ≤ 5 / 2 * (4621 / 1000)
  response : a * (1455 / 1000) + 1 / 4 ≤ 3 / 4 * (1455 / 1000) * (1455 / 1000) ∨
    v + a * (1455 / 1000) ≤ 3 / 4 * (1455 / 1000) * (1455 / 1000)

section Form
variable {v a t : ℚ}

theorem commanded_eq (v a t : ℚ) :
    commanded v a t = max (JerkRamp.freeVelocity (-5 / 2) (-3 / 2) v (max a (-5 / 2)) t) 0 :=
  command_velocity 0

theorem rampTime_eq (a : ℚ) : JerkRamp.rampTime (-5 / 2) (-3 / 2) a = (a + 5 / 2) * (2 / 3) := by
  rw [JerkRamp.rampTime]
  ring

/-- By the end of the floor's spans the ramp rests at its target. -/
theorem freeVelocity_floor (v : ℚ) (ha : a ≤ 1) (ht : floorSpan ≤ t) :
    JerkRamp.freeVelocity (-5 / 2) (-3 / 2) v (max a (-5 / 2)) t =
      v + (max a (-5 / 2) + 5 / 2) * (max a (-5 / 2) + 5 / 2) / 3 - 5 / 2 * t := by
  have hClamped : max a (-5 / 2) ≤ 1 := max_le ha (by norm_num)
  rw [floorSpan_eq] at ht
  rw [JerkRamp.freeVelocity_late v (by norm_num)]
  · ring
  · rw [rampTime_eq]
    linarith

/-- The vehicle has stopped by the end of the settle exactly where the seed
allows it. -/
theorem stops_iff (ha : a ≤ 1) : (∀ t, floorSpan ≤ t → commanded v a t = 0) ↔
    v + (max a (-5 / 2) + 5 / 2) * (max a (-5 / 2) + 5 / 2) / 3 ≤ 5 / 2 * (4621 / 1000) := by
  constructor
  · intro hStops
    have hEnd := hStops floorSpan le_rfl
    rw [commanded_eq, max_eq_right_iff, freeVelocity_floor v ha le_rfl, floorSpan_eq] at hEnd
    linarith
  · intro hFits t ht
    rw [commanded_eq, max_eq_right_iff, freeVelocity_floor v ha ht]
    rw [floorSpan_eq] at ht
    linarith

/-- By the response check the ramp has taken back at most what a whole second
and a half of jerk takes. -/
theorem freeVelocity_response (v : ℚ) :
    (JerkRamp.freeVelocity (-5 / 2) (-3 / 2) v (max a (-5 / 2)) responseSpan =
      v + a * (1455 / 1000) - 3 / 4 * (1455 / 1000) * (1455 / 1000) ∨
    a * (1455 / 1000) + 1 / 4 ≤ 3 / 4 * (1455 / 1000) * (1455 / 1000) ∧
      JerkRamp.freeVelocity (-5 / 2) (-3 / 2) v (max a (-5 / 2)) responseSpan ≤ v - 1 / 4) := by
  rcases le_total responseSpan (JerkRamp.rampTime (-5 / 2) (-3 / 2) (max a (-5 / 2)))
    with hEarly | hLate
  · have hRamp := hEarly
    rw [rampTime_eq, responseSpan_eq] at hRamp
    have hClamped : max a (-5 / 2) = a := by
      rcases max_choice a (-5 / 2) with hSame | hTarget
      · exact hSame
      · rw [hTarget] at hRamp
        norm_num at hRamp
    left
    rw [JerkRamp.freeVelocity_early v hEarly, hClamped, responseSpan_eq]
    ring
  · have hRamp := hLate
    rw [rampTime_eq, responseSpan_eq] at hRamp
    have hLow : a ≤ max a (-5 / 2) := le_max_left _ _
    have hTarget : -5 / 2 ≤ max a (-5 / 2) := le_max_right _ _
    right
    constructor
    · linarith
    · have hSquare : (max a (-5 / 2) + 5 / 2) * (max a (-5 / 2) + 5 / 2) ≤
          (3 / 2 * (1455 / 1000)) * (3 / 2 * (1455 / 1000)) :=
        mul_self_le_mul_self (by linarith) (by linarith)
      calc JerkRamp.freeVelocity (-5 / 2) (-3 / 2) v (max a (-5 / 2)) responseSpan
          = v + (max a (-5 / 2) + 5 / 2) * (max a (-5 / 2) + 5 / 2) / 3 -
              5 / 2 * (1455 / 1000) := by
            rw [JerkRamp.freeVelocity_late v (by norm_num) hLate, responseSpan_eq]
            ring
        _ ≤ v - 1 / 4 := by linarith

/-- It has slowed by the response check, or stopped, exactly where the seed
allows it. -/
theorem slows_iff : (commanded v a responseSpan = 0 ∨
      commanded v a responseSpan ≤ v - Config.image.dropMmS / 1000) ↔
    (a * (1455 / 1000) + 1 / 4 ≤ 3 / 4 * (1455 / 1000) * (1455 / 1000) ∨
      v + a * (1455 / 1000) ≤ 3 / 4 * (1455 / 1000) * (1455 / 1000)) := by
  have hDrop : (Config.image.dropMmS / 1000 : ℚ) = 1 / 4 := by norm_num [Config.image]
  rw [hDrop, commanded_eq, max_eq_right_iff, max_le_iff]
  rcases freeVelocity_response (a := a) v with hRamp | ⟨hTakenBack, hSlow⟩
  · rw [hRamp]
    constructor
    · rintro (hStopped | ⟨hSlow, -⟩)
      · right
        linarith
      · left
        linarith
    · rintro (hTakenBack | hStopped)
      · rcases le_total 0 (v - 1 / 4) with hMoving | hSlowest
        · right
          constructor
          · linarith
          · exact hMoving
        · left
          linarith
      · left
        linarith
  · constructor
    · intro _
      exact .inl hTakenBack
    · intro _
      rcases le_total 0 (v - 1 / 4) with hMoving | hSlowest
      · exact .inr ⟨hSlow, hMoving⟩
      · exact .inl (hSlow.trans hSlowest)

/-- After the response check the command only falls. -/
theorem commanded_anti (v : ℚ) (ha : a ≤ 1) (ht : responseSpan ≤ t) :
    commanded v a t ≤ commanded v a responseSpan := by
  have hClamped : max a (-5 / 2) ≤ 1 := max_le ha (by norm_num)
  have hBrakes : JerkRamp.acceleration (-5 / 2) (-3 / 2) (max a (-5 / 2)) responseSpan ≤ 0 := by
    rw [JerkRamp.acceleration, responseSpan_eq]
    exact max_le (by linarith) (by norm_num)
  rw [commanded_eq, commanded_eq]
  exact max_le_max_right 0 (JerkRamp.freeVelocity_anti v (by norm_num) hBrakes ht)

end Form

section Noted
variable {x y : ℚ}

/-- A speed is noted in whole millimetres per second, rounded down. -/
theorem noted_toNat (hx : 0 ≤ x) (hSlow : x ≤ 100) : (noted x).toNat = ⌊x * 1000⌋.toNat := by
  have hNonneg : 0 ≤ x * 1000 := by linarith
  have hFloor : Handler.toInt64 (|x| * 1000) = ⌊x * 1000⌋ := by
    rw [abs_of_nonneg hx, Handler.toInt64, Rat.floor_def']
    exact Int.tdiv_eq_ediv_of_nonneg (Rat.num_nonneg.mpr hNonneg)
  have hLow : 0 ≤ ⌊x * 1000⌋ := Int.floor_nonneg.mpr hNonneg
  have hHigh : ⌊x * 1000⌋ ≤ 100000 := by
    have hFloorLe : (⌊x * 1000⌋ : ℚ) ≤ 100000 := (Int.floor_le _).trans (by linarith)
    exact_mod_cast hFloorLe
  rw [noted, hFloor, BitVec.toNat_ofInt]
  omega

theorem noted_zero : noted 0 = 0 := by
  have hNat := noted_toNat (le_refl 0) (by norm_num)
  rw [zero_mul, Int.floor_zero] at hNat
  exact BitVec.eq_of_toNat_eq hNat

/-- A speed shed shows in the words. -/
theorem noted_sub (hy : 0 ≤ y) (hShed : y ≤ x - 1 / 4) (hSlow : x ≤ 100) :
    noted y ≤ noted x ∧ 250 ≤ noted x - noted y := by
  have hxNat := noted_toNat (by linarith) hSlow
  have hyNat := noted_toNat hy (by linarith)
  have hFloor : ⌊y * 1000⌋ + 250 ≤ ⌊x * 1000⌋ := by
    rw [Int.le_floor]
    push_cast
    linarith [Int.floor_le (y * 1000)]
  have hLow : 0 ≤ ⌊y * 1000⌋ := Int.floor_nonneg.mpr (by linarith)
  have hHigh : ⌊x * 1000⌋ ≤ 100000 := by
    have hFloorLe : (⌊x * 1000⌋ : ℚ) ≤ 100000 := (Int.floor_le _).trans (by linarith)
    exact_mod_cast hFloorLe
  constructor
  · rw [BitVec.le_def]
    omega
  · rw [BitVec.le_def, BitVec.toNat_sub]
    show 250 ≤ _
    omega

end Noted

section Verdicts
variable {v a : ℚ} {s : Supervisor} {now : Int}

/-- A fresh report of 0 is a standstill. -/
theorem Reports.standstill (h : Reports s now 0) : s.standstillNow now = true := by
  have hFresh := h.fresh
  rw [Supervisor.speedFresh, Bool.not_eq_true', Judge.stale_eq_false] at hFresh
  rw [Supervisor.standstillNow, Judge.standstill_eq_true]
  exact ⟨hFresh.1, hFresh.2, h.speed.trans noted_zero⟩

/-- A ramp that fits the spans is never taken for a fault. -/
theorem neverFaulty_of_stops (hSpeed : v ≤ 833 / 100) (ha : a ≤ 1)
    (hStops : ∀ t, floorSpan ≤ t → commanded v a t = 0)
    (hSlows : commanded v a responseSpan = 0 ∨
      commanded v a responseSpan ≤ v - Config.image.dropMmS / 1000) : NeverFaulty v a := by
  have hDrop : (Config.image.dropMmS / 1000 : ℚ) = 1 / 4 := by norm_num [Config.image]
  constructor
  · exact hStops
  · exact hSlows
  · intro s now t ht hReports
    rw [hStops t ht] at hReports
    exact Judge.floor_eq_met.mpr hReports.standstill
  · intro s now t ht hReports hRef
    apply Judge.floor_eq_met.mpr
    have hFalls := commanded_anti v ha ht
    have hNonneg : 0 ≤ commanded v a t := by
      rw [commanded_eq]
      exact le_max_right _ _
    rcases hSlows with hStopped | hSlow
    · have hZero : commanded v a t = 0 := le_antisymm (hFalls.trans hStopped.le) hNonneg
      rw [hZero] at hReports
      rw [Supervisor.respondedNow, Judge.responded, hReports.standstill]
      rfl
    · rw [hDrop] at hSlow
      obtain ⟨hBelow, hShed⟩ := noted_sub hNonneg (hFalls.trans hSlow) (by linarith)
      by_contra hNot
      rw [Bool.not_eq_true, Supervisor.respondedNow, Judge.responded_eq_false] at hNot
      apply hNot.2
      rw [hReports.speed, hRef]
      exact ⟨hReports.fresh, hBelow, hShed⟩

/-- Every seed of the contract's rectangle: a vehicle at the commanded speed
is never declared faulty exactly when the ramp from it fits the spans. -/
theorem neverFaulty_iff (hSpeed : v ≤ 833 / 100) (ha : a ≤ 1) :
    NeverFaulty v a ↔ Fits v a := by
  constructor
  · intro h
    exact ⟨(stops_iff ha).mp h.stops, slows_iff.mp h.slows⟩
  · intro h
    exact neverFaulty_of_stops hSpeed ha ((stops_iff ha).mpr h.settle)
      (slows_iff.mpr h.response)

/-- The entry speed, coasting. -/
theorem neverFaulty_coasting : NeverFaulty (833 / 100) 0 := by
  refine (neverFaulty_iff le_rfl (by norm_num)).mpr ⟨?_, ?_⟩
  · norm_num
  · norm_num

/-- At the rectangle's corner the vehicle still moves at the settle's end. -/
theorem not_neverFaulty :
    ¬ ∀ v a, 0 ≤ v → v ≤ 833 / 100 → a ≤ 1 → NeverFaulty v a := by
  intro hAll
  have hCorner := hAll (833 / 100) 1 (by norm_num) le_rfl le_rfl
  have hSettle := (stops_iff le_rfl).mp hCorner.stops
  norm_num at hSettle

end Verdicts
end SafetyIsland.Tracking
