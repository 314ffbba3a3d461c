import Mathlib.Algebra.Order.Field.Basic
import Mathlib.Tactic.Linarith
import Mathlib.Tactic.FieldSimp
import Mathlib.Tactic.Ring

/-! Braking at a constant jerk down to a target acceleration, in closed form,
and the same ramp taken in steps: the acceleration is exact whatever the steps,
the velocity an upper bound. -/
namespace JerkRamp

variable {K : Type*} [Field K] [LinearOrder K] [IsStrictOrderedRing K]

/-- The acceleration after `t`, from `a`, at jerk `J` down to `A`. -/
def acceleration (A J a t : K) : K := max (a + J * t) A

def rampTime (A J a : K) : K := (A - a) / J

/-- The velocity after `t`, were the vehicle free to reverse. -/
def freeVelocity (A J v a t : K) : K :=
  let m := min t (rampTime A J a)
  v + a * m + J * m * m / 2 + A * (t - m)

/-- The velocity after `t`: the vehicle stops. -/
def velocity (A J v a t : K) : K := max (freeVelocity A J v a t) 0

/-- One step of the ramp, with the acceleration held through it. -/
def step (A J dt : K) (x : K × K) : K × K :=
  (max (x.1 + x.2 * dt) 0, max (x.2 + J * dt) A)

section Ramp
variable {A J a s t : K}

omit [IsStrictOrderedRing K] in
/-- The ramp never goes below its target. -/
theorem target_le : A ≤ acceleration A J a t := le_max_right _ _

omit [IsStrictOrderedRing K] in
/-- At the ramp's time the target is reached. -/
theorem add_mul_rampTime (hJ : J < 0) : a + J * rampTime A J a = A := by
  rw [rampTime, mul_div_cancel₀ _ hJ.ne]
  ring

theorem rampTime_nonneg (hJ : J < 0) (ha : A ≤ a) : 0 ≤ rampTime A J a :=
  div_nonneg_of_nonpos (sub_nonpos.mpr ha) hJ.le

/-- The ramp is linear until the target is reached, and rests there. -/
theorem acceleration_eq (hJ : J < 0) :
    acceleration A J a t = a + J * min t (rampTime A J a) := by
  rcases le_total t (rampTime A J a) with hEarly | hLate
  · rw [min_eq_left hEarly]
    refine max_eq_left ?_
    calc A = a + J * rampTime A J a := (add_mul_rampTime hJ).symm
      _ ≤ a + J * t := by linarith [mul_le_mul_of_nonpos_left hEarly hJ.le]
  · rw [min_eq_right hLate, add_mul_rampTime hJ]
    refine max_eq_right ?_
    calc a + J * t ≤ a + J * rampTime A J a := by
          linarith [mul_le_mul_of_nonpos_left hLate hJ.le]
      _ = A := add_mul_rampTime hJ

/-- The ramp goes on from any of its values. -/
theorem acceleration_add (hJ : J < 0) (ht : 0 ≤ t) :
    acceleration A J (acceleration A J a s) t = acceleration A J a (s + t) := by
  have hFall : J * t ≤ 0 := mul_nonpos_of_nonpos_of_nonneg hJ.le ht
  unfold acceleration
  calc max (max (a + J * s) A + J * t) A
      = max (max (a + J * s + J * t) (A + J * t)) A := by rw [max_add_add_right]
    _ = max (a + J * s + J * t) (max (A + J * t) A) := max_assoc ..
    _ = max (a + J * (s + t)) A := by
      rw [max_eq_right (by linarith : A + J * t ≤ A), mul_add, add_assoc]

/-- It never loosens. -/
theorem acceleration_anti (hJ : J < 0) (hst : s ≤ t) :
    acceleration A J a t ≤ acceleration A J a s :=
  max_le_max_right A (by linarith [mul_le_mul_of_nonpos_left hst hJ.le])

/-- From a higher start it stays higher. -/
theorem acceleration_mono {b : K} (hab : a ≤ b) : acceleration A J a t ≤ acceleration A J b t :=
  max_le_max_right A (by linarith)

/-- A step shorter than the time elapsed leaves the ramp above itself. -/
theorem acceleration_add_le (hJ : J < 0) (ht : 0 ≤ t) {x dt : K} (hAbove : acceleration A J a s ≤ x)
    (hShort : dt ≤ t) : acceleration A J a (s + t) ≤ acceleration A J x dt :=
  calc acceleration A J a (s + t) = acceleration A J (acceleration A J a s) t :=
        (acceleration_add hJ ht).symm
    _ ≤ acceleration A J x t := acceleration_mono hAbove
    _ ≤ acceleration A J x dt := acceleration_anti hJ hShort

/-- Holding the acceleration through a step loses no velocity. -/
theorem freeVelocity_add_le (v : K) (hJ : J < 0) (ht : 0 ≤ t) :
    freeVelocity A J v a (s + t) ≤ freeVelocity A J v a s + acceleration A J a s * t := by
  have hTarget : A ≤ acceleration A J a s := target_le
  rw [acceleration_eq hJ] at hTarget ⊢
  have hLow : min s (rampTime A J a) ≤ min (s + t) (rampTime A J a) :=
    min_le_min_right _ (le_add_of_nonneg_right ht)
  have hHigh : min (s + t) (rampTime A J a) ≤ min s (rampTime A J a) + t := by
    rcases le_total s (rampTime A J a) with hEarly | hLate
    · rw [min_eq_left hEarly]
      exact min_le_left _ _
    · rw [min_eq_right hLate]
      exact (min_le_right _ _).trans (le_add_of_nonneg_right ht)
  unfold freeVelocity
  dsimp only
  generalize min s (rampTime A J a) = m at *
  generalize min (s + t) (rampTime A J a) = n at *
  -- what is lost: the wait at the target, and the jerk's own share
  have hWait : 0 ≤ (a + J * m - A) * (t - (n - m)) :=
    mul_nonneg (by linarith) (by linarith)
  have hJerk : 0 ≤ -J * ((n - m) * (n - m)) :=
    mul_nonneg (by linarith) (mul_self_nonneg _)
  linarith

/-- Once the ramp brakes, it only slows. -/
theorem freeVelocity_anti (v : K) (hJ : J < 0) (hBrakes : acceleration A J a s ≤ 0)
    (hst : s ≤ t) : freeVelocity A J v a t ≤ freeVelocity A J v a s := by
  have hLater := freeVelocity_add_le (A := A) (a := a) (s := s) v hJ (sub_nonneg.mpr hst)
  have hSlows : acceleration A J a s * (t - s) ≤ 0 :=
    mul_nonpos_of_nonpos_of_nonneg hBrakes (sub_nonneg.mpr hst)
  rw [add_sub_cancel] at hLater
  linarith

omit [IsStrictOrderedRing K] in
/-- Until the target is reached the velocity is quadratic in time. -/
theorem freeVelocity_early (v : K) (hEarly : t ≤ rampTime A J a) :
    freeVelocity A J v a t = v + a * t + J * t * t / 2 := by
  rw [freeVelocity, min_eq_left hEarly]
  ring

/-- After that it is linear. -/
theorem freeVelocity_late (v : K) (hJ : J < 0) (hLate : rampTime A J a ≤ t) :
    freeVelocity A J v a t = v - (a - A) * (a - A) / (2 * J) + A * t := by
  have hNonzero : J ≠ 0 := hJ.ne
  rw [freeVelocity, min_eq_right hLate, rampTime]
  field_simp
  ring

end Ramp

section Steps
variable {A J : K}

def iterate (A J : K) (x : K × K) (steps : List K) : K × K :=
  steps.foldl (fun x dt => step A J dt x) x

/-- Between the closed form and the iteration: the same acceleration, and at
least its velocity. -/
def Follows (A J v a t : K) (x : K × K) : Prop :=
  velocity A J v a t ≤ x.1 ∧ x.2 = acceleration A J a t

/-- A step of the iteration follows a step of the closed form. -/
theorem follows_step {v a t dt : K} {x : K × K} (hJ : J < 0) (hdt : 0 ≤ dt)
    (hx : Follows A J v a t x) : Follows A J v a (t + dt) (step A J dt x) := by
  obtain ⟨hVelocity, hAcceleration⟩ := hx
  constructor
  · refine max_le_max_right 0 ?_
    calc freeVelocity A J v a (t + dt)
        ≤ freeVelocity A J v a t + acceleration A J a t * dt := freeVelocity_add_le v hJ hdt
      _ ≤ x.1 + x.2 * dt := by
        rw [hAcceleration]
        exact add_le_add_left ((le_max_left _ 0).trans hVelocity) _
  · show max (x.2 + J * dt) A = acceleration A J a (t + dt)
    rw [← acceleration_add hJ hdt, ← hAcceleration]
    rfl

/-- Both begin alike. -/
theorem follows_zero {v a : K} (hv : 0 ≤ v) (ha : A ≤ a) (hJ : J < 0) :
    Follows A J v a 0 (v, a) := by
  constructor
  · simp [velocity, freeVelocity, min_eq_left (rampTime_nonneg hJ ha), hv]
  · simp [acceleration, max_eq_left ha]

/-- However the time is cut into steps, the ramp taken in them is the ramp. -/
theorem follows_iterate {v a t : K} {x : K × K} (hJ : J < 0) (steps : List K)
    (hSteps : ∀ dt ∈ steps, 0 ≤ dt) (hx : Follows A J v a t x) :
    Follows A J v a (t + steps.sum) (iterate A J x steps) := by
  induction steps generalizing t x with
  | nil =>
      rw [List.sum_nil, add_zero]
      exact hx
  | cons dt rest ih =>
      obtain ⟨hHead, hRest⟩ := List.forall_mem_cons.mp hSteps
      rw [List.sum_cons, ← add_assoc]
      exact ih hRest (follows_step hJ hHead hx)

end Steps

section Untimed
variable {A J h a dt : K} {x y : K × K}

/-- `y` comes after `x`, some step of length at most `h` later. -/
def Within (A J h : K) (x y : K × K) : Prop := ∃ dt, 0 ≤ dt ∧ dt ≤ h ∧ y = step A J dt x

/-- The velocity the ramp can still gain, however its steps are timed. -/
def headroom (J h a : K) : K := max a 0 * max a 0 / (2 * -J) + h * max a 0

/-- What the ramp can still gain is not negative. -/
theorem headroom_nonneg (hJ : J < 0) (hh : 0 ≤ h) : 0 ≤ headroom J h a := by
  have hPositive : 0 ≤ max a 0 := le_max_right _ _
  have hTwo : 0 ≤ 2 * -J := by linarith
  exact add_nonneg (div_nonneg (mul_nonneg hPositive hPositive) hTwo) (mul_nonneg hh hPositive)

omit [IsStrictOrderedRing K] in
theorem headroom_of_nonpos (ha : a ≤ 0) : headroom J h a = 0 := by
  rw [headroom, max_eq_right ha]
  ring

/-- A step pays for its gain out of the headroom. -/
theorem headroom_step (hA : A ≤ 0) (hJ : J < 0) (hdt : 0 ≤ dt) (hShort : dt ≤ h) :
    max a 0 * dt + headroom J h (max (a + J * dt) A) ≤ headroom J h a := by
  have hFall : J * dt ≤ 0 := mul_nonpos_of_nonpos_of_nonneg hJ.le hdt
  rcases le_total a 0 with hBraking | hPushing
  · have hNext : max (a + J * dt) A ≤ 0 := max_le (by linarith) hA
    rw [headroom_of_nonpos hNext, headroom_of_nonpos hBraking, max_eq_right hBraking]
    simp
  rcases le_total (a + J * dt) 0 with hCrosses | hStays
  · have hNext : max (a + J * dt) A ≤ 0 := max_le hCrosses hA
    have hSquare : 0 ≤ a * a / (2 * -J) := div_nonneg (mul_nonneg hPushing hPushing) (by linarith)
    have hGain : a * dt ≤ a * h := mul_le_mul_of_nonneg_left hShort hPushing
    rw [headroom_of_nonpos hNext, headroom, max_eq_left hPushing]
    linarith
  · rw [max_eq_left (hA.trans hStays), headroom, headroom, max_eq_left hPushing,
      max_eq_left hStays]
    have hSquare : (a + J * dt) * (a + J * dt) / (2 * -J) =
        a * a / (2 * -J) - a * dt - J * dt * dt / 2 := by
      have hNonzero : J ≠ 0 := hJ.ne
      field_simp
      ring
    have hRounding : J * dt * (h - dt / 2) ≤ 0 :=
      mul_nonpos_of_nonpos_of_nonneg hFall (by linarith)
    rw [hSquare]
    linarith

namespace Within

omit [IsStrictOrderedRing K] in
/-- No step takes the acceleration below its target. -/
theorem target (hxy : Within A J h x y) : A ≤ y.2 := by
  obtain ⟨dt, -, -, rfl⟩ := hxy
  exact le_max_right _ _

omit [IsStrictOrderedRing K] in
/-- No step makes the vehicle reverse. -/
theorem velocity_nonneg (hxy : Within A J h x y) : 0 ≤ y.1 := by
  obtain ⟨dt, -, -, rfl⟩ := hxy
  exact le_max_right _ _

/-- No step loosens the acceleration above the target. -/
theorem tightens (hJ : J < 0) (hxy : Within A J h x y) : y.2 ≤ max x.2 A := by
  obtain ⟨dt, hdt, -, rfl⟩ := hxy
  exact max_le_max_right A (by linarith [mul_nonpos_of_nonpos_of_nonneg hJ.le hdt])

/-- A step of length `h` takes off no more than the jerk's share. -/
theorem jerk_le (hJ : J < 0) (hxy : Within A J h x y) : x.2 + J * h ≤ y.2 := by
  obtain ⟨dt, -, hShort, rfl⟩ := hxy
  calc x.2 + J * h ≤ x.2 + J * dt := by linarith [mul_le_mul_of_nonpos_left hShort hJ.le]
    _ ≤ max (x.2 + J * dt) A := le_max_left _ _

/-- A step gains no more than the acceleration before it. -/
theorem gain_le (hxy : Within A J h x y) : y.1 ≤ max x.1 0 + h * max x.2 0 := by
  obtain ⟨dt, hdt, hShort, rfl⟩ := hxy
  have hPositive : 0 ≤ max x.2 0 := le_max_right _ _
  have hPush : x.2 * dt ≤ h * max x.2 0 :=
    calc x.2 * dt ≤ max x.2 0 * dt := mul_le_mul_of_nonneg_right (le_max_left _ _) hdt
      _ ≤ max x.2 0 * h := mul_le_mul_of_nonneg_left hShort hPositive
      _ = h * max x.2 0 := mul_comm _ _
  have hGain : 0 ≤ h * max x.2 0 := mul_nonneg (hdt.trans hShort) hPositive
  exact max_le (add_le_add (le_max_left _ _) hPush) (add_nonneg (le_max_right _ _) hGain)

/-- What a step adds to the velocity, and what can be added after it. -/
theorem headroom_le (hA : A ≤ 0) (hJ : J < 0) (hxy : Within A J h x y) :
    max (y.1 - max x.1 0) 0 + headroom J h y.2 ≤ headroom J h x.2 := by
  obtain ⟨dt, hdt, hShort, rfl⟩ := hxy
  have hGain : max ((step A J dt x).1 - max x.1 0) 0 ≤ max x.2 0 * dt := by
    have hPush : 0 ≤ max x.2 0 * dt := mul_nonneg (le_max_right _ _) hdt
    have hHeld : x.2 * dt ≤ max x.2 0 * dt := mul_le_mul_of_nonneg_right (le_max_left _ _) hdt
    have hKept : x.1 ≤ max x.1 0 := le_max_left _ _
    have hStopped : 0 ≤ max x.1 0 := le_max_right _ _
    apply max_le _ hPush
    rw [sub_le_iff_le_add]
    exact max_le (by linarith) (by linarith)
  calc max ((step A J dt x).1 - max x.1 0) 0 + headroom J h (step A J dt x).2
      ≤ max x.2 0 * dt + headroom J h (max (x.2 + J * dt) A) := add_le_add_left hGain _
    _ ≤ headroom J h x.2 := headroom_step hA hJ hdt hShort

end Within

/-- What each state adds to the velocity of the one before it. -/
def gains : K × K → List (K × K) → List K
  | _, [] => []
  | x, y :: rest => max (y.1 - max x.1 0) 0 :: gains y rest

/-- All steps together gain no more than the headroom. -/
theorem gains_sum_le (hA : A ≤ 0) (hJ : J < 0) (hh : 0 ≤ h) {states : List (K × K)}
    (hSteps : (x :: states).IsChain (Within A J h)) :
    (gains x states).sum ≤ headroom J h x.2 := by
  induction states generalizing x with
  | nil => exact headroom_nonneg hJ hh
  | cons y rest ih =>
      obtain ⟨hHead, hRest⟩ := List.isChain_cons_cons.mp hSteps
      have hPaid := hHead.headroom_le hA hJ
      have hLater := ih hRest
      rw [gains, List.sum_cons]
      linarith

/-- No velocity of the ramp is above its first one by more than the headroom. -/
theorem velocity_le_headroom (hA : A ≤ 0) (hJ : J < 0) (hh : 0 ≤ h) {states : List (K × K)}
    (hSteps : (x :: states).IsChain (Within A J h)) :
    ∀ y ∈ states, y.1 ≤ max x.1 0 + headroom J h x.2 := by
  induction states generalizing x with
  | nil => exact fun _ hMem => absurd hMem List.not_mem_nil
  | cons y rest ih =>
      obtain ⟨hHead, hRest⟩ := List.isChain_cons_cons.mp hSteps
      have hPaid := hHead.headroom_le hA hJ
      have hGain : y.1 - max x.1 0 ≤ max (y.1 - max x.1 0) 0 := le_max_left _ _
      have hSpare : 0 ≤ headroom J h y.2 := headroom_nonneg hJ hh
      intro z hMem
      rcases List.mem_cons.mp hMem with rfl | hz
      · linarith
      · have hLater := ih hRest z hz
        rw [max_eq_left hHead.velocity_nonneg] at hLater
        linarith

/-- At every later state the acceleration lies between the target and the
earlier one. -/
theorem acceleration_settles (hJ : J < 0) {states : List (K × K)}
    (hSteps : states.IsChain (Within A J h)) :
    states.Pairwise fun x y => A ≤ y.2 ∧ y.2 ≤ max x.2 A := by
  have hStep : states.IsChain fun x y => A ≤ y.2 ∧ y.2 ≤ max x.2 A :=
    hSteps.imp fun x y hxy => ⟨hxy.target, hxy.tightens hJ⟩
  have : IsTrans (K × K) fun x y => A ≤ y.2 ∧ y.2 ≤ max x.2 A := by
    constructor
    intro x y z hxy hyz
    exact ⟨hyz.1, hyz.2.trans (max_le hxy.2 (le_max_right _ _))⟩
  exact List.isChain_iff_pairwise.mp hStep

end Untimed
end JerkRamp
