import SafetyIsland.General.JerkRamp
import SafetyIsland.Operator.State

/-! The operator's stepwise ramp and the direct path's closed form are one
ramp: the takeover and the resume pass it on without a step in it. -/
namespace SafetyIsland.Operator

/-- What of a command the ramp is about: its velocity and its acceleration. -/
def ramp (c : Control) : ℚ × ℚ := (c.longitudinal.velocity, c.longitudinal.acceleration)

section Stamp
variable (ns before : Int)

/-- A stamp's two words are the reading they were made of. -/
theorem nowStamp_total : ((nowStamp ns).sec : ℚ) * 1000000000 + (nowStamp ns).nanosec = ns := by
  have hSplit : ns / 1000000000 * 1000000000 + ns % 1000000000 = ns := by omega
  exact_mod_cast hSplit

/-- The difference of two stamps is that of the clock's readings. -/
theorem secondsSince_nowStamp :
    secondsSince ns (nowStamp before) = (ns - before) / 1000000000 := by
  have hNow := nowStamp_total ns
  have hBefore := nowStamp_total before
  unfold secondsSince
  dsimp only
  linarith

end Stamp

/-- A step that is in range passes the guard as it is. -/
theorem guardedDt_eq {dt : ℚ} (hForward : 0 ≤ dt) (hShort : dt ≤ 1 / 10) : guardedDt dt = dt := by
  rw [guardedDt, if_neg (not_lt.mpr hForward), if_neg (not_lt.mpr hShort)]

section Command
variable {d : DirectBrake} {t : ℚ} (stampNs : Int)

variable (d) in
/-- The seed is clamped at the target. -/
theorem clamp_eq : (if d.a0 < d.targetAcceleration then d.targetAcceleration else d.a0) =
    max d.a0 d.targetAcceleration := by
  split_ifs with hBelow
  · exact (max_eq_right hBelow.le).symm
  · exact (max_eq_left (not_lt.mp hBelow)).symm

/-- `direct_brake` evaluates the ramp's acceleration. -/
theorem command_acceleration (hJ : d.targetJerk < 0) :
    (d.command stampNs t).longitudinal.acceleration =
      JerkRamp.acceleration d.targetAcceleration d.targetJerk (max d.a0 d.targetAcceleration)
        t := by
  show (if t < _ then _ else _) = _
  rw [clamp_eq, JerkRamp.acceleration_eq hJ, ← JerkRamp.rampTime]
  split_ifs with hEarly
  · rw [min_eq_left hEarly.le]
  · rw [min_eq_right (not_lt.mp hEarly), JerkRamp.add_mul_rampTime hJ]

/-- `direct_brake` evaluates the ramp's velocity. -/
theorem command_velocity :
    (d.command stampNs t).longitudinal.velocity =
      JerkRamp.velocity d.targetAcceleration d.targetJerk d.v0 (max d.a0 d.targetAcceleration)
        t := by
  show (if (if t < _ then _ else _) < 0 then 0 else _) = _
  rw [clamp_eq, JerkRamp.velocity]
  have hFree (x : ℚ) : (if x < 0 then 0 else x) = max x 0 := by
    split_ifs with hNegative
    · exact (max_eq_right hNegative.le).symm
    · exact (max_eq_left (not_lt.mp hNegative)).symm
  rw [hFree, JerkRamp.freeVelocity, ← JerkRamp.rampTime]
  congr 1
  split_ifs with hEarly
  · rw [min_eq_left hEarly.le]
    ring
  · rw [min_eq_right (not_lt.mp hEarly)]
    ring

end Command

def tickAt (p : Parameters) (prev : Control) (ns : Int) : Control :=
  calcTargetAcceleration p true ns ns prev

/-- A tick takes one step of the ramp. -/
theorem ramp_tickAt (p : Parameters) {prev : Control} {before ns : Int}
    (hStamp : prev.stamp = nowStamp before) (hForward : before ≤ ns)
    (hShort : ns ≤ before + 100000000) : ramp (tickAt p prev ns) =
      JerkRamp.step p.targetAcceleration p.targetJerk ((ns - before) / 1000000000) (ramp prev) := by
  have hDt : guardedDt (secondsSince ns prev.stamp) = (ns - before) / 1000000000 := by
    rw [hStamp, secondsSince_nowStamp]
    have hFrom : (before : ℚ) ≤ ns := by exact_mod_cast hForward
    have hTo : (ns : ℚ) ≤ before + 100000000 := by exact_mod_cast hShort
    apply guardedDt_eq <;> linarith
  simp only [ramp, tickAt, calcTargetAcceleration, Bool.not_true, Bool.false_eq_true, if_false,
    hDt, JerkRamp.step]

/-- The operator's ticks at some readings, from a command. -/
def ticks (p : Parameters) (c : Control) (readings : List Int) : Control :=
  readings.foldl (tickAt p) c

/-- Readings at most 100 ms apart, from `start` on. -/
def InSteps (start : Int) (readings : List Int) : Prop :=
  (start :: readings).IsChain fun before ns => before ≤ ns ∧ ns ≤ before + 100000000

/-- The steps between the readings, in seconds. -/
def stepsFrom : Int → List Int → List ℚ
  | _, [] => []
  | start, ns :: rest => (((ns : ℚ) - start) / 1000000000) :: stepsFrom ns rest

section Ticks
variable {start : Int} {readings : List Int}

/-- Readings in order make no step negative. -/
theorem stepsFrom_nonneg (hSteps : InSteps start readings) :
    ∀ dt ∈ stepsFrom start readings, 0 ≤ dt := by
  induction readings generalizing start with
  | nil => exact fun _ hMem => absurd hMem List.not_mem_nil
  | cons ns rest ih =>
      obtain ⟨hHead, hRest⟩ := List.isChain_cons_cons.mp hSteps
      have hFrom : (start : ℚ) ≤ ns := by exact_mod_cast hHead.1
      refine List.forall_mem_cons.mpr ⟨?_, ih hRest⟩
      linarith

/-- The steps add up to the time elapsed. -/
theorem stepsFrom_sum (start : Int) (readings : List Int) : (stepsFrom start readings).sum =
    ((readings.getLastD start : ℚ) - start) / 1000000000 := by
  induction readings generalizing start with
  | nil => simp [stepsFrom]
  | cons ns rest ih =>
      rw [stepsFrom, List.sum_cons, ih, List.getLastD_cons]
      ring

/-- The ticks iterate the ramp over the steps. -/
theorem ramp_ticks (p : Parameters) {c : Control} (hStamp : c.stamp = nowStamp start)
    (hSteps : InSteps start readings) : ramp (ticks p c readings) =
      JerkRamp.iterate p.targetAcceleration p.targetJerk (ramp c) (stepsFrom start readings) := by
  induction readings generalizing start c with
  | nil => rfl
  | cons ns rest ih =>
      obtain ⟨hHead, hRest⟩ := List.isChain_cons_cons.mp hSteps
      show ramp (ticks p (tickAt p c ns) rest) = JerkRamp.iterate _ _ (JerkRamp.step _ _ _ _) _
      rw [ih rfl hRest, ramp_tickAt p hStamp hHead.1 hHead.2]

end Ticks

/-- The ramp this call of `direct_brake` evaluates starts from `v` and `a`: it
reads them from the seed, or an earlier call has. -/
structure StartsFrom (p : Parameters) (v a : ℚ) (seq : U32) (d : DirectBrake) : Prop where
  targetAcceleration : d.targetAcceleration = p.targetAcceleration
  targetJerk : d.targetJerk = p.targetJerk
  v0 : (d.load seq).v0 = v
  a0 : (d.load seq).a0 = a

/-- The operator's command brakes as the direct path's, from no lower a
velocity. -/
structure Matches (c b : Control) : Prop where
  acceleration : c.longitudinal.acceleration = b.longitudinal.acceleration
  velocity : b.longitudinal.velocity ≤ c.longitudinal.velocity

section OneRamp
variable {p : Parameters} {v a : ℚ} {seq : U32} {d : DirectBrake}

/-- What `direct_brake` publishes, as the ramp's closed form. -/
theorem directBrake_ramp (hd : StartsFrom p v a seq d) (hJ : p.targetJerk < 0)
    (ha : p.targetAcceleration ≤ a) (ms : U32) (stampNs : Int) :
    ramp (directBrake seq ms stampNs d).2 =
      (JerkRamp.velocity p.targetAcceleration p.targetJerk v a (sinceLatch ms),
        JerkRamp.acceleration p.targetAcceleration p.targetJerk a (sinceLatch ms)) := by
  obtain ⟨hTarget, hJerk, hV, hA⟩ := hd
  have hLoad : (d.load seq).targetAcceleration = p.targetAcceleration ∧
      (d.load seq).targetJerk = p.targetJerk := by
    rw [← hTarget, ← hJerk, DirectBrake.load]
    split_ifs <;> exact ⟨rfl, rfl⟩
  have hVelocity := command_velocity (d := d.load seq) (t := sinceLatch ms) stampNs
  have hAcceleration := command_acceleration (d := d.load seq) (t := sinceLatch ms) stampNs
    (by rwa [hLoad.2])
  rw [hLoad.1, hLoad.2, hV, hA, max_eq_left ha] at hVelocity
  rw [hLoad.1, hLoad.2, hA, max_eq_left ha] at hAcceleration
  exact Prod.ext hVelocity hAcceleration

/-- Ticks from a command on the ramp stay on it. -/
theorem ticks_match (hd : StartsFrom p v a seq d) (hJ : p.targetJerk < 0)
    (ha : p.targetAcceleration ≤ a) {t : ℚ} {c : Control} {start : Int} {readings : List Int}
    (hc : JerkRamp.Follows p.targetAcceleration p.targetJerk v a t (ramp c))
    (hStamp : c.stamp = nowStamp start) (hSteps : InSteps start readings) {ms : U32}
    (hElapsed : t + ((readings.getLastD start : ℚ) - start) / 1000000000 = sinceLatch ms)
    (stampNs : Int) : Matches (ticks p c readings) (directBrake seq ms stampNs d).2 := by
  have hFollows := JerkRamp.follows_iterate hJ (stepsFrom start readings)
    (stepsFrom_nonneg hSteps) hc
  rw [stepsFrom_sum, hElapsed, ← ramp_ticks p hStamp hSteps] at hFollows
  have hDirect := Prod.ext_iff.mp (directBrake_ramp hd hJ ha ms stampNs)
  exact ⟨hFollows.2.trans hDirect.2.symm, hDirect.1.trans_le hFollows.1⟩

/-- The stepwise ramp is the closed form: from the seed, from a command of the
direct path at a takeover, and back to the direct path at a resume. -/
theorem one_ramp (hJ : p.targetJerk < 0) (hv : 0 ≤ v) (ha : p.targetAcceleration ≤ a)
    (hd : StartsFrom p v a seq d) (ms : U32) (stampNs : Int) :
    (∀ (seed : Control) (start : Int) (readings : List Int), ramp seed = (v, a) →
      seed.stamp = nowStamp start → InSteps start readings →
      readings.getLastD start - start = ms.toNat * 1000000 →
        Matches (ticks p seed readings) (directBrake seq ms stampNs d).2) ∧
    (∀ (seq₁ ms₁ : U32) (d₁ : DirectBrake) (start : Int) (readings : List Int),
      StartsFrom p v a seq₁ d₁ → InSteps start readings →
      ms₁.toNat * 1000000 + (readings.getLastD start - start) = ms.toNat * 1000000 →
        Matches (ticks p (directBrake seq₁ ms₁ start d₁).2 readings)
          (directBrake seq ms stampNs d).2) ∧
    ∀ (c : Control) (seq₂ ms₂ : U32) (d₂ : DirectBrake) (resumeNs : Int),
      Matches c (directBrake seq ms stampNs d).2 → StartsFrom p v a seq₂ d₂ → ms ≤ ms₂ →
        (directBrake seq₂ ms₂ resumeNs d₂).2.longitudinal.acceleration =
          max (c.longitudinal.acceleration + p.targetJerk * (sinceLatch ms₂ - sinceLatch ms))
            p.targetAcceleration := by
  refine ⟨?_, ?_, ?_⟩
  · intro seed start readings hSeed hStamp hSteps hElapsed
    have hZero := JerkRamp.follows_zero hv ha hJ
    rw [← hSeed] at hZero
    refine ticks_match hd hJ ha hZero hStamp hSteps ?_ stampNs
    have hTotal : ((readings.getLastD start : ℚ) - start) = ms.toNat * 1000000 := by
      exact_mod_cast hElapsed
    rw [hTotal, sinceLatch]
    ring
  · intro seq₁ ms₁ d₁ start readings hd₁ hSteps hElapsed
    have hTaken := directBrake_ramp hd₁ hJ ha ms₁ start
    refine ticks_match hd hJ ha (t := sinceLatch ms₁) ?_ rfl hSteps ?_ stampNs
    · rw [hTaken]
      exact ⟨le_rfl, rfl⟩
    · have hTotal : (ms₁.toNat : ℚ) * 1000000 + ((readings.getLastD start : ℚ) - start) =
          ms.toNat * 1000000 := by
        exact_mod_cast hElapsed
      rw [sinceLatch, sinceLatch]
      linarith
  · intro c seq₂ ms₂ d₂ resumeNs hMatches hd₂ hLater
    have hNow := (Prod.ext_iff.mp (directBrake_ramp hd hJ ha ms stampNs)).2
    have hResumed := (Prod.ext_iff.mp (directBrake_ramp hd₂ hJ ha ms₂ resumeNs)).2
    have hElapsed : 0 ≤ sinceLatch ms₂ - sinceLatch ms := by
      have hMs : (ms.toNat : ℚ) ≤ ms₂.toNat := by exact_mod_cast hLater
      rw [sinceLatch, sinceLatch]
      linarith
    rw [hMatches.acceleration]
    calc (directBrake seq₂ ms₂ resumeNs d₂).2.longitudinal.acceleration
        = JerkRamp.acceleration p.targetAcceleration p.targetJerk a (sinceLatch ms₂) := hResumed
      _ = JerkRamp.acceleration p.targetAcceleration p.targetJerk
            (JerkRamp.acceleration p.targetAcceleration p.targetJerk a (sinceLatch ms))
            (sinceLatch ms₂ - sinceLatch ms) := by
          rw [JerkRamp.acceleration_add hJ hElapsed, add_sub_cancel]
      _ = _ := by
          rw [show (directBrake seq ms stampNs d).2.longitudinal.acceleration = _ from hNow]
          rfl

/-- 8 m/s, coasting, taken over from 33 ms into the ramp. -/
def coasting : DirectBrake where
  targetAcceleration := Parameters.declared.targetAcceleration
  targetJerk := Parameters.declared.targetJerk
  seed := { velocity := 8, acceleration := 0, steering := 0, valid := true }

theorem one_ramp_coasting :
    Matches (ticks .declared (directBrake 0 33 33000000 coasting).2 [66000000, 99000000])
      (directBrake 0 99 99000000 coasting).2 :=
  (one_ramp (p := .declared) (v := 8) (a := 0)
    (by norm_num [Parameters.declared]) (by norm_num) (by norm_num [Parameters.declared])
    (show StartsFrom .declared 8 0 0 coasting from ⟨rfl, rfl, rfl, rfl⟩) 99
      99000000).2.1 0 33 coasting 33000000 [66000000, 99000000]
    ⟨rfl, rfl, rfl, rfl⟩ (by unfold InSteps; decide) (by decide)

end OneRamp
end SafetyIsland.Operator
