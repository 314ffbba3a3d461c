import SafetyIsland.Braking.Passes

/-! The ramp both publishers follow: what the direct path commands at a time,
what its calls publish, and what a tick of the operator leaves of it. -/
namespace SafetyIsland.Braking
open Operator (Parameters DirectBrake)

/-- The direct path's ramp at `ns`, from `a0` at the latch. -/
def commanded (p : Parameters) (a0 : ℚ) (latchMs ns : Int) : ℚ :=
  JerkRamp.acceleration p.targetAcceleration p.targetJerk (max a0 p.targetAcceleration)
    ((ns - latchMs * 1000000) / 1000000000)

section Commanded
variable {p : Parameters} {a0 : ℚ} {latchMs : Int}

/-- The later the call, the harder the direct path brakes. -/
theorem commanded_anti (hJ : p.targetJerk < 0) {earlier later : Int} (h : earlier ≤ later) :
    commanded p a0 latchMs later ≤ commanded p a0 latchMs earlier := by
  have hCast : (earlier : ℚ) ≤ later := by exact_mod_cast h
  apply JerkRamp.acceleration_anti hJ
  linarith

/-- A stamped command that the ramp has not passed. -/
structure Covers (p : Parameters) (a0 : ℚ) (latchMs clock : Int) (c : Control) (ns : Int) :
    Prop where
  stamp : c.stamp = Operator.nowStamp ns
  past : ns ≤ clock
  above : commanded p a0 latchMs ns ≤ c.longitudinal.acceleration

/-- A command stays covered as the clock goes on. -/
theorem Covers.mono {clock clock' ns : Int} {c : Control} (h : Covers p a0 latchMs clock c ns)
    (hClock : clock ≤ clock') : Covers p a0 latchMs clock' c ns :=
  ⟨h.stamp, h.past.trans hClock, h.above⟩

/-- The operator's next command is not below the ramp: its step is no longer
than the time since. -/
theorem Covers.tick (hJ : p.targetJerk < 0) {clock before ns : Int} {prev : Control}
    (h : Covers p a0 latchMs clock prev before) (hClock : clock ≤ ns) :
    Covers p a0 latchMs ns (Operator.calcTargetAcceleration p true ns ns prev) ns := by
  refine ⟨rfl, le_rfl, ?_⟩
  have hForward : (before : ℚ) ≤ ns := by exact_mod_cast h.past.trans hClock
  have hElapsed : (0 : ℚ) ≤ (ns - before) / 1000000000 := by linarith
  have hStep : Operator.guardedDt (Operator.secondsSince ns prev.stamp) ≤
      (ns - before) / 1000000000 := by
    rw [h.stamp, Operator.secondsSince_nowStamp, Operator.guardedDt]
    split_ifs with hBack hLong
    · exact hElapsed
    · exact hLong.le
    · exact le_rfl
  have hRamp := JerkRamp.acceleration_add_le hJ hElapsed h.above hStep
  have hTime : ((before : ℚ) - latchMs * 1000000) / 1000000000 + (ns - before) / 1000000000 =
      (ns - latchMs * 1000000) / 1000000000 := by ring
  rw [hTime] at hRamp
  exact hRamp

end Commanded

/-- What a tick computes never loosens the command it starts from. -/
theorem calcTargetAcceleration_le {p : Parameters} (hJ : p.targetJerk < 0) (received : Bool)
    (ns : Int) (prev : Control) :
    (Operator.calcTargetAcceleration p received ns ns prev).longitudinal.acceleration ≤
      max prev.longitudinal.acceleration p.targetAcceleration := by
  cases received with
  | true => exact ((Operator.calcTargetAcceleration_follows p ns ns prev).tightens hJ).tightens
  | false => exact le_max_right _ _

section Called
variable {cfg : Config} {p : Parameters} {k : Braking} {pass : Supervisor.Pass} {stampNs : Int}

/-- A call's seed changes no target. -/
theorem load_targets (seq : U32) (d : DirectBrake) :
    (d.load seq).targetAcceleration = d.targetAcceleration ∧
      (d.load seq).targetJerk = d.targetJerk := by
  rw [DirectBrake.load]
  split_ifs <;> exact ⟨rfl, rfl⟩

/-- No call of the direct path changes its targets. -/
theorem called_targets :
    (called cfg k pass stampNs).1.targetAcceleration = k.operator.direct.targetAcceleration ∧
      (called cfg k pass stampNs).1.targetJerk = k.operator.direct.targetJerk :=
  load_targets ..

/-- Only the first call reads the seed. -/
theorem called_a0 : (called cfg k pass stampNs).1.a0 =
    if (operatorCall cfg k pass).seq = 0 then k.seedAcceleration else k.operator.direct.a0 := by
  show (k.operator.direct.load (operatorCall cfg k pass).seq).a0 = _
  by_cases hFirst : (operatorCall cfg k pass).seq = 0
  · rw [DirectBrake.load, if_pos hFirst, if_pos hFirst, seedAcceleration]
  · rw [DirectBrake.load, if_neg hFirst, if_neg hFirst]

section Age
variable (hAge : (Supervisor.pass cfg pass k.supervisor).1.latch.ms ≤ pass.publishNow ∧
  pass.publishNow - (Supervisor.pass cfg pass k.supervisor).1.latch.ms < 2 ^ 32)
include hAge

/-- The milliseconds since the latch, as the call is told them. -/
theorem sinceLatch_operatorCall : Operator.sinceLatch (operatorCall cfg k pass).sinceLatchMs =
    (((pass.publishNow * 1000000 : Int) : ℚ) -
      (Supervisor.pass cfg pass k.supervisor).1.latch.ms * 1000000) / 1000000000 := by
  have hWord : ((operatorCall cfg k pass).sinceLatchMs.toNat : Int) =
      pass.publishNow - (Supervisor.pass cfg pass k.supervisor).1.latch.ms := by
    show ((BitVec.ofInt 32 _).toNat : Int) = _
    rw [BitVec.toNat_ofInt]
    omega
  have hCast : ((operatorCall cfg k pass).sinceLatchMs.toNat : ℚ) =
      pass.publishNow - (Supervisor.pass cfg pass k.supervisor).1.latch.ms := by
    exact_mod_cast hWord
  rw [Operator.sinceLatch, hCast]
  push_cast
  ring

/-- What a call publishes is the ramp at its own reading. -/
theorem called_acceleration (hJ : p.targetJerk < 0)
    (hA : k.operator.direct.targetAcceleration = p.targetAcceleration)
    (hJerk : k.operator.direct.targetJerk = p.targetJerk) :
    (called cfg k pass stampNs).2.longitudinal.acceleration =
      commanded p (called cfg k pass stampNs).1.a0
        (Supervisor.pass cfg pass k.supervisor).1.latch.ms (pass.publishNow * 1000000) := by
  obtain ⟨hLoadA, hLoadJ⟩ := load_targets (operatorCall cfg k pass).seq k.operator.direct
  have hCommand := Operator.command_acceleration
    (d := k.operator.direct.load (operatorCall cfg k pass).seq)
    (t := Operator.sinceLatch (operatorCall cfg k pass).sinceLatchMs) stampNs
    (by rwa [hLoadJ, hJerk])
  rw [hLoadA, hLoadJ, hA, hJerk] at hCommand
  rw [commanded, ← sinceLatch_operatorCall hAge]
  exact hCommand

/-- The first call's command is no looser than `c` exactly when its ramp
begins no higher. -/
theorem called_first (hJ : p.targetJerk < 0)
    (hA : k.operator.direct.targetAcceleration = p.targetAcceleration)
    (hJerk : k.operator.direct.targetJerk = p.targetJerk)
    (hFirst : (operatorCall cfg k pass).seq = 0) (c : Control) :
    (called cfg k pass stampNs).2.longitudinal.acceleration ≤
        max c.longitudinal.acceleration p.targetAcceleration ↔
      startsNoHigher p k (operatorCall cfg k pass) c = true := by
  have hSince : 0 ≤ Operator.sinceLatch (operatorCall cfg k pass).sinceLatchMs := by
    rw [Operator.sinceLatch]
    positivity
  have hFall : p.targetJerk * Operator.sinceLatch (operatorCall cfg k pass).sinceLatchMs ≤ 0 :=
    mul_nonpos_of_nonpos_of_nonneg hJ.le hSince
  rw [called_acceleration hAge hJ hA hJerk, called_a0, if_pos hFirst, commanded,
    ← sinceLatch_operatorCall hAge, JerkRamp.acceleration, startsNoHigher, decide_eq_true_iff,
    max_add, max_assoc, max_eq_right (show p.targetAcceleration + _ ≤ p.targetAcceleration by linarith),
    max_le_iff]
  exact and_iff_left (le_max_right _ _)

end Age
end Called

end SafetyIsland.Braking
