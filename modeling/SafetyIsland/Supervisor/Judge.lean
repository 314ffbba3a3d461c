import SafetyIsland.General.WrappingClock

/-! The supervisor's standstill verdicts as pure functions
(`island_supervisor_judge.h`). Everything comes in as arguments; the words are
the 32-bit ones of the record, so an age wraps as the source's does. -/
namespace SafetyIsland

abbrev U32 := BitVec 32

/-- `(uint32_t)t` of an uptime in milliseconds. -/
abbrev uptime32 (t : Int) : U32 := WrappingClock.stamp 32 t

namespace Judge

/-- `ISLAND_STANDSTILL_FRESH_MS`: three periods of a 10 Hz kinematic_state. -/
def standstillFreshMs : U32 := 300

/-- `island_judge_standstill`: a sample was noted, it is fresh and reads 0. -/
def standstill (nowMs speedMmS atMs freshMs : U32) : Bool :=
  atMs != 0 && decide (nowMs - atMs ≤ freshMs) && speedMmS == 0

/-- `island_judge_stale`: missing, or too old to judge by. -/
def stale (nowMs atMs freshMs : U32) : Bool :=
  atMs == 0 || decide (nowMs - atMs > freshMs)

/-- `island_judge_unseen`: no kinematic_state taken since boot. -/
def unseen (atMs : U32) : Bool := atMs == 0

/-- `ISLAND_FLOOR_*`: what route 3's armed due supervises. -/
inductive FloorStage where
  | idle
  | operator
  | direct
  deriving DecidableEq, Repr

inductive FloorVerdict where
  | met
  | latch
  | vehicleFault
  | wait
  deriving DecidableEq, Repr

def floor (standstill latched : Bool) (brakedMs spanMs : U32) : FloorVerdict :=
  if standstill then .met
  else if !latched then .latch
  else if brakedMs ≥ spanMs then .vehicleFault
  else .wait

def responded (standstill fresh : Bool) (refMmS speedMmS dropMmS : U32) : Bool :=
  if standstill then true
  else fresh && decide (refMmS ≥ speedMmS) && decide (refMmS - speedMmS ≥ dropMmS)

def shed (refMmS speedMmS : U32) : U32 :=
  if refMmS > speedMmS then refMmS - speedMmS else 0

/-- `island_judge_resume`: silent for `periods` of its own period. -/
def resume (nowMs aliveMs periodMs periods : U32) : Bool :=
  decide (nowMs - aliveMs ≥ periodMs * periods)

/-- A standstill is a fresh sample of speed 0. -/
theorem standstill_eq_true {now speed at' fresh : U32} :
    standstill now speed at' fresh = true ↔ at' ≠ 0 ∧ now - at' ≤ fresh ∧ speed = 0 := by
  simp [standstill, and_assoc]

theorem stale_eq_false {now at' fresh : U32} :
    stale now at' fresh = false ↔ at' ≠ 0 ∧ now - at' ≤ fresh := by
  simp [stale]

section Verdict
variable {stopped latched : Bool} {braked span : U32}

/-- The floor is met at a standstill, whatever else holds. -/
theorem floor_eq_met : floor stopped latched braked span = .met ↔ stopped = true := by
  cases stopped <;> cases latched <;> simp [floor]
  split_ifs <;> simp

/-- It latches a moving vehicle's output once. -/
theorem floor_eq_latch :
    floor stopped latched braked span = .latch ↔ stopped = false ∧ latched = false := by
  cases stopped <;> cases latched <;> simp [floor]
  split_ifs <;> simp

/-- Once latched, a whole span of braking that did not stop the vehicle is its
fault. -/
theorem floor_eq_vehicleFault : floor stopped latched braked span = .vehicleFault ↔
    stopped = false ∧ latched = true ∧ span ≤ braked := by
  cases stopped <;> cases latched <;> simp [floor]

/-- And before that the floor waits. -/
theorem floor_eq_wait : floor stopped latched braked span = .wait ↔
    stopped = false ∧ latched = true ∧ braked < span := by
  cases stopped <;> cases latched <;> simp [floor]

end Verdict

/-- A vehicle has not responded while it moves and no fresh sample shows the
drop. -/
theorem responded_eq_false {stopped fresh : Bool} {ref speed drop : U32} :
    responded stopped fresh ref speed drop = false ↔
      stopped = false ∧ ¬ (fresh = true ∧ speed ≤ ref ∧ drop ≤ ref - speed) := by
  cases stopped <;> simp [responded]

/-- A slot is resumed once its report is `periods` of its period old. -/
theorem resume_eq_true {now alive period periods : U32} :
    resume now alive period periods = true ↔ period * periods ≤ now - alive := by
  simp [resume]

end Judge
end SafetyIsland
