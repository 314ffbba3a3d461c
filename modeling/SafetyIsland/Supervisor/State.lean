import SafetyIsland.Supervisor.Judge
import Mathlib.Logic.Function.Basic
import Mathlib.Tactic.Simps.Basic

/-! The supervisor's words: the build's constants, the route table with its
record, the direct path's slots and the words the verdicts write
(`island_supervisor.c`). Diagnostic stamps in microseconds and the trace are
left out; nothing in the code reads them back. -/
namespace SafetyIsland

/-- The Kconfig values of an image, with the ranges and the build assertion
the source states for them. -/
structure Config where
  /-- `CONFIG_ISLAND_SUPERVISOR_EMERGENCY_MS` -/
  emergencyMs : Nat
  /-- `CONFIG_ISLAND_SUPERVISOR_EMERGENCY_RESPONSE_MS`, 0 for no route 4 -/
  responseMs : Nat
  /-- `CONFIG_ISLAND_SUPERVISOR_EMERGENCY_DROP_MM_S` -/
  dropMmS : Nat
  /-- `CONFIG_ISLAND_SUPERVISOR_STANDSTILL_OBSERVE_MS` -/
  observeMs : Nat
  /-- `CONFIG_ISLAND_SUPERVISOR_COMFORTABLE_MS` -/
  comfortableMs : Nat
  /-- `CONFIG_ISLAND_SUPERVISOR_CALL_MRM_MS` -/
  callMrmMs : Nat
  /-- `CONFIG_ISLAND_SUPERVISOR_DIRECT_PERIOD_MS` -/
  directPeriodMs : Nat
  /-- `CONFIG_ISLAND_SUPERVISOR_RESUME_PERIODS` -/
  resumePeriods : Nat
  /-- `CONFIG_ISLAND_SUPERVISOR_SWT_MS` -/
  swtMs : Nat
  responseMs_lt : responseMs < emergencyMs
  resumePeriods_range : 2 ≤ resumePeriods ∧ resumePeriods ≤ 10
  dropMmS_range : 1 ≤ dropMmS ∧ dropMmS ≤ 10000
  floorSpan_fits : emergencyMs + observeMs < 2 ^ 31

namespace Config

def image : Config where
  emergencyMs := 4485
  responseMs := 1319
  dropMmS := 250
  observeMs := 136
  comfortableMs := 10940
  callMrmMs := 149
  directPeriodMs := 33
  resumePeriods := 3
  swtMs := 300
  responseMs_lt := by decide
  resumePeriods_range := by decide
  dropMmS_range := by decide
  floorSpan_fits := by decide

variable (cfg : Config)

def floorSpanMs : Nat := cfg.emergencyMs + cfg.observeMs

def responseSpanMs : Nat := cfg.responseMs + cfg.observeMs

/-- The floor's spans are not empty. -/
theorem floorSpanMs_pos : 0 < cfg.floorSpanMs := by
  have := cfg.responseMs_lt
  unfold floorSpanMs
  omega

theorem floorSpanMs_lt : cfg.floorSpanMs < 2 ^ 31 := cfg.floorSpan_fits

/-- The response check comes before the floor's. -/
theorem responseSpanMs_lt : cfg.responseSpanMs < cfg.floorSpanMs := by
  have := cfg.responseMs_lt
  unfold responseSpanMs floorSpanMs
  omega

end Config

namespace Supervisor

/-- The routes, in the order the reaction thread sweeps them. -/
inductive Route where
  | callMrmHpcLoss
  | executor
  | comfortableStandstill
  | emergencyStandstill
  | emergencyResponse
  deriving DecidableEq, Repr

namespace Route

/-- `for (i = 0; i < ISLAND_SUPERVISOR_ROUTES; i++)` -/
def all : List Route :=
  [.callMrmHpcLoss, .executor, .comfortableStandstill, .emergencyStandstill, .emergencyResponse]

/-- A route id of the interface; `none` past the last one. -/
def ofId (id : Nat) : Option Route := all[id]?

def toId : Route → Nat
  | .callMrmHpcLoss => 0
  | .executor => 1
  | .comfortableStandstill => 2
  | .emergencyStandstill => 3
  | .emergencyResponse => 4

theorem mem_all (r : Route) : r ∈ all := by cases r <;> decide

theorem ofId_eq_some {id : Nat} {r : Route} (h : ofId id = some r) : id = r.toId := by
  match id, h with
  | 0, h | 1, h | 2, h | 3, h | 4, h => cases h; rfl
  | n + 5, h => simp [ofId, all] at h

end Route

structure RouteRecord where
  armed : Bool := false
  dueMs : U32 := 0
  arms : U32 := 0
  dones : U32 := 0
  fired : U32 := 0
  fireDueMs : U32 := 0
  deriving DecidableEq, Repr

/-- A route's entries in `due_valid[]` and `due_ms[]`, and its record. -/
structure RouteState where
  dueValid : Bool := false
  dueMs : Int := 0
  record : RouteRecord := {}
  deriving DecidableEq, Repr

namespace RouteState
variable (r : RouteState)

/-- A new due, in the table and in the record. -/
def rearm (due : Int) : RouteState :=
  { dueValid := true, dueMs := due,
    record := { r.record with armed := true, dueMs := uptime32 due } }

def arm (due : Int) : RouteState :=
  { r.rearm due with record := { (r.rearm due).record with arms := r.record.arms + 1 } }

def clear : RouteState :=
  { r with dueValid := false, record := { r.record with armed := false } }

/-- A verdict that met the due: counted as a done. -/
def countDone : RouteState :=
  { r with record := { r.record with dones := r.record.dones + 1 } }

/-- `r->fired++ == 0u`: the first verdict keeps its due. -/
def countFired : RouteState :=
  { r with record := { r.record with
      fired := r.record.fired + 1
      fireDueMs := if r.record.fired = 0 then uptime32 r.dueMs else r.record.fireDueMs } }

@[simp] theorem rearm_dueValid (due : Int) : (r.rearm due).dueValid = true := rfl
@[simp] theorem rearm_dueMs (due : Int) : (r.rearm due).dueMs = due := rfl
@[simp] theorem arm_dueValid (due : Int) : (r.arm due).dueValid = true := rfl
@[simp] theorem arm_dueMs (due : Int) : (r.arm due).dueMs = due := rfl
@[simp] theorem clear_dueValid : r.clear.dueValid = false := rfl
@[simp] theorem clear_dueMs : r.clear.dueMs = r.dueMs := rfl
@[simp] theorem countDone_dueValid : r.countDone.dueValid = r.dueValid := rfl
@[simp] theorem countDone_dueMs : r.countDone.dueMs = r.dueMs := rfl
@[simp] theorem countFired_dueValid : r.countFired.dueValid = r.dueValid := rfl
@[simp] theorem countFired_dueMs : r.countFired.dueMs = r.dueMs := rfl

/-- The table and the record say the same of the route. -/
def Agrees : Prop :=
  r.record.armed = r.dueValid ∧ (r.dueValid = true → r.record.dueMs = uptime32 r.dueMs)

@[simp] theorem agrees_rearm (due : Int) : (r.rearm due).Agrees := ⟨rfl, fun _ => rfl⟩
@[simp] theorem agrees_arm (due : Int) : (r.arm due).Agrees := ⟨rfl, fun _ => rfl⟩
@[simp] theorem agrees_clear : r.clear.Agrees := ⟨rfl, fun h => nomatch h⟩
@[simp] theorem agrees_countDone : r.countDone.Agrees ↔ r.Agrees := Iff.rfl
@[simp] theorem agrees_countFired : r.countFired.Agrees ↔ r.Agrees := Iff.rfl

end RouteState

/-- The direct path's slots: the handler's `mrm_state` and hazard lights, the
emergency operator's braking command. -/
inductive Slot where
  | handler
  | operator
  deriving DecidableEq, Repr

namespace Slot

def all : List Slot := [.handler, .operator]

/-- A slot id of the interface; `none` past the last one. -/
def ofId (id : Nat) : Option Slot := all[id]?

def toId : Slot → Nat
  | .handler => 0
  | .operator => 1

theorem mem_all (i : Slot) : i ∈ all := by cases i <;> decide

end Slot

/-- One slot's `direct[]`, `resumed[]`, `alive_ms[]` and `alive_period_ms[]`. -/
structure DirectSlot where
  /-- `direct_fn[i] != NULL` -/
  registered : Bool := false
  calls : U32 := 0
  handover : Bool := false
  handoverUptimeMs : U32 := 0
  aliveMs : U32 := 0
  alivePeriodMs : U32 := 0
  resumed : Bool := false
  resumeUptimeMs : U32 := 0
  resumeSilentMs : U32 := 0
  aliveAfterResume : U32 := 0
  deriving DecidableEq, Repr

namespace DirectSlot
variable (d : DirectSlot)

/-- `direct_owns`: not handed over, or resumed after. -/
def owned : Bool := d.registered && (!d.handover || d.resumed)

/-- `direct_watched`: handed over and watched for silence. -/
def watched : Bool := d.registered && d.handover && !d.resumed

end DirectSlot

/-- The one-shot `due_timer`: what it was last set to (`none` when it was
stopped), and whether it has expired since. -/
structure DueTimer where
  expiry : Option Int := none
  fired : Bool := false
  deriving DecidableEq, Repr

/-- `latched`, `latch_cause` and `latch_ms`. -/
structure Latch where
  latched : Bool := false
  cause : U32 := 0
  ms : Int := 0
  deriving DecidableEq, Repr

/-- The latest `kinematic_state` sample noted. -/
structure Speed where
  mmS : U32 := 0
  atMs : U32 := 0
  deriving DecidableEq, Repr

/-- When the island's braking command (re)started, and the speed then. -/
structure Brake where
  since : Int := 0
  sinceMs : U32 := 0
  refMmS : U32 := 0
  refOk : Bool := false
  deriving DecidableEq, Repr

/-- Route 3's words. -/
structure Floor where
  stage : Judge.FloorStage := .idle
  met : U32 := 0
  latches : U32 := 0
  unseen : U32 := 0
  waits : U32 := 0
  deriving DecidableEq, Repr

/-- Route 4's words. -/
structure Response where
  refMmS : U32 := 0
  met : U32 := 0
  latches : U32 := 0
  waits : U32 := 0
  unref : U32 := 0
  lastShedMmS : U32 := 0
  deriving DecidableEq, Repr

/-- The vehicle-side fault. -/
structure Fault where
  vehicleFault : Bool := false
  uptimeMs : U32 := 0
  speedMmS : U32 := 0
  route : U32 := 0
  deriving DecidableEq, Repr

/-- Route 1 at its expiry, and the other counts of the reaction thread. -/
structure Counts where
  wakes : U32 := 0
  timerExpiries : U32 := 0
  swtFires : U32 := 0
  hookCalls : U32 := 0
  hookLastRule : U32 := 0
  standstillMet : U32 := 0
  staleAtDue : U32 := 0
  answeredAtExpiry : U32 := 0
  answeredFirstDueMs : U32 := 0
  laterTakeAtExpiry : U32 := 0
  deriving DecidableEq, Repr

/-- One executor level: a thread that spins one. -/
structure Level where
  tid : Nat
  spins : U32 := 0
  gapMaxUs : U32 := 0
  gapMaxAtMs : U32 := 0
  routeForeign : U32 := 0
  nrosLevel : BitVec 8 := 0xFF
  lastCyc : U32 := 0
  deriving DecidableEq, Repr

/-- The levels and the watchdog they feed. -/
structure Levels where
  /-- The slots taken, `level_count` of them. -/
  rows : List Level := []
  spins : U32 := 0
  overflow : U32 := 0
  checkinMask : U32 := 0
  feeds : U32 := 0
  routeOwner : Option Nat := none
  /-- `route_watch_ok` -/
  watchOk : Bool := false
  swtRunning : Bool := false
  swtStarting : Bool := false
  swtStarted : Bool := false
  swtErrors : U32 := 0
  lastFeedCyc : U32 := 0
  spinGapMaxUs : U32 := 0
  spinGapMaxAtMs : U32 := 0
  deriving DecidableEq, Repr

/-- What the two interrupt handlers and the reaction hook leave for the
reaction thread. -/
structure Pending where
  swt : Bool := false
  hook : Bool := false
  deriving DecidableEq, Repr

end Supervisor

/-- The module's state: `island_supervisor_record` and its static words. -/
structure Supervisor where
  routes : Supervisor.Route → Supervisor.RouteState := fun _ => {}
  dueTimer : Supervisor.DueTimer := {}
  slots : Supervisor.Slot → Supervisor.DirectSlot := fun _ => {}
  directNextMs : Int := 0
  latch : Supervisor.Latch := {}
  speed : Supervisor.Speed := {}
  brake : Supervisor.Brake := {}
  floor : Supervisor.Floor := {}
  response : Supervisor.Response := {}
  fault : Supervisor.Fault := {}
  pending : Supervisor.Pending := {}
  counts : Supervisor.Counts := {}
  levels : Supervisor.Levels := {}

namespace Supervisor
variable (s : Supervisor)

-- One setter for each group of words: the functions of the model are written
-- with them, so that `simp` finds the projections of a new state.

@[simps -fullyApplied]
def setRoute (r : Route) (state : RouteState) : Supervisor :=
  { s with routes := Function.update s.routes r state }

@[simps -fullyApplied]
def setSlot (i : Slot) (d : DirectSlot) : Supervisor :=
  { s with slots := Function.update s.slots i d }

@[simps -fullyApplied]
def setDueTimer (timer : DueTimer) : Supervisor := { s with dueTimer := timer }

@[simps -fullyApplied]
def setDirectNext (next : Int) : Supervisor := { s with directNextMs := next }

@[simps -fullyApplied]
def setLatch (latch : Latch) : Supervisor := { s with latch := latch }

@[simps -fullyApplied]
def setSpeed (speed : Speed) : Supervisor := { s with speed := speed }

@[simps -fullyApplied]
def setBrake (brake : Brake) : Supervisor := { s with brake := brake }

@[simps -fullyApplied]
def setFloor (floor : Floor) : Supervisor := { s with floor := floor }

@[simps -fullyApplied]
def setResponse (response : Response) : Supervisor := { s with response := response }

@[simps -fullyApplied]
def setFault (fault : Fault) : Supervisor := { s with fault := fault }

@[simps -fullyApplied]
def setPending (pending : Pending) : Supervisor := { s with pending := pending }

@[simps -fullyApplied]
def setCounts (counts : Counts) : Supervisor := { s with counts := counts }

@[simps -fullyApplied]
def setLevels (levels : Levels) : Supervisor := { s with levels := levels }

end Supervisor
end SafetyIsland
