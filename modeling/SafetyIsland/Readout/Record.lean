import SafetyIsland.General.GrownStruct

/-! The supervisor's record (`struct island_supervisor_record`), as it lies in the
target's memory: 32-bit words, lowest byte first, with the threads' names between
them. -/
namespace SafetyIsland.Readout
open LittleEndian StructImage

abbrev U32 := BitVec 32

/-- The field names of a group beside their words. -/
abbrev Named := List (String × U32)

def Named.image (ws : Named) : List Byte := words (ws.map Prod.snd)

abbrev Name := Fin 16 → Byte

def Name.bytes (name : Name) : List Byte := List.ofFn name

/-- The text up to the first NUL. -/
def Name.text (name : Name) : String :=
  String.ofList ((name.bytes.takeWhile (· ≠ 0)).map fun b => Char.ofNat b.toNat)

structure Route where
  armed : U32 := 0
  dueMs : U32 := 0
  arms : U32 := 0
  dones : U32 := 0
  fired : U32 := 0
  fireDueMs : U32 := 0
  fireVerdictUs : U32 := 0

def Route.named (r : Route) : Named :=
  [("armed", r.armed), ("due_ms", r.dueMs), ("arms", r.arms), ("dones", r.dones),
   ("fired", r.fired), ("fire_due_ms", r.fireDueMs), ("fire_verdict_us", r.fireVerdictUs)]

structure Direct where
  registered : U32 := 0
  calls : U32 := 0
  firstUptimeUs : U32 := 0
  handover : U32 := 0
  handoverUptimeMs : U32 := 0

def Direct.named (d : Direct) : Named :=
  [("registered", d.registered), ("calls", d.calls), ("first_uptime_us", d.firstUptimeUs),
   ("handover", d.handover), ("handover_uptime_ms", d.handoverUptimeMs)]

/-- `struct island_supervisor_level`; `prio` is an `int32_t`. -/
structure Level where
  spins : U32 := 0
  gapMaxUs : U32 := 0
  gapMaxAtMs : U32 := 0
  prio : U32 := 0
  routeForeign : U32 := 0
  name : Name := fun _ => 0
  nrosLevel : U32 := 0

def Level.named (l : Level) : Named :=
  [("spins", l.spins), ("gap_max_us", l.gapMaxUs), ("gap_max_at_ms", l.gapMaxAtMs),
   ("prio", l.prio), ("route_foreign", l.routeForeign)]

def Level.image (l : Level) : List Byte := l.named.image ++ (l.name.bytes ++ words [l.nrosLevel])

/-- A `thread[]` entry; `prio` is an `int32_t`. -/
structure Thread where
  name : Name := fun _ => 0
  prio : U32 := 0

def Thread.image (t : Thread) : List Byte := t.name.bytes ++ words [t.prio]

structure Record where
  magic : U32 := 0
  latched : U32 := 0
  latchCause : U32 := 0
  latchUptimeUs : U32 := 0
  wakes : U32 := 0
  timerExpiries : U32 := 0
  swtStarted : U32 := 0
  swtTimeoutMs : U32 := 0
  swtFires : U32 := 0
  swtFireUptimeUs : U32 := 0
  swtErrors : U32 := 0
  spins : U32 := 0
  spinGapMaxUs : U32 := 0
  spinGapMaxAtMs : U32 := 0
  gpioErrors : U32 := 0
  routes : U32 := 0
  hookCalls : U32 := 0
  hookLastRule : U32 := 0
  route : Fin 3 → Route := fun _ => {}
  direct : Fin 2 → Direct := fun _ => {}
  standstillMet : U32 := 0
  speedMmS : U32 := 0
  speedAtMs : U32 := 0
  prioTaken : U32 := 0
  -- `int32_t` from here to `prioReaction`
  prioPlanTransportLo : U32 := 0
  prioPlanTransportHi : U32 := 0
  prioPlanAppLo : U32 := 0
  prioPlanAppHi : U32 := 0
  prioPlanSchedTask : U32 := 0
  prioPlanReaction : U32 := 0
  prioSpin : U32 := 0
  prioReaction : U32 := 0
  prioThreads : U32 := 0
  thread : Fin 12 → Thread := fun _ => {}
  watchOk : U32 := 0
  answeredAtExpiry : U32 := 0
  answeredFirstDueMs : U32 := 0
  answeredFirstUs : U32 := 0
  laterTakeAtExpiry : U32 := 0
  levels : U32 := 0
  levelCount : U32 := 0
  levelOverflow : U32 := 0
  checkinMask : U32 := 0
  feeds : U32 := 0
  routeOwner : U32 := 0
  routeNrosLevel : U32 := 0
  nrosLevelCount : U32 := 0
  level : Fin 4 → Level := fun _ => {}
  routeFloor : Route := {}
  floorStage : U32 := 0
  floorMet : U32 := 0
  floorLatches : U32 := 0
  vehicleFault : U32 := 0
  vehicleFaultUptimeMs : U32 := 0
  vehicleFaultSpeedMmS : U32 := 0
  staleAtDue : U32 := 0
  floorUnseen : U32 := 0
  resumePeriods : U32 := 0
  resumed : Fin 2 → U32 := fun _ => 0
  resumeUptimeMs : Fin 2 → U32 := fun _ => 0
  resumeSilentMs : Fin 2 → U32 := fun _ => 0
  aliveAfterResume : Fin 2 → U32 := fun _ => 0
  floorWaits : U32 := 0
  brakeSinceMs : U32 := 0
  routeResponse : Route := {}
  responseWithinMs : U32 := 0
  responseDropMmS : U32 := 0
  responseRefMmS : U32 := 0
  responseMet : U32 := 0
  responseLatches : U32 := 0
  responseWaits : U32 := 0
  responseUnref : U32 := 0
  responseLastShedMmS : U32 := 0
  vehicleFaultRoute : U32 := 0

namespace Record
variable (r : Record)

def header : Named :=
  [("magic", r.magic), ("latched", r.latched), ("latch_cause", r.latchCause),
   ("latch_uptime_us", r.latchUptimeUs), ("wakes", r.wakes), ("timer_expiries", r.timerExpiries),
   ("swt_started", r.swtStarted), ("swt_timeout_ms", r.swtTimeoutMs), ("swt_fires", r.swtFires),
   ("swt_fire_uptime_us", r.swtFireUptimeUs), ("swt_errors", r.swtErrors), ("spins", r.spins),
   ("spin_gap_max_us", r.spinGapMaxUs), ("spin_gap_max_at_ms", r.spinGapMaxAtMs),
   ("gpio_errors", r.gpioErrors), ("routes", r.routes), ("hook_calls", r.hookCalls),
   ("hook_last_rule", r.hookLastRule)]

def tail : Named :=
  [("standstill_met", r.standstillMet), ("speed_mm_s", r.speedMmS), ("speed_at_ms", r.speedAtMs)]

def prio : Named :=
  [("prio_taken", r.prioTaken), ("prio_plan_transport_lo", r.prioPlanTransportLo),
   ("prio_plan_transport_hi", r.prioPlanTransportHi), ("prio_plan_app_lo", r.prioPlanAppLo),
   ("prio_plan_app_hi", r.prioPlanAppHi), ("prio_plan_sched_task", r.prioPlanSchedTask),
   ("prio_plan_reaction", r.prioPlanReaction), ("prio_spin", r.prioSpin),
   ("prio_reaction", r.prioReaction), ("prio_threads", r.prioThreads)]

def late : Named :=
  [("watch_ok", r.watchOk), ("answered_at_expiry", r.answeredAtExpiry),
   ("answered_first_due_ms", r.answeredFirstDueMs), ("answered_first_us", r.answeredFirstUs),
   ("later_take_at_expiry", r.laterTakeAtExpiry)]

def levelWords : Named :=
  [("levels", r.levels), ("level_count", r.levelCount), ("level_overflow", r.levelOverflow),
   ("checkin_mask", r.checkinMask), ("feeds", r.feeds), ("route_owner", r.routeOwner),
   ("route_nros_level", r.routeNrosLevel), ("nros_level_count", r.nrosLevelCount)]

def floor : Named :=
  [("floor_stage", r.floorStage), ("floor_met", r.floorMet), ("floor_latches", r.floorLatches),
   ("vehicle_fault", r.vehicleFault), ("vehicle_fault_uptime_ms", r.vehicleFaultUptimeMs),
   ("vehicle_fault_speed_mm_s", r.vehicleFaultSpeedMmS), ("stale_at_due", r.staleAtDue)]

def unseen : Named := [("floor_unseen", r.floorUnseen)]

def resume : Named :=
  [("resume_periods", r.resumePeriods), ("resumed_0", r.resumed 0), ("resumed_1", r.resumed 1),
   ("resume_uptime_ms_0", r.resumeUptimeMs 0), ("resume_uptime_ms_1", r.resumeUptimeMs 1),
   ("resume_silent_ms_0", r.resumeSilentMs 0), ("resume_silent_ms_1", r.resumeSilentMs 1),
   ("alive_after_resume_0", r.aliveAfterResume 0), ("alive_after_resume_1", r.aliveAfterResume 1),
   ("floor_waits", r.floorWaits), ("brake_since_ms", r.brakeSinceMs)]

def response : Named :=
  [("response_within_ms", r.responseWithinMs), ("response_drop_mm_s", r.responseDropMmS),
   ("response_ref_mm_s", r.responseRefMmS), ("response_met", r.responseMet),
   ("response_latches", r.responseLatches), ("response_waits", r.responseWaits),
   ("response_unref", r.responseUnref), ("response_last_shed_mm_s", r.responseLastShedMmS),
   ("vehicle_fault_route", r.vehicleFaultRoute)]

def parts : List (List Byte) :=
  [r.header.image, (List.ofFn r.route).flatMap fun x => x.named.image,
   (List.ofFn r.direct).flatMap fun d => d.named.image, r.tail.image, r.prio.image,
   (List.ofFn r.thread).flatMap Thread.image, r.late.image, r.levelWords.image,
   (List.ofFn r.level).flatMap Level.image, r.routeFloor.named.image, r.floor.image,
   r.unseen.image, r.resume.image, r.routeResponse.named.image, r.response.image]

def image : List Byte := r.parts.flatten

/-- The counts that the island writes, and ASCII names. -/
structure Sound : Prop where
  routes : r.routes = 3
  levels : r.levels = 4
  levelCount : r.levelCount ≤ 4
  prioTaken : r.prioTaken = 0 ∨ r.prioTaken = 1
  prioThreads : r.prioThreads ≤ 12
  threadNames : ∀ i k, (r.thread i).name k < 128
  levelNames : ∀ i k, (r.level i).name k < 128

end Record

/-- Every word takes four bytes. -/
theorem Named.length_image (ws : Named) : ws.image.length = 4 * ws.length := by
  rw [Named.image, length_words, List.length_map]

theorem Name.length_bytes (name : Name) : name.bytes.length = 16 := List.length_ofFn

theorem Level.length_image (l : Level) : l.image.length = 40 := by
  rw [Level.image, List.length_append, List.length_append, Named.length_image, Name.length_bytes,
    length_words]
  rfl

theorem Thread.length_image (t : Thread) : t.image.length = 20 := by
  rw [Thread.image, List.length_append, Name.length_bytes, length_words]
  rfl

/-- The sizes of the parts, in bytes. -/
def partSizes : List Nat := [72, 84, 40, 12, 40, 240, 20, 32, 160, 28, 28, 4, 44, 28, 36]

namespace Record
variable (r : Record)

/-- The parts have the sizes the layout gives. -/
theorem length_parts : r.parts.map List.length = partSizes := by
  simp only [parts, List.map_cons, List.map_nil, Named.length_image, List.length_flatMap,
    Thread.length_image, Level.length_image, List.ofFn_succ, List.ofFn_zero, List.map_cons,
    List.map_nil]
  rfl

/-- The record takes 868 bytes. -/
theorem length_image : r.image.length = 868 := by
  rw [image, List.length_flatten, length_parts]
  rfl

/-- Part `i` stands behind the sizes before it. -/
theorem placed {i : Nat} {p : List Byte} (h : r.parts[i]? = some p) :
    Placed r.image (partSizes.take i).sum p := by
  rw [← length_parts r]
  exact Placed.part h

end Record
end SafetyIsland.Readout
