import SafetyIsland.Supervisor.Direct

/-! The reaction thread: the sweep over the routes past their due, the
verdicts, the safe-state output and the direct path's service. One pass is
one turn of the thread's loop. -/
namespace SafetyIsland.Supervisor

def answered : BitVec 64 := BitVec.allOnes 64

/-- `executor_due_ms`: the uptime, rounded up, `us` from now on the
microsecond clock. -/
def executorDueMs (nowUs : Int) (us : BitVec 64) : Int :=
  (nowUs + us.toInt + 999).tdiv 1000

/-- What one sweep reads: the uptime, the microsecond clock and route 1's
answer. -/
structure Sweep where
  now : Int
  nowUs : Int
  route1Left : BitVec 64
  deriving DecidableEq, Repr

/-- `standstill_now`'s answer; what it counts is in `noteStale`. -/
def standstillNow (now : Int) (s : Supervisor) : Bool :=
  Judge.standstill (uptime32 now) s.speed.mmS s.speed.atMs Judge.standstillFreshMs

/-- A miss judged with no fresh sample. -/
def missedBlind (now : Int) (s : Supervisor) : Bool :=
  !s.standstillNow now && Judge.stale (uptime32 now) s.speed.atMs Judge.standstillFreshMs

def noteStale (now : Int) (s : Supervisor) : Supervisor :=
  s.setCounts { s.counts with
    staleAtDue := if s.missedBlind now then s.counts.staleAtDue + 1 else s.counts.staleAtDue }

/-- How long the island's braking command has run, as the verdicts read it. -/
def brakedMs (now : Int) (s : Supervisor) : U32 :=
  if s.latch.latched then uptime32 (now - s.brake.since) else 0

/-- Route 4's answer: has the vehicle slowed as commanded? -/
def respondedNow (cfg : Config) (now : Int) (s : Supervisor) : Bool :=
  Judge.responded (s.standstillNow now) (s.speedFresh now) s.response.refMmS s.speed.mmS
    (BitVec.ofNat 32 cfg.dropMmS)

/-- `island_judge_floor` as the sweep applies it to route 4. -/
def responseVerdict (cfg : Config) (now : Int) (s : Supervisor) : Judge.FloorVerdict :=
  Judge.floor (s.respondedNow cfg now) s.latch.latched (s.brakedMs now)
    (BitVec.ofNat 32 cfg.responseSpanMs)

/-- `island_judge_floor` as the sweep applies it to route 3. -/
def floorVerdict (cfg : Config) (now : Int) (s : Supervisor) : Judge.FloorVerdict :=
  Judge.floor (s.standstillNow now) s.latch.latched (s.brakedMs now)
    (BitVec.ofNat 32 cfg.floorSpanMs)

/-- A deadline verdict, counted on its route. -/
def countMiss (r : Route) (s : Supervisor) : Supervisor :=
  s.setRoute r (s.routes r).countFired

/-- `ISLAND_FLOOR_LATCH`: the direct path brakes and gets one settle of its
own (route 3) and its response check (route 4). -/
def latchFloor (cfg : Config) (now : Int) (s : Supervisor) : Supervisor :=
  responseArmLocked cfg now s.speed.mmS (s.speedFresh now)
    ((s.setRoute .emergencyStandstill
        ((s.routes .emergencyStandstill).rearm (now + cfg.floorSpanMs))).setFloor
      { s.floor with stage := .direct })

def Fault.declare (now : Int) (speedMmS : U32) (r : Route) (f : Fault) : Fault :=
  if f.vehicleFault then f
  else { vehicleFault := true, uptimeMs := uptime32 now, speedMmS := speedMmS,
         route := BitVec.ofNat 32 r.toId }

/-- `ISLAND_FLOOR_VEHICLE_FAULT` found by route `r`: the other floor route is
done. -/
def declareFault (now : Int) (r other : Route) (s : Supervisor) : Supervisor :=
  ((s.setRoute other (s.routes other).clear).setFloor { s.floor with stage := .idle }).setFault
    (s.fault.declare now s.speed.mmS r)

/-- Route 1 at its due: answered, a later take, or the miss. -/
def expireExecutor (sw : Sweep) (s : Supervisor) : Supervisor × Bool :=
  let r := s.routes .executor
  if sw.route1Left = answered then
    ((s.setRoute .executor r.countDone).setCounts
      { s.counts with
        answeredAtExpiry := s.counts.answeredAtExpiry + 1
        answeredFirstDueMs :=
          if s.counts.answeredAtExpiry = 0 then uptime32 r.dueMs
          else s.counts.answeredFirstDueMs }, false)
  else if sw.route1Left ≠ 0 then
    ((s.setRoute .executor (r.rearm (executorDueMs sw.nowUs sw.route1Left))).setCounts
      { s.counts with laterTakeAtExpiry := s.counts.laterTakeAtExpiry + 1 }, false)
  else (countMiss .executor s, true)

/-- Route 2 at its due: stopped in time, or the comfortable stop failed. -/
def expireComfortable (now : Int) (s : Supervisor) : Supervisor × Bool :=
  if s.standstillNow now then
    ((s.setRoute .comfortableStandstill (s.routes .comfortableStandstill).countDone).setCounts
      { s.counts with standstillMet := s.counts.standstillMet + 1 }, false)
  else (countMiss .comfortableStandstill (noteStale now s), true)

/-- No vehicle has reported yet: route 3 watches another span. -/
def floorUnseen (cfg : Config) (now : Int) (s : Supervisor) : Supervisor :=
  (s.setRoute .emergencyStandstill
    ((s.routes .emergencyStandstill).rearm (now + cfg.floorSpanMs))).setFloor
    { s.floor with unseen := s.floor.unseen + 1 }

/-- The floor stopped the vehicle in time, and route 4 goes with route 3. -/
def floorMet (s : Supervisor) : Supervisor :=
  ((s.setRoute .emergencyStandstill (s.routes .emergencyStandstill).countDone).setRoute
    .emergencyResponse (s.routes .emergencyResponse).clear).setFloor
    { s.floor with met := s.floor.met + 1, stage := .idle }

/-- The island's braking command has not run a settle yet: judge it at its own. -/
def floorWait (cfg : Config) (s : Supervisor) : Supervisor :=
  (s.setRoute .emergencyStandstill
    ((s.routes .emergencyStandstill).rearm (s.brake.since + cfg.floorSpanMs))).setFloor
    { s.floor with waits := s.floor.waits + 1, stage := .direct }

/-- The command never took effect by route 3's due. -/
def floorLatch (cfg : Config) (now : Int) (s : Supervisor) : Supervisor :=
  let s := countMiss .emergencyStandstill s
  latchFloor cfg now (s.setFloor { s.floor with latches := s.floor.latches + 1 })

def expireFloor (cfg : Config) (now : Int) (s : Supervisor) : Supervisor × Bool :=
  if Judge.unseen s.speed.atMs then (floorUnseen cfg now s, false)
  else
    match s.floorVerdict cfg now with
    | .met => (floorMet (noteStale now s), false)
    | .wait => (floorWait cfg (noteStale now s), false)
    | .latch => (floorLatch cfg now (noteStale now s), true)
    | .vehicleFault =>
        (declareFault now .emergencyStandstill .emergencyResponse
          (countMiss .emergencyStandstill (noteStale now s)), false)

/-- Slowing as commanded: route 3 goes on. -/
def responseMet (s : Supervisor) : Supervisor :=
  (s.setRoute .emergencyResponse (s.routes .emergencyResponse).countDone).setResponse
    { s.response with met := s.response.met + 1 }

/-- The island's braking command is younger than the response span: judge it
from its own start. -/
def responseWait (cfg : Config) (s : Supervisor) : Supervisor :=
  responseArmLocked cfg s.brake.since s.brake.refMmS s.brake.refOk
    (s.setResponse { s.response with waits := s.response.waits + 1 })

/-- The vehicle did not slow by route 4's due. -/
def responseLatch (cfg : Config) (now : Int) (s : Supervisor) : Supervisor :=
  let s := countMiss .emergencyResponse s
  latchFloor cfg now (s.setResponse { s.response with latches := s.response.latches + 1 })

/-- What the vehicle has shed from the reference, kept whatever the verdict. -/
def noteShed (s : Supervisor) : Supervisor :=
  s.setResponse
    { s.response with lastShedMmS := Judge.shed s.response.refMmS s.speed.mmS }

def expireResponse (cfg : Config) (now : Int) (s : Supervisor) : Supervisor × Bool :=
  let judged := noteShed (noteStale now s)
  match s.responseVerdict cfg now with
  | .met => (responseMet judged, false)
  | .wait => (responseWait cfg judged, false)
  | .latch => (responseLatch cfg now judged, true)
  | .vehicleFault =>
      (declareFault now .emergencyResponse .emergencyStandstill
        (countMiss .emergencyResponse judged), false)

/-- The verdict on a route whose due has been reached and just cleared, and
whether it goes into `fired_routes`. -/
def expire (cfg : Config) (sw : Sweep) : Route → Supervisor → Supervisor × Bool
  | .callMrmHpcLoss, s => (countMiss .callMrmHpcLoss s, true)
  | .executor, s => expireExecutor sw s
  | .comfortableStandstill, s => expireComfortable sw.now s
  | .emergencyStandstill, s => expireFloor cfg sw.now s
  | .emergencyResponse, s => expireResponse cfg sw.now s

def dueBy (s : Supervisor) (r : Route) (now : Int) : Bool :=
  (s.routes r).dueValid && decide ((s.routes r).dueMs ≤ now)

/-- One turn of the sweep's loop; the list is `fired_routes`. -/
def sweepRoute (cfg : Config) (sw : Sweep) (x : Supervisor × List Route) (r : Route) :
    Supervisor × List Route :=
  if x.1.dueBy r sw.now then
    let y := expire cfg sw r (x.1.setRoute r (x.1.routes r).clear)
    (y.1, if y.2 then x.2 ++ [r] else x.2)
  else x

/-- The sweep over every route, under the lock. -/
def sweep (cfg : Config) (sw : Sweep) (s : Supervisor) : Supervisor × List Route :=
  let x := Route.all.foldl (sweepRoute cfg sw) (s, [])
  (rearmLocked x.1, x.2)

def causeRoute : U32 := 1
def causeSwt : U32 := 2
def causeHook : U32 := 3

def safeState (now : Int) (cause : U32) (s : Supervisor) : Supervisor :=
  if s.latch.latched then s
  else s.setLatch { latched := true, cause := cause, ms := now }

def actOnRoutes (now : Int) (firedRoutes : List Route) (s : Supervisor) : Supervisor :=
  if firedRoutes ≠ [] then safeState now causeRoute s else s

def actOnHook (now : Int) (s : Supervisor) : Supervisor :=
  if s.pending.hook then
    safeState now causeHook (s.setPending { s.pending with hook := false })
  else s

/-- Act on a pending first timeout of SWT0. -/
def actOnSwt (now : Int) (s : Supervisor) : Supervisor :=
  if s.pending.swt then
    safeState now causeSwt (s.setPending { s.pending with swt := false })
  else s

/-- A pass that latched starts the island's braking command at its own time,
and the direct path publishes at once. -/
def startDirect (now : Int) (wasLatched : Bool) (s : Supervisor) : Supervisor :=
  if !wasLatched && s.latch.latched then (startBrake now s).setDirectNext now else s

/-- The clocks and the route watch one pass reads, in this order. -/
structure Pass where
  /-- `k_sem_take` returned 0; otherwise its timeout ended. -/
  woken : Bool
  /-- `nros_cpp_route_watch_next_due_us`; `none` for an error. -/
  watch : Option (BitVec 64)
  now : Int
  nowUs : Int
  latchNow : Int
  serviceNow : Int
  publishNow : Int
  deriving DecidableEq, Repr

/-- Route 1's answer: without a watch, or on an error, the armed due stands. -/
def route1Left (s : Supervisor) (watch : Option (BitVec 64)) : BitVec 64 :=
  if s.levels.watchOk then watch.getD 0 else 0

namespace Pass

def sweep (p : Pass) (s : Supervisor) : Sweep :=
  { now := p.now, nowUs := p.nowUs, route1Left := s.route1Left p.watch }

end Pass

/-- The outputs of a woken pass after its sweep: the safe state for a route
that fired, for the hook and for SWT0, and the start of the direct path. -/
def actOn (p : Pass) (firedRoutes : List Route) (s : Supervisor) : Supervisor :=
  startDirect p.now s.latch.latched <|
    actOnSwt p.latchNow <| actOnHook p.latchNow <| actOnRoutes p.latchNow firedRoutes s

def countWake (s : Supervisor) : Supervisor :=
  s.setCounts { s.counts with wakes := s.counts.wakes + 1 }

/-- What a woken pass does up to the direct path's service. -/
def react (cfg : Config) (p : Pass) (s : Supervisor) : Supervisor :=
  let x := sweep cfg (p.sweep s) (countWake s)
  actOn p x.2 x.1

/-- A pass up to the direct path's service: a timeout only serves. -/
def taken (cfg : Config) (p : Pass) (s : Supervisor) : Supervisor :=
  if p.woken then react cfg p s else s

/-- One turn of `reaction_thread`'s loop after `k_sem_take` returned, and the
direct path's calls in it. -/
def pass (cfg : Config) (p : Pass) (s : Supervisor) : Supervisor × List DirectCall :=
  if (taken cfg p s).latch.latched then
    directService cfg p.serviceNow p.publishNow (taken cfg p s)
  else (taken cfg p s, [])

end SafetyIsland.Supervisor
