import SafetyIsland.Supervisor.Routes

/-! The direct path: its slots' handover and resume, its publishes, and the
time the reaction thread may sleep until. -/
namespace SafetyIsland.Supervisor

/-- One call `direct_fn[i](direct_ctx[i], seq, since_latch_ms)`. -/
structure DirectCall where
  slot : Slot
  seq : U32
  sinceLatchMs : U32
  deriving DecidableEq, Repr

/-- The period a slot is watched by: the one it reported, else the direct
path's own. -/
def watchPeriod (cfg : Config) (d : DirectSlot) : U32 :=
  if d.alivePeriodMs ≠ 0 then d.alivePeriodMs else BitVec.ofNat 32 cfg.directPeriodMs

def resumeLimit (cfg : Config) (d : DirectSlot) : U32 :=
  watchPeriod cfg d * BitVec.ofNat 32 cfg.resumePeriods

def resumeDue (cfg : Config) (d : DirectSlot) (now : Int) : Int :=
  let silent := uptime32 now - d.aliveMs
  let limit := resumeLimit cfg d
  if silent ≥ limit then now else now + (limit - silent).toNat

/-- The silence `direct_watch` resumes a slot for. -/
def silentAt (cfg : Config) (d : DirectSlot) (now : Int) : Bool :=
  Judge.resume (uptime32 now) d.aliveMs (watchPeriod cfg d) (BitVec.ofNat 32 cfg.resumePeriods)

/-- The braking command (re)starts at `now`; what route 4 will be judged
against after a wait is the speed noted then. -/
def startBrake (now : Int) (s : Supervisor) : Supervisor :=
  s.setBrake
    { since := now, sinceMs := uptime32 now, refMmS := s.speed.mmS, refOk := s.speedFresh now }

/-- Route 3 judges the direct path's braking command a whole settle from
here, armed now if nothing has it. -/
def reopenFloor (cfg : Config) (now : Int) (s : Supervisor) : Supervisor :=
  if (s.routes .emergencyStandstill).dueValid then s
  else
    rearmLocked <|
      responseArmLocked cfg now s.brake.refMmS s.brake.refOk
        ((s.setRoute .emergencyStandstill
            ((s.routes .emergencyStandstill).arm (now + cfg.floorSpanMs))).setFloor
          { s.floor with stage := .direct })

/-- The operator slot's resume: the braking command restarts on the direct
path. -/
def restartFloor (cfg : Config) (now : Int) (s : Supervisor) : Supervisor :=
  reopenFloor cfg now (startBrake now s)

/-- The direct path takes the slot back. -/
def DirectSlot.resume (now : Int) (d : DirectSlot) : DirectSlot :=
  { d with
    resumed := true
    resumeUptimeMs := uptime32 now
    resumeSilentMs := uptime32 now - d.aliveMs }

/-- The slot resumes, and the operator's restarts the floor. -/
def resumeSlot (cfg : Config) (now : Int) (i : Slot) (s : Supervisor) : Supervisor :=
  let s := s.setSlot i ((s.slots i).resume now)
  if i = .operator then restartFloor cfg now s else s

/-- The slot is watched, and its executor path has gone silent. -/
def resumable (cfg : Config) (now : Int) (s : Supervisor) (i : Slot) : Bool :=
  (s.slots i).watched && silentAt cfg (s.slots i) now

/-- One turn of `direct_watch`'s loop, and whether the slot resumed. -/
def watchSlot (cfg : Config) (now : Int) (s : Supervisor) (i : Slot) : Supervisor × Bool :=
  if s.resumable cfg now i then (resumeSlot cfg now i s, true) else (s, false)

/-- `direct_watch`: resume each watched slot gone silent; true if one resumed. -/
def directWatch (cfg : Config) (now : Int) (s : Supervisor) : Supervisor × Bool :=
  let x := watchSlot cfg now s .handler
  let y := watchSlot cfg now x.1 .operator
  (y.1, x.2 || y.2)

/-- `direct_pending`: a slot the direct path publishes. -/
def directPending (s : Supervisor) : Bool :=
  (s.slots .handler).owned || (s.slots .operator).owned

def publishSlot (now : Int) (s : Supervisor) (i : Slot) : Supervisor × List DirectCall :=
  let d := s.slots i
  if d.owned then
    (s.setSlot i { d with calls := d.calls + 1 },
      [{ slot := i, seq := d.calls, sinceLatchMs := uptime32 (now - s.latch.ms) }])
  else (s, [])

def directPublish (now : Int) (s : Supervisor) : Supervisor × List DirectCall :=
  let x := publishSlot now s .handler
  let y := publishSlot now x.1 .operator
  (y.1, x.2 ++ y.2)

/-- `direct_service`: resume a silent slot, then publish if the period is up
(a resume publishes at once). `publishNow` is `direct_publish`'s own reading. -/
def directService (cfg : Config) (now publishNow : Int) (s : Supervisor) :
    Supervisor × List DirectCall :=
  let x := directWatch cfg now s
  let s := if x.2 then x.1.setDirectNext now else x.1
  if s.directPending && decide (s.directNextMs ≤ now) then
    let y := directPublish publishNow s
    (y.1.setDirectNext (now + cfg.directPeriodMs), y.2)
  else (s, [])

def latchedWait (cfg : Config) (now : Int) (s : Supervisor) : Option Int :=
  if !s.latch.latched then none
  else
    let next := if s.directPending then some s.directNextMs else none
    let watch (next : Option Int) (i : Slot) :=
      if (s.slots i).watched then Earliest.keep next (resumeDue cfg (s.slots i) now) else next
    let next := watch (watch next .handler) .operator
    if s.levels.swtRunning then Earliest.keep next (now + cfg.swtMs / 4) else next

def DirectSlot.report (now : Int) (periodMs : U32) (d : DirectSlot) : DirectSlot :=
  { d with aliveMs := uptime32 now, alivePeriodMs := periodMs }

/-- The first report hands the slot over. -/
def DirectSlot.handOver (now : Int) (d : DirectSlot) : DirectSlot :=
  if d.handover then d else { d with handoverUptimeMs := uptime32 now, handover := true }

section HandOver
variable (now : Int) (periodMs : U32) (d : DirectSlot)

@[simp] theorem DirectSlot.handOver_handover : (d.handOver now).handover = true := by
  unfold DirectSlot.handOver
  split_ifs with hHandover
  · exact hHandover
  · rfl

@[simp] theorem DirectSlot.handOver_resumed : (d.handOver now).resumed = d.resumed := by
  unfold DirectSlot.handOver
  split_ifs <;> rfl

@[simp] theorem DirectSlot.handOver_aliveMs : (d.handOver now).aliveMs = d.aliveMs := by
  unfold DirectSlot.handOver
  split_ifs <;> rfl

@[simp] theorem DirectSlot.handOver_alivePeriodMs :
    (d.handOver now).alivePeriodMs = d.alivePeriodMs := by
  unfold DirectSlot.handOver
  split_ifs <;> rfl

@[simp] theorem DirectSlot.report_registered :
    (d.report now periodMs).registered = d.registered := rfl

@[simp] theorem DirectSlot.report_resumed : (d.report now periodMs).resumed = d.resumed := rfl

end HandOver

/-- `island_supervisor_handover` for a slot there is. -/
def handoverSlot (now : Int) (i : Slot) (periodMs : U32) (s : Supervisor) : Supervisor × Bool :=
  let d := s.slots i
  if !s.latch.latched then (s, false)
  else if d.resumed then
    (s.setSlot i { d with aliveAfterResume := d.aliveAfterResume + 1 }, false)
  else (s.setSlot i ((d.report now periodMs).handOver now), true)

/-- `island_supervisor_handover`: whether the executor path holds the slot. -/
def handover (now : Int) (slot : Nat) (periodMs : U32) (s : Supervisor) : Supervisor × Bool :=
  match Slot.ofId slot with
  | none => (s, false)
  | some i => handoverSlot now i periodMs s

def resumedSlot (s : Supervisor) (i : Slot) : Bool := (s.slots i).resumed

/-- `island_supervisor_set_direct` for a slot there is. -/
def setDirect (i : Slot) (s : Supervisor) : Supervisor :=
  s.setSlot i { s.slots i with registered := true }

end SafetyIsland.Supervisor
