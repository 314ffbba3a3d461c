import SafetyIsland.Supervisor.Reaction

/-! The executor levels: a slot for each spinning thread, the feed of SWT0,
and route 1, which one level owns. Each call is split where the source lets
go of the lock. -/
namespace SafetyIsland.Supervisor

def maxLevels : Nat := 4

/-- `NROS_ENTRY_LEVEL_OF_MRM_HANDLER`; the source refuses any other value. -/
def levelOfMrmHandler : BitVec 8 := 0

/-- `level_of_locked`: the calling thread's level, taking a free slot on its
first spin; `none` when every slot is taken. -/
def levelOfLocked (self : Nat) (take : Bool) (l : Levels) : Levels × Option Nat :=
  match l.rows.findIdx? (fun row => row.tid == self) with
  | some i => (l, some i)
  | none =>
      if !take || decide (l.rows.length ≥ maxLevels) then (l, none)
      else ({ l with rows := l.rows ++ [{ tid := self }] }, some l.rows.length)

/-- What a thread brings to `island_supervisor_spin_after`: its executor's
next due, if it reported one, and the level it spun. -/
structure SpinReport where
  self : Nat
  /-- `nros_cpp_executor_route_next_due_us`; `none` for an error. -/
  nextDueUs : Option (BitVec 64)
  nrosLevel : BitVec 8
  /-- `nros_cpp_executor_route_watch` returned OK. -/
  watchTaken : Bool
  deriving DecidableEq, Repr

/-- The locked part of `island_supervisor_spin_after`: route 1 gets its owner,
and any other level's report is only counted. `none` when the call returns
here, else whether the watch is to be taken. -/
def spinAfterLocked (report : SpinReport) (l : Levels) : Levels × Option Bool :=
  let self := (levelOfLocked report.self false l).2
  match self with
  | none => (l, none)
  | some i =>
      let takeWatch := l.routeOwner.isNone && report.nrosLevel == levelOfMrmHandler
      let l := if takeWatch then { l with routeOwner := some i } else l
      if l.routeOwner = some i then (l, some takeWatch)
      else if report.nextDueUs.any (· ≠ answered) then
        ({ l with rows := l.rows.modify i fun row =>
            { row with routeForeign := row.routeForeign + 1 } }, none)
      else (l, none)

/-- After the lock: the watch the reaction thread reads route 1 through. -/
def takeRouteWatch (report : SpinReport) (takeWatch : Bool) (s : Supervisor) : Supervisor :=
  if takeWatch && report.watchTaken then s.setLevels { s.levels with watchOk := true }
  else s

/-- The end of `island_supervisor_spin_after`: route 1 is armed to the
executor's next due, or cleared. -/
def spinAfterRoute (cfg : Config) (now nowUs : Int) (report : SpinReport) (s : Supervisor) :
    Supervisor :=
  match report.nextDueUs with
  | none => doneRoute .executor s
  | some us =>
      if us = answered then doneRoute .executor s
      else armRoute cfg now .executor (executorDueMs nowUs us) s

def spinAfter (cfg : Config) (now nowUs : Int) (report : SpinReport) (s : Supervisor) :
    Supervisor :=
  let x := spinAfterLocked report s.levels
  let s := s.setLevels x.1
  match x.2 with
  | none => s
  | some takeWatch => spinAfterRoute cfg now nowUs report (takeRouteWatch report takeWatch s)

/-- What `island_supervisor_spin` reads: the cycle counter and its conversion,
the uptime, nano-ros's aggregate and the watchdog driver's answers. -/
structure Spin where
  self : Nat
  nrosLevel : BitVec 8
  nowCyc : U32
  cycToUs : U32 → U32
  uptimeMs : U32
  levelsAlive : Bool
  feedOk : Bool
  startOk : Bool

def checkIn (spin : Spin) (row : Level) : Level :=
  let gap := spin.cycToUs (spin.nowCyc - row.lastCyc)
  let row := { row with nrosLevel := spin.nrosLevel }
  let row :=
    if row.spins ≠ 0 ∧ gap > row.gapMaxUs then
      { row with gapMaxUs := gap, gapMaxAtMs := spin.uptimeMs }
    else row
  { row with lastCyc := spin.nowCyc, spins := row.spins + 1 }

/-- The feed, once every level of the image has checked in. -/
def feedSwt (spin : Spin) (l : Levels) : Levels :=
  let gap := spin.cycToUs (spin.nowCyc - l.lastFeedCyc)
  let l :=
    if gap > l.spinGapMaxUs then
      { l with spinGapMaxUs := gap, spinGapMaxAtMs := spin.uptimeMs }
    else l
  { l with
    lastFeedCyc := spin.nowCyc
    checkinMask := 0
    feeds := l.feeds + 1
    swtErrors := if spin.feedOk then l.swtErrors else l.swtErrors + 1 }

/-- `island_supervisor_spin` up to where it lets go of the lock; true when
SWT0 is still to be started. -/
def spinLocked (spin : Spin) (l : Levels) : Levels × Bool :=
  let x := levelOfLocked spin.self true l
  let l := { x.1 with spins := x.1.spins + 1 }
  match x.2 with
  | none => ({ l with overflow := l.overflow + 1 }, false)
  | some i =>
      let l := { l with rows := l.rows.modify i (checkIn spin) }
      if !l.swtRunning then (l, true)
      else
        let l := { l with checkinMask := l.checkinMask ||| (1 <<< i) }
        (if spin.levelsAlive then feedSwt spin l else l, false)

/-- SWT0's start, outside the lock; once, by one level. -/
def spinStartSwt (spin : Spin) (l : Levels) : Levels :=
  if l.swtErrors ≠ 0 ∨ l.swtStarting then l
  else
    let l := { l with swtStarting := true }
    if spin.startOk then
      { l with swtStarted := true, lastFeedCyc := spin.nowCyc, checkinMask := 0,
               swtRunning := true }
    else { l with swtErrors := l.swtErrors + 1 }

def spin (x : Spin) (s : Supervisor) : Supervisor :=
  let y := spinLocked x s.levels
  s.setLevels (if y.2 then spinStartSwt x y.1 else y.1)

end SafetyIsland.Supervisor
