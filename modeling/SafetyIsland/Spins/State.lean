import SafetyIsland.Supervisor.Run

/-! The spinning threads beside the reaction thread: `island_supervisor_spin`
and `island_supervisor_spin_after` statement by statement, for any number of
threads. What the source does under the lock is one step; another thread, an
interrupt or a pass may come between any two. -/
namespace SafetyIsland
namespace Spins
open Supervisor

/-- A reading of the executor's route cells: when it was made, on the
executor's clock, and the earliest due of a take not yet answered. -/
structure Cells where
  atUs : Int
  dueUs : Option Int
  deriving DecidableEq, Repr

def Cells.left (x : Cells) : BitVec 64 :=
  match x.dueUs with
  | none => answered
  | some dueUs => if dueUs ≤ x.atUs then 0 else BitVec.ofInt 64 (dueUs - x.atUs)

/-- A signed word holds the time left. -/
def Cells.Fits (x : Cells) : Prop := ∀ dueUs ∈ x.dueUs, dueUs - x.atUs < 2 ^ 63

instance (x : Cells) : Decidable x.Fits :=
  match x with
  | ⟨_, none⟩ => isTrue fun dueUs hNone => absurd hNone (Option.not_mem_none dueUs)
  | ⟨atUs, some dueUs⟩ => decidable_of_iff (dueUs - atUs < 2 ^ 63)
      ⟨fun hFits _ hDue => Option.mem_some.mp hDue ▸ hFits, fun hFits => hFits dueUs rfl⟩

/-- What a call of `island_supervisor_spin_after` has read before the lock. -/
structure Report where
  /-- `none` without an executor, or for an error. -/
  cells : Option Cells
  nrosLevel : BitVec 8
  /-- `nros_cpp_executor_route_watch` will return OK. -/
  watchTaken : Bool
  deriving DecidableEq, Repr

def Report.bring (report : Report) (self : Nat) : SpinReport where
  self := self
  nextDueUs := report.cells.map Cells.left
  nrosLevel := report.nrosLevel
  watchTaken := report.watchTaken

/-- Where a spinning thread is. -/
inductive Stage where
  /-- In neither call. -/
  | idle
  /-- `swt_running` was read as clear, under the lock. -/
  | testing (x : Spin)
  /-- `swt_errors` and `swt_starting` were read as clear. -/
  | claiming (x : Spin)
  /-- `swt_starting` is set; `swt_start` is next. -/
  | setUp (x : Spin)
  /-- SWT0 is set up; the feed's words are next. -/
  | running (x : Spin)
  /-- `island_supervisor_spin_after` has read the executor. -/
  | reporting (report : Report)
  /-- It has let go of the lock as route 1's owner. -/
  | watching (report : Report) (takeWatch : Bool)
  /-- And is about to arm or clear route 1. -/
  | routing (report : Report)

/-- What a step of a thread leaves. -/
structure Moved where
  supervisor : Supervisor
  stage : Stage := .idle

/-- `island_supervisor_spin`, up to where it lets go of the lock. -/
def enterSpin (x : Spin) (s : Supervisor) : Moved :=
  let y := spinLocked x s.levels
  { supervisor := s.setLevels y.1, stage := if y.2 then .testing x else .idle }

/-- `if (swt_errors != 0u || swt_starting) return;` -/
def testSwt (x : Spin) (s : Supervisor) : Moved :=
  { supervisor := s
    stage := if s.levels.swtErrors ≠ 0 ∨ s.levels.swtStarting then .idle else .claiming x }

def startSwt (x : Spin) (s : Supervisor) : Moved :=
  if x.startOk then
    { supervisor := s.setLevels { s.levels with swtStarted := true }, stage := .running x }
  else { supervisor := s.setLevels { s.levels with swtErrors := s.levels.swtErrors + 1 } }

def runSwt (x : Spin) (s : Supervisor) : Moved :=
  { supervisor := s.setLevels
      { s.levels with lastFeedCyc := x.nowCyc, checkinMask := 0, swtRunning := true } }

def lockReport (self : Nat) (report : Report) (s : Supervisor) : Moved :=
  let y := spinAfterLocked (report.bring self) s.levels
  { supervisor := s.setLevels y.1
    stage := match y.2 with
      | none => .idle
      | some takeWatch => .watching report takeWatch }

def Stage.proceed (cfg : Config) (self : Nat) (now nowUs : Int) (s : Supervisor) :
    Stage → Moved
  | .idle => { supervisor := s }
  | .testing x => testSwt x s
  | .claiming x =>
      { supervisor := s.setLevels { s.levels with swtStarting := true }, stage := .setUp x }
  | .setUp x => startSwt x s
  | .running x => runSwt x s
  | .reporting report => lockReport self report s
  | .watching report takeWatch =>
      { supervisor := takeRouteWatch (report.bring self) takeWatch s, stage := .routing report }
  | .routing report =>
      { supervisor := spinAfterRoute cfg now nowUs (report.bring self) s }

end Spins

/-- The supervisor and where each spinning thread is in it. -/
structure Spins where
  supervisor : Supervisor := {}
  stages : Nat → Spins.Stage := fun _ => .idle

namespace Spins
open Supervisor

inductive Event where
  /-- A thread calls `island_supervisor_spin`. -/
  | spin (x : Spin)
  /-- A thread calls `island_supervisor_spin_after`. -/
  | report (thread : Nat) (report : Report)
  /-- A thread goes on with its call. -/
  | proceed (thread : Nat) (now nowUs : Int)
  /-- Any other call to the supervisor, or one of its interrupts. -/
  | call (e : Supervisor.Event)
  /-- A pass of the reaction thread, and the cells its watch reads. -/
  | pass (p : Pass) (cells : Cells)

def applyMoved (thread : Nat) (x : Moved) (k : Spins) : Spins :=
  { k with supervisor := x.supervisor, stages := Function.update k.stages thread x.stage }

def next (cfg : Config) (k : Spins) : Event → Spins
  | .spin x => k.applyMoved x.self (enterSpin x k.supervisor)
  | .report thread report => { k with stages := Function.update k.stages thread (.reporting report) }
  | .proceed thread now nowUs =>
      k.applyMoved thread ((k.stages thread).proceed cfg thread now nowUs k.supervisor)
  | .call e => { k with supervisor := Supervisor.next cfg k.supervisor e }
  | .pass p _ => { k with supervisor := (Supervisor.pass cfg p k.supervisor).1 }

/-- A call that is no spin's and names another route: only a spin's report
names route 1. -/
def elsewhere : Supervisor.Event → Bool
  | .arm _ route _ | .done route => route != Route.executor.toId
  | .spin _ | .spinAfter .. | .pass _ => false
  | _ => true

/-- What the observer has written down: the microsecond clock. -/
structure History where
  clockUs : Int := 0
  deriving DecidableEq, Repr

def Event.finish (clockUs : Int) : Event → Int
  | .report _ r => (r.cells.map Cells.atUs).getD clockUs
  | .proceed _ _ nowUs => nowUs
  | .pass p _ => p.nowUs
  | .spin _ | .call _ => clockUs

def note (h : History) (_ : Spins) (e : Event) (_ : Spins) : History where
  clockUs := e.finish h.clockUs

abbrev World := Transition.Observed Spins History

def World.boot (registered : Slot → Bool) : World where
  state := { supervisor := { slots := fun i => { registered := registered i } } }
  history := {}

def World.step (cfg : Config) : World → Event → World := Transition.observe (next cfg) note

/-- A thread makes one call at a time, the microsecond clock does not go back,
and a pass reads its cells, then the uptime, then that clock. -/
def Allowed (w : World) : Event → Prop
  | .spin x => w.state.stages x.self = .idle
  | .report thread report => w.state.stages thread = .idle ∧
      ∀ cells ∈ report.cells, w.history.clockUs ≤ cells.atUs ∧ cells.Fits
  | .proceed thread _ nowUs => w.state.stages thread ≠ .idle ∧ w.history.clockUs ≤ nowUs
  | .call e => elsewhere e = true
  | .pass p cells => w.history.clockUs ≤ cells.atUs ∧ cells.Fits ∧ p.watch = some cells.left ∧
      cells.atUs ≤ p.nowUs ∧ 1000 * p.now ≤ p.nowUs

section Undisturbed
variable (cfg : Config) (now nowUs : Int) (s : Supervisor)

/-- A thread alone, every stage at one reading. -/
def alone (self : Nat) : Nat → Moved → Moved
  | 0, x => x
  | n + 1, x => alone self n (x.stage.proceed cfg self now nowUs x.supervisor)

theorem alone_idle (self n : Nat) (x : Moved) (hIdle : x.stage = .idle) :
    (alone cfg now nowUs self n x).supervisor = x.supervisor := by
  induction n generalizing x with
  | zero => rfl
  | succ n ih =>
      rw [alone, hIdle]
      exact ih _ rfl

/-- Left alone, the test and the start of SWT0 are one. -/
theorem testing_alone (x : Spin) :
    (alone cfg now nowUs x.self 4 { supervisor := s, stage := .testing x }).supervisor =
      s.setLevels (spinStartSwt x s.levels) := by
  rw [alone, Stage.proceed, testSwt, spinStartSwt]
  split_ifs with hGivenUp hStart
  · exact alone_idle cfg now nowUs x.self 3 _ rfl
  · simp only [alone, Stage.proceed, startSwt, hStart, if_true]
    rfl
  · simp only [alone, Stage.proceed, startSwt, hStart, Bool.false_eq_true, if_false]
    rfl

/-- A spin that nothing interrupts is `island_supervisor_spin`. -/
theorem spin_alone (x : Spin) :
    (alone cfg now nowUs x.self 4 (enterSpin x s)).supervisor = spin x s := by
  unfold spin enterSpin
  generalize spinLocked x s.levels = y
  obtain ⟨levels, starts⟩ := y
  cases starts with
  | false => exact alone_idle cfg now nowUs x.self 4 _ rfl
  | true => exact testing_alone cfg now nowUs (s.setLevels levels) x

/-- A report that nothing interrupts is `island_supervisor_spin_after`. -/
theorem report_alone (self : Nat) (report : Report) :
    (alone cfg now nowUs self 3 { supervisor := s, stage := .reporting report }).supervisor =
      spinAfter cfg now nowUs (report.bring self) s := by
  unfold spinAfter
  simp only [alone, Stage.proceed, lockReport]
  cases (spinAfterLocked (report.bring self) s.levels).2 <;> rfl

end Undisturbed
end Spins
end SafetyIsland
