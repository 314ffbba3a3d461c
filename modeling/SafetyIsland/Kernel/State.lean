import SafetyIsland.Kernel.Call

/-! The supervisor under its kernel: one core, a reaction thread more urgent
than every caller, the `wake` semaphore, the one-shot `due_timer` and SWT0's
first timeout. A caller runs only while the reaction thread waits; the two
interrupts come between any two steps, and a locked region is one step. -/
namespace SafetyIsland
namespace Kernel
open Supervisor

/-- Where `reaction_thread` is in its loop. -/
inductive Reaction where
  /-- Before `latched_wait`. -/
  | loop
  /-- In `k_sem_take`, until the deadline (`none` for `K_FOREVER`). -/
  | waiting (deadline : Option Int)
  /-- `k_sem_take` returned 0. -/
  | woken
  /-- The sweep has let go of the lock. -/
  | swept (now : Int) (firedRoutes : List Route)
  /-- The routes are acted on; `pending_hook` is read next. -/
  | testHook (now : Int) (wasLatched : Bool)
  /-- `pending_hook` was read as set. -/
  | actHook (now : Int) (wasLatched : Bool)
  /-- `pending_swt` is read next. -/
  | testSwt (now : Int) (wasLatched : Bool)
  /-- `pending_swt` was read as set. -/
  | actSwt (now : Int) (wasLatched : Bool)
  /-- The outputs are driven. -/
  | acted (now : Int) (wasLatched : Bool)
  /-- The direct path's service is next, after the outputs or a timeout. -/
  | serve
  deriving DecidableEq, Repr

end Kernel

/-- The supervisor and what the kernel holds for it. -/
structure Kernel where
  supervisor : Supervisor := {}
  /-- The semaphore `wake` is available. -/
  wake : Bool := false
  reaction : Kernel.Reaction := .loop
  /-- Each thread's call to the supervisor. -/
  calls : Nat → Supervisor.Call := fun _ => .idle
  /-- `swt_first_timeout` is still to give the wake. -/
  swtGive : Bool := false

namespace Kernel
open Supervisor

/-- What a step of the reaction thread reads, when it reads it. -/
structure Reading where
  now : Int
  nowUs : Int
  publishNow : Int
  /-- `nros_cpp_route_watch_next_due_us`; `none` for an error. -/
  watch : Option (BitVec 64)
  deriving DecidableEq, Repr

def Reading.at (now : Int) : Reading where
  now := now
  nowUs := 1000 * now
  publishNow := now
  watch := none

def clearHook (now : Int) (s : Supervisor) : Supervisor :=
  safeState now causeHook (s.setPending { s.pending with hook := false })

def clearSwt (now : Int) (s : Supervisor) : Supervisor :=
  safeState now causeSwt (s.setPending { s.pending with swt := false })

def service (cfg : Config) (now publishNow : Int) (s : Supervisor) : Supervisor :=
  if s.latch.latched then (directService cfg now publishNow s).1 else s

/-- The sweep of a woken pass at these readings. -/
def Reading.sweep (x : Reading) (s : Supervisor) : Sweep :=
  { now := x.now, nowUs := x.nowUs, route1Left := s.route1Left x.watch }

/-- The reaction thread's next step. In `k_sem_take` it takes the wake. -/
def react (cfg : Config) (x : Reading) (k : Kernel) : Kernel :=
  let s := k.supervisor
  match k.reaction with
  | .loop => { k with reaction := .waiting (latchedWait cfg x.now s) }
  | .waiting _ => { k with wake := false, reaction := .woken }
  | .woken =>
      let y := Supervisor.sweep cfg (x.sweep s) (countWake s)
      { k with supervisor := y.1, reaction := .swept x.now y.2 }
  | .swept now firedRoutes =>
      { k with
        supervisor := actOnRoutes x.now firedRoutes s
        reaction := .testHook now s.latch.latched }
  | .testHook now wasLatched =>
      { k with reaction := if s.pending.hook then .actHook now wasLatched
                           else .testSwt now wasLatched }
  | .actHook now wasLatched =>
      { k with supervisor := clearHook x.now s, reaction := .testSwt now wasLatched }
  | .testSwt now wasLatched =>
      { k with reaction := if s.pending.swt then .actSwt now wasLatched
                           else .acted now wasLatched }
  | .actSwt now wasLatched =>
      { k with supervisor := clearSwt x.now s, reaction := .acted now wasLatched }
  | .acted now wasLatched =>
      { k with supervisor := startDirect now wasLatched s, reaction := .serve }
  | .serve => { k with supervisor := service cfg x.now x.publishNow s, reaction := .loop }

inductive Event where
  /-- A thread calls the supervisor. -/
  | enter (thread : Nat) (now : Int) (request : Request)
  /-- A thread goes on with its call. -/
  | proceed (thread : Nat) (now nowUs : Int)
  /-- `due_timer` expires. -/
  | timerExpiry (now : Int)
  /-- SWT0's first timeout, up to its `k_sem_give`. -/
  | swtSet
  /-- That `k_sem_give`. -/
  | swtGive
  /-- The wait's deadline ends `k_sem_take`. -/
  | waitEnds (now : Int)
  /-- The reaction thread runs. -/
  | react (x : Reading)
  deriving DecidableEq, Repr

/-- A thread's call after one of its stages. -/
def applyStage (thread : Nat) (x : Stage) (k : Kernel) : Kernel :=
  { k with
    supervisor := x.supervisor
    wake := k.wake || x.gives
    calls := Function.update k.calls thread x.call }

def next (cfg : Config) (k : Kernel) : Event → Kernel
  | .enter thread now request => k.applyStage thread (request.enter cfg now k.supervisor)
  | .proceed thread now nowUs =>
      k.applyStage thread ((k.calls thread).proceed cfg now nowUs k.supervisor)
  | .timerExpiry _ => { k with supervisor := dueExpiry k.supervisor, wake := true }
  | .swtSet => { k with supervisor := swtFirstTimeout k.supervisor, swtGive := true }
  | .swtGive => { k with wake := true, swtGive := false }
  | .waitEnds _ => { k with reaction := .serve }
  | .react x => k.react cfg x

/-- The reaction thread waits and nothing has woken it: a caller may run. -/
def Reaction.yields : Reaction → Bool
  | .waiting _ => true
  | _ => false

/-- The wait has a deadline, and it is reached. -/
def Reaction.endsBy (now : Int) : Reaction → Bool
  | .waiting (some deadline) => decide (deadline ≤ now)
  | _ => false

/-- The timer runs out at its expiry or later, once. -/
def timerDue (k : Kernel) (now : Int) : Bool :=
  !k.supervisor.dueTimer.fired && k.supervisor.dueTimer.expiry.any fun due => due ≤ now

/-- What nano-ros documents of a route watch: 0, `UINT64_MAX` or a time in
microseconds that a signed word holds. -/
def Reading.WatchOk (x : Reading) : Prop :=
  match x.watch with
  | none => True
  | some left => left = 0 ∨ left = answered ∨ 0 < left.toInt

instance (x : Reading) : Decidable x.WatchOk := by
  unfold Reading.WatchOk
  split <;> infer_instance

/-- When a wait began, and the slots it began with. -/
structure WaitStart where
  now : Int := 0
  slots : Slot → DirectSlot := fun _ => {}

structure History where
  clock : Int := 0
  /-- The time of the last pass's sweep, until the thread waits again. -/
  sweptAt : Option Int := none
  wait : WaitStart := {}

def Event.finish (clock : Int) : Event → Int
  | .enter _ now _ | .proceed _ now _ | .timerExpiry now | .waitEnds now => now
  | .react x => x.publishNow
  | .swtSet | .swtGive => clock

/-- The sweep of the pass that runs, after one event. -/
def sweptAfter (before : Option Int) (reaction : Reaction) : Event → Option Int
  | .react x =>
      match reaction with
      | .loop => none
      | .woken => some x.now
      | _ => before
  | _ => before

/-- The last wait's start after one event. -/
def waitAfter (before : WaitStart) (k : Kernel) : Event → WaitStart
  | .react x =>
      match k.reaction with
      | .loop => { now := x.now, slots := k.supervisor.slots }
      | _ => before
  | _ => before

def note (h : History) (k : Kernel) (e : Event) (_ : Kernel) : History where
  clock := e.finish h.clock
  sweptAt := sweptAfter h.sweptAt k.reaction e
  wait := waitAfter h.wait k e

abbrev World := Transition.Observed Kernel History

/-- Boot: nothing is armed, noted or latched; the components have registered
the slots they have, and the levels are what the first spins left. -/
def World.boot (registered : Slot → Bool) (levels : Levels) : World where
  state :=
    { supervisor :=
        { slots := fun i => { registered := registered i }, levels := levels } }
  history := {}

def World.step (cfg : Config) : World → Event → World := Transition.observe (next cfg) note

/-- The clock does not go back, a caller runs only under a waiting reaction
thread, one call at a time, and each interrupt comes when the hardware sends
it. -/
def Allowed (w : World) : Event → Prop
  | .enter thread now _ =>
      w.history.clock ≤ now ∧ w.state.reaction.yields = true ∧ w.state.wake = false ∧
        w.state.calls thread = .idle
  | .proceed thread now _ =>
      w.history.clock ≤ now ∧ w.state.reaction.yields = true ∧ w.state.wake = false ∧
        w.state.calls thread ≠ .idle
  | .timerExpiry now => w.history.clock ≤ now ∧ w.state.timerDue now = true
  | .swtSet => True
  | .swtGive => w.state.swtGive = true
  | .waitEnds now =>
      w.history.clock ≤ now ∧ w.state.wake = false ∧ w.state.reaction.endsBy now = true
  | .react x =>
      w.history.clock ≤ x.now ∧ x.now ≤ x.publishNow ∧ 1000 * x.now ≤ x.nowUs ∧ x.WatchOk ∧
        (w.state.reaction.yields = true → w.state.wake = true)

instance (w : World) (e : Event) : Decidable (Allowed w e) :=
  match e with
  | .enter .. | .proceed .. | .timerExpiry .. | .swtGive | .waitEnds .. | .react .. =>
      by unfold Allowed; infer_instance
  | .swtSet => isTrue trivial

section Step
variable (cfg : Config) (w : World) (e : Event)

@[simp] theorem World.step_state : (w.step cfg e).state = next cfg w.state e := rfl

@[simp] theorem World.step_history :
    (w.step cfg e).history = note w.history w.state e (next cfg w.state e) := rfl

end Step

section Pass
variable (cfg : Config) (k : Kernel) (x : Reading)

/-- The steps of the reaction thread alone. -/
def alone (readings : List Reading) : Kernel := readings.foldl (fun k x => k.react cfg x) k

/-- The thread's steps follow one another. -/
theorem alone_append (first second : List Reading) :
    alone cfg k (first ++ second) = alone cfg (alone cfg k first) second :=
  List.foldl_append ..

/-- With nothing in between, the test of `pending_hook` and its branch are one.
-/
theorem alone_hook {now : Int} {wasLatched : Bool}
    (hReaction : k.reaction = .testHook now wasLatched) : ∃ readings, alone cfg k readings =
      { k with
        supervisor := actOnHook x.now k.supervisor
        reaction := .testSwt now wasLatched } := by
  cases hPending : k.supervisor.pending.hook with
  | true => exact ⟨[x, x], by simp [alone, react, hReaction, hPending, actOnHook, clearHook]⟩
  | false => exact ⟨[x], by simp [alone, react, hReaction, hPending, actOnHook]⟩

/-- And so are those of `pending_swt`. -/
theorem alone_swt {now : Int} {wasLatched : Bool}
    (hReaction : k.reaction = .testSwt now wasLatched) : ∃ readings, alone cfg k readings =
      { k with
        supervisor := actOnSwt x.now k.supervisor
        reaction := .acted now wasLatched } := by
  cases hPending : k.supervisor.pending.swt with
  | true => exact ⟨[x, x], by simp [alone, react, hReaction, hPending, actOnSwt, clearSwt]⟩
  | false => exact ⟨[x], by simp [alone, react, hReaction, hPending, actOnSwt]⟩

/-- The direct path's service ends the pass. -/
theorem service_eq_pass (p : Supervisor.Pass) (s : Supervisor) :
    service cfg p.serviceNow p.publishNow (taken cfg p s) = (Supervisor.pass cfg p s).1 := by
  unfold service Supervisor.pass
  split <;> rfl

/-- A turn of the thread's loop that nothing interrupts is a pass. -/
theorem alone_pass (p : Supervisor.Pass) (hWoken : p.woken = true)
    (hReaction : k.reaction = .woken) : ∃ readings, alone cfg k readings =
      { k with supervisor := (Supervisor.pass cfg p k.supervisor).1, reaction := .loop } := by
  let sweepAt : Reading :=
    { now := p.now, nowUs := p.nowUs, publishNow := p.publishNow, watch := p.watch }
  let latchAt : Reading := { sweepAt with now := p.latchNow }
  let serviceAt : Reading := { sweepAt with now := p.serviceNow }
  let y := Supervisor.sweep cfg (p.sweep k.supervisor) (countWake k.supervisor)
  let tested : Kernel :=
    { k with
      supervisor := actOnRoutes p.latchNow y.2 y.1
      reaction := .testHook p.now y.1.latch.latched }
  have hSwept : alone cfg k [sweepAt, latchAt] = tested := by
    simp [alone, react, hReaction, tested, y, sweepAt, latchAt, Reading.sweep, Pass.sweep]
  obtain ⟨hooks, hHook⟩ := alone_hook cfg tested latchAt rfl
  obtain ⟨swts, hSwt⟩ := alone_swt cfg
    { tested with
      supervisor := actOnHook p.latchNow tested.supervisor
      reaction := .testSwt p.now y.1.latch.latched } latchAt rfl
  refine ⟨[sweepAt, latchAt] ++ hooks ++ swts ++ [serviceAt, serviceAt], ?_⟩
  rw [alone_append, alone_append, alone_append, hSwept, hHook]
  rw [show latchAt.now = p.latchNow from rfl] at hSwt ⊢
  rw [hSwt, ← service_eq_pass, taken, if_pos hWoken]
  rfl

/-- And a turn that a deadline ends is a pass on a timeout. -/
theorem alone_timeout (p : Supervisor.Pass) (hWoken : p.woken = false) (now : Int) :
    ((next cfg k (.waitEnds now)).react cfg
      { now := p.serviceNow, nowUs := p.nowUs, publishNow := p.publishNow, watch := p.watch }) =
      { k with supervisor := (Supervisor.pass cfg p k.supervisor).1, reaction := .loop } := by
  rw [← service_eq_pass, taken_of_timeout cfg p k.supervisor hWoken]
  rfl

end Pass
end Kernel
end SafetyIsland
