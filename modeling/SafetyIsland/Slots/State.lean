import SafetyIsland.Kernel.Call
import SafetyIsland.Handler.Tick

/-! The two components' ticks beside the reaction thread. The thread is more
urgent than every spin thread, so a pass is one step here; it may come between
any two statements of a tick that touch a slot or publish on its topics. -/
namespace SafetyIsland
namespace Slots
open Supervisor

/-- What a slot's direct function and its component both publish on. -/
inductive Topic where
  | mrmState
  | hazardLightsCmd
  | controlCmd
  deriving DecidableEq, Repr

def Topic.slot : Topic → Slot
  | .mrmState | .hazardLightsCmd => .handler
  | .controlCmd => .operator

/-- The components' `update_rate`, in Hz: one that gives a period. -/
structure Rates where
  ofSlot : Slot → Int
  range : ∀ i, 1 ≤ ofSlot i ∧ ofSlot i ≤ 1000

def Rates.declared : Rates where
  ofSlot
    | .handler => 10
    | .operator => 30
  range i := by cases i <;> decide

def Rates.periodMs (rates : Rates) (i : Slot) : U32 := BitVec.ofInt 32 (Int.tdiv 1000 (rates.ofSlot i))

/-- Where a component's `onTimer` is. -/
inductive Tick : Slot → Type where
  | idle {i : Slot} : Tick i
  | begun {i : Slot} : Tick i
  /-- The handler's `is_supervisor_latched_` is read; `publishMrmState` is next. -/
  | judged (latched : Bool) : Tick .handler
  | mrmState (latched : Bool) : Tick .handler
  /-- `publishHazardCmd` is next. -/
  | announced (latched : Bool) : Tick .handler
  | hazardLights (latched : Bool) : Tick .handler
  /-- The handler's report is next, once latched. -/
  | closing (latched : Bool) : Tick .handler
  /-- OPERATING; the operator's `direct_taken_over_` is read next. -/
  | owning : Tick .operator
  /-- The operator's own command, or the one it passes through. -/
  | controlCmd : Tick .operator
  /-- In `island_supervisor_handover`. -/
  | handover {i : Slot} (stage : HandoverStage) : Tick i
  deriving DecidableEq, Repr

/-- Where the tick is in `island_supervisor_handover`. -/
def Tick.stage {i : Slot} : Tick i → Option HandoverStage
  | .handover stage => some stage
  | _ => none

/-- The topic the tick's next statement publishes on. -/
def Tick.publishes {i : Slot} : Tick i → Option Topic
  | .mrmState _ => some .mrmState
  | .hazardLights _ => some .hazardLightsCmd
  | .controlCmd => some .controlCmd
  | _ => none

end Slots

/-- The supervisor, its thread's wait and the two components. -/
structure Slots where
  supervisor : Supervisor
  wake : Bool := false
  /-- The deadline of the thread's wait. -/
  deadline : Option Int := none
  ticks : (i : Supervisor.Slot) → Slots.Tick i := fun _ => .idle
  /-- The operator's `status_.state == OPERATING`. -/
  operating : Bool := false
  /-- `direct_taken_over_` -/
  takenOver : Bool := false

namespace Slots
open Supervisor

/-- What a statement of a tick leaves. -/
structure Moved (i : Slot) where
  supervisor : Supervisor
  takenOver : Bool
  tick : Tick i := .idle
  gives : Bool := false

/-- `island_supervisor_handover` begins: it returns 0 unless latched. -/
def enterHandover (i : Slot) (k : Slots) : Moved i where
  supervisor := k.supervisor
  takenOver := k.takenOver
  tick := if k.supervisor.latch.latched then .handover .latched else .idle

/-- Back from `island_supervisor_handover`: the operator publishes if it
returned nonzero, the handler's tick ends. -/
def returned : (i : Slot) → Bool → Tick i
  | .handler, _ => .idle
  | .operator, held => if held then .controlCmd else .idle

/-- The tick after a stage of `island_supervisor_handover`. -/
def afterStage (i : Slot) (x : Stage) : Tick i :=
  match x.call with
  | .handover _ _ stage => .handover stage
  | _ => returned i (x.returns == some true)

/-- `onTimer` begins. `runs` is the handler's `updatePhase`'s answer; the
operator decides by its status, and takes over once latched. -/
def beginTick (runs : Bool) (k : Slots) : (i : Slot) → Moved i
  | .handler =>
      { supervisor := k.supervisor, takenOver := k.takenOver
        tick := if runs then .judged k.supervisor.latch.latched else .idle }
  | .operator =>
      if k.operating then
        { supervisor := k.supervisor
          takenOver := k.takenOver || k.supervisor.latch.latched
          tick := .owning }
      else
        { supervisor := k.supervisor, takenOver := k.takenOver
          tick := if k.supervisor.latch.latched then .idle else .controlCmd }

def Tick.next (rates : Rates) (now : Int) (runs : Bool) (k : Slots) {i : Slot} :
    Tick i → Moved i
  | .idle => { supervisor := k.supervisor, takenOver := k.takenOver }
  | .begun => beginTick runs k i
  | .judged latched =>
      { supervisor := k.supervisor, takenOver := k.takenOver
        tick := if latched && k.supervisor.resumedSlot .handler then .announced latched
                else .mrmState latched }
  | .mrmState latched =>
      { supervisor := k.supervisor, takenOver := k.takenOver, tick := .announced latched }
  | .announced latched =>
      { supervisor := k.supervisor, takenOver := k.takenOver
        tick := if latched && k.supervisor.resumedSlot .handler then .closing latched
                else .hazardLights latched }
  | .hazardLights latched =>
      { supervisor := k.supervisor, takenOver := k.takenOver, tick := .closing latched }
  | .closing latched =>
      if latched then enterHandover .handler k
      else { supervisor := k.supervisor, takenOver := k.takenOver }
  | .owning =>
      if k.takenOver then enterHandover .operator k
      else { supervisor := k.supervisor, takenOver := k.takenOver, tick := .controlCmd }
  | .controlCmd => { supervisor := k.supervisor, takenOver := k.takenOver }
  | .handover stage =>
      let x := stage.proceed now i (rates.periodMs i) k.supervisor
      { supervisor := x.supervisor, takenOver := k.takenOver
        tick := afterStage i x, gives := x.gives }

inductive Event where
  /-- A component's tick begins. -/
  | begins (now : Int) (i : Slot)
  /-- It goes on by a statement. -/
  | goesOn (now : Int) (i : Slot) (runs : Bool)
  /-- The operator serves a request. -/
  | operate (operating : Bool)
  /-- Any other call to the supervisor, or one of its interrupts. -/
  | call (e : Supervisor.Event)
  /-- The wake is given. -/
  | give
  /-- A pass of the reaction thread, which then waits again. -/
  | pass (p : Pass) (waitNow : Int)

def next (cfg : Config) (rates : Rates) (k : Slots) : Event → Slots
  | .begins _ i => { k with ticks := Function.update k.ticks i .begun }
  | .goesOn now i runs =>
      let x := (k.ticks i).next rates now runs k
      { k with
        supervisor := x.supervisor
        takenOver := x.takenOver
        wake := k.wake || x.gives
        ticks := Function.update k.ticks i x.tick }
  | .operate operating => { k with operating := operating }
  | .call e => { k with supervisor := Supervisor.next cfg k.supervisor e }
  | .give => { k with wake := true }
  | .pass p waitNow =>
      let s := (Supervisor.pass cfg p k.supervisor).1
      { k with
        supervisor := s
        wake := k.wake && !p.woken
        deadline := latchedWait cfg waitNow s }

/-- A call that is neither a component's nor the thread's. -/
def other : Supervisor.Event → Bool
  | .pass _ | .handover .. | .setDirect _ => false
  | _ => true

/-- The two interrupts; every other caller is a thread. -/
def interrupt : Supervisor.Event → Bool
  | .timerExpiry | .swtTimeout => true
  | _ => false

structure History where
  clock : Int := 0
  /-- The clock a component has read for the report it is making. -/
  readAt : Slot → Int := fun _ => 0
  /-- The clock the slot's last report carries. -/
  reportAt : Slot → Int := fun _ => 0
  /-- The thread has passed since the slot was handed over. -/
  served : Slot → Bool := fun _ => false
  /-- The slot had resumed when the tick that runs began. -/
  late : Slot → Bool := fun _ => false

def Event.finish (clock : Int) : Event → Int
  | .begins now _ | .goesOn now _ _ => now
  | .call e => e.finish clock
  | .pass _ waitNow => waitNow
  | .operate _ | .give => clock

/-- The stage of a handover that an event completes. -/
def Event.completes (k : Slots) : Event → Option (Slot × HandoverStage)
  | .goesOn _ i _ => (k.ticks i).stage.map (Prod.mk i)
  | _ => none

def note (h : History) (k : Slots) (e : Event) (_ : Slots) : History where
  clock := e.finish h.clock
  readAt := match e.completes k with
    | some (i, .held) => Function.update h.readAt i (e.finish h.clock)
    | _ => h.readAt
  reportAt := match e.completes k with
    | some (i, .clocked _) => Function.update h.reportAt i (h.readAt i)
    | _ => h.reportAt
  served := match e with
    | .pass .. => fun i => (k.supervisor.slots i).handover
    | _ => h.served
  late := match e with
    | .begins _ i => Function.update h.late i (k.supervisor.slots i).resumed
    | _ => h.late

abbrev World := Transition.Observed Slots History

/-- Boot: both components have registered their direct functions. -/
def World.boot (levels : Levels) : World where
  state := { supervisor := { slots := fun _ => { registered := true }, levels := levels } }
  history := {}

def World.step (cfg : Config) (rates : Rates) : World → Event → World :=
  Transition.observe (next cfg rates) note

/-- The clock does not go back, a thread runs only while the reaction thread
waits, and the wait ends with the wake or at its deadline. -/
def Allowed (w : World) : Event → Prop
  | .begins now i => w.history.clock ≤ now ∧ w.state.wake = false ∧ w.state.ticks i = .idle
  | .goesOn now i _ => w.history.clock ≤ now ∧ w.state.wake = false ∧ w.state.ticks i ≠ .idle
  | .operate _ => w.state.wake = false ∧ w.state.ticks .operator = .idle
  | .call e =>
      other e = true ∧ e.Ordered w.history.clock ∧ (interrupt e = false → w.state.wake = false)
  | .give => True
  | .pass p waitNow =>
      p.Ordered w.history.clock ∧ p.publishNow ≤ waitNow ∧ p.woken = w.state.wake ∧
        (w.state.wake = false → w.state.deadline.any fun deadline => deadline ≤ p.serviceNow)

instance (w : World) (e : Event) : Decidable (Allowed w e) :=
  match e with
  | .begins .. | .goesOn .. | .operate .. | .call .. | .pass .. => by unfold Allowed; infer_instance
  | .give => isTrue trivial

section Step
variable (cfg : Config) (rates : Rates) (w : World) (e : Event)

@[simp] theorem World.step_state : (w.step cfg rates e).state = next cfg rates w.state e := rfl

@[simp] theorem World.step_history : (w.step cfg rates e).history =
    note w.history w.state e (next cfg rates w.state e) := rfl

end Step

section Period
variable (cfg : Config) (rates : Rates) (i : Slot)

def limitMs : Nat := (rates.periodMs i).toNat * cfg.resumePeriods

/-- A component's period is between 1 ms and 1 s. -/
theorem Rates.periodMs_range :
    1 ≤ (rates.periodMs i).toNat ∧ (rates.periodMs i).toNat ≤ 1000 := by
  obtain ⟨hLow, hHigh⟩ := rates.range i
  have hDiv : Int.tdiv 1000 (rates.ofSlot i) = 1000 / rates.ofSlot i :=
    Int.tdiv_eq_ediv_of_nonneg (by decide)
  have hPos : 1 ≤ 1000 / rates.ofSlot i := Int.le_ediv_of_mul_le (by omega) (by omega)
  have hLe : 1000 / rates.ofSlot i ≤ 1000 := Int.ediv_le_self _ (by decide)
  rw [Rates.periodMs, hDiv, BitVec.toNat_ofInt]
  omega

/-- A component's limit fits a word. -/
theorem limitMs_lt : limitMs cfg rates i < 2 ^ 32 := by
  obtain ⟨-, hPeriod⟩ := rates.periodMs_range i
  have hPeriods := cfg.resumePeriods_range.2
  have hMul : limitMs cfg rates i ≤ 1000 * 10 := Nat.mul_le_mul hPeriod hPeriods
  omega

/-- The limit that is watched is the component's own; it does not wrap. -/
theorem toNat_resumeLimit {d : DirectSlot} (hPeriod : d.alivePeriodMs = rates.periodMs i) :
    (resumeLimit cfg d).toNat = limitMs cfg rates i := by
  have hNonzero : rates.periodMs i ≠ 0 := by
    intro hZero
    have := (rates.periodMs_range i).1
    simp [hZero] at this
  have hPeriods : cfg.resumePeriods % 2 ^ 32 = cfg.resumePeriods :=
    Nat.mod_eq_of_lt (by have := cfg.resumePeriods_range.2; omega)
  rw [resumeLimit, watchPeriod, hPeriod, if_pos hNonzero, BitVec.toNat_mul, BitVec.toNat_ofNat,
    hPeriods]
  exact Nat.mod_eq_of_lt (limitMs_lt cfg rates i)

end Period
end Slots
end SafetyIsland
