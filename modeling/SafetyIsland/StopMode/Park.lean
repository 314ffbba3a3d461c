import SafetyIsland.General.Reaches
import SafetyIsland.General.Stretch
import SafetyIsland.StopMode.State

/-! When the stop mode operator parks: over whole runs, against the velocity
samples it has taken. -/
namespace SafetyIsland.StopMode
open Transition

inductive Event where
  | steering (steeringTireAngle : ℚ)
  | velocity (ns : Int) (longitudinalVelocity : ℚ)
  | routeState (state : U8)
  | timer (env : Env)
  deriving DecidableEq, Repr

def next (p : Parameters) (m : StopMode) : Event → StopMode
  | .steering steeringTireAngle => onSteering steeringTireAngle m
  | .velocity ns longitudinalVelocity => onVelocity ns longitudinalVelocity m
  | .routeState state => onRouteState state m
  | .timer env => (onTimer p env m).1

/-- A velocity sample as the operator takes it. -/
structure Sample where
  stampSec : ℚ
  stopped : Bool
  deriving DecidableEq, Repr

/-- What the observer has written down: the clock, and every sample taken. -/
structure History where
  clockNs : Int := 0
  samples : List Sample := []
  deriving DecidableEq, Repr

def Event.finish (clockNs : Int) : Event → Int
  | .velocity ns _ => ns
  | .timer env => env.hazardLightsNs
  | .steering _ | .routeState _ => clockNs

def note (h : History) (_ : StopMode) (e : Event) (_ : StopMode) : History where
  clockNs := e.finish h.clockNs
  samples := match e with
    | .velocity ns longitudinalVelocity =>
        h.samples ++ [{ stampSec := nowSec ns, stopped := stopped longitudinalVelocity }]
    | _ => h.samples

abbrev World := Observed StopMode History

def World.boot : World := { state := {}, history := {} }

def World.step (p : Parameters) : World → Event → World := observe (next p) note

/-- Every reading of a tick at one time. -/
def Env.at (ns : Int) : Env := ⟨ns, ns, ns, ns, ns, ns⟩

/-- A tick's readings, in order. -/
structure Env.Ordered (clockNs : Int) (env : Env) : Prop where
  timeout : clockNs ≤ env.timeoutNs
  control : env.timeoutNs ≤ env.controlNs
  check : env.controlNs ≤ env.checkNs
  gear : env.checkNs ≤ env.gearNs
  turnIndicators : env.gearNs ≤ env.turnIndicatorsNs
  hazardLights : env.turnIndicatorsNs ≤ env.hazardLightsNs

instance (clockNs : Int) (env : Env) : Decidable (env.Ordered clockNs) :=
  decidable_of_iff (clockNs ≤ env.timeoutNs ∧ env.timeoutNs ≤ env.controlNs ∧
      env.controlNs ≤ env.checkNs ∧ env.checkNs ≤ env.gearNs ∧
      env.gearNs ≤ env.turnIndicatorsNs ∧ env.turnIndicatorsNs ≤ env.hazardLightsNs)
    ⟨fun ⟨h₁, h₂, h₃, h₄, h₅, h₆⟩ => ⟨h₁, h₂, h₃, h₄, h₅, h₆⟩,
      fun h => ⟨h.1, h.2, h.3, h.4, h.5, h.6⟩⟩

def Allowed (w : World) : Event → Prop
  | .velocity ns _ => w.history.clockNs ≤ ns
  | .timer env => env.Ordered w.history.clockNs
  | .steering _ | .routeState _ => True

instance (w : World) (e : Event) : Decidable (Allowed w e) :=
  match e with
  | .velocity ns _ => inferInstanceAs (Decidable (w.history.clockNs ≤ ns))
  | .timer env => inferInstanceAs (Decidable (env.Ordered w.history.clockNs))
  | .steering _ | .routeState _ => isTrue trivial

/-- The samples end in a standstill that has lasted `duration` at `t`: from a
stopped sample on, no motion and no gap of `timeout`, up to `t`. -/
def Standstill (duration timeout t : ℚ) (samples : List Sample) : Prop :=
  ∃ first last,
    Stretch.EndsIn (fun s : Sample => s.stopped = true)
      (fun earlier later : Sample => Double.sub later.stampSec earlier.stampSec < timeout)
      samples first last ∧
    duration ≤ Double.sub t first.stampSec ∧ Double.sub t last.stampSec < timeout

def Parks (p : Parameters) (m : StopMode) (env : Env) : Prop :=
  ∃ stamp, .gear stamp gearPark ∈ (onTimer p env m).2

/-- A PARK, as its tick decides on it. -/
structure Justified (w : World) (env : Env) : Prop where
  route : w.state.currentRouteState = routeUnset ∨ w.state.currentRouteState = routeArrived
  standstill : Standstill vehicleStopDuration vehicleStopTimeout (nowSec env.checkNs)
    w.history.samples

/-- No step lets the timeout run out unseen: a stopped sample comes within it
of the one before, unless a tick has noticed the gap, and a tick's two
readings lie on one side of it. -/
def InTime (m : StopMode) : Event → Prop
  | .velocity ns longitudinalVelocity => stopped longitudinalVelocity = true →
      m.vehicleStopCheck.hasLast = true →
        Double.sub (nowSec ns) m.vehicleStopCheck.lastStamp < vehicleStopTimeout
  | .timer env => m.vehicleStopCheck.hasLast = true →
      Double.sub (nowSec env.timeoutNs) m.vehicleStopCheck.lastStamp < vehicleStopTimeout →
        Double.sub (nowSec env.checkNs) m.vehicleStopCheck.lastStamp < vehicleStopTimeout
  | .steering _ | .routeState _ => True

instance (m : StopMode) (e : Event) : Decidable (InTime m e) :=
  match e with
  | .velocity ns longitudinalVelocity => inferInstanceAs (Decidable
      (stopped longitudinalVelocity = true → m.vehicleStopCheck.hasLast = true →
        Double.sub (nowSec ns) m.vehicleStopCheck.lastStamp < vehicleStopTimeout))
  | .timer env => inferInstanceAs (Decidable (m.vehicleStopCheck.hasLast = true →
      Double.sub (nowSec env.timeoutNs) m.vehicleStopCheck.lastStamp < vehicleStopTimeout →
        Double.sub (nowSec env.checkNs) m.vehicleStopCheck.lastStamp < vehicleStopTimeout))
  | .steering _ | .routeState _ => isTrue trivial

/-- Both stamps are kept, or neither, and they are the ends of the stretch of
stopped samples that goes on. -/
structure Follows (c : ContinuousCondition) (samples : List Sample) : Prop where
  both : c.hasStart = c.hasLast
  stretch : c.hasLast = true → ∃ first last : Sample,
    Stretch.EndsIn (fun s : Sample => s.stopped = true)
      (fun earlier later : Sample => Double.sub later.stampSec earlier.stampSec < vehicleStopTimeout)
      samples first last ∧
    first.stampSec = c.startStamp ∧ last.stampSec = c.lastStamp

section Follows
variable {c : ContinuousCondition} {samples : List Sample} {t : ℚ}

/-- A vehicle that moves has no stopped samples to follow. -/
theorem Follows.moving (hMoving : c.hasStart = false ∧ c.hasLast = false) : Follows c samples := by
  constructor
  · rw [hMoving.1, hMoving.2]
  · intro hLast
    exact absurd (hMoving.2.symm.trans hLast) Bool.false_ne_true

/-- A sample in time is followed. -/
theorem Follows.update (h : Follows c samples) (condition : Bool)
    (hInTime : condition = true → c.hasLast = true → Double.sub t c.lastStamp < vehicleStopTimeout) :
    Follows (c.update t condition) (samples ++ [{ stampSec := t, stopped := condition }]) := by
  cases condition with
  | false => exact .moving ⟨rfl, rfl⟩
  | true =>
      cases hLast : c.hasLast with
      | false =>
          have hStart : c.hasStart = false := h.both.trans hLast
          have hUpdated : c.update t true =
              { hasLast := true, hasStart := true, lastStamp := t, startStamp := t } := by
            simp [ContinuousCondition.update, hStart]
          rw [hUpdated]
          constructor
          · rfl
          · intro _
            exact ⟨_, _, .begin rfl, rfl, rfl⟩
      | true =>
          have hStart : c.hasStart = true := h.both.trans hLast
          have hUpdated : c.update t true = { c with lastStamp := t, hasLast := true } := by
            simp [ContinuousCondition.update, hStart]
          obtain ⟨first, last, hEnds, hFirst, hEnd⟩ := h.stretch hLast
          rw [hUpdated]
          constructor
          · exact hStart
          · intro _
            refine ⟨first, _, hEnds.concat rfl ?_, hFirst, rfl⟩
            rw [hEnd]
            exact hInTime rfl hLast

/-- A tick keeps the stretch within the timeout, or drops it. -/
theorem Follows.updateTimeout (h : Follows c samples) :
    Follows (c.updateTimeout t vehicleStopTimeout) samples ∧
      ((c.updateTimeout t vehicleStopTimeout).hasLast = true →
        c.updateTimeout t vehicleStopTimeout = c ∧ Double.sub t c.lastStamp < vehicleStopTimeout) := by
  rw [ContinuousCondition.updateTimeout]
  split_ifs with hLast hOut
  · exact ⟨.moving ⟨rfl, rfl⟩, False.elim⟩
  · exact ⟨h, fun _ => ⟨rfl, not_le.mp hOut⟩⟩
  · exact ⟨h, fun hKept => absurd hKept hLast⟩

end Follows

section Run
variable {p : Parameters} {w : World}

/-- One event keeps the check and the samples in step. -/
theorem follows_step {e : Event} (h : Follows w.state.vehicleStopCheck w.history.samples)
    (hInTime : InTime w.state e) :
    Follows (w.step p e).state.vehicleStopCheck (w.step p e).history.samples := by
  cases e with
  | steering | routeState => exact h
  | velocity ns longitudinalVelocity => exact h.update (stopped longitudinalVelocity) hInTime
  | timer env => exact h.updateTimeout.1

/-- And so does a run. -/
theorem follows (hRun : Reaches (World.step p) (fun w e => Allowed w e ∧ InTime w.state e)
    World.boot w) : Follows w.state.vehicleStopCheck w.history.samples := by
  apply hRun.invariant (P := fun w => Follows w.state.vehicleStopCheck w.history.samples)
  · exact .moving ⟨rfl, rfl⟩
  · intro w e h hStep
    exact follows_step h hStep.2

/-- A PARK was decided on. -/
theorem parking_of_parks {env : Env} (hParks : Parks p w.state env) :
    parking p env.checkNs (onTimer p env w.state).1 = true := by
  obtain ⟨stamp, hGear⟩ := hParks
  by_contra hNot
  simp only [onTimer, List.mem_cons, List.not_mem_nil, or_false, reduceCtorEq, false_or,
    Effect.gear.injEq] at hGear
  have hNone : ¬ parking p env.checkNs (onTimer p env w.state).1 = true := hNot
  rw [onTimer] at hNone
  rw [if_neg hNone] at hGear
  exact absurd hGear.2 (by decide)

/-- Where the check parks, the tick publishes PARK. -/
theorem parks_of_parking {env : Env}
    (hParking : parking p env.checkNs (onTimer p env w.state).1 = true) :
    Parks p w.state env := by
  refine ⟨Operator.nowStamp env.gearNs, List.mem_cons_of_mem _ ?_⟩
  rw [onTimer] at hParking
  rw [if_pos hParking]
  exact List.mem_cons_self

/-- Where no step lets the timeout run out unseen, PARK is published only on a
route that is unset or arrived, after a continuous standstill. -/
theorem parks_justified (hRun : Reaches (World.step p) (fun w e => Allowed w e ∧ InTime w.state e)
      World.boot w) {env : Env} (hInTime : InTime w.state (.timer env))
    (hParks : Parks p w.state env) : Justified w env := by
  obtain ⟨hAfter, hKept⟩ := (follows hRun).updateTimeout (t := nowSec env.timeoutNs)
  have hParking := parking_of_parks hParks
  rw [parking] at hParking
  split_ifs at hParking
  obtain ⟨hRoute, hCheck⟩ := Bool.and_eq_true_iff.mp hParking
  constructor
  · change (w.state.currentRouteState == routeUnset
      || w.state.currentRouteState == routeArrived) = true at hRoute
    simpa only [Bool.or_eq_true, beq_iff_eq] using hRoute
  · change (w.state.vehicleStopCheck.updateTimeout (nowSec env.timeoutNs)
      vehicleStopTimeout).check (nowSec env.checkNs) vehicleStopDuration = true at hCheck
    rw [ContinuousCondition.check] at hCheck
    split_ifs at hCheck with hStart
    have hLast := hAfter.both.symm.trans (by simpa using hStart)
    obtain ⟨hSame, hTimely⟩ := hKept hLast
    rw [hSame] at hLast hCheck
    obtain ⟨first, last, hEnds, hFirst, hEnd⟩ := (follows hRun).stretch hLast
    refine ⟨first, last, hEnds, ?_, ?_⟩
    · rw [hFirst]
      exact of_decide_eq_true hCheck
    · rw [hEnd]
      exact hInTime hLast hTimely

/-- Arrived, standing still for a second of samples, a tick after each. -/
def arrived : List Event :=
  [.routeState routeArrived, .velocity 0 0, .timer (.at 100000000), .velocity 500000000 0,
    .timer (.at 600000000), .velocity 1000000000 0]

theorem parks_justified_arrived :
    Justified (follow (World.step {}) World.boot arrived) (.at 1100000000) :=
  have hRun : Reaches (World.step {}) (fun w e => Allowed w e ∧ InTime w.state e) World.boot
      (follow (World.step {}) World.boot arrived) := reaches_follow arrived (by decide +kernel)
  parks_justified hRun (by decide +kernel) (parks_of_parking (by decide +kernel))

/-- Arrived, a stopped sample, and the next one 1.5 s later: no tick between. -/
def silent : List Event := [.routeState routeArrived, .velocity 0 0, .velocity 1500000000 0]

/-- A late sample dispatched before the tick hides the gap: the standstill is
taken for continuous, and PARK is published. -/
theorem not_parks_justified : ¬ ∀ p w, Reaches (World.step p) Allowed World.boot w →
    ∀ env, Allowed w (.timer env) → Parks p w.state env → Justified w env := by
  intro hAll
  have hRun : Reaches (World.step {}) Allowed World.boot
      (follow (World.step {}) World.boot silent) := reaches_follow silent (by decide)
  obtain ⟨-, first, last, ⟨before, later, hSamples, -, hChain, -⟩, hDuration, -⟩ :=
    hAll {} _ hRun (.at 1500000000) (by decide) (parks_of_parking (by decide +kernel))
  cases before with
  | nil =>
      -- the stretch holds both samples, and their gap
      obtain ⟨rfl, rfl⟩ := List.cons_eq_cons.mp hSamples
      exact absurd (List.isChain_cons_cons.mp hChain).1 (by decide +kernel)
  | cons x rest =>
      -- the stretch begins with the last sample, at the tick
      obtain ⟨-, hRest⟩ := List.cons_eq_cons.mp hSamples
      cases rest with
      | nil =>
          obtain ⟨rfl, -⟩ := List.cons_eq_cons.mp hRest
          exact absurd hDuration (by decide +kernel)
      | cons y rest =>
          obtain ⟨-, hNil⟩ := List.cons_eq_cons.mp hRest
          exact absurd hNil (by simp)

end Run
end SafetyIsland.StopMode
