import SafetyIsland.General.Reaches
import SafetyIsland.General.Stretch
import SafetyIsland.Operator.Ramp

/-! The operator's ramp over whole runs in which the clock reads whatever it
likes: what a seed can lead to. -/
namespace SafetyIsland.Operator

open Transition

inductive Event where
  | controlCommand (msg : Control)
  | operate (operate : Bool)
  /-- the reaction thread's call of `direct_brake` -/
  | direct (seq sinceLatchMs : U32) (stampNs : Int)
  | timer (env : Env)
  deriving DecidableEq, Repr

def next (p : Parameters) (o : Operator) : Event → Operator
  | .controlCommand msg => onControlCommand msg o
  | .operate operate => operateEmergencyStop operate o
  | .direct seq sinceLatchMs stampNs =>
      { o with direct := (directBrake seq sinceLatchMs stampNs o.direct).1 }
  | .timer env => (onTimer p env o).1

/-- What an event gives the ramp to go on from: a command taken outside
OPERATING, or the direct path's last one at the takeover. -/
def seeding (o : Operator) : Event → Option Control
  | .controlCommand msg => if o.status ≠ statusOperating then some msg else none
  | .timer env =>
      if o.status = statusOperating ∧ o.directTakenOver = false ∧ env.latched = true ∧
        o.direct.hasLast = true then some o.direct.last else none
  | _ => none

def Effect.command? : Effect → Option Control
  | .controlCmd c => some c
  | _ => none

/-- The OPERATING command an event has the operator compute. -/
def computed (p : Parameters) (o : Operator) : Event → List Control
  | .timer env =>
      if o.status = statusOperating then (onTimer p env o).2.filterMap Effect.command? else []
  | _ => []

/-- The seed last received, and the OPERATING commands computed since. -/
structure Ramping where
  seed : Option Control := none
  commands : List Control := []
  deriving DecidableEq, Repr

/-- A new seed starts a new ramp. -/
def Ramping.reseed (r : Ramping) : Option Control → Ramping
  | some seed => { seed := some seed, commands := [] }
  | none => r

def note (p : Parameters) (r : Ramping) (o : Operator) (e : Event) (_ : Operator) : Ramping :=
  let r := r.reseed (seeding o e)
  { r with commands := r.commands ++ computed p o e }

/-- A command follows another by a step of at most 100 ms. -/
def Follows (p : Parameters) (prev c : Control) : Prop :=
  JerkRamp.Within p.targetAcceleration p.targetJerk (1 / 10) (ramp prev) (ramp c)

/-- The guard keeps every step between 0 and a tenth of a second. -/
theorem guardedDt_bounds (dt : ℚ) : 0 ≤ guardedDt dt ∧ guardedDt dt ≤ 1 / 10 := by
  unfold guardedDt
  split_ifs with hBack hLong
  · norm_num
  · norm_num
  · exact ⟨not_lt.mp hBack, not_lt.mp hLong⟩

/-- Whatever the clock reads. -/
theorem calcTargetAcceleration_follows (p : Parameters) (sinceNs stampNs : Int)
    (prev : Control) : Follows p prev (calcTargetAcceleration p true sinceNs stampNs prev) := by
  obtain ⟨hForward, hShort⟩ := guardedDt_bounds (secondsSince sinceNs prev.stamp)
  exact ⟨_, hForward, hShort, rfl⟩

/-- An OPERATING tick goes on from the ramp as the takeover leaves it, or
computes nothing: the supervisor has the slot. -/
theorem timer_operating_cases (p : Parameters) {o : Operator} (env : Env)
    (hOperating : o.status = statusOperating) :
    let taken := takeOver env.latched o
    let c := calcTargetAcceleration p taken.isPrevControlCmdSubscribed env.sinceNs env.stampNs
      taken.prevControlCmd
    (next p o (.timer env) = { taken with prevControlCmd := c } ∧
      computed p o (.timer env) = [c]) ∨
    (next p o (.timer env) = taken ∧ computed p o (.timer env) = []) := by
  intro taken c
  have hReport : (if taken.directTakenOver then [Effect.handover p.periodMs] else []).filterMap
      Effect.command? = [] := by
    split_ifs <;> rfl
  by_cases hPublish : (!taken.directTakenOver || env.granted) = true
  · left
    have hTick : onTimer p env o = ({ taken with prevControlCmd := c },
        (if taken.directTakenOver then [Effect.handover p.periodMs] else []) ++
          [.controlCmd c, .status taken.status]) := by
      rw [onTimer, if_pos hOperating]
      exact if_pos hPublish
    constructor
    · rw [next, hTick]
    · rw [computed, if_pos hOperating, hTick, List.filterMap_append, hReport]
      rfl
  · right
    have hTick : onTimer p env o = (taken,
        (if taken.directTakenOver then [Effect.handover p.periodMs] else []) ++
          [.status taken.status]) := by
      rw [onTimer, if_pos hOperating]
      exact if_neg hPublish
    constructor
    · rw [next, hTick]
    · rw [computed, if_pos hOperating, hTick, List.filterMap_append, hReport]
      rfl

/-- A ramp as the operator holds it: a step at a time from the seed, and the
next step goes on from its last command. -/
structure Continues (p : Parameters) (o : Operator) (r : Ramping) : Prop where
  received : o.isPrevControlCmdSubscribed = r.seed.isSome
  chain : ∀ seed, r.seed = some seed → (seed :: r.commands).IsChain (Follows p)
  last : ∀ seed, r.seed = some seed → r.commands.getLastD seed = o.prevControlCmd

namespace Continues
variable {p : Parameters} {o : Operator} {r : Ramping}

/-- A fresh seed. -/
theorem seeded (p : Parameters) {seed : Control} (hSeed : o.prevControlCmd = seed)
    (hReceived : o.isPrevControlCmdSubscribed = true) :
    Continues p o { seed := some seed, commands := [] } := by
  constructor
  · exact hReceived
  · intro _ _
    exact List.isChain_singleton _
  · rintro _ ⟨⟩
    exact hSeed.symm

/-- Nothing the ramp reads has changed. -/
theorem congr {o' : Operator} (h : Continues p o r)
    (hPrev : o'.prevControlCmd = o.prevControlCmd)
    (hReceived : o'.isPrevControlCmdSubscribed = o.isPrevControlCmdSubscribed) :
    Continues p o' r := by
  constructor
  · exact hReceived.trans h.received
  · exact h.chain
  · intro seed hSeed
    exact (h.last seed hSeed).trans hPrev.symm

/-- The takeover reseeds the ramp, or leaves it. -/
theorem takeOver (h : Continues p o r) (env : Env) (hOperating : o.status = statusOperating) :
    Continues p (takeOver env.latched o) (r.reseed (seeding o (.timer env))) := by
  by_cases hTakes : o.directTakenOver = false ∧ env.latched = true
  · obtain ⟨hNot, hLatched⟩ := hTakes
    by_cases hLast : o.direct.hasLast = true
    · have hSeeding : seeding o (.timer env) = some o.direct.last :=
        if_pos ⟨hOperating, hNot, hLatched, hLast⟩
      rw [hSeeding, Operator.takeOver, hNot, hLatched]
      simp only [Bool.not_false, Bool.and_self, if_true, hLast]
      exact seeded p rfl rfl
    · have hSeeding : seeding o (.timer env) = none := if_neg fun hAll => hLast hAll.2.2.2
      rw [hSeeding, Operator.takeOver, hNot, hLatched]
      simp only [Bool.not_false, Bool.and_self, if_true, hLast, Bool.false_eq_true, if_false]
      exact h.congr rfl rfl
  · have hSeeding : seeding o (.timer env) = none :=
      if_neg fun hAll => hTakes ⟨hAll.2.1, hAll.2.2.1⟩
    have hSame : Operator.takeOver env.latched o = o := by
      rw [Operator.takeOver, if_neg]
      simpa using hTakes
    rw [hSeeding, hSame]
    exact h

/-- The command a tick computes is the ramp's next. -/
theorem compute (h : Continues p o r) (sinceNs stampNs : Int) (o' : Operator)
    (hPrev : o'.prevControlCmd = calcTargetAcceleration p o.isPrevControlCmdSubscribed sinceNs
      stampNs o.prevControlCmd)
    (hReceived : o'.isPrevControlCmdSubscribed = o.isPrevControlCmdSubscribed) :
    Continues p o' { r with commands := r.commands ++ [o'.prevControlCmd] } := by
  constructor
  · exact hReceived.trans h.received
  · intro seed hSeed
    apply Stretch.isChain_concat (h.chain seed hSeed)
    have hSubscribed : o.isPrevControlCmdSubscribed = true := by
      rw [h.received, show r.seed = some seed from hSeed]
      rfl
    rw [h.last seed hSeed, hPrev, hSubscribed]
    exact calcTargetAcceleration_follows p sinceNs stampNs o.prevControlCmd
  · intro seed _
    exact List.getLastD_concat ..

end Continues

/-- Every event leaves a ramp. -/
theorem continues_next {p : Parameters} {o : Operator} {r : Ramping} (e : Event)
    (h : Continues p o r) : Continues p (next p o e) (note p r o e (next p o e)) := by
  cases e with
  | controlCommand msg =>
      by_cases hOperating : o.status = statusOperating
      · have hSeeding : seeding o (.controlCommand msg) = none := if_neg (not_not.mpr hOperating)
        have hSame : next p o (.controlCommand msg) = o := if_neg (not_not.mpr hOperating)
        simpa only [note, hSeeding, hSame, Ramping.reseed, computed, List.append_nil] using h
      · have hSeeding : seeding o (.controlCommand msg) = some msg := if_pos hOperating
        simp only [note, hSeeding, Ramping.reseed, computed, List.append_nil]
        rw [next, onControlCommand, if_pos hOperating]
        exact .seeded p rfl rfl
  | operate operate =>
      simp only [note, seeding, Ramping.reseed, computed, List.append_nil]
      exact h.congr rfl rfl
  | direct seq sinceLatchMs stampNs =>
      simp only [note, seeding, Ramping.reseed, computed, List.append_nil]
      exact h.congr rfl rfl
  | timer env =>
      by_cases hOperating : o.status = statusOperating
      · have hTaken := h.takeOver env hOperating
        rcases timer_operating_cases p env hOperating with ⟨hNext, hComputed⟩ | ⟨hNext, hComputed⟩
        · rw [note, hNext, hComputed]
          exact hTaken.compute env.sinceNs env.stampNs _ rfl rfl
        · rw [note, hNext, hComputed, List.append_nil]
          exact hTaken
      · have hSeeding : seeding o (.timer env) = none := if_neg fun hAll => hOperating hAll.1
        have hPassed : Continues p (next p o (.timer env)) r := by
          rw [next, onTimer, if_neg hOperating]
          split_ifs
          · exact h
          · exact h
        simpa only [note, hSeeding, Ramping.reseed, computed, hOperating, if_false,
          List.append_nil] using hPassed

/-- A command as the one before it allows. -/
structure Tightens (p : Parameters) (prev c : Control) : Prop where
  target : p.targetAcceleration ≤ c.longitudinal.acceleration
  tightens : c.longitudinal.acceleration ≤
    max prev.longitudinal.acceleration p.targetAcceleration
  jerk : prev.longitudinal.acceleration - 1 / 10 * |p.targetJerk| ≤ c.longitudinal.acceleration
  stops : 0 ≤ c.longitudinal.velocity
  gain : c.longitudinal.velocity ≤
    max prev.longitudinal.velocity 0 + 1 / 10 * max prev.longitudinal.acceleration 0

/-- A command of the ramp is at least as braking as the one before. -/
theorem Follows.tightens {p : Parameters} {prev c : Control} (hJ : p.targetJerk < 0)
    (h : Follows p prev c) : Tightens p prev c := by
  have hStep : JerkRamp.Within p.targetAcceleration p.targetJerk (1 / 10) (ramp prev) (ramp c) := h
  have hJerk := hStep.jerk_le hJ
  constructor
  · exact hStep.target
  · exact hStep.tightens hJ
  · calc prev.longitudinal.acceleration - 1 / 10 * |p.targetJerk|
        = (ramp prev).2 + p.targetJerk * (1 / 10) := by
          rw [abs_of_neg hJ]
          show prev.longitudinal.acceleration - _ = prev.longitudinal.acceleration + _
          ring
      _ ≤ (ramp c).2 := hJerk
  · exact hStep.velocity_nonneg
  · exact hStep.gain_le

/-- From a command to a later one of its ramp. -/
structure Settles (p : Parameters) (earlier later : Control) : Prop where
  falls : p.targetAcceleration ≤ earlier.longitudinal.acceleration →
    later.longitudinal.acceleration ≤ earlier.longitudinal.acceleration
  stays : earlier.longitudinal.acceleration = p.targetAcceleration →
    later.longitudinal.acceleration = p.targetAcceleration

/-- The speed the ramp adds, over all its commands. -/
def added (seed : Control) (commands : List Control) : ℚ :=
  (JerkRamp.gains (ramp seed) (commands.map ramp)).sum

def allowance (p : Parameters) (seed : Control) : ℚ :=
  JerkRamp.headroom p.targetJerk (1 / 10) seed.longitudinal.acceleration

/-- Whatever the seed and whatever the clock: every OPERATING command is as
the one before allows, the acceleration falls to the target and rests there,
and only the seed's own acceleration adds speed. -/
theorem ramp_any_clock (p : Parameters) (hA : p.targetAcceleration < 0) (hJ : p.targetJerk < 0)
    {w : Observed Operator Ramping}
    (hRun : Reaches (observe (next p) (note p)) (fun _ _ => True) ⟨construct p, {}⟩ w)
    (hReceived : w.state.isPrevControlCmdSubscribed = true) :
    ∃ seed, w.history.seed = some seed ∧
      (seed :: w.history.commands).IsChain (Tightens p) ∧
      (seed :: w.history.commands).Pairwise (Settles p) ∧
      added seed w.history.commands ≤ allowance p seed ∧
      ∀ c ∈ w.history.commands, c.longitudinal.velocity ≤
        max seed.longitudinal.velocity 0 + allowance p seed := by
  have hContinues : Continues p w.state w.history := by
    apply hRun.invariant (P := fun w => Continues p w.state w.history)
    · constructor
      · rfl
      · intro seed hSeed
        exact absurd hSeed (Option.some_ne_none seed).symm
      · intro seed hSeed
        exact absurd hSeed (Option.some_ne_none seed).symm
    · intro w e h _
      exact continues_next e h
  obtain ⟨seed, hSeed⟩ := Option.isSome_iff_exists.mp (hContinues.received.symm.trans hReceived)
  have hChain := hContinues.chain seed hSeed
  have hRamp : (ramp seed :: w.history.commands.map ramp).IsChain
      (JerkRamp.Within p.targetAcceleration p.targetJerk (1 / 10)) := by
    rw [← List.map_cons, List.isChain_map]
    exact hChain
  have hTenth : (0 : ℚ) ≤ 1 / 10 := by norm_num
  refine ⟨seed, hSeed, ?_, ?_, ?_, ?_⟩
  · exact hChain.imp fun _ _ h => h.tightens hJ
  · have hSettles := JerkRamp.acceleration_settles hJ hRamp
    rw [← List.map_cons, List.pairwise_map] at hSettles
    apply hSettles.imp
    intro earlier later hLater
    constructor
    · intro hAbove
      exact hLater.2.trans (max_le le_rfl hAbove)
    · intro hTarget
      apply le_antisymm _ hLater.1
      exact hLater.2.trans (max_le hTarget.le le_rfl)
  · exact JerkRamp.gains_sum_le hA.le hJ hTenth hRamp
  · intro c hMem
    exact JerkRamp.velocity_le_headroom hA.le hJ hTenth hRamp _ (List.mem_map_of_mem hMem)

/-- A seed stamped by the host's clock, and an island clock that steps back
and then forward. -/
def steppedClock : List Event :=
  let tick (ns : Int) : Event :=
    .timer { latched := false, granted := false, sinceNs := ns, stampNs := ns }
  [.controlCommand { stamp := { sec := 1800000000 }
                     longitudinal := { velocity := 8, acceleration := 1 } },
   .operate true, tick 33000000, tick 20000000, tick 5000000000]

theorem ramp_any_clock_stepped :
    let w := follow (observe (next .declared) (note .declared)) ⟨construct .declared, {}⟩
      steppedClock
    ∃ seed, w.history.seed = some seed ∧ w.history.commands.length = 3 ∧
      added seed w.history.commands ≤ allowance .declared seed := by
  intro w
  have hRun : Reaches (observe (next .declared) (note .declared)) (fun _ _ => True)
      ⟨construct .declared, {}⟩ w :=
    reaches_follow steppedClock ⟨trivial, trivial, trivial, trivial, trivial, trivial⟩
  have hA : Parameters.declared.targetAcceleration < 0 := by norm_num [Parameters.declared]
  have hJ : Parameters.declared.targetJerk < 0 := by norm_num [Parameters.declared]
  obtain ⟨seed, hSeed, -, -, hAdded, -⟩ := ramp_any_clock .declared hA hJ hRun rfl
  exact ⟨seed, hSeed, rfl, hAdded⟩

end SafetyIsland.Operator
