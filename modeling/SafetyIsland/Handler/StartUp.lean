import SafetyIsland.Handler.Run

/-! The start-up lifecycle over whole runs: when INIT ends, the marker it ends
with, the init failure and the arming of the contract monitors. -/
namespace SafetyIsland.Handler

open Transition

def RequiredInput.bit : RequiredInput → U32
  | .operationModeAvailability => 1
  | .operationModeState => 2
  | .comfortableStopStatus => 4
  | .emergencyStopStatus => 8

def inputMask (inputs : List RequiredInput) : U32 :=
  inputs.foldl (fun mask input => mask ||| input.bit) 0

def toMs (sec : ℚ) : U32 := BitVec.ofInt 32 (toInt64 (Double.mul sec 1000))

/-- `ARM_VIA_INIT_DONE` and `ARM_VIA_INIT_RECOVERY` -/
inductive Via where
  | initDone
  | initRecovery
  deriving DecidableEq, Repr

/-- The markers of start-up, and the arming of the contract monitors. -/
inductive Mark where
  | initDone (ms : U32)
  | initTimeout (pending : U32)
  | armed (via : Via)
  deriving DecidableEq, Repr

def Mark.endsInit : Mark → Bool
  | .initDone _ | .initTimeout _ => true
  | .armed _ => false

def Mark.isArmed : Mark → Bool
  | .initDone _ | .initTimeout _ => false
  | .armed _ => true

section Phase
variable (p : Param) (env : Env) (h : Handler)

/-- The tick finds every required input established. -/
def establishedAll : Bool :=
  let unestablished := getUnestablishedInputs p env.establishedSec h
  unestablished.1.isEmpty && unestablished.2.isEmpty

/-- `updatePhase` with its markers and its calls of `arm_contract_monitors`. -/
def markedPhase : (Handler × Bool) × List Mark :=
  let unestablished := getUnestablishedInputs p env.establishedSec h
  let established := unestablished.1.isEmpty && unestablished.2.isEmpty
  let sinceBoot := Double.sub env.phaseSec h.stampBoot
  match h.phase with
  | .run =>
      if h.isInitFailed && established then
        ((armContractMonitors env.monitorsMs { h with isInitFailed := false }, true),
          [.armed .initRecovery])
      else ((h, true), [])
  | .init =>
      if established then
        ((armContractMonitors env.monitorsMs { h with phase := .run }, true),
          [.initDone (toMs sinceBoot), .armed .initDone])
      else if sinceBoot ≥ p.initTimeout then
        (({ h with phase := .run, isInitFailed := true }, true),
          [.initTimeout (inputMask unestablished.1 ||| inputMask unestablished.2 <<< 8)])
      else ((h, false), [])

/-- The markers do not change what the phase does. -/
theorem markedPhase_fst : (markedPhase p env h).1 = updatePhase p env h := by
  unfold markedPhase updatePhase
  dsimp only
  cases hPhase : h.phase with
  | run =>
      simp only
      split_ifs <;> rfl
  | init =>
      simp only
      split_ifs <;> rfl

/-- What `updatePhase` can do. -/
inductive Phased : (Handler × Bool) × List Mark → Prop where
  | recovered (hPhase : h.phase = .run) (hFailed : h.isInitFailed = true)
      (hAll : establishedAll p env h = true) : Phased
      ((armContractMonitors env.monitorsMs { h with isInitFailed := false }, true),
        [.armed .initRecovery])
  | running (hPhase : h.phase = .run)
      (hWhy : h.isInitFailed = false ∨ establishedAll p env h = false) : Phased ((h, true), [])
  | done (hPhase : h.phase = .init) (hAll : establishedAll p env h = true) : Phased
      ((armContractMonitors env.monitorsMs { h with phase := .run }, true),
        [.initDone (toMs (Double.sub env.phaseSec h.stampBoot)), .armed .initDone])
  | timeout (pending : U32) (hPhase : h.phase = .init) (hAll : establishedAll p env h = false)
      (hLate : p.initTimeout ≤ Double.sub env.phaseSec h.stampBoot) : Phased
      (({ h with phase := .run, isInitFailed := true }, true), [.initTimeout pending])
  | waiting (hPhase : h.phase = .init) (hAll : establishedAll p env h = false)
      (hEarly : Double.sub env.phaseSec h.stampBoot < p.initTimeout) : Phased ((h, false), [])

/-- The phase's update does one of these. -/
theorem markedPhase_spec : Phased p env h (markedPhase p env h) := by
  unfold markedPhase
  dsimp only
  split
  · rename_i hPhase
    split_ifs with hRecovered
    · simp only [Bool.and_eq_true] at hRecovered
      exact .recovered hPhase hRecovered.1 (by simpa [establishedAll] using hRecovered.2)
    · refine .running hPhase ?_
      cases hFailed : h.isInitFailed with
      | false => exact .inl rfl
      | true => exact .inr (by simpa [establishedAll, hFailed] using hRecovered)
  · rename_i hPhase
    split_ifs with hDone hLate
    · exact .done hPhase hDone
    · exact .timeout _ hPhase (Bool.eq_false_iff.mpr hDone) hLate
    · exact .waiting hPhase (Bool.eq_false_iff.mpr hDone) (not_le.mp hLate)

end Phase

def after (cfg : Config) (p : Param) (h : Handler) (e : Event) : Handler := (next cfg p h e).1

def marks (p : Param) (h : Handler) : Event → List Mark
  | .take _ => []
  | .tick env => (markedPhase p env h).2

/-- A tick that finds every required input established. -/
def Establishes (p : Param) (h : Handler) : Event → Prop
  | .take _ => False
  | .tick env => establishedAll p env h = true

/-- A tick at least `init_timeout` after boot. -/
def TimesOut (p : Param) (boot : ℚ) : Event → Prop
  | .take _ => False
  | .tick env => p.initTimeout ≤ Double.sub env.phaseSec boot

section Frame
variable (cfg : Config) (p : Param) (env : Env) (h : Handler)

/-- A take leaves the phase and its clock alone. -/
theorem take_startUp (input : Input) : (take cfg p h input).1.phase = h.phase ∧
    (take cfg p h input).1.isInitFailed = h.isInitFailed ∧
      (take cfg p h input).1.stampBoot = h.stampBoot := by
  cases input with
  | operationModeAvailability =>
      simp only [take, onOperationModeAvailability]
      split_ifs <;> exact ⟨rfl, rfl, rfl⟩
  | _ => exact ⟨rfl, rfl, rfl⟩

/-- Past `updatePhase`, a tick leaves the lifecycle alone. -/
theorem onTimer_startUp : (onTimer cfg p env h).1.phase = (updatePhase p env h).1.phase ∧
    (onTimer cfg p env h).1.isInitFailed = (updatePhase p env h).1.isInitFailed ∧
      (onTimer cfg p env h).1.stampBoot = (updatePhase p env h).1.stampBoot := by
  cases hRun : (updatePhase p env h).2 with
  | false =>
      rw [onTimer_of_init hRun]
      exact ⟨rfl, rfl, rfl⟩
  | true =>
      obtain ⟨takeover, hRespond⟩ := respond_eq p env (entering p env h) cfg
      have hTick : (onTimer cfg p env h).1 = (respond cfg p env (entering p env h)).1 := by
        rw [onTimer_of_run hRun]
        rfl
      rw [hTick, hRespond]
      simp only [entering, judged, checkOperationModeAvailabilityTimeout, setMrmState_phase,
        setMrmState_isInitFailed, setMrmState_stampBoot, setTakeover_phase,
        setTakeover_isInitFailed, setTakeover_stampBoot, and_self]

end Frame

/-- `INIT` ends with such a tick. -/
def EndsInit (p : Param) (boot : ℚ) (h : Handler) (e : Event) : Prop :=
  Establishes p h e ∨ TimesOut p boot e

section Run
variable (cfg : Config) (p : Param) (boot : ℚ) (es : List Event)

/-- The handler after the events of a run from boot. -/
def ran : Handler := follow (after cfg p) (construct boot) es

/-- Some tick of the run found every required input established. -/
def HasEstablished : Prop := SomeAlong (after cfg p) (Establishes p) (construct boot) es

/-- Some tick of the run was one to leave `INIT` by. -/
def HasEnded : Prop := SomeAlong (after cfg p) (EndsInit p boot) (construct boot) es

/-- Every marker of the run, in order. -/
def marked : List Mark := emitAlong (after cfg p) (marks p) (construct boot) es

/-- Where the lifecycle stands after a run. -/
structure Stands : Prop where
  stamp : (ran cfg p boot es).stampBoot = boot
  phase : (ran cfg p boot es).phase = .run ↔ HasEnded cfg p boot es
  waits : (ran cfg p boot es).phase = .init → ¬ HasEstablished cfg p boot es
  failed : (ran cfg p boot es).isInitFailed = true ↔
    (ran cfg p boot es).phase = .run ∧ ¬ HasEstablished cfg p boot es
  ends : (marked cfg p boot es).countP Mark.endsInit =
    if (ran cfg p boot es).phase = .run then 1 else 0
  armed : HasEstablished cfg p boot es → (marked cfg p boot es).countP Mark.isArmed = 1
  unarmed : ¬ HasEstablished cfg p boot es → (marked cfg p boot es).countP Mark.isArmed = 0

variable (e : Event)

theorem ran_append : ran cfg p boot (es ++ [e]) = after cfg p (ran cfg p boot es) e :=
  follow_append _ _ es e

theorem hasEstablished_append : HasEstablished cfg p boot (es ++ [e]) ↔
    HasEstablished cfg p boot es ∨ Establishes p (ran cfg p boot es) e :=
  someAlong_append es e

theorem hasEnded_append : HasEnded cfg p boot (es ++ [e]) ↔
    HasEnded cfg p boot es ∨ EndsInit p boot (ran cfg p boot es) e :=
  someAlong_append es e

theorem marked_append : marked cfg p boot (es ++ [e]) =
    marked cfg p boot es ++ marks p (ran cfg p boot es) e :=
  emitAlong_append es e

theorem stands_nil : Stands cfg p boot [] where
  stamp := rfl
  phase := ⟨nofun, False.elim⟩
  waits _ := id
  failed := ⟨nofun, fun h => nomatch h.1⟩
  ends := rfl
  armed := False.elim
  unarmed _ := rfl

variable {cfg p boot es}

/-- A take is no step of the start-up. -/
theorem stands_take (input : Input) (hStands : Stands cfg p boot es) :
    Stands cfg p boot (es ++ [.take input]) := by
  obtain ⟨hPhase, hFailed, hBoot⟩ := take_startUp cfg p (ran cfg p boot es) input
  have hRan : ran cfg p boot (es ++ [.take input]) = (take cfg p (ran cfg p boot es) input).1 :=
    ran_append cfg p boot es _
  have hMarked : marked cfg p boot (es ++ [.take input]) = marked cfg p boot es := by
    rw [marked_append]
    exact List.append_nil _
  have hEstablished : HasEstablished cfg p boot (es ++ [.take input]) ↔
      HasEstablished cfg p boot es := by
    rw [hasEstablished_append]
    exact or_iff_left id
  have hEnded : HasEnded cfg p boot (es ++ [.take input]) ↔ HasEnded cfg p boot es := by
    rw [hasEnded_append]
    exact or_iff_left (Or.rec id id)
  constructor
  · rw [hRan, hBoot]
    exact hStands.stamp
  · rw [hRan, hPhase, hEnded]
    exact hStands.phase
  · rw [hRan, hPhase, hEstablished]
    exact hStands.waits
  · rw [hRan, hPhase, hFailed, hEstablished]
    exact hStands.failed
  · rw [hRan, hPhase, hMarked]
    exact hStands.ends
  · rw [hMarked, hEstablished]
    exact hStands.armed
  · rw [hMarked, hEstablished]
    exact hStands.unarmed

/-- A tick keeps the account of the start-up. -/
theorem stands_tick (env : Env) (hStands : Stands cfg p boot es) :
    Stands cfg p boot (es ++ [.tick env]) := by
  have hRan : ran cfg p boot (es ++ [.tick env]) = (onTimer cfg p env (ran cfg p boot es)).1 :=
    ran_append cfg p boot es _
  obtain ⟨hPhase, hFailed, hBoot⟩ := onTimer_startUp cfg p env (ran cfg p boot es)
  rw [← hRan] at hPhase hFailed hBoot
  have hMarked : marked cfg p boot (es ++ [.tick env]) =
      marked cfg p boot es ++ (markedPhase p env (ran cfg p boot es)).2 := marked_append ..
  have hEstablished : HasEstablished cfg p boot (es ++ [.tick env]) ↔
      HasEstablished cfg p boot es ∨ establishedAll p env (ran cfg p boot es) = true :=
    hasEstablished_append ..
  have hEnded : HasEnded cfg p boot (es ++ [.tick env]) ↔ HasEnded cfg p boot es ∨
      (establishedAll p env (ran cfg p boot es) = true ∨ p.initTimeout ≤ Double.sub env.phaseSec boot) :=
    hasEnded_append ..
  have hSpec := markedPhase_spec p env (ran cfg p boot es)
  rw [← markedPhase_fst] at hPhase hFailed hBoot
  obtain ⟨hStamp, hRun, hWaits, hInit, hEnds, hArmed, hUnarmed⟩ := hStands
  generalize ran cfg p boot es = h at *
  generalize markedPhase p env h = r at *
  cases hSpec with
  | recovered hOld hWas hAll =>
      have hNever : ¬ HasEstablished cfg p boot es := (hInit.mp hWas).2
      have hNow : HasEstablished cfg p boot (es ++ [.tick env]) := hEstablished.mpr (.inr hAll)
      refine ⟨hBoot.trans hStamp, ?_, ?_, ?_, ?_, ?_, ?_⟩
      · simp [hPhase, armContractMonitors, hOld, hEnded, hRun.mp hOld]
      · simp [hPhase, armContractMonitors, hOld]
      · simp [hFailed, armContractMonitors, hNow]
      · simpa [hPhase, armContractMonitors, hOld, hMarked, Mark.endsInit] using hEnds
      · simp [hMarked, hUnarmed hNever, Mark.isArmed]
      · exact fun hNot => absurd hNow hNot
  | running hOld hWhy =>
      have hSame : HasEstablished cfg p boot (es ++ [.tick env]) ↔
          HasEstablished cfg p boot es := by
        rw [hEstablished]
        refine or_iff_left_of_imp fun hAll => ?_
        rcases hWhy with hCleared | hNone
        · by_contra hNever
          simp [hInit.mpr ⟨hOld, hNever⟩] at hCleared
        · simp [hNone] at hAll
      refine ⟨hBoot.trans hStamp, ?_, ?_, ?_, ?_, ?_, ?_⟩
      · simp [hPhase, hOld, hEnded, hRun.mp hOld]
      · simp [hPhase, hOld]
      · rw [hFailed, hPhase, hSame]
        exact hInit
      · simpa [hPhase, hMarked] using hEnds
      · simpa [hMarked, hSame] using hArmed
      · simpa [hMarked, hSame] using hUnarmed
  | done hOld hAll =>
      have hNever := hWaits hOld
      have hNow : HasEstablished cfg p boot (es ++ [.tick env]) := hEstablished.mpr (.inr hAll)
      refine ⟨hBoot.trans hStamp, ?_, ?_, ?_, ?_, ?_, ?_⟩
      · simp [hPhase, armContractMonitors, hEnded, hAll]
      · simp [hPhase, armContractMonitors]
      · have hWas : ¬ h.isInitFailed = true := by
          rw [hInit, hOld]
          exact fun hRunning => Phase.noConfusion hRunning.1
        simp [hFailed, armContractMonitors, hNow, hWas]
      · simp [hPhase, armContractMonitors, hMarked, hEnds, hOld, Mark.endsInit, List.countP_cons]
      · simp [hMarked, hUnarmed hNever, Mark.isArmed, List.countP_cons]
      · exact fun hNot => absurd hNow hNot
  | timeout pending hOld hNone hLate =>
      have hNever : ¬ HasEstablished cfg p boot (es ++ [.tick env]) := by
        simp [hEstablished, hWaits hOld, hNone]
      refine ⟨hBoot.trans hStamp, ?_, ?_, ?_, ?_, ?_, ?_⟩
      · rw [hStamp] at hLate
        simp [hPhase, hEnded, hLate]
      · simp [hPhase]
      · simp [hFailed, hPhase, hNever]
      · simp [hPhase, hMarked, hEnds, hOld, Mark.endsInit]
      · exact fun hNow => absurd hNow hNever
      · simp [hMarked, hUnarmed (hWaits hOld), Mark.isArmed]
  | waiting hOld hNone hEarly =>
      have hNever : ¬ HasEstablished cfg p boot (es ++ [.tick env]) := by
        simp [hEstablished, hWaits hOld, hNone]
      have hNotEnded : ¬ HasEnded cfg p boot es := fun hWas => by simp [hRun.mpr hWas] at hOld
      refine ⟨hBoot.trans hStamp, ?_, ?_, ?_, ?_, ?_, ?_⟩
      · rw [hStamp] at hEarly
        simp [hPhase, hOld, hEnded, hNotEnded, hNone, hEarly]
      · exact fun _ => hNever
      · have hWas : ¬ h.isInitFailed = true := fun hWas => by simp [(hInit.mp hWas).1] at hOld
        simp [hFailed, hPhase, hOld, hWas]
      · simpa [hPhase, hMarked] using hEnds
      · exact fun hNow => absurd hNow hNever
      · simp [hMarked, hUnarmed (hWaits hOld)]

/-- The account holds after any run. -/
theorem stands (cfg : Config) (p : Param) (boot : ℚ) (es : List Event) : Stands cfg p boot es := by
  induction es using List.reverseRecOn with
  | nil => exact stands_nil cfg p boot
  | append_singleton es e ih =>
      cases e with
      | take input => exact stands_take input ih
      | tick env => exact stands_tick env ih

/-- What a tick decides on carries the init failure the tick ends with. -/
theorem entering_isInitFailed (env : Env) :
    (entering p env (ran cfg p boot es)).isInitFailed =
      (ran cfg p boot (es ++ [.tick env])).isInitFailed := by
  rw [ran_append]
  exact (onTimer_startUp cfg p env (ran cfg p boot es)).2.1.symm

/-- The monitors are armed at the first tick that finds every input established.
-/
theorem arms_iff (env : Env) (hStands : Stands cfg p boot es) :
    (∃ via, .armed via ∈ (markedPhase p env (ran cfg p boot es)).2) ↔
      establishedAll p env (ran cfg p boot es) = true ∧ ¬ HasEstablished cfg p boot es := by
  have hSpec := markedPhase_spec p env (ran cfg p boot es)
  obtain ⟨-, -, hWaits, hInit, -, -, -⟩ := hStands
  generalize ran cfg p boot es = h at *
  generalize markedPhase p env h = r at *
  cases hSpec with
  | recovered hOld hWas hAll => simp [hAll, (hInit.mp hWas).2]
  | running hOld hWhy =>
      rcases hWhy with hCleared | hNone
      · have hHas : HasEstablished cfg p boot es := by
          by_contra hNever
          simp [hInit.mpr ⟨hOld, hNever⟩] at hCleared
        simp [hHas]
      · simp [hNone]
  | done hOld hAll => simp [hAll, hWaits hOld]
  | timeout pending hOld hNone => simp [hNone]
  | waiting hOld hNone => simp [hNone]

end Run
end SafetyIsland.Handler
