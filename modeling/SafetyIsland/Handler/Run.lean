import SafetyIsland.General.Reaches
import SafetyIsland.Handler.Requests

/-! The handler as a machine of takes and ticks, and what it reports: the
table of the states and behaviors that ever go out. -/
namespace SafetyIsland.Handler

open MrmState Transition

/-- A take, or the timer with what it reads. -/
inductive Event where
  | take (input : Input)
  | tick (env : Env)

/-- The handler after one event, and what it did. -/
def next (cfg : Config) (p : Param) (h : Handler) : Event → Handler × List Effect
  | .take input => take cfg p h input
  | .tick env => onTimer cfg p env h

/-- A publish on one of the handler's own topics. -/
def Effect.isPublish : Effect → Bool
  | .mrmState _ | .takeoverRequestState _ | .hazardLightsCmd _ => true
  | _ => false

/-- The handler a RUN tick decides on. -/
def entering (p : Param) (env : Env) (h : Handler) : Handler := judged p env (updatePhase p env h).1

section Frame
variable (cfg : Config) (p : Param) (env : Env) (h : Handler)

@[simp] theorem take_mrmState (input : Input) : (take cfg p h input).1.mrmState = h.mrmState := by
  cases input with
  | operationModeAvailability =>
      simp only [take, onOperationModeAvailability]
      split_ifs <;> rfl
  | _ => rfl

/-- A take publishes nothing. -/
theorem take_effects (input : Input) : ∀ e ∈ (take cfg p h input).2, e.isPublish = false := by
  cases input with
  | operationModeAvailability =>
      simp only [take, onOperationModeAvailability]
      split_ifs <;> simp [Effect.isPublish]
  | odometry => simp [take, onOdometry, Effect.isPublish]
  | _ => simp [take]

@[simp] theorem updatePhase_mrmState : (updatePhase p env h).1.mrmState = h.mrmState := by
  unfold updatePhase
  dsimp only
  split <;> split_ifs <;> rfl

/-- The tick goes on exactly in the RUN phase. -/
theorem updatePhase_run : (updatePhase p env h).2 = true ↔ (updatePhase p env h).1.phase = .run := by
  unfold updatePhase armContractMonitors
  dsimp only
  split <;> split_ifs <;> simp_all

variable {cfg p env h} in
/-- In RUN the tick goes on from what `updatePhase` leaves. -/
theorem onTimer_of_run (hRun : (updatePhase p env h).2 = true) :
    onTimer cfg p env h = runTick cfg p env (judged p env (updatePhase p env h).1) := by
  simp [onTimer, hRun]

variable {cfg p env h} in
/-- In INIT it stays silent. -/
theorem onTimer_of_init (hInit : (updatePhase p env h).2 = false) :
    onTimer cfg p env h = ((updatePhase p env h).1, []) := by
  simp [onTimer, hInit]

@[simp] theorem judged_mrmState : (judged p env h).mrmState = h.mrmState := rfl

@[simp] theorem judged_phase : (judged p env h).phase = h.phase := rfl

@[simp] theorem entering_mrmState : (entering p env h).mrmState = h.mrmState :=
  updatePhase_mrmState p env h

@[simp] theorem judged_isSupervisorLatched : (judged p env h).isSupervisorLatched = env.latched :=
  rfl

theorem requestMrmBehavior_effects (o : Outcome) (behavior : Behavior) (type : RequestType) :
    ∀ e ∈ (requestMrmBehavior cfg o behavior type).1, e.isPublish = false := by
  unfold requestMrmBehavior
  cases o.serialized <;> cases o.sent <;> cases behavior <;> cases type <;>
    simp [Effect.isPublish]

/-- Operating an MRM publishes nothing. -/
theorem operateMrm_effects : ∀ e ∈ (operateMrm cfg p env h).2, e.isPublish = false := by
  have hRequest := requestMrmBehavior_effects cfg
  have hSpec := operateMrm_spec cfg p env h
  generalize operateMrm cfg p env h = r at hSpec ⊢
  cases hSpec with
  | kept => simp
  | released => exact hRequest _ _ _
  | refused => exact List.forall_mem_append.mpr ⟨hRequest _ _ _, hRequest _ _ _⟩
  | exchanged => exact List.forall_mem_append.mpr ⟨hRequest _ _ _, hRequest _ _ _⟩
  | uncalled =>
      exact List.forall_mem_append.mpr
        ⟨List.forall_mem_append.mpr ⟨hRequest _ _ _, hRequest _ _ _⟩, hRequest _ _ _⟩

/-- Updating the state publishes nothing. -/
theorem updateMrmState_effects : ∀ e ∈ (updateMrmState p env h).2, e.isPublish = false := by
  have hSpec := updateMrmState_spec p env h
  generalize updateMrmState p env h = r at hSpec ⊢
  cases hSpec with
  | stopped => cases h.mrmState.behavior <;> simp [standstillDone, Effect.isPublish]
  | _ => simp

end Frame

theorem respond_effects (cfg : Config) (p : Param) (env : Env) (h : Handler) :
    ∀ e ∈ (respond cfg p env h).2, e.isPublish = false :=
  List.forall_mem_append.mpr ⟨updateMrmState_effects p env h, operateMrm_effects cfg p env _⟩

section Announce
variable {cfg : Config} {p : Param} {env : Env} {h : Handler} {m : MrmState}

/-- The one `mrm_state` of a tick is the state the tick ends in. -/
theorem announce_mrmState (hEffect : .mrmState m ∈ announce p env h) : m = h.mrmState := by
  simp only [announce, List.mem_append] at hEffect
  rcases hEffect with (((hState | hTakeover) | hDone) | hHazard) | hHandover
  · unfold publishMrmState at hState
    split_ifs at hState
    · simp at hState
    · simpa using hState
  · simp [publishTakeoverRequestState] at hTakeover
  · split_ifs at hDone <;> simp at hDone
  · unfold publishHazardCmd at hHazard
    split_ifs at hHazard <;> simp at hHazard
  · split_ifs at hHandover <;> simp at hHandover

/-- What a tick publishes is the state it ends in. -/
theorem runTick_mrmState (hEffect : .mrmState m ∈ (runTick cfg p env h).2) :
    m = (runTick cfg p env h).1.mrmState := by
  rcases List.mem_append.mp hEffect with hMem | hMem
  · exact absurd (respond_effects cfg p env h _ hMem) (by simp [Effect.isPublish])
  · exact announce_mrmState hMem

@[simp] theorem runTick_isSupervisorLatched :
    (runTick cfg p env h).1.isSupervisorLatched = h.isSupervisorLatched := by
  obtain ⟨takeover, hTick⟩ := respond_eq p env h cfg
  rw [runTick, hTick]
  rfl

@[simp] theorem runTick_isStopped : (runTick cfg p env h).1.isStopped = h.isStopped := by
  obtain ⟨takeover, hTick⟩ := respond_eq p env h cfg
  rw [runTick, hTick]
  rfl

@[simp] theorem runTick_phase : (runTick cfg p env h).1.phase = h.phase := by
  obtain ⟨takeover, hTick⟩ := respond_eq p env h cfg
  rw [runTick, hTick]
  rfl

/-- Unless the direct path has the slot, the tick publishes it. -/
theorem runTick_publishes (hOwner : h.isSupervisorLatched = true → env.resumedAtState = false) :
    .mrmState (runTick cfg p env h).1.mrmState ∈ (runTick cfg p env h).2 := by
  have hPublish : publishMrmState env (runTick cfg p env h).1 =
      [.mrmState (runTick cfg p env h).1.mrmState] := by
    unfold publishMrmState
    rw [runTick_isSupervisorLatched]
    cases hLatched : h.isSupervisorLatched with
    | false => simp
    | true => simp [hOwner hLatched]
  refine List.mem_append_right _ ?_
  have hMem : .mrmState (runTick cfg p env h).1.mrmState ∈
      publishMrmState env (runTick cfg p env h).1 := by
    rw [hPublish]
    exact List.mem_cons_self
  exact List.mem_append_left _ <| List.mem_append_left _ <| List.mem_append_left _ <|
    List.mem_append_left _ hMem

end Announce

/-- An effect on no operator and on none of their routes. -/
def Effect.Quiet : Effect → Prop
  | .request _ _ _ => False
  | .arm _ route _ | .done route => route = 0
  | _ => True

section Quiet
variable {cfg : Config} {p : Param} {env : Env} {h : Handler}

/-- A count that quiet effects leave alone is left alone by all of them. -/
theorem foldl_quiet {β : Type*} {count : β → Effect → β}
    (hCount : ∀ b e, e.Quiet → count b e = b) {effects : List Effect}
    (hQuiet : ∀ e ∈ effects, e.Quiet) (b : β) : effects.foldl count b = b := by
  induction effects with
  | nil => rfl
  | cons e rest ih =>
      obtain ⟨hHead, hRest⟩ := List.forall_mem_cons.mp hQuiet
      rw [List.foldl_cons, hCount b e hHead, ih hRest]

/-- A sample sends no request and publishes nothing. -/
theorem take_quiet {input : Input} : ∀ e ∈ (take cfg p h input).2, e.Quiet := by
  cases input with
  | operationModeAvailability =>
      simp only [take, onOperationModeAvailability]
      split_ifs <;> simp [Effect.Quiet]
  | odometry => simp [take, onOdometry, Effect.Quiet]
  | _ => simp [take]

/-- A tick's requests are in its response alone. -/
theorem announce_quiet : ∀ e ∈ announce p env h, e.Quiet := by
  intro e hEffect
  simp only [announce, List.mem_append] at hEffect
  rcases hEffect with (((hState | hTakeover) | hDone) | hHazard) | hHandover
  · unfold publishMrmState at hState
    split_ifs at hState <;> simp_all [Effect.Quiet]
  · simp_all [publishTakeoverRequestState, Effect.Quiet]
  · split_ifs at hDone <;> simp_all [Effect.Quiet]
  · unfold publishHazardCmd at hHazard
    split_ifs at hHazard <;> simp_all [Effect.Quiet]
  · split_ifs at hHandover <;> simp_all [Effect.Quiet]

end Quiet

/-- What `mrm_state` may carry: normal, an MRM under way or ended, or failed
under the emergency stop. -/
def Reported (m : MrmState) : Prop :=
  m = { state := .normal, behavior := .none } ∨
  (m.state = .mrmOperating ∨ m.state = .mrmSucceeded) ∧
    (m.behavior = .comfortableStop ∨ m.behavior = .emergencyStop) ∨
  m = { state := .mrmFailed, behavior := .emergencyStop }

instance (m : MrmState) : Decidable (Reported m) := by
  unfold Reported
  infer_instance

/-- In NORMAL no behavior is named. -/
theorem Reported.idle {m : MrmState} (hReported : Reported m) (hState : m.state = .normal) :
    m = { state := .normal, behavior := .none } := by
  rcases hReported with hM | ⟨hOther, -⟩ | hM
  · exact hM
  · simp [hState] at hOther
  · simp [hM] at hState

/-- Between the state machine and the requests the behavior may lag behind. -/
def Lagging (m : MrmState) : Prop :=
  m.behavior ≠ .pullOver ∧ (m.state = .mrmSucceeded → m.behavior ≠ .none) ∧
    (m.state = .mrmFailed → m.behavior = .emergencyStop)

/-- A state that the update has just changed may still name the old behavior. -/
theorem Reported.lagging {m : MrmState} (hReported : Reported m) (state : State)
    (hSucceeded : state = .mrmSucceeded → m.behavior ≠ .none)
    (hFailed : state = .mrmFailed → m.behavior = .emergencyStop) :
    Lagging { m with state := state } := by
  refine ⟨?_, hSucceeded, hFailed⟩
  rcases hReported with rfl | ⟨-, hBehavior | hBehavior⟩ | rfl <;> simp_all

theorem Reported.lagging_self {m : MrmState} (hReported : Reported m) : Lagging m := by
  obtain ⟨state, behavior⟩ := m
  cases state <;> cases behavior <;> simp_all [Reported, Lagging]

section Table
variable {cfg : Config} {p : Param} {env : Env} {h : Handler}

/-- The update leaves at most the behavior behind the state. -/
theorem updateMrmState_lagging (hReported : Reported h.mrmState) :
    Lagging (updateMrmState p env h).1.mrmState := by
  have hSpec := updateMrmState_spec p env h
  generalize updateMrmState p env h = r at hSpec ⊢
  have hSame := hReported.lagging_self
  cases hSpec with
  | fault => simp [Lagging]
  | calm => exact hReported.lagging .normal nofun nofun
  | waiting => exact hSame
  | started => exact hReported.lagging .mrmOperating nofun nofun
  | moving => exact hSame
  | stopped hState =>
      refine hReported.lagging .mrmSucceeded (fun _ hNone => ?_) nofun
      rcases hReported with hM | ⟨-, hB⟩ | hM <;> simp_all
  | pulledOver hBehavior => exact absurd hBehavior hSame.1
  | rested => exact hSame
  | resumed => exact hReported.lagging .mrmOperating nofun nofun
  | failed => exact hSame

/-- Which `operateMrm` then catches up with. -/
theorem operateMrm_reported (hLagging : Lagging h.mrmState) :
    Reported (operateMrm cfg p env h).1.mrmState := by
  have hEmergency (o : Outcome) : Reported (handleFailedRequest cfg o h).1.mrmState := by
    rw [handleFailedRequest_fst]
    simp only [setMrmState_mrmState]
    split_ifs <;> decide
  have hSpec := operateMrm_spec cfg p env h
  generalize operateMrm cfg p env h = r at hSpec ⊢
  cases hSpec with
  | kept hIdle hCurrent =>
      have hNone := getCurrentMrmBehavior_ne_none p h
      obtain ⟨hPull, hSucceeded, hFailed⟩ := hLagging
      rw [Reported]
      cases hM : h.mrmState with
      | mk state behavior =>
          simp only [hM] at hIdle hCurrent hPull hSucceeded hFailed
          cases state <;> cases behavior <;> simp_all
  | released hState =>
      exact .inl (by simp [setBehavior, hState])
  | refused => exact hEmergency _
  | exchanged hState hOther hCancel hCall =>
      have hNone := getCurrentMrmBehavior_ne_none p h
      have hPull : h.getCurrentMrmBehavior p ≠ .pullOver := by
        intro hPull
        rw [callCurrent, hPull, requestMrmBehavior_pullOver] at hCall
        exact absurd hCall (by decide)
      refine .inr (.inl ⟨.inl hState, ?_⟩)
      cases hB : h.getCurrentMrmBehavior p <;> simp_all [setBehavior]
  | uncalled => exact hEmergency _

/-- So a tick ends in a state of the table. -/
theorem runTick_reported (hReported : Reported h.mrmState) :
    Reported (runTick cfg p env h).1.mrmState :=
  operateMrm_reported (updateMrmState_lagging hReported)

/-- A tick ends in the table, whatever it read. -/
theorem next_reported (e : Event) (hReported : Reported h.mrmState) :
    Reported (next cfg p h e).1.mrmState := by
  cases e with
  | take input => simpa [next] using hReported
  | tick env =>
      unfold next onTimer
      dsimp only
      split_ifs
      · simpa using hReported
      · exact runTick_reported (by simpa using hReported)

/-- The states the handler reaches from its construction, whatever it takes
and reads. -/
theorem reported_of_reaches {boot : ℚ}
    (run : Reaches (fun h e => (next cfg p h e).1) (fun _ _ => True) (construct boot) h) :
    Reported h.mrmState := by
  induction run with
  | refl => exact .inl rfl
  | step prior last ih => exact next_reported _ ih

/-- What the handler publishes: nothing before RUN, and `mrm_state` only as in
the table. Its takes publish nothing. -/
theorem published_in_table (cfg : Config) (p : Param) {boot : ℚ}
    (run : Reaches (fun h e => (next cfg p h e).1) (fun _ _ => True) (construct boot) h)
    (e : Event) (x : Effect) (hEffect : x ∈ (next cfg p h e).2) (hPublish : x.isPublish = true) :
    (∃ env, e = .tick env) ∧ (next cfg p h e).1.phase = .run ∧
      ∀ m, x = .mrmState m → Reported m := by
  have hReported : Reported (next cfg p h e).1.mrmState :=
    next_reported e (reported_of_reaches run)
  cases e with
  | take input => simp [take_effects cfg p h input x hEffect] at hPublish
  | tick env =>
      refine ⟨⟨env, rfl⟩, ?_⟩
      unfold next onTimer at hEffect hReported ⊢
      dsimp only at hEffect hReported ⊢
      split_ifs at hEffect hReported ⊢ with hSilent
      · simp at hEffect
      · have hRun : (updatePhase p env h).1.phase = .run :=
          (updatePhase_run p env h).mp (by simpa using hSilent)
        refine ⟨by rw [runTick_phase]; exact hRun, ?_⟩
        rintro m rfl
        rw [runTick_mrmState hEffect]
        exact hReported

/-- Every reading at `sec`, nothing latched, every request sent. -/
def Env.plain (ms : Int) : Env :=
  let sec := nowSec (ms * 1000000)
  let sent : Outcome := { serialized := true, sent := true, callMs := 0, armMs := 0 }
  { establishedSec := sec, phaseSec := sec, timeoutSec := sec, takeoverSec := sec,
    monitorsMs := 1, latched := false, vehicleFault := false, resumedAtState := false,
    resumedAtHazard := false, first := sent, second := sent, third := sent, handoverMs := 0 }

/-- Every required input at boot and again at `ms`, in the mode STOP. -/
def establishAt (ms : Int) (msg : OperationModeAvailability) : List Event :=
  let sec := nowSec (ms * 1000000)
  [.take (.operationModeAvailability msg 0 0 0 0 0), .take (.comfortableStopStatus 1 0),
    .take (.emergencyStopStatus 1 0), .take (.operationModeState 1),
    .take (.operationModeAvailability msg sec 0 0 0 0), .take (.comfortableStopStatus 1 sec),
    .take (.emergencyStopStatus 1 sec)]

def establish (msg : OperationModeAvailability) : List Event := establishAt 100 msg

theorem published_in_table_establish :
    (∃ env, Event.tick (.plain 200) = .tick env) ∧
      (next Config.image .declared (follow (fun h e => (next Config.image .declared h e).1)
        (construct 0) (establish { stop := true })) (.tick (.plain 200))).1.phase = .run ∧
      ∀ m, Effect.mrmState { state := .normal, behavior := .none } = .mrmState m → Reported m :=
  published_in_table Config.image .declared
    (reaches_follow (establish { stop := true }) (by decide)) (.tick (.plain 200))
    (.mrmState { state := .normal, behavior := .none }) (by decide +kernel) (by decide)

end Table
end SafetyIsland.Handler
