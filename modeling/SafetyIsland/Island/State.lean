import SafetyIsland.Handler.Run
import SafetyIsland.Supervisor.Run

/-! The handler on its spin thread over the supervisor. A take or a tick
decides on what it reads and then acts, one effect at a time; passes of the
reaction thread, interrupts and the other components run between any two of
its steps. -/
namespace SafetyIsland

/-- Where the handler's callback is. -/
inductive Callback where
  /-- The tick has read the latch and is about to decide. -/
  | judging (env : Handler.Env)
  /-- What the callback still has to do; nothing outside one. -/
  | acting (effects : List Handler.Effect)

structure Island where
  handler : Handler
  supervisor : Supervisor := {}
  callback : Callback := .acting []

namespace Handler

/-- The call an effect makes to the supervisor. -/
def Effect.call : Effect → Option Supervisor.Event
  | .arm now route due => some (.arm now route due)
  | .done route => some (.done route)
  | .noteSpeed now speedMmS => some (.noteSpeed now speedMmS)
  | .handover now slot periodMs => some (.handover now slot periodMs)
  | .request _ _ _ | .mrmState _ | .takeoverRequestState _ | .hazardLightsCmd _ => none

end Handler

namespace Island
open Handler (Effect Env Input Param)

def serve (cfg : Config) (s : Supervisor) (e : Effect) : Supervisor :=
  match e.call with
  | some call => Supervisor.next cfg s call
  | none => s

/-- One step of the composition. -/
inductive Event where
  | take (input : Input)
  | tick (env : Env)
  | decide
  | act
  | supervisor (e : Supervisor.Event)

/-- A tick begins: it reads the latch, unless it stays silent. -/
def beginTick (p : Param) (env : Env) (i : Island) : Island :=
  let phase := Handler.updatePhase p env i.handler
  let env := { env with latched := i.supervisor.latch.latched }
  if !phase.2 then { i with handler := phase.1 }
  else { i with handler := Handler.judged p env phase.1, callback := .judging env }

/-- The tick reads the fault. Whether its slot was resumed it will only read
where it publishes. -/
def readFault (s : Supervisor) (env : Env) : Env :=
  { env with
    vehicleFault := s.fault.vehicleFault, resumedAtState := false, resumedAtHazard := false }

/-- The tick decides, on the fault as it reads it now. -/
def decideTick (cfg : Config) (p : Param) (env : Env) (i : Island) : Island :=
  let r := Handler.runTick cfg p (readFault i.supervisor env) i.handler
  { i with handler := r.1, callback := .acting r.2 }

def beginTake (cfg : Config) (p : Param) (input : Input) (i : Island) : Island :=
  let r := Handler.take cfg p i.handler input
  { i with handler := r.1, callback := .acting r.2 }

/-- The island after one step. A step that the callback is not at does
nothing. -/
def next (cfg : Config) (p : Param) (i : Island) : Event → Island
  | .take input =>
      match i.callback with
      | .acting [] => beginTake cfg p input i
      | _ => i
  | .tick env =>
      match i.callback with
      | .acting [] => beginTick p env i
      | _ => i
  | .decide =>
      match i.callback with
      | .judging env => decideTick cfg p env i
      | .acting _ => i
  | .act =>
      match i.callback with
      | .acting (e :: rest) =>
          { i with supervisor := serve cfg i.supervisor e, callback := .acting rest }
      | _ => i
  | .supervisor e => { i with supervisor := Supervisor.next cfg i.supervisor e }

def Idle (i : Island) : Prop := i.callback = .acting []

instance (i : Island) : Decidable i.Idle :=
  match hCallback : i.callback with
  | .acting [] => isTrue hCallback
  | .acting (_ :: _) | .judging _ => isFalse (by simp [Idle, hCallback])

/-- What the callback under way still has to do to the world. -/
def pending (i : Island) : List Effect :=
  match i.callback with
  | .judging _ => []
  | .acting effects => effects

/-- A publish that goes out: `mrm_state` and the hazard lights only while the
direct path has not resumed the slot. -/
def goesOut (i : Island) : Effect → Bool
  | .mrmState _ | .hazardLightsCmd _ =>
      !(i.handler.isSupervisorLatched && i.supervisor.resumedSlot .handler)
  | .takeoverRequestState _ => true
  | _ => false

/-- What a step publishes for the handler: its own callback, or its direct
path on the reaction thread. -/
def published (cfg : Config) (i : Island) : Event → List Effect
  | .act => (i.pending.take 1).filter i.goesOut
  | .supervisor (.pass pass) =>
      let r := Supervisor.pass cfg pass i.supervisor
      r.2.flatMap fun call =>
        if call.slot = .handler then Handler.directEmergency r.1.fault.vehicleFault else []
  | _ => []

/-- The supervisor's other callers: they arm and clear no route by hand, and
the handler's samples and reports are the handler's. -/
def Foreign : Supervisor.Event → Prop
  | .arm _ _ _ | .done _ | .noteSpeed _ _ => False
  | .handover _ slot _ => slot ≠ 0
  | _ => True

instance (e : Supervisor.Event) : Decidable (Foreign e) :=
  match e with
  | .arm .. | .done .. | .noteSpeed .. | .handover .. => by unfold Foreign; infer_instance
  | .setDirect .. | .spin .. | .spinAfter .. | .timerExpiry | .swtTimeout | .hook .. | .pass .. =>
      isTrue trivial

/-- What an observer writes down of the handler and the supervisor. -/
structure History where
  /-- Route 3 was judged MET since the last emergency CALL began. -/
  floorMet : Bool := false
  /-- The last request that went out to each operator. -/
  lastSent : MrmState.Behavior → Option Handler.RequestType := fun _ => none
  /-- The vehicle fault stood when the last tick began. -/
  begunInFault : Bool := false

/-- The observer's note on one effect. An emergency CALL begins by arming
route 3, and nothing else does. -/
def History.noteEffect (h : History) : Effect → History
  | .arm _ route _ => if route = 3 then { h with floorMet := false } else h
  | .request behavior type sent =>
      if sent then { h with lastSent := Function.update h.lastSent behavior (some type) } else h
  | _ => h

/-- The pass counted a verdict MET on route 3. -/
def floorMetBy (cfg : Config) (s : Supervisor) (pass : Supervisor.Pass) : Bool :=
  (Supervisor.pass cfg pass s).1.floor.met != s.floor.met

def History.note (cfg : Config) (h : History) (i : Island) (e : Event) (_ : Island) : History :=
  match e with
  | .act => (i.pending.take 1).foldl History.noteEffect h
  | .tick _ =>
      match i.callback with
      | .acting [] => { h with begunInFault := i.supervisor.fault.vehicleFault }
      | _ => h
  | .supervisor (.pass pass) =>
      { h with floorMet := h.floorMet || floorMetBy cfg i.supervisor pass }
  | _ => h

abbrev World := Transition.Observed Island History

def World.boot (sec : ℚ) : World := { state := { handler := Handler.construct sec }, history := {} }

@[simp] theorem World.boot_mrmState (sec : ℚ) : (World.boot sec).state.handler.mrmState =
    { state := .normal, behavior := .none } := rfl

def World.step (cfg : Config) (p : Param) : World → Event → World :=
  Transition.observe (next cfg p) (History.note cfg)

/-- A step of the composition: the supervisor's other callers are foreign to
the handler. -/
def Composed : Event → Prop
  | .supervisor e => Foreign e
  | _ => True

instance (e : Event) : Decidable (Composed e) :=
  match e with
  | .supervisor .. => by unfold Composed; infer_instance
  | .take .. | .tick .. | .decide | .act => isTrue trivial

/-- Callbacks that nothing interrupts, in the steps of the island. No tick has
more than twelve effects. -/
def uninterrupted (events : List Handler.Event) : List Event :=
  events.flatMap fun
    | .take input => [.take input, .act]
    | .tick env => .tick env :: .decide :: List.replicate 12 .act

section Step
variable (cfg : Config) (p : Param) (i : Island)

/-- The supervisor's words, as a tick that nothing interrupts reads them. -/
def read (s : Supervisor) (env : Env) : Env :=
  { env with
    latched := s.latch.latched
    vehicleFault := s.fault.vehicleFault
    resumedAtState := s.resumedSlot .handler
    resumedAtHazard := s.resumedSlot .handler }

theorem goesOut_of_not_publish {e : Effect} (hSilent : e.isPublish = false) :
    i.goesOut e = false := by
  cases e <;> simp_all [goesOut, Effect.isPublish]

/-- What a tick announces clears routes, and reports the slot once latched. -/
theorem announce_calls (env : Env) (h : Handler) :
    (Handler.announce p env h).filterMap Effect.call =
      (if h.isAvailabilityTimeout then [.done 0] else []) ++
        if h.isSupervisorLatched then [.handover env.handoverMs 0 p.periodMs] else [] := by
  unfold Handler.announce Handler.publishMrmState Handler.publishTakeoverRequestState
    Handler.publishHazardCmd
  split_ifs <;> rfl

/-- Reading the resume where it publishes, a tick publishes what one that read
it at once does. -/
theorem announce_goesOut (env : Env) :
    (Handler.announce p { env with resumedAtState := false, resumedAtHazard := false }
        i.handler).filter i.goesOut =
      (Handler.announce p (read i.supervisor env) i.handler).filter Effect.isPublish := by
  unfold Handler.announce Handler.publishMrmState Handler.publishTakeoverRequestState
    Handler.publishHazardCmd
  cases hLatched : i.handler.isSupervisorLatched <;>
    cases hResumed : i.supervisor.resumedSlot .handler <;>
    cases i.handler.isAvailabilityTimeout <;>
    simp [List.filter_cons, goesOut, Effect.isPublish, read, hLatched, hResumed]

/-- A tick that nothing interrupts decides, calls the supervisor and publishes
as `onTimer` does with the supervisor's words. -/
theorem tick_decide (env : Env) (hIdle : i.Idle) :
    let timer := Handler.onTimer cfg p (read i.supervisor env) i.handler
    let after := next cfg p (next cfg p i (.tick env)) .decide
    after.handler = timer.1 ∧ after.supervisor = i.supervisor ∧
      after.pending.filterMap Effect.call = timer.2.filterMap Effect.call ∧
      after.pending.filter after.goesOut = timer.2.filter Effect.isPublish := by
  obtain ⟨handler, supervisor, callback⟩ := i
  obtain rfl : callback = .acting [] := hIdle
  cases hRun : (Handler.updatePhase p env handler).2 with
  | false =>
      have hTimer : Handler.onTimer cfg p (read supervisor env) handler =
          ((Handler.updatePhase p env handler).1, []) := Handler.onTimer_of_init hRun
      simp [next, beginTick, hRun, hTimer, pending]
  | true =>
      let judged := Handler.judged p (read supervisor env) (Handler.updatePhase p env handler).1
      let r := Handler.respond cfg p (read supervisor env) judged
      have hTimer : Handler.onTimer cfg p (read supervisor env) handler =
          (r.1, r.2 ++ Handler.announce p (read supervisor env) r.1) := Handler.onTimer_of_run hRun
      have hDecided : next cfg p (next cfg p ⟨handler, supervisor, .acting []⟩ (.tick env)) .decide =
          ⟨r.1, supervisor, .acting (r.2 ++ Handler.announce p
            { read supervisor env with resumedAtState := false, resumedAtHazard := false } r.1)⟩ := by
        simp only [next, beginTick, hRun]
        rfl
      have hSilent : ∀ e ∈ r.2, e.isPublish = false := Handler.respond_effects cfg p _ _
      dsimp only
      rw [hTimer, hDecided]
      refine ⟨rfl, rfl, ?_, ?_⟩
      · simp [pending, announce_calls]
      · have hAnnounce := announce_goesOut p
          ⟨r.1, supervisor, .acting (r.2 ++ Handler.announce p
            { read supervisor env with resumedAtState := false, resumedAtHazard := false } r.1)⟩
          (read supervisor env)
        have hNone (goes : Effect → Bool) (h : ∀ e ∈ r.2, goes e = false) :
            r.2.filter goes = [] := by simpa [List.filter_eq_nil_iff] using h
        rw [pending, List.filter_append, List.filter_append, hNone _ hSilent,
          hNone _ fun e hMem => goesOut_of_not_publish _ (hSilent e hMem)]
        exact congrArg ([] ++ ·) hAnnounce

section Begin
variable (env : Env) (input : Input)

@[simp] theorem beginTake_handler :
    (beginTake cfg p input i).handler = (Handler.take cfg p i.handler input).1 := rfl

@[simp] theorem beginTake_supervisor : (beginTake cfg p input i).supervisor = i.supervisor := rfl

@[simp] theorem beginTake_callback :
    (beginTake cfg p input i).callback = .acting (Handler.take cfg p i.handler input).2 := rfl

@[simp] theorem decideTick_handler : (decideTick cfg p env i).handler =
    (Handler.runTick cfg p (readFault i.supervisor env) i.handler).1 := rfl

@[simp] theorem decideTick_supervisor : (decideTick cfg p env i).supervisor = i.supervisor := rfl

@[simp] theorem decideTick_callback : (decideTick cfg p env i).callback =
    .acting (Handler.runTick cfg p (readFault i.supervisor env) i.handler).2 := rfl

@[simp] theorem beginTick_supervisor : (beginTick p env i).supervisor = i.supervisor := by
  unfold beginTick
  dsimp only
  split_ifs <;> rfl

@[simp] theorem beginTick_mrmState :
    (beginTick p env i).handler.mrmState = i.handler.mrmState := by
  unfold beginTick
  dsimp only
  split_ifs <;> simp

/-- A tick that begins goes on to judge, on what it read, or has stayed
silent. -/
theorem beginTick_callback :
    (beginTick p env i).callback = i.callback ∨
      (beginTick p env i).callback = .judging { env with latched := i.supervisor.latch.latched } ∧
      (beginTick p env i).handler.isSupervisorLatched = i.supervisor.latch.latched := by
  unfold beginTick
  dsimp only
  split_ifs
  · exact .inl rfl
  · exact .inr ⟨rfl, rfl⟩

end Begin

/-- Only the reaction thread's passes write the latch and the fault. -/
theorem serve_frame (s : Supervisor) (e : Effect) :
    Supervisor.CallFrame s (serve cfg s e) := by
  cases e with
  | arm now route due => exact Supervisor.next_call cfg s (e := .arm now route due) nofun
  | done route => exact Supervisor.next_call cfg s (e := .done route) nofun
  | noteSpeed now speedMmS => exact Supervisor.next_call cfg s (e := .noteSpeed now speedMmS) nofun
  | handover now slot periodMs =>
      exact Supervisor.next_call cfg s (e := .handover now slot periodMs) nofun
  | request | mrmState | takeoverRequestState | hazardLightsCmd => exact .refl s

variable {cfg} in
/-- No effect but `done(3)` disarms route 3. -/
theorem serve_armed {s : Supervisor} {e : Effect} (hDone : e ≠ .done 3)
    (hArmed : (s.routes .emergencyStandstill).dueValid = true) :
    ((serve cfg s e).routes .emergencyStandstill).dueValid = true := by
  have hCall (call : Supervisor.Event) (hEvent : ∀ pass, call ≠ .pass pass)
      (hOther : call ≠ .done 3) :
      ((Supervisor.next cfg s call).routes .emergencyStandstill).dueValid = true :=
    Supervisor.next_call_armed hEvent hOther hArmed
  cases e with
  | arm now route due => exact hCall (.arm now route due) nofun nofun
  | done route => exact hCall (.done route) nofun (by simpa using hDone)
  | noteSpeed now speedMmS => exact hCall (.noteSpeed now speedMmS) nofun nofun
  | handover now slot periodMs => exact hCall (.handover now slot periodMs) nofun nofun
  | request | mrmState | takeoverRequestState | hazardLightsCmd => exact hArmed

end Step

/-- What one step can do: each step of the callback where it stands, a call to
the supervisor, or a pass. -/
inductive Moved (cfg : Config) (p : Param) (i : Island) : Event → Island → Prop where
  | stalled (e : Event) (hOwn : ∀ x, e ≠ .supervisor x) (hAct : e = .act → i.pending = [])
      (hTick : ∀ env, e = .tick env → ¬ i.Idle) : Moved cfg p i e i
  | took (input : Input) (hIdle : i.Idle) : Moved cfg p i (.take input) (beginTake cfg p input i)
  | began (env : Env) (hIdle : i.Idle) : Moved cfg p i (.tick env) (beginTick p env i)
  | decided (env : Env) (hJudging : i.callback = .judging env) :
      Moved cfg p i .decide (decideTick cfg p env i)
  | acted (e : Effect) (rest : List Effect) (hActing : i.callback = .acting (e :: rest)) :
      Moved cfg p i .act
        { i with supervisor := serve cfg i.supervisor e, callback := .acting rest }
  | called (e : Supervisor.Event) (hCall : ∀ pass, e ≠ .pass pass) :
      Moved cfg p i (.supervisor e)
        { i with supervisor := Supervisor.next cfg i.supervisor e }
  | passed (pass : Supervisor.Pass) :
      Moved cfg p i (.supervisor (.pass pass))
        { i with supervisor := (Supervisor.pass cfg pass i.supervisor).1 }

/-- What a step does is one of these. -/
theorem next_spec (cfg : Config) (p : Param) (i : Island) (e : Event) :
    Moved cfg p i e (next cfg p i e) := by
  obtain ⟨handler, supervisor, callback⟩ := i
  cases e with
  | take input =>
      match callback with
      | .acting [] => exact .took input rfl
      | .acting (_ :: _) | .judging _ => exact .stalled _ (by simp) (by simp) (by simp)
  | tick env =>
      match callback with
      | .acting [] => exact .began env rfl
      | .acting (_ :: _) | .judging _ => exact .stalled _ (by simp) (by simp) (by simp [Idle])
  | decide =>
      match callback with
      | .judging env => exact .decided env rfl
      | .acting _ => exact .stalled _ (by simp) (by simp) (by simp)
  | act =>
      match callback with
      | .acting (e :: rest) => exact .acted e rest rfl
      | .acting [] | .judging _ => exact .stalled _ (by simp) (fun _ => rfl) (by simp)
  | supervisor e =>
      by_cases hPass : ∃ pass, e = .pass pass
      · obtain ⟨pass, rfl⟩ := hPass
        exact .passed pass
      · push Not at hPass
        exact .called e hPass

/-- `Moved`, with what the observer notes. -/
inductive Stepped (cfg : Config) (p : Param) (w : World) : Event → World → Prop where
  | stalled (e : Event) : Stepped cfg p w e w
  | took (input : Input) (hIdle : w.state.Idle) :
      Stepped cfg p w (.take input) ⟨beginTake cfg p input w.state, w.history⟩
  | began (env : Env) (hIdle : w.state.Idle) :
      Stepped cfg p w (.tick env) ⟨beginTick p env w.state,
        { w.history with begunInFault := w.state.supervisor.fault.vehicleFault }⟩
  | decided (env : Env) (hJudging : w.state.callback = .judging env) :
      Stepped cfg p w .decide ⟨decideTick cfg p env w.state, w.history⟩
  | acted (e : Effect) (rest : List Effect) (hActing : w.state.callback = .acting (e :: rest)) :
      Stepped cfg p w .act
        ⟨{ w.state with supervisor := serve cfg w.state.supervisor e, callback := .acting rest },
          w.history.noteEffect e⟩
  | called (e : Supervisor.Event) (hCall : ∀ pass, e ≠ .pass pass) :
      Stepped cfg p w (.supervisor e)
        ⟨{ w.state with supervisor := Supervisor.next cfg w.state.supervisor e }, w.history⟩
  | passed (pass : Supervisor.Pass) :
      Stepped cfg p w (.supervisor (.pass pass))
        ⟨{ w.state with supervisor := (Supervisor.pass cfg pass w.state.supervisor).1 },
          { w.history with
            floorMet := w.history.floorMet || floorMetBy cfg w.state.supervisor pass }⟩

/-- What an observed step does is one of these. -/
theorem step_spec (cfg : Config) (p : Param) (w : World) (e : Event) :
    Stepped cfg p w e (w.step cfg p e) := by
  have hMoved := next_spec cfg p w.state e
  unfold World.step Transition.observe
  generalize next cfg p w.state e = i at hMoved ⊢
  obtain ⟨state, history⟩ := w
  cases hMoved with
  | stalled _ hOwn hAct hTick =>
      have hSame : history.note cfg state e state = history := by
        cases e with
        | act => simp [History.note, hAct rfl]
        | tick env =>
            have hBusy := hTick env rfl
            simp only [History.note]
            split <;> rename_i hCallback
            · exact absurd hCallback hBusy
            · rfl
        | supervisor x => exact absurd rfl (hOwn x)
        | take | decide => rfl
      rw [hSame]
      exact .stalled e
  | took input hIdle => exact .took input hIdle
  | began env hIdle =>
      rw [History.note, show state.callback = .acting [] from hIdle]
      exact .began env hIdle
  | decided env hJudging => exact .decided env hJudging
  | acted e rest hActing =>
      rw [History.note, pending, show state.callback = .acting (e :: rest) from hActing]
      exact .acted e rest hActing
  | called e hCall =>
      cases e with
      | pass pass => exact absurd rfl (hCall pass)
      | _ => exact .called _ hCall
  | passed pass => exact .passed pass

end Island
end SafetyIsland
