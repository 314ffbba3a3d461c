import SafetyIsland.Kernel.State
import SafetyIsland.Supervisor.Deadlines

/-! No supervised deadline and no wake is lost: what each stage of a call and
each step of the reaction thread keeps, and from it what holds of every
interleaving. -/
namespace SafetyIsland
namespace Supervisor

/-- A stage leaves the thread's own words alone; a hook it notes and a slot it
hands over still have their wake to come. -/
structure StageKept (s : Supervisor) (x : Stage) : Prop where
  deadlines : DeadlinesKept s x.supervisor
  latch : x.supervisor.latch = s.latch
  directNextMs : x.supervisor.directNextMs = s.directNextMs
  swtRunning : x.supervisor.levels.swtRunning = s.levels.swtRunning
  swt : x.supervisor.pending.swt = s.pending.swt
  hook : x.supervisor.pending.hook = true → s.pending.hook = true ∨ x.call = .hookSet
  owned : ∀ i, (x.supervisor.slots i).owned = true → (s.slots i).owned = true
  watched : ∀ i, (x.supervisor.slots i).watched = true →
    (s.slots i).watched = true ∨ ∃ periodMs, x.call = .handover i periodMs .handedOver

namespace StageKept
variable {cfg : Config} {s : Supervisor} {x : Stage}

/-- A locked region on the routes. -/
theorem of_frame (hFrame : SweepFrame s x.supervisor) (hDeadlines : DeadlinesKept s x.supervisor) :
    StageKept s x where
  deadlines := hDeadlines
  latch := hFrame.latch
  directNextMs := hFrame.directNextMs
  swtRunning := by rw [hFrame.levels]
  swt := by rw [hFrame.pending]
  hook h := .inl (by rwa [hFrame.pending] at h)
  owned i h := by rwa [hFrame.slots] at h
  watched i h := .inl (by rwa [hFrame.slots] at h)

theorem of_same (hSame : x.supervisor = s) : StageKept s x := by
  apply of_frame
  · rw [hSame]
    exact .refl s
  · rw [hSame]
    exact .refl s

/-- The levels' own words. -/
theorem of_levels {levels : Levels} (hSame : x.supervisor = s.setLevels levels)
    (hRunning : levels.swtRunning = s.levels.swtRunning) : StageKept s x where
  deadlines := .of_same (by rw [hSame]; rfl) (by rw [hSame]; rfl)
  latch := by rw [hSame]; rfl
  directNextMs := by rw [hSame]; rfl
  swtRunning := by rw [hSame]; exact hRunning
  swt := by rw [hSame]; rfl
  hook h := .inl (by rw [hSame] at h; exact h)
  owned i h := by rw [hSame] at h; exact h
  watched i h := .inl (by rw [hSame] at h; exact h)

/-- A slot's words, written between two reads of the reaction thread. -/
theorem of_slot {i : Slot} {d : DirectSlot} (hSame : x.supervisor = s.setSlot i d)
    (hOwned : d.owned = true → (s.slots i).owned = true)
    (hWatched : d.watched = true →
      (s.slots i).watched = true ∨ ∃ periodMs, x.call = .handover i periodMs .handedOver) :
    StageKept s x where
  deadlines := .of_same (by rw [hSame]; rfl) (by rw [hSame]; rfl)
  latch := by rw [hSame]; rfl
  directNextMs := by rw [hSame]; rfl
  swtRunning := by rw [hSame]; rfl
  swt := by rw [hSame]; rfl
  hook h := .inl (by rw [hSame] at h; exact h)
  owned j h := by
    rw [hSame] at h
    by_cases hOther : j = i
    · subst hOther
      exact hOwned (by simpa using h)
    · simpa [hOther] using h
  watched j h := by
    rw [hSame] at h
    by_cases hOther : j = i
    · subst hOther
      exact hWatched (by simpa using h)
    · exact .inl (by simpa [hOther] using h)

/-- Arming a route makes a deadline and loses none. -/
theorem arm (now : Int) (route : Nat) (due : Int) (hCall : x.supervisor = arm cfg now route due s) :
    StageKept s x := by
  unfold Supervisor.arm at hCall
  split at hCall
  · exact of_same hCall
  · apply of_frame <;> rw [hCall]
    · exact armRoute_frame ..
    · exact armRoute_deadlines ..

/-- Clearing one loses no other. -/
theorem doneRoute (r : Route) (hCall : x.supervisor = doneRoute r s) : StageKept s x := by
  apply of_frame <;> rw [hCall]
  · exact doneRoute_frame ..
  · exact doneRoute_deadlines ..

/-- A spin's report leaves SWT0 running as it was. -/
theorem spinAfterLocked (report : SpinReport) (l : Levels) :
    (spinAfterLocked report l).1.swtRunning = l.swtRunning := by
  unfold Supervisor.spinAfterLocked
  dsimp only
  split
  · rfl
  · split_ifs <;> rfl

/-- Whatever a thread calls, the first stage. -/
theorem enter (now : Int) (request : Request) : StageKept s (request.enter cfg now s) := by
  cases request with
  | arm route due => exact arm now route due rfl
  | done route =>
      simp only [Request.enter, Supervisor.done]
      split
      · exact of_same rfl
      · exact doneRoute _ rfl
  | noteSpeed speedMmS =>
      exact ⟨.of_same rfl rfl, rfl, rfl, rfl, rfl, .inl, fun _ => id, fun _ => .inl⟩
  | handover slot periodMs =>
      simp only [Request.enter]
      split
      · exact of_same rfl
      · split <;> exact of_same rfl
  | spinAfter report =>
      simp only [Request.enter]
      split <;> exact of_levels rfl (spinAfterLocked ..)
  | hook ruleCode =>
      exact ⟨.of_same rfl rfl, rfl, rfl, rfl, rfl, fun _ => .inr rfl, fun _ => id,
        fun _ => .inl⟩

/-- And every later one. -/
theorem proceed (now nowUs : Int) (call : Call) : StageKept s (call.proceed cfg now nowUs s) := by
  cases call with
  | idle => exact of_same rfl
  | hookSet => exact of_same rfl
  | spinWatch report takeWatch =>
      simp only [Call.proceed, takeRouteWatch]
      split
      · exact of_levels rfl rfl
      · exact of_same rfl
  | spinRoute report =>
      simp only [Call.proceed, spinAfterRoute]
      split
      · exact doneRoute _ rfl
      · split
        · exact doneRoute _ rfl
        · exact of_frame (armRoute_frame ..) (armRoute_deadlines ..)
  | handover i periodMs stage =>
      cases stage with
      | latched =>
          simp only [Call.proceed, HandoverStage.proceed]
          split
          · exact of_slot rfl id .inl
          · exact of_same rfl
      | held => exact of_same rfl
      | clocked nowMs => exact of_slot rfl id .inl
      | timed nowMs => exact of_slot rfl id .inl
      | reported nowMs =>
          simp only [Call.proceed, HandoverStage.proceed]
          split
          · exact of_same rfl
          · exact of_slot rfl id .inl
      | stamped =>
          refine of_slot rfl ?_ fun _ => .inr ⟨periodMs, rfl⟩
          -- what is handed over is no longer owned, unless it has resumed
          cases hHandover : (s.slots i).handover <;> simp [DirectSlot.owned, hHandover]
          intro hRegistered _
          exact hRegistered
      | handedOver => exact of_same rfl

end StageKept

section Wait
variable (cfg : Config) (now : Int) {s : Supervisor}

/-- Once latched, the wait ends by the direct path's next publish, by each
watched slot's resume deadline and by a quarter of SWT0's timeout. -/
theorem latchedWait_noLater (hLatched : s.latch.latched = true) :
    (s.directPending = true → Earliest.NoLater (latchedWait cfg now s) s.directNextMs) ∧
    (∀ i, (s.slots i).watched = true →
      Earliest.NoLater (latchedWait cfg now s) (resumeDue cfg (s.slots i) now)) ∧
    (s.levels.swtRunning = true →
      Earliest.NoLater (latchedWait cfg now s) (now + cfg.swtMs / 4)) := by
  have hWatch (next : Option Int) (i : Slot) (t : Int) (h : Earliest.NoLater next t) :
      Earliest.NoLater (if (s.slots i).watched then
        Earliest.keep next (resumeDue cfg (s.slots i) now) else next) t := by
    split
    · exact h.keep _
    · exact h
  have hFeed (next : Option Int) (t : Int) (h : Earliest.NoLater next t) :
      Earliest.NoLater (if s.levels.swtRunning then
        Earliest.keep next (now + cfg.swtMs / 4) else next) t := by
    split
    · exact h.keep _
    · exact h
  simp only [latchedWait, hLatched, Bool.not_true, Bool.false_eq_true, if_false]
  refine ⟨?_, ?_, ?_⟩
  · intro hPending
    rw [hPending]
    apply hFeed
    apply hWatch
    apply hWatch
    exact ⟨_, rfl, le_rfl⟩
  · intro i hWatched
    apply hFeed
    cases i with
    | handler =>
        apply hWatch
        rw [hWatched]
        exact Earliest.noLater_keep ..
    | operator =>
        rw [hWatched]
        exact Earliest.noLater_keep ..
  · intro hRunning
    rw [hRunning]
    exact Earliest.noLater_keep ..

end Wait
end Supervisor

namespace Kernel
open Supervisor

/-- The pass has not come to `pending_hook` yet. -/
def Reaction.beforeHook : Reaction → Bool
  | .woken | .swept .. | .testHook .. | .actHook .. => true
  | _ => false

/-- The pass has not come to `pending_swt` yet. -/
def Reaction.beforeSwt : Reaction → Bool
  | .testSwt .. | .actSwt .. => true
  | reaction => reaction.beforeHook

section React
variable (cfg : Config) (x : Reading) (k : Kernel)

theorem clearHook_frame (now : Int) (s : Supervisor) : OutputFrame s (clearHook now s) :=
  .trans (t := s.setPending { s.pending with hook := false })
    ⟨⟨rfl, rfl, rfl, rfl⟩, rfl, rfl, rfl, rfl, rfl⟩ (safeState_frame ..)

theorem clearSwt_frame (now : Int) (s : Supervisor) : OutputFrame s (clearSwt now s) :=
  .trans (t := s.setPending { s.pending with swt := false })
    ⟨⟨rfl, rfl, rfl, rfl⟩, rfl, rfl, rfl, rfl, rfl⟩ (safeState_frame ..)

theorem deadlinesKept_of_output {s t : Supervisor} (h : OutputFrame s t) : DeadlinesKept s t :=
  .of_same h.routes h.dueTimer

/-- The direct path's service leaves the supervised deadlines alone, but for a
resume's own. -/
theorem service_deadlines (now publishNow : Int) (s : Supervisor) :
    DeadlinesKept s (service cfg now publishNow s) := by
  unfold service
  split
  · exact directService_deadlines ..
  · exact .refl s

@[simp] theorem service_pending (now publishNow : Int) (s : Supervisor) :
    (service cfg now publishNow s).pending = s.pending := by
  unfold service
  split
  · exact directService_frame.pending.trans directWatch_pending
  · rfl

@[simp] theorem startDirect_pending (now : Int) (wasLatched : Bool) (s : Supervisor) :
    (startDirect now wasLatched s).pending = s.pending := by
  unfold startDirect
  split <;> rfl

/-- No step of the reaction thread loses a supervised deadline. -/
theorem react_deadlines : DeadlinesKept k.supervisor (k.react cfg x).supervisor := by
  unfold react
  cases k.reaction with
  | loop => exact .refl _
  | waiting deadline => exact .refl _
  | woken =>
      exact .trans (t := countWake k.supervisor) (.of_same rfl rfl) (sweep_deadlines ..)
  | swept now fired => exact deadlinesKept_of_output (actOnRoutes_frame ..)
  | testHook now wasLatched => exact .refl _
  | actHook now wasLatched => exact deadlinesKept_of_output (clearHook_frame ..)
  | testSwt now wasLatched => exact .refl _
  | actSwt now wasLatched => exact deadlinesKept_of_output (clearSwt_frame ..)
  | acted now wasLatched => exact deadlinesKept_of_output (startDirect_frame ..)
  | serve => exact service_deadlines ..

/-- After the sweep a step of the pass makes up no due of its past. -/
theorem react_settles {bound : Int} (hLe : bound ≤ x.now) (hSwept : k.reaction ≠ .woken) :
    Settles bound k.supervisor (k.react cfg x).supervisor := by
  unfold react
  cases hReaction : k.reaction with
  | woken => exact absurd hReaction hSwept
  | loop => exact .refl _
  | waiting deadline => exact .refl _
  | swept now fired => exact .congr (actOnRoutes_frame ..).routes
  | testHook now wasLatched => exact .refl _
  | actHook now wasLatched => exact .congr (clearHook_frame ..).routes
  | testSwt now wasLatched => exact .refl _
  | actSwt now wasLatched => exact .congr (clearSwt_frame ..).routes
  | acted now wasLatched => exact .congr (startDirect_frame ..).routes
  | serve =>
      dsimp only [service]
      split
      · exact .directService cfg hLe _
      · exact .refl _

end React
end Kernel
end SafetyIsland
