import SafetyIsland.Kernel.Deadlines

/-! Every interleaving of the supervisor's callers, its interrupts and its
thread: the deadlines stay set, a pass leaves none behind, and whoever sets a
pending flag has the thread woken. -/
namespace SafetyIsland
namespace Kernel
open Supervisor Transition

/-- A hook call that is noted is acted on in this pass, or wakes the next. -/
def HookWakes (k : Kernel) : Prop :=
  k.supervisor.pending.hook = true →
    k.wake = true ∨ (∃ thread, k.calls thread = .hookSet) ∨ k.reaction.beforeHook = true

/-- And so is a first timeout of SWT0. -/
def SwtWakes (k : Kernel) : Prop :=
  k.supervisor.pending.swt = true →
    k.wake = true ∨ k.swtGive = true ∨ k.reaction.beforeSwt = true

/-- An expiry that the sweep has not seen wakes the thread. -/
def ExpiryWakes (k : Kernel) : Prop :=
  k.supervisor.dueTimer.fired = true → k.wake = true ∨ k.reaction = .woken

/-- No due of the last pass's past is armed when it ends. -/
def SweptLater (w : World) : Prop :=
  ∀ now, w.history.sweptAt = some now →
    ∀ r, (w.state.supervisor.routes r).dueValid = true →
      now < (w.state.supervisor.routes r).dueMs

/-- While the thread waits, the slot is watched since the wait began, which
ends by its resume deadline; or its handover wakes the thread. -/
def SlotCovered (cfg : Config) (w : World) (deadline : Option Int) (i : Slot) : Prop :=
  (w.history.wait.slots i).watched = true ∧
      Earliest.NoLater deadline (resumeDue cfg (w.history.wait.slots i) w.history.wait.now) ∨
    w.state.wake = true ∨
    ∃ thread periodMs, w.state.calls thread = .handover i periodMs .handedOver

/-- Once latched, what the wait ends by. -/
structure WaitCovered (cfg : Config) (w : World) (deadline : Option Int) : Prop where
  publish : w.state.supervisor.directPending = true →
    Earliest.NoLater deadline w.state.supervisor.directNextMs
  resume : ∀ i, (w.state.supervisor.slots i).watched = true → SlotCovered cfg w deadline i
  feed : w.state.supervisor.levels.swtRunning = true →
    Earliest.NoLater deadline (w.history.wait.now + cfg.swtMs / 4)

/-- The thread's wait is covered, once latched. -/
def Waits (cfg : Config) (w : World) : Prop :=
  w.state.supervisor.latch.latched = true →
    ∀ deadline, w.state.reaction = .waiting deadline → WaitCovered cfg w deadline

/-- No supervised deadline and no wake is lost. -/
structure NothingLost (cfg : Config) (w : World) : Prop where
  recorded : w.state.supervisor.Recorded
  timed : Earliest.LeastOf (armedDues w.state.supervisor.routes) w.state.supervisor.dueTimer.expiry
  expiry : w.state.ExpiryWakes
  later : SweptLater w
  hook : w.state.HookWakes
  swt : w.state.SwtWakes
  wait : Waits cfg w

/-- No sweep finds a floor route due and has it wait for what has gone by. -/
def NotBehind (cfg : Config) (w : World) : Event → Prop
  | .react x =>
      w.state.reaction = .woken →
        ¬ w.state.supervisor.FloorBehind cfg x.now ∧ ¬ w.state.supervisor.ResponseBehind cfg x.now
  | _ => True

/-- An allowed event, and what a sweep relies on. -/
def KeptAllowed (cfg : Config) (w : World) (e : Event) : Prop := Allowed w e ∧ NotBehind cfg w e

instance (cfg : Config) (w : World) (e : Event) : Decidable (NotBehind cfg w e) :=
  match e with
  | .react .. => by unfold NotBehind; infer_instance
  | .enter .. | .proceed .. | .timerExpiry .. | .swtSet | .swtGive | .waitEnds .. => isTrue trivial

instance (cfg : Config) (w : World) (e : Event) : Decidable (KeptAllowed cfg w e) := by
  unfold KeptAllowed
  infer_instance

/-- What the steps carry through a run. -/
structure KernelInv (cfg : Config) (w : World) : Prop where
  set : w.state.supervisor.DeadlinesSet
  expiry : w.state.ExpiryWakes
  hook : w.state.HookWakes
  swt : w.state.SwtWakes
  /-- From its sweep to the end of its loop the thread does not let go of the core. -/
  swept : ∀ now, w.history.sweptAt = some now → now ≤ w.history.clock ∧
    w.state.reaction.yields = false ∧ w.state.reaction ≠ .woken ∧
    ∀ r, w.state.supervisor.dueBy r now = false
  wait : Waits cfg w

section Invariant
variable {cfg : Config} {w : World}

/-- What the steps carry says that nothing is lost. -/
theorem KernelInv.nothingLost (h : KernelInv cfg w) : NothingLost cfg w where
  recorded := h.set.recorded
  timed := by
    rw [h.set.timed]
    exact earliest_leastOf _
  expiry := h.expiry
  later := by
    intro now hSwept r hArmed
    simpa [dueBy, hArmed] using (h.swept now hSwept).2.2.2 r
  hook := h.hook
  swt := h.swt
  wait := h.wait

/-- At boot there is nothing to lose. -/
theorem KernelInv.boot (registered : Slot → Bool) (levels : Levels) :
    KernelInv cfg (World.boot registered levels) where
  set := ⟨fun _ => ⟨rfl, nofun⟩, rfl⟩
  expiry := nofun
  hook := nofun
  swt := nofun
  swept := nofun
  wait := nofun

/-- A thread that lets callers run is in its wait. -/
theorem Reaction.waiting_of_yields {reaction : Reaction} (h : reaction.yields = true) :
    ∃ deadline, reaction = .waiting deadline := by
  cases reaction with
  | waiting deadline => exact ⟨deadline, rfl⟩
  | _ => simp [Reaction.yields] at h

theorem Reaction.waiting_of_endsBy {reaction : Reaction} {now : Int}
    (h : reaction.endsBy now = true) : ∃ deadline, reaction = .waiting deadline := by
  cases reaction with
  | waiting deadline => exact ⟨deadline, rfl⟩
  | _ => simp [Reaction.endsBy] at h

/-- A caller's stage under the waiting thread. The call that is left behind
was no setter, or it has given the wake. -/
theorem KernelInv.stage (h : KernelInv cfg w) {thread : Nat} {x : Stage} {now : Int}
    (hYields : w.state.reaction.yields = true)
    (hKept : StageKept w.state.supervisor x)
    (hHook : w.state.calls thread = .hookSet → x.gives = true)
    (hHandover : ∀ i periodMs, w.state.calls thread = .handover i periodMs .handedOver →
      x.gives = true) :
    KernelInv cfg
      { state := w.state.applyStage thread x, history := { w.history with clock := now } } := by
  obtain ⟨deadline, hWaiting⟩ := Reaction.waiting_of_yields hYields
  -- another thread's call is where it was
  have hOther {t : Nat} {call : Call} (hCall : w.state.calls t = call)
      (hGives : w.state.calls thread = call → x.gives = true) :
      (w.state.wake || x.gives) = true ∨
        Function.update w.state.calls thread x.call t = call := by
    by_cases hSame : t = thread
    · subst hSame
      exact .inl (by simp [hGives hCall])
    · exact .inr (by simpa [hSame] using hCall)
  refine ⟨hKept.deadlines.set h.set, ?_, ?_, ?_, ?_, ?_⟩
  · intro hFired
    rcases h.expiry (hKept.deadlines.fired hFired) with hWake | hWoken
    · exact .inl (by simp [applyStage, hWake])
    · simp [hWaiting] at hWoken
  · intro hPending
    rcases hKept.hook hPending with hBefore | hSet
    · rcases h.hook hBefore with hWake | ⟨t, hCall⟩ | hPass
      · exact .inl (by simp [applyStage, hWake])
      · rcases hOther hCall hHook with hWake | hCall
        · exact .inl hWake
        · exact .inr (.inl ⟨t, hCall⟩)
      · simp [hWaiting, Reaction.beforeHook] at hPass
    · exact .inr (.inl ⟨thread, by simp [applyStage, hSet]⟩)
  · intro hPending
    rcases h.swt (hKept.swt.symm.trans hPending) with hWake | hGive | hPass
    · exact .inl (by simp [applyStage, hWake])
    · exact .inr (.inl hGive)
    · simp [hWaiting, Reaction.beforeSwt, Reaction.beforeHook] at hPass
  · intro n hSwept
    simp [(h.swept n hSwept).2.1] at hYields
  · intro hLatched d hWait
    have hBefore := h.wait (by rw [← hKept.latch]; exact hLatched) d hWait
    refine ⟨?_, ?_, ?_⟩
    · intro hPending
      show Earliest.NoLater d x.supervisor.directNextMs
      rw [hKept.directNextMs]
      apply hBefore.publish
      rcases Bool.or_eq_true_iff.mp hPending with hOwned | hOwned
      · simp [directPending, hKept.owned _ hOwned]
      · simp [directPending, hKept.owned _ hOwned]
    · intro i hWatched
      rcases hKept.watched i hWatched with hWatched | ⟨periodMs, hCall⟩
      · rcases hBefore.resume i hWatched with hSince | hWake | ⟨t, periodMs, hCall⟩
        · exact .inl hSince
        · exact .inr (.inl (by simp [applyStage, hWake]))
        · rcases hOther hCall (hHandover i periodMs) with hWake | hCall
          · exact .inr (.inl hWake)
          · exact .inr (.inr ⟨t, periodMs, hCall⟩)
      · exact .inr (.inr ⟨thread, periodMs, by simp [applyStage, hCall]⟩)
    · intro hRunning
      exact hBefore.feed (hKept.swtRunning.symm.trans hRunning)

/-- The timer's interrupt wakes the thread for what is due. -/
theorem KernelInv.timerExpiry (h : KernelInv cfg w) {now : Int} (hClock : w.history.clock ≤ now) :
    KernelInv cfg (w.step cfg (.timerExpiry now)) where
  set := ⟨h.set.recorded, h.set.timed⟩
  expiry _ := .inl rfl
  hook _ := .inl rfl
  swt _ := .inl rfl
  swept n hSwept := ⟨(h.swept n hSwept).1.trans hClock, (h.swept n hSwept).2⟩
  wait hLatched deadline hWaiting :=
    ⟨(h.wait hLatched deadline hWaiting).publish, fun _ _ => .inr (.inl rfl),
      (h.wait hLatched deadline hWaiting).feed⟩

/-- SWT0's interrupt notes its timeout, and has the wake still to give. -/
theorem KernelInv.swtSet (h : KernelInv cfg w) : KernelInv cfg (w.step cfg .swtSet) where
  set := ⟨h.set.recorded, h.set.timed⟩
  expiry := h.expiry
  hook := h.hook
  swt _ := .inr (.inl rfl)
  swept := h.swept
  wait hLatched deadline hWaiting :=
    ⟨(h.wait hLatched deadline hWaiting).publish, (h.wait hLatched deadline hWaiting).resume,
      (h.wait hLatched deadline hWaiting).feed⟩

/-- Then it gives it. -/
theorem KernelInv.swtGive (h : KernelInv cfg w) : KernelInv cfg (w.step cfg .swtGive) where
  set := h.set
  expiry _ := .inl rfl
  hook _ := .inl rfl
  swt _ := .inl rfl
  swept := h.swept
  wait hLatched deadline hWaiting :=
    ⟨(h.wait hLatched deadline hWaiting).publish, fun _ _ => .inr (.inl rfl),
      (h.wait hLatched deadline hWaiting).feed⟩

/-- A wait that ends at its deadline begins a pass. -/
theorem KernelInv.waitEnds (h : KernelInv cfg w) {now : Int} {deadline : Option Int}
    (hWaiting : w.state.reaction = .waiting deadline) : KernelInv cfg (w.step cfg (.waitEnds now)) where
  set := h.set
  expiry hFired := by
    rcases h.expiry hFired with hWake | hWoken
    · exact .inl hWake
    · simp [hWaiting] at hWoken
  hook hPending := by
    rcases h.hook hPending with hWake | hSet | hPass
    · exact .inl hWake
    · exact .inr (.inl hSet)
    · simp [hWaiting, Reaction.beforeHook] at hPass
  swt hPending := by
    rcases h.swt hPending with hWake | hGive | hPass
    · exact .inl hWake
    · exact .inr (.inl hGive)
    · simp [hWaiting, Reaction.beforeSwt, Reaction.beforeHook] at hPass
  swept n hSwept := by
    have hYields := (h.swept n hSwept).2.1
    simp [hWaiting, Reaction.yields] at hYields
  wait _ _ hWait := nomatch hWait

end Invariant

section React
variable {cfg : Config} {w : World} {x : Reading}

/-- No step of a pass loses an expiry. -/
theorem react_expiry (h : w.state.ExpiryWakes) : (w.state.react cfg x).ExpiryWakes := by
  intro hFired
  have hBefore := h ((react_deadlines cfg x w.state).fired hFired)
  unfold react at hFired ⊢
  cases hReaction : w.state.reaction with
  | waiting deadline => exact .inr rfl
  | woken =>
      -- the sweep has re-armed the timer
      rw [hReaction] at hFired
      simp [Supervisor.sweep, rearmLocked] at hFired
  | _ =>
      have hWake : w.state.wake = true := by simpa [hReaction] using hBefore
      exact .inl hWake

/-- No step of a pass loses a hook. -/
theorem react_hook (h : w.state.HookWakes) : (w.state.react cfg x).HookWakes := by
  unfold HookWakes react at *
  cases hReaction : w.state.reaction with
  | waiting deadline => exact fun _ => .inr (.inr rfl)
  | woken => exact fun _ => .inr (.inr rfl)
  | swept now fired => exact fun _ => .inr (.inr rfl)
  | testHook now wasLatched =>
      cases hPending : w.state.supervisor.pending.hook <;> simp [hPending, Reaction.beforeHook]
  | actHook now wasLatched => simp [clearHook]
  | testSwt now wasLatched =>
      cases hSwt : w.state.supervisor.pending.swt <;>
        simpa [hReaction, hSwt, Reaction.beforeHook] using h
  | actSwt now wasLatched => simpa [hReaction, clearSwt, Reaction.beforeHook] using h
  | loop | acted | serve => simpa [hReaction, Reaction.beforeHook] using h

/-- No step of a pass loses SWT0's timeout. -/
theorem react_swt (h : w.state.SwtWakes) : (w.state.react cfg x).SwtWakes := by
  unfold SwtWakes react at *
  cases hReaction : w.state.reaction with
  | waiting deadline => exact fun _ => .inr (.inr rfl)
  | woken => exact fun _ => .inr (.inr rfl)
  | swept now fired => exact fun _ => .inr (.inr rfl)
  | testHook now wasLatched =>
      cases hHook : w.state.supervisor.pending.hook <;>
        simp [hHook, Reaction.beforeSwt, Reaction.beforeHook]
  | actHook now wasLatched => exact fun _ => .inr (.inr rfl)
  | testSwt now wasLatched =>
      cases hPending : w.state.supervisor.pending.swt <;> simp [hPending, Reaction.beforeSwt]
  | actSwt now wasLatched => simp [clearSwt]
  | loop | acted | serve => simpa [hReaction, Reaction.beforeSwt, Reaction.beforeHook] using h

/-- An allowed sweep judges by true ages. -/
theorem sweepOk (hClocks : 1000 * x.now ≤ x.nowUs) (hWatch : x.WatchOk)
    (hFloor : ¬ w.state.supervisor.FloorBehind cfg x.now)
    (hResponse : ¬ w.state.supervisor.ResponseBehind cfg x.now) :
    SweepOk cfg (x.sweep w.state.supervisor) (countWake w.state.supervisor) where
  clocks := hClocks
  route1Left := by
    simp only [Reading.sweep, route1Left]
    split
    · unfold Reading.WatchOk at hWatch
      cases hLeft : x.watch with
      | none => exact .inl rfl
      | some left => simpa [hLeft] using hWatch
    · exact .inl rfl
  floor := hFloor
  response := hResponse

/-- Behind its sweep a pass arms nothing in its own past. -/
theorem react_swept (h : KernelInv cfg w) (hAllowed : KeptAllowed cfg w (.react x)) :
    ∀ now, (w.step cfg (.react x)).history.sweptAt = some now → now ≤ x.publishNow ∧
      (w.state.react cfg x).reaction.yields = false ∧ (w.state.react cfg x).reaction ≠ .woken ∧
      ∀ r, (w.state.react cfg x).supervisor.dueBy r now = false := by
  obtain ⟨⟨hClock, hPublish, hClocks, hWatch, -⟩, hNotBehind⟩ := hAllowed
  intro now hSwept
  -- a step after the sweep, still in its pass
  have hLater (hBefore : w.history.sweptAt = some now) (r : Route) :
      (w.state.react cfg x).supervisor.dueBy r now = false := by
    obtain ⟨hPast, -, hNotWoken, hNone⟩ := h.swept now hBefore
    have hSettles := react_settles cfg x w.state (hPast.trans hClock) hNotWoken r
    by_contra hDue
    have hWas := hSettles (by simpa using hDue)
    simp [hNone r] at hWas
  have hPast (hBefore : w.history.sweptAt = some now) : now ≤ x.publishNow :=
    ((h.swept now hBefore).1.trans hClock).trans hPublish
  cases hReaction : w.state.reaction with
  | loop => simp [note, sweptAfter, hReaction] at hSwept
  | waiting deadline =>
      have hYields := (h.swept now (by simpa [note, sweptAfter, hReaction] using hSwept)).2.1
      simp [hReaction, Reaction.yields] at hYields
  | woken =>
      have hNow : x.now = now := by simpa [note, sweptAfter, hReaction] using hSwept
      subst hNow
      obtain ⟨hFloor, hResponse⟩ := hNotBehind hReaction
      have hOk := sweepOk hClocks hWatch hFloor hResponse
      simp only [react, hReaction]
      have hSwept := sweep_dueBy hOk
      exact ⟨hPublish, rfl, by simp, hSwept⟩
  | testHook passNow wasLatched =>
      have hBefore : w.history.sweptAt = some now := by simpa [note, sweptAfter, hReaction] using hSwept
      refine ⟨hPast hBefore, ?_, ?_, hLater hBefore⟩ <;> simp only [react, hReaction] <;>
        split <;> simp [Reaction.yields]
  | testSwt passNow wasLatched =>
      have hBefore : w.history.sweptAt = some now := by simpa [note, sweptAfter, hReaction] using hSwept
      refine ⟨hPast hBefore, ?_, ?_, hLater hBefore⟩ <;> simp only [react, hReaction] <;>
        split <;> simp [Reaction.yields]
  | swept | actHook | actSwt | acted | serve =>
      have hBefore : w.history.sweptAt = some now := by simpa [note, sweptAfter, hReaction] using hSwept
      refine ⟨hPast hBefore, ?_, ?_, hLater hBefore⟩ <;>
        simp [react, hReaction, Reaction.yields]

/-- A wait is computed from the words it begins with. -/
theorem react_wait : Waits cfg (w.step cfg (.react x)) := by
  intro hLatched deadline hWaiting
  cases hReaction : w.state.reaction with
  | loop =>
      simp only [World.step_state, next, react, hReaction, Reaction.waiting.injEq] at hWaiting
      simp only [World.step_state, next, react, hReaction] at hLatched
      obtain ⟨hPublish, hResume, hFeed⟩ := latchedWait_noLater cfg x.now hLatched
      subst hWaiting
      refine ⟨?_, ?_, ?_⟩
      · simpa [next, react, hReaction] using hPublish
      · intro i hWatched
        simp only [World.step_state, next, react, hReaction] at hWatched
        exact .inl (by simpa [note, waitAfter, hReaction] using ⟨hWatched, hResume i hWatched⟩)
      · simpa [next, react, note, waitAfter, hReaction] using hFeed
  | testHook passNow wasLatched =>
      simp only [World.step_state, next, react, hReaction] at hWaiting
      split at hWaiting <;> simp at hWaiting
  | testSwt passNow wasLatched =>
      simp only [World.step_state, next, react, hReaction] at hWaiting
      split at hWaiting <;> simp at hWaiting
  | waiting | woken | swept | actHook | actSwt | acted | serve =>
      simp [next, react, hReaction] at hWaiting

/-- A step of the reaction thread. -/
theorem KernelInv.react (h : KernelInv cfg w) (hAllowed : KeptAllowed cfg w (.react x)) :
    KernelInv cfg (w.step cfg (.react x)) where
  set := (react_deadlines cfg x w.state).set h.set
  expiry := react_expiry h.expiry
  hook := react_hook h.hook
  swt := react_swt h.swt
  swept := react_swept h hAllowed
  wait := react_wait

end React

section Run
variable {cfg : Config} {w : World} {e : Event}

/-- One event, whichever it is. -/
theorem KernelInv.step (h : KernelInv cfg w) (hAllowed : KeptAllowed cfg w e) :
    KernelInv cfg (w.step cfg e) := by
  cases e with
  | enter thread now request =>
      obtain ⟨⟨-, hYields, -, hIdle⟩, -⟩ := hAllowed
      refine h.stage hYields (StageKept.enter now request) ?_ ?_
      · intro hCall
        simp [hIdle] at hCall
      · intro i periodMs hCall
        simp [hIdle] at hCall
  | proceed thread now nowUs =>
      obtain ⟨⟨-, hYields, -, -⟩, -⟩ := hAllowed
      refine h.stage hYields (StageKept.proceed now nowUs (w.state.calls thread)) ?_ ?_
      · intro hCall
        rw [hCall]
        rfl
      · intro i periodMs hCall
        rw [hCall]
        rfl
  | timerExpiry now => exact h.timerExpiry hAllowed.1.1
  | swtSet => exact h.swtSet
  | swtGive => exact h.swtGive
  | waitEnds now =>
      obtain ⟨⟨-, -, hEnds⟩, -⟩ := hAllowed
      obtain ⟨deadline, hWaiting⟩ := Reaction.waiting_of_endsBy hEnds
      exact h.waitEnds hWaiting
  | react x => exact h.react hAllowed

end Run

/-- In every interleaving in which no sweep has a floor route wait for what has
gone by, no supervised deadline and no wake is lost. -/
theorem nothing_lost (cfg : Config) (registered : Slot → Bool) (levels : Levels) {w : World}
    (run : Reaches (World.step cfg) (KeptAllowed cfg) (World.boot registered levels) w) :
    NothingLost cfg w := by
  have hInv : KernelInv cfg w :=
    run.invariant (KernelInv.boot registered levels) fun _ _ h hAllowed => h.step hAllowed
  exact hInv.nothingLost

/-- `n` steps of the reaction thread in one millisecond. -/
def reactAt (now : Int) (n : Nat) : List Event := List.replicate n (.react (.at now))

/-- Route 0 misses its due, the output latches, and the emergency operator
takes its slot over while the thread waits. -/
def takenOver : List Event :=
  reactAt 0 1 ++ [.enter 0 10 (.arm 0 50), .timerExpiry 50] ++ reactAt 50 8 ++
    [.enter 1 60 (.handover 1 33)] ++ List.replicate 6 (.proceed 1 60 60000) ++ [.swtSet]

theorem nothing_lost_takenOver :
    NothingLost Config.image
      (follow (World.step Config.image) (World.boot (fun _ => true) { swtRunning := true })
        takenOver) :=
  nothing_lost Config.image (fun _ => true) { swtRunning := true }
    (reaches_follow takenOver (by decide +kernel))

/-- The hook latches at 1 s; route 3 is armed 2^32 ms later, and judged by an
age of the braking command that has turned over. -/
def turnedOver : List Event :=
  reactAt 0 1 ++ [.enter 0 500 (.noteSpeed 8000), .enter 0 1000 (.hook 7), .proceed 0 1000 1000000] ++
    reactAt 1000 9 ++ [.enter 0 4294964296 (.arm 3 4294968917), .timerExpiry 4294968917] ++
    reactAt 4294968917 7

/-- The pass ends with route 3 armed to a due 49 days gone. -/
theorem not_nothing_lost : ¬ ∀ (registered : Slot → Bool) (levels : Levels) (w : World),
    Reaches (World.step Config.image) Allowed (World.boot registered levels) w →
      NothingLost Config.image w := by
  intro h
  have hLost := h (fun _ => false) {} _ (reaches_follow turnedOver (by decide +kernel))
  have hLater := hLost.later 4294968917 (by decide +kernel) .emergencyStandstill
    (by decide +kernel)
  revert hLater
  decide +kernel

end Kernel
end SafetyIsland
