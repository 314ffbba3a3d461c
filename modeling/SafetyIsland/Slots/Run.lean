import SafetyIsland.Slots.Owner
import SafetyIsland.Kernel.Resume

/-! One owner per slot, and no silent slot: what every step of the two ticks
and the reaction thread does to a slot, and what holds when the thread runs at
every deadline its wait names. -/
namespace SafetyIsland
namespace Slots
open Supervisor Transition

/-- Whose publishes a slot's are. -/
inductive Owner where
  | direct
  | executor
  | resumed
  deriving DecidableEq, Repr

def owner (d : DirectSlot) : Owner :=
  if d.resumed then .resumed else if d.handover then .executor else .direct

/-- The same owner, or the next one. -/
def Owner.Follows : Owner → Owner → Prop
  | .direct, .direct | .direct, .executor => True
  | .executor, .executor | .executor, .resumed => True
  | .resumed, .resumed => True
  | _, _ => False

def Event.calls (cfg : Config) (k : Slots) : Event → List DirectCall
  | .pass p _ => (Supervisor.pass cfg p k.supervisor).2
  | _ => []

/-- What one step does to the slots. -/
structure StepSafe (cfg : Config) (rates : Rates) (w : World) (e : Event) : Prop where
  /-- Direct path, executor path, direct path, and no way back. -/
  hands : ∀ i, (owner (w.state.supervisor.slots i)).Follows
    (owner ((next cfg rates w.state e).supervisor.slots i))
  /-- A slot's direct function is called only once the output is latched, and
  only while the slot is the direct path's. -/
  direct : ∀ call ∈ e.calls cfg w.state,
    (next cfg rates w.state e).supervisor.latch.latched = true ∧
      owner ((next cfg rates w.state e).supervisor.slots call.slot) ≠ .executor
  /-- A tick that began after its slot's resume publishes nothing. -/
  silent : ∀ now i runs, e = .goesOn now i runs → w.history.late i = true →
    (w.state.ticks i).publishes = none
  /-- Once a pass finds the direct path's publish due, it calls each slot the
  direct path owns. -/
  called : ∀ p waitNow, e = .pass p waitNow →
    (next cfg rates w.state e).supervisor.latch.latched = true →
    w.state.supervisor.latch.latched = false ∨
      w.state.supervisor.directNextMs ≤ p.serviceNow →
    ∀ i, owner ((next cfg rates w.state e).supervisor.slots i) ≠ .executor →
      ∃ call ∈ e.calls cfg w.state, call.slot = i
  /-- A slot resumes only when its report is `RESUME_PERIODS` of its period old. -/
  resume : ∀ p waitNow, e = .pass p waitNow → ∀ i,
    (w.state.supervisor.slots i).resumed = false →
    ((next cfg rates w.state e).supervisor.slots i).resumed = true →
    w.history.reportAt i + limitMs cfg rates i ≤ p.serviceNow

section Step
variable {cfg : Config} {rates : Rates} {w : World} {e : Event} {i : Slot}

/-- Flags that are only ever set hand a slot on in order. -/
theorem Owner.Follows.of_mono {d d' : DirectSlot}
    (hHandover : d.handover = true → d'.handover = true)
    (hStays : d.resumed = true → d'.resumed = true)
    (hResumes : d'.resumed = true → d.resumed = true ∨ d.handover = true) :
    (owner d).Follows (owner d') := by
  unfold owner
  cases hR : d.resumed with
  | true => simp [hStays hR, Owner.Follows]
  | false =>
      cases hH : d.handover with
      | true => cases hR' : d'.resumed <;> simp [hHandover hH, Owner.Follows]
      | false =>
          have hR' : d'.resumed = false := by
            by_contra h
            simpa [hR, hH] using hResumes (by simpa using h)
          cases hH' : d'.handover <;> simp [hR', Owner.Follows]

/-- No event hands a slot back. -/
theorem hands (hAllowed : Allowed w e) :
    (owner (w.state.supervisor.slots i)).Follows
      (owner ((next cfg rates w.state e).supervisor.slots i)) := by
  have hSame : (next cfg rates w.state e).supervisor.slots i = w.state.supervisor.slots i →
      (owner (w.state.supervisor.slots i)).Follows
        (owner ((next cfg rates w.state e).supervisor.slots i)) := by
    intro hSame
    rw [hSame]
    exact .of_mono id id .inl
  cases e with
  | begins | operate | give => exact hSame rfl
  | call e => exact hSame (congrFun (next_other_slots hAllowed.1) i)
  | goesOn now j runs =>
      by_cases hOther : i = j
      · subst hOther
        have hOwn := Tick.next_own rates now runs w.state (w.state.ticks i)
        exact .of_mono hOwn.handover (fun hR => hOwn.resumed.trans hR)
          (fun hR => .inl (hOwn.resumed.symm.trans hR))
      · exact hSame ((Tick.next_frame rates now runs w.state (w.state.ticks j)).slots i hOther)
  | pass p waitNow =>
      obtain ⟨-, hHandover, -, -⟩ := pass_slots cfg p w.state.supervisor i
      have hResumed := pass_resumed cfg p w.state.supervisor i
      apply Owner.Follows.of_mono (fun hH => hHandover.trans hH)
      · intro hR
        show ((Supervisor.pass cfg p w.state.supervisor).1.slots i).resumed = true
        rw [hResumed, hR]
        rfl
      · intro hAfter
        have hAfter : ((Supervisor.pass cfg p w.state.supervisor).1.slots i).resumed = true := hAfter
        rw [hResumed] at hAfter
        cases hBefore : (w.state.supervisor.slots i).resumed with
        | true => exact .inl rfl
        | false =>
            simp [hBefore, resumable, taken_slots, DirectSlot.watched] at hAfter
            exact .inr hAfter.2.1.2

/-- What the direct path owns is not the executor's. -/
theorem owner_of_owned {d : DirectSlot} (hOwned : d.owned = true) : owner d ≠ .executor := by
  simp only [DirectSlot.owned, Bool.and_eq_true, Bool.or_eq_true, Bool.not_eq_true'] at hOwned
  unfold owner
  rcases hOwned.2 with hHandover | hResumed
  · cases d.resumed <;> simp [hHandover]
  · simp [hResumed]

/-- A slot's silence, in the words of its report. -/
theorem silentAt_eq_true {d : DirectSlot} {now t : Int} (hAlive : d.aliveMs = uptime32 t)
    (hPeriod : d.alivePeriodMs = rates.periodMs i) :
    silentAt cfg d now = true ↔ limitMs cfg rates i ≤ (uptime32 now - uptime32 t).toNat := by
  rw [silentAt_iff, hAlive, toNat_resumeLimit cfg rates i hPeriod]

/-- A slot resumes for a report at least that old. -/
theorem SlotInv.resume_age (h : SlotInv rates w i) {p : Pass}
    (hClock : w.history.clock ≤ p.serviceNow)
    (hBefore : (w.state.supervisor.slots i).resumed = false)
    (hAfter : ((Supervisor.pass cfg p w.state.supervisor).1.slots i).resumed = true) :
    w.history.reportAt i + limitMs cfg rates i ≤ p.serviceNow := by
  rw [pass_resumed, hBefore, taken_resumable, Bool.false_or, Bool.and_eq_true] at hAfter
  have hResumable := hAfter.2
  simp only [resumable, DirectSlot.watched, Bool.and_eq_true] at hResumable
  obtain ⟨⟨⟨-, hHandover⟩, -⟩, hSilent⟩ := hResumable
  rw [silentAt_eq_true (h.report (.inl hHandover)) (h.period (.inl hHandover))] at hSilent
  have hAge : ((uptime32 p.serviceNow - uptime32 (w.history.reportAt i)).toNat : Int) ≤
      p.serviceNow - w.history.reportAt i :=
    WrappingClock.age_le (h.reportLe.trans hClock)
  omega

/-- A pass that finds the publish due calls each slot the direct path owns. -/
theorem pass_called {p : Pass} {s : Supervisor} (hOrder : p.now ≤ p.serviceNow)
    (hRegistered : (s.slots i).registered = true)
    (hLatched : (Supervisor.pass cfg p s).1.latch.latched = true)
    (hDue : s.latch.latched = false ∨ s.directNextMs ≤ p.serviceNow)
    (hOwner : owner ((Supervisor.pass cfg p s).1.slots i) ≠ .executor) :
    ∃ call ∈ (Supervisor.pass cfg p s).2, call.slot = i := by
  have hOwned : ((Supervisor.pass cfg p s).1.slots i).owned = true := by
    have hSlots := (pass_slots cfg p s i).1
    simp only [DirectSlot.owned, hSlots, hRegistered, Bool.true_and]
    unfold owner at hOwner
    cases hR : ((Supervisor.pass cfg p s).1.slots i).resumed <;>
      cases hH : ((Supervisor.pass cfg p s).1.slots i).handover <;> simp_all
  rw [pass_latch] at hLatched
  have hNext : (taken cfg p s).directNextMs ≤ p.serviceNow := by
    rw [taken_directNextMs, hLatched]
    split_ifs with hFirst
    · exact hOrder
    · exact hDue.resolve_left (by simpa using hFirst)
  unfold Supervisor.pass at hOwned ⊢
  rw [if_pos hLatched] at hOwned ⊢
  apply directService_called hNext
  rcases directService_slots cfg p.serviceNow p.publishNow (taken cfg p s) i with hSame | hSame
  · rwa [hSame] at hOwned
  · simpa [hSame, DirectSlot.owned] using hOwned

/-- In every reachable state an allowed event is safe. -/
theorem stepSafe (h : ∀ i, SlotInv rates w i) (hAllowed : Allowed w e) :
    StepSafe cfg rates w e where
  hands _ := hands hAllowed
  direct call hCall := by
    cases e with
    | pass p waitNow =>
        obtain ⟨hLatched, hOwned⟩ := pass_calls cfg p w.state.supervisor hCall
        exact ⟨hLatched, owner_of_owned hOwned⟩
    | _ => simp [Event.calls] at hCall
  silent now i runs _ hLate := Tick.publishes_of_silent ((h i).late hLate).2
  called p waitNow hPass hLatched hDue i hOwner := by
    subst hPass
    obtain ⟨⟨hNow, hLatch, hService, -⟩, -⟩ := hAllowed
    exact pass_called (by omega) (h i).registered hLatched hDue hOwner
  resume p waitNow hPass i hBefore hAfter := by
    subst hPass
    obtain ⟨⟨hNow, hLatch, hService, -⟩, -⟩ := hAllowed
    exact (h i).resume_age (by omega) hBefore hAfter

end Step

/-- A pass takes `passMs` at most, and a report it sees is less than a turn of
the clock old. -/
def Prompt (passMs : Nat) (w : World) : Event → Prop
  | .pass p waitNow => waitNow ≤ p.now + passMs ∧ ∀ i ∈ Slot.all,
      (w.state.supervisor.slots i).handover = true → waitNow - w.history.reportAt i < 2 ^ 32
  | _ => True

instance (passMs : Nat) (w : World) (e : Event) : Decidable (Prompt passMs w e) :=
  match e with
  | .pass .. => by unfold Prompt; infer_instance
  | .begins .. | .goesOn .. | .operate .. | .call .. | .give => isTrue trivial

def Event.start (clock : Int) : Event → Int
  | .pass p _ => p.now
  | e => e.finish clock

/-- The thread runs at every deadline its wait names, or at once if that has
passed. -/
def Timely (passMs : Nat) (w : World) (e : Event) : Prop :=
  Allowed w e ∧ Prompt passMs w e ∧ (w.state.deadline.all fun deadline =>
    decide (e.start w.history.clock ≤ max deadline w.history.clock)) = true

instance (passMs : Nat) (w : World) (e : Event) : Decidable (Timely passMs w e) := by
  unfold Timely
  infer_instance

/-- The slot is handed over and not resumed, and the thread has passed since. -/
def Watched (w : World) (i : Slot) : Prop :=
  owner (w.state.supervisor.slots i) = .executor ∧ w.history.served i = true

/-- No slot goes silent, by more than a pass takes. -/
structure NotSilent (cfg : Config) (rates : Rates) (passMs : Nat) (w : World) (i : Slot) :
    Prop where
  /-- A watched slot's last report is recent. -/
  reported : Watched w i →
    w.history.clock ≤ w.history.reportAt i + limitMs cfg rates i + passMs
  /-- Once latched, any other slot is published within a direct period. -/
  published : w.state.supervisor.latch.latched = true → ¬ Watched w i →
    w.history.clock ≤ w.state.supervisor.directNextMs + passMs ∧
      w.state.supervisor.directNextMs ≤ w.history.clock + cfg.directPeriodMs
  /-- The thread's next pass sees a handover: its wake is given, or is the next
  statement of the first report. -/
  woken : owner (w.state.supervisor.slots i) = .executor → w.history.served i = false →
    w.state.wake = true ∨ w.state.ticks i = .handover .handedOver

/-- And the thread's wait ends in time for it to stay so. -/
structure SilenceInv (cfg : Config) (rates : Rates) (passMs : Nat) (w : World) (i : Slot) : Prop
    extends NotSilent cfg rates passMs w i where
  handover : w.history.served i = true → (w.state.supervisor.slots i).handover = true
  resumeDue : Watched w i →
    Earliest.NoLater w.state.deadline (w.history.reportAt i + limitMs cfg rates i + passMs)
  publishDue : w.state.supervisor.latch.latched = true → ¬ Watched w i →
    Earliest.NoLater w.state.deadline w.state.supervisor.directNextMs
  bound : w.state.supervisor.latch.latched = true →
    w.state.supervisor.directNextMs ≤ w.history.clock + cfg.directPeriodMs

section Silence
variable {cfg : Config} {rates : Rates} {passMs : Nat} {w v : World} {e : Event} {i : Slot}

theorem owner_eq_executor {d : DirectSlot} :
    owner d = .executor ↔ d.handover = true ∧ d.resumed = false := by
  unfold owner
  cases d.resumed <;> cases d.handover <;> simp

/-- At boot nothing is published yet. -/
theorem SilenceInv.boot (levels : Levels) (i : Slot) :
    SilenceInv cfg rates passMs (World.boot levels) i where
  reported h := by simp [Watched, World.boot] at h
  published h := by simp [World.boot] at h
  woken h := by simp [World.boot, owner] at h
  handover h := by simp [World.boot] at h
  resumeDue h := by simp [Watched, World.boot] at h
  publishDue h := by simp [World.boot] at h
  bound h := by simp [World.boot] at h

/-- What a thread's or an interrupt's step leaves of what the wait is for. -/
structure Undisturbed (w v : World) (i : Slot) : Prop where
  latch : v.state.supervisor.latch = w.state.supervisor.latch
  directNextMs : v.state.supervisor.directNextMs = w.state.supervisor.directNextMs
  deadline : v.state.deadline = w.state.deadline
  served : v.history.served = w.history.served
  resumed : (v.state.supervisor.slots i).resumed = (w.state.supervisor.slots i).resumed
  handover : (w.state.supervisor.slots i).handover = true →
    (v.state.supervisor.slots i).handover = true
  reportAt : w.history.reportAt i ≤ v.history.reportAt i
  clock : w.history.clock ≤ v.history.clock

/-- Undisturbed, a slot is watched as it was. -/
theorem SilenceInv.watched_iff (h : SilenceInv cfg rates passMs w i) (hSame : Undisturbed w v i) :
    Watched v i ↔ Watched w i := by
  simp only [Watched, owner_eq_executor, hSame.served, hSame.resumed]
  constructor
  · rintro ⟨⟨-, hResumed⟩, hServed⟩
    exact ⟨⟨h.handover hServed, hResumed⟩, hServed⟩
  · rintro ⟨⟨hHandover, hResumed⟩, hServed⟩
    exact ⟨⟨hSame.handover hHandover, hResumed⟩, hServed⟩

/-- What a thread or an interrupt does by the deadline makes no slot silent. -/
theorem SilenceInv.keep (h : SilenceInv cfg rates passMs w i) (hSame : Undisturbed w v i)
    (hTimely : ∀ deadline, w.state.deadline = some deadline →
      v.history.clock ≤ max deadline w.history.clock)
    (hWoken : owner (v.state.supervisor.slots i) = .executor → v.history.served i = false →
      v.state.wake = true ∨ v.state.ticks i = .handover .handedOver) :
    SilenceInv cfg rates passMs v i := by
  have hWatched := h.watched_iff hSame
  have hBound : v.state.supervisor.latch.latched = true →
      v.state.supervisor.directNextMs ≤ v.history.clock + cfg.directPeriodMs := by
    intro hLatched
    rw [hSame.latch] at hLatched
    have := h.bound hLatched
    have := hSame.clock
    rw [hSame.directNextMs]
    omega
  constructor
  · constructor
    · intro hNow
      obtain ⟨deadline, hDeadline, hLe⟩ := h.resumeDue (hWatched.mp hNow)
      have := hTimely deadline hDeadline
      have := h.reported (hWatched.mp hNow)
      have := hSame.reportAt
      omega
    · intro hLatched hNot
      obtain ⟨deadline, hDeadline, hLe⟩ :=
        h.publishDue (hSame.latch ▸ hLatched) (hWatched.not.mp hNot)
      refine ⟨?_, hBound hLatched⟩
      have := hTimely deadline hDeadline
      have := (h.published (hSame.latch ▸ hLatched) (hWatched.not.mp hNot)).1
      rw [hSame.directNextMs]
      omega
    · exact hWoken
  · intro hServed
    rw [hSame.served] at hServed
    exact hSame.handover (h.handover hServed)
  · intro hNow
    obtain ⟨deadline, hDeadline, hLe⟩ := h.resumeDue (hWatched.mp hNow)
    have := hSame.reportAt
    exact ⟨deadline, hSame.deadline.trans hDeadline, by omega⟩
  · intro hLatched hNot
    rw [hSame.deadline, hSame.directNextMs]
    exact h.publishDue (hSame.latch ▸ hLatched) (hWatched.not.mp hNot)
  · exact hBound

/-- A reading that a report is made of is no older than the last one's. -/
theorem SlotInv.reportAt_le (h : SlotInv rates w i) {now : Int} {j : Slot} {runs : Bool} :
    w.history.reportAt i ≤ (w.step cfg rates (.goesOn now j runs)).history.reportAt i := by
  by_cases hOther : i = j
  · subst hOther
    cases hStage : (w.state.ticks i).stage with
    | none => simp [note, Event.completes, hStage]
    | some stage =>
        cases stage with
        | clocked nowMs =>
            have := (h.reading nowMs hStage).2.2
            simpa [note, Event.completes, hStage] using this
        | _ => simp [note, Event.completes, hStage]
  · exact (note_other (t := next cfg rates w.state (.goesOn now j runs)) hOther).2.ge

/-- Any step but a pass. -/
theorem undisturbed (hSlot : SlotInv rates w i) (hAllowed : Allowed w e)
    (hCall : ∀ p waitNow, e ≠ .pass p waitNow) :
    Undisturbed w (w.step cfg rates e) i := by
  cases e with
  | begins now j => exact ⟨rfl, rfl, rfl, rfl, rfl, id, le_rfl, hAllowed.1⟩
  | operate operating => exact ⟨rfl, rfl, rfl, rfl, rfl, id, le_rfl, le_rfl⟩
  | give => exact ⟨rfl, rfl, rfl, rfl, rfl, id, le_rfl, le_rfl⟩
  | call e =>
      have hFrame : CallFrame w.state.supervisor (Supervisor.next cfg w.state.supervisor e) :=
        next_other hAllowed.1
      have hSlots : (Supervisor.next cfg w.state.supervisor e).slots = w.state.supervisor.slots :=
        next_other_slots hAllowed.1
      exact ⟨hFrame.latch, hFrame.directNextMs, rfl, rfl, hFrame.resumed i,
        fun h => (congrArg DirectSlot.handover (congrFun hSlots i)).trans h, le_rfl,
        hAllowed.2.1.le_finish⟩
  | goesOn now j runs =>
      have hFrame := Tick.next_frame rates now runs w.state (w.state.ticks j)
      have hResumed : ((next cfg rates w.state (.goesOn now j runs)).supervisor.slots i).resumed =
          (w.state.supervisor.slots i).resumed ∧
          ((w.state.supervisor.slots i).handover = true →
            ((next cfg rates w.state (.goesOn now j runs)).supervisor.slots i).handover = true) := by
        by_cases hOther : i = j
        · subst hOther
          have hOwn := Tick.next_own rates now runs w.state (w.state.ticks i)
          exact ⟨hOwn.resumed, hOwn.handover⟩
        · have hSame := hFrame.slots i hOther
          exact ⟨congrArg DirectSlot.resumed hSame,
            fun h => (congrArg DirectSlot.handover hSame).trans h⟩
      exact ⟨hFrame.latch, hFrame.directNextMs, rfl, rfl, hResumed.1, hResumed.2,
        hSlot.reportAt_le, hAllowed.1⟩
  | pass p waitNow => exact absurd rfl (hCall p waitNow)

/-- The statement that hands a slot over has the wake as its next one. -/
theorem handover_next (rates : Rates) (now : Int) (runs : Bool) (k : Slots)
    (hBefore : (k.supervisor.slots i).handover = true → k.ticks i = .handover .handedOver)
    (hAfter : (((k.ticks i).next rates now runs k).supervisor.slots i).handover = true) :
    (next cfg rates k (.goesOn now i runs)).wake = true ∨
      (next cfg rates k (.goesOn now i runs)).ticks i = .handover .handedOver := by
  have hGives (hTick : k.ticks i = .handover .handedOver) :
      (next cfg rates k (.goesOn now i runs)).wake = true := by
    simp [next, hTick, Tick.next, proceed_handedOver]
  cases hStage : (k.ticks i).stage with
  | none =>
      rw [(Tick.next_outside rates now runs k (k.ticks i) hStage).1] at hAfter
      exact .inl (hGives (hBefore hAfter))
  | some stage =>
      have hTick : k.ticks i = .handover stage := by
        cases hTick : k.ticks i <;> simp_all [Tick.stage]
      cases stage with
      | handedOver => exact .inl (hGives hTick)
      | stamped =>
          right
          simp [next, hTick, Tick.next, proceed_stamped, afterStage]
      | latched =>
          have hSame : (k.supervisor.slots i).handover = true := by
            rw [hTick] at hAfter
            simp only [Tick.next] at hAfter
            cases hResumed : (k.supervisor.slots i).resumed with
            | true => simpa [proceed_latched_resumed _ _ _ _ hResumed] using hAfter
            | false => simpa [proceed_latched _ _ _ _ hResumed] using hAfter
          simp [hTick] at hBefore
          simp [hBefore] at hSame
      | reported nowMs =>
          cases hHandover : (k.supervisor.slots i).handover with
          | true => exact .inl (hGives (hBefore hHandover))
          | false =>
              rw [hTick] at hAfter
              simp [Tick.next, proceed_reported _ _ _ _ _ hHandover, hHandover] at hAfter
      | held | clocked nowMs | timed nowMs =>
          have hSame : (k.supervisor.slots i).handover = true := by
            rw [hTick] at hAfter
            simpa [Tick.next, proceed_held, proceed_clocked, proceed_timed] using hAfter
          exact .inl (hGives (hBefore hSame))

/-- A first report gives the wake by its next statement. -/
theorem SilenceInv.woken_next (h : SilenceInv cfg rates passMs w i) (hAllowed : Allowed w e)
    (hCall : ∀ p waitNow, e ≠ .pass p waitNow)
    (hOwner : owner ((next cfg rates w.state e).supervisor.slots i) = .executor)
    (hServed : w.history.served i = false) :
    (next cfg rates w.state e).wake = true ∨
      (next cfg rates w.state e).ticks i = .handover .handedOver := by
  cases e with
  | give => exact .inl rfl
  | operate operating => exact h.woken hOwner hServed
  | call e =>
      have hSlots : (Supervisor.next cfg w.state.supervisor e).slots = w.state.supervisor.slots :=
        next_other_slots hAllowed.1
      have hOwner : owner ((Supervisor.next cfg w.state.supervisor e).slots i) = .executor := hOwner
      rw [hSlots] at hOwner
      exact h.woken hOwner hServed
  | begins now j =>
      obtain ⟨-, hAsleep, hIdle⟩ := hAllowed
      have hTick := (h.woken hOwner hServed).resolve_left (by simp [hAsleep])
      by_cases hOther : i = j
      · subst hOther
        simp [hIdle] at hTick
      · exact .inr (by simpa [next, hOther] using hTick)
  | goesOn now j runs =>
      obtain ⟨-, hAsleep, -⟩ := hAllowed
      by_cases hOther : i = j
      · subst hOther
        have hBefore : (w.state.supervisor.slots i).handover = true →
            w.state.ticks i = .handover .handedOver := by
          intro hHandover
          apply (h.woken ?_ hServed).resolve_left (by simp [hAsleep])
          rw [owner_eq_executor] at hOwner ⊢
          have hOwn := Tick.next_own rates now runs w.state (w.state.ticks i)
          exact ⟨hHandover, hOwn.resumed.symm.trans hOwner.2⟩
        exact handover_next rates now runs w.state hBefore (owner_eq_executor.mp hOwner).1
      · have hSame := (Tick.next_frame rates now runs w.state (w.state.ticks j)).slots i hOther
        have hOwner : owner (((w.state.ticks j).next rates now runs w.state).supervisor.slots i) =
            .executor := hOwner
        rw [hSame] at hOwner
        have hTick := (h.woken hOwner hServed).resolve_left (by simp [hAsleep])
        exact .inr (by simpa [next, hOther] using hTick)
  | pass p waitNow => exact absurd rfl (hCall p waitNow)

/-- The wait is until the report is too old, or not at all if it is. -/
theorem resumeDue_eq {d : DirectSlot} {now t : Int} (hAlive : d.aliveMs = uptime32 t)
    (hPeriod : d.alivePeriodMs = rates.periodMs i) (hLe : t ≤ now) (hTurn : now - t < 2 ^ 32) :
    resumeDue cfg d now = max now (t + limitMs cfg rates i) := by
  have hLimit := toNat_resumeLimit cfg rates i hPeriod
  have hAge : ((uptime32 now - d.aliveMs).toNat : Int) = now - t := by
    rw [hAlive]
    exact WrappingClock.age_eq hLe hTurn
  rw [resumeDue_eq_add, hLimit]
  omega

/-- A slot that a pass leaves watched has a report that is not too old. -/
theorem SlotInv.pass_young (h : SlotInv rates w i) {p : Pass} (hClock : w.history.clock ≤ p.serviceNow)
    (hHandover : (w.state.supervisor.slots i).handover = true)
    (hHeld : ((Supervisor.pass cfg p w.state.supervisor).1.slots i).resumed = false)
    (hTurn : p.serviceNow - w.history.reportAt i < 2 ^ 32) :
    p.serviceNow < w.history.reportAt i + limitMs cfg rates i := by
  have hLatched := h.latched hHandover
  rw [pass_resumed, taken_latch cfg p _ hLatched, hLatched, taken_resumable, Bool.true_and,
    Bool.or_eq_false_iff] at hHeld
  obtain ⟨hResumed, hQuiet⟩ := hHeld
  have hSilent : silentAt cfg (w.state.supervisor.slots i) p.serviceNow = false := by
    simpa [resumable, DirectSlot.watched, h.registered, hHandover, hResumed] using hQuiet
  have hAge : ((uptime32 p.serviceNow - uptime32 (w.history.reportAt i)).toNat : Int) =
      p.serviceNow - w.history.reportAt i :=
    WrappingClock.age_eq (h.reportLe.trans hClock) hTurn
  have hYoung : ¬ limitMs cfg rates i ≤
      (uptime32 p.serviceNow - uptime32 (w.history.reportAt i)).toNat := by
    rw [← silentAt_eq_true (h.report (.inl hHandover)) (h.period (.inl hHandover)), hSilent]
    simp
  omega

/-- Once latched, a pass leaves the direct path's next publish ahead, and at
most a period away. -/
theorem pass_next {p : Pass} {s : Supervisor} {clock : Int} (hOrder : p.Ordered clock)
    (hLatched : (Supervisor.pass cfg p s).1.latch.latched = true)
    (hBound : s.latch.latched = true → s.directNextMs ≤ clock + cfg.directPeriodMs) :
    ((Supervisor.pass cfg p s).1.directPending = true →
      p.serviceNow ≤ (Supervisor.pass cfg p s).1.directNextMs) ∧
    (Supervisor.pass cfg p s).1.directNextMs ≤ p.serviceNow + cfg.directPeriodMs := by
  obtain ⟨hNow, hLatchNow, hService, -⟩ := hOrder
  rw [pass_latch] at hLatched
  have hNext : (taken cfg p s).directNextMs ≤ p.serviceNow + cfg.directPeriodMs := by
    rw [taken_directNextMs, hLatched]
    split_ifs with hFirst
    · omega
    · have := hBound (by simpa using hFirst)
      omega
  unfold Supervisor.pass
  rw [if_pos hLatched]
  exact ⟨directService_next.1, directService_next.2 hNext⟩

/-- A pass resumes a slot, or finds its report recent and waits for it. -/
theorem SilenceInv.pass (h : SilenceInv cfg rates passMs w i) (hSlot : SlotInv rates w i)
    {p : Pass} {waitNow : Int} (hTimely : Timely passMs w (.pass p waitNow)) :
    SilenceInv cfg rates passMs (w.step cfg rates (.pass p waitNow)) i := by
  obtain ⟨hAllowed, ⟨hPrompt, hTurn⟩, -⟩ := hTimely
  have hOrder := hAllowed.1
  obtain ⟨hService, hWaits, hSpan, hClock⟩ : p.serviceNow ≤ waitNow ∧ p.now ≤ p.serviceNow ∧
      waitNow ≤ p.serviceNow + passMs ∧ w.history.clock ≤ p.serviceNow := by
    have := hAllowed.2.1
    obtain ⟨_, _, _, _⟩ := hOrder
    omega
  obtain ⟨hRegistered, hHandover, hAlive, hPeriod⟩ := pass_slots cfg p w.state.supervisor i
  have hRegistered := hRegistered.trans hSlot.registered
  let s := (Supervisor.pass cfg p w.state.supervisor).1
  have hNext : s.latch.latched = true →
      (s.directPending = true → p.serviceNow ≤ s.directNextMs) ∧
        s.directNextMs ≤ p.serviceNow + cfg.directPeriodMs :=
    fun hLatched => pass_next hOrder hLatched h.bound
  have hWait := fun hLatched : s.latch.latched = true => latchedWait_noLater cfg waitNow hLatched
  have hWatched : Watched (w.step cfg rates (.pass p waitNow)) i ↔
      (s.slots i).handover = true ∧ (s.slots i).resumed = false := by
    show owner (s.slots i) = .executor ∧ (w.state.supervisor.slots i).handover = true ↔ _
    rw [owner_eq_executor, ← hHandover]
    tauto
  have hYoung : (s.slots i).handover = true → (s.slots i).resumed = false →
      p.serviceNow < w.history.reportAt i + limitMs cfg rates i := by
    intro hHeld hResumed
    rw [hHandover] at hHeld
    have hAge := hTurn i (Slot.mem_all i) hHeld
    exact hSlot.pass_young hClock hHeld hResumed (by omega)
  have hPending : ¬ Watched (w.step cfg rates (.pass p waitNow)) i → s.directPending = true := by
    intro hNot
    have hOwned : (s.slots i).owned = true := by
      rw [hWatched] at hNot
      cases hH : (s.slots i).handover <;> cases hR : (s.slots i).resumed <;>
        simp_all [DirectSlot.owned, s]
    cases i <;> simp [directPending, hOwned]
  constructor
  · constructor
    · intro hNow
      obtain ⟨hHeld, hResumed⟩ := hWatched.mp hNow
      have := hYoung hHeld hResumed
      show waitNow ≤ w.history.reportAt i + limitMs cfg rates i + passMs
      omega
    · intro hLatched hNot
      have := (hNext hLatched).1 (hPending hNot)
      have := (hNext hLatched).2
      show waitNow ≤ s.directNextMs + passMs ∧ s.directNextMs ≤ waitNow + cfg.directPeriodMs
      omega
    · intro hOwner hServed
      have hServed : (w.state.supervisor.slots i).handover = false := hServed
      have hHeld : (s.slots i).handover = true := (owner_eq_executor.mp hOwner).1
      rw [hHandover, hServed] at hHeld
      simp at hHeld
  · intro hServed
    exact hHandover.trans hServed
  · intro hNow
    obtain ⟨hHeld, hResumed⟩ := hWatched.mp hNow
    have hBefore := hHandover.symm.trans hHeld
    have hDue : Supervisor.resumeDue cfg (s.slots i) waitNow =
        max waitNow (w.history.reportAt i + limitMs cfg rates i) :=
      resumeDue_eq (hAlive.trans (hSlot.report (.inl hBefore)))
        (hPeriod.trans (hSlot.period (.inl hBefore)))
        (hSlot.reportLe.trans (hClock.trans hService)) (hTurn i (Slot.mem_all i) hBefore)
    have := hYoung hHeld hResumed
    have hLatched : s.latch.latched = true :=
      pass_latched cfg p w.state.supervisor (hSlot.latched hBefore)
    obtain ⟨deadline, hDeadline, hLe⟩ :=
      (hWait hLatched).2.1 i (by simp [DirectSlot.watched, s, hRegistered, hHeld, hResumed])
    refine ⟨deadline, hDeadline, ?_⟩
    show deadline ≤ w.history.reportAt i + limitMs cfg rates i + passMs
    rw [hDue] at hLe
    omega
  · intro hLatched hNot
    exact (hWait hLatched).1 (hPending hNot)
  · intro hLatched
    have := (hNext hLatched).2
    show s.directNextMs ≤ waitNow + cfg.directPeriodMs
    omega

/-- One event, whichever it is. -/
theorem SilenceInv.step (h : SilenceInv cfg rates passMs w i) (hSlot : SlotInv rates w i)
    (hTimely : Timely passMs w e) : SilenceInv cfg rates passMs (w.step cfg rates e) i := by
  obtain ⟨hAllowed, -, hOnTime⟩ := id hTimely
  by_cases hCall : ∀ p waitNow, e ≠ .pass p waitNow
  · have hSame : Undisturbed w (w.step cfg rates e) i := undisturbed hSlot hAllowed hCall
    apply h.keep hSame
    · intro deadline hDeadline
      rw [hDeadline] at hOnTime
      have hStart : e.start w.history.clock ≤ max deadline w.history.clock :=
        of_decide_eq_true hOnTime
      cases e with
      | pass p waitNow => exact absurd rfl (hCall p waitNow)
      | _ => exact hStart
    · intro hOwner hServed
      rw [hSame.served] at hServed
      exact h.woken_next hAllowed hCall hOwner hServed
  · push Not at hCall
    obtain ⟨p, waitNow, rfl⟩ := hCall
    exact h.pass hSlot hTimely

end Silence

/-- For every order of the two ticks' statements and the thread's passes, each
step keeps the slots' owners. When the thread runs at every deadline its wait
names, no slot goes silent by more than a pass takes. -/
theorem slots_owned (cfg : Config) (rates : Rates) (passMs : Nat) (levels : Levels) :
    (∀ w, Reaches (World.step cfg rates) Allowed (World.boot levels) w →
      ∀ e, Allowed w e → StepSafe cfg rates w e) ∧
    ∀ w, Reaches (World.step cfg rates) (Timely passMs) (World.boot levels) w →
      ∀ i, NotSilent cfg rates passMs w i := by
  have hSlots : ∀ w, Reaches (World.step cfg rates) Allowed (World.boot levels) w →
      ∀ i, SlotInv rates w i := by
    intro w run
    exact run.invariant (P := fun w => ∀ i, SlotInv rates w i) (SlotInv.boot levels)
      (fun w e h hAllowed i => (h i).step hAllowed)
  constructor
  · intro w run e hAllowed
    exact stepSafe (hSlots w run) hAllowed
  · intro w run i
    apply SilenceInv.toNotSilent
    exact run.invariant_with (P := fun w => SilenceInv cfg rates passMs w i)
      (fun w prior => hSlots w (prior.mono fun _ _ h => h.1)) (SilenceInv.boot levels i)
      (fun w e hKnown h hTimely => h.step (hKnown i) hTimely)

def passAt (now : Int) (woken : Bool) : Event := .pass { Pass.at now with woken := woken } now

/-- The hook latches, and the operator's first report reads the clock at 60 ms. -/
def firstReport : List Event :=
  [.call (.hook 7), .give, passAt 50 true, .operate true, .begins 55 .operator] ++
    [56, 57, 58, 60].map fun now => .goesOn now .operator true

/-- It goes on undisturbed, and the thread sees the handover in a pass of 1 ms. -/
def seen : List Event :=
  firstReport ++ List.replicate 5 (.goesOn 61 .operator true) ++ [.pass (.at 61) 62]

theorem slots_owned_seen :
    NotSilent Config.image Rates.declared 1
      (follow (World.step Config.image .declared) (World.boot {}) seen) .operator :=
  (slots_owned Config.image .declared 1 {}).2 _ (reaches_follow seen (by decide +kernel)) .operator

/-- It is preempted there for three publishes of the direct path. -/
def overtaken : List Event :=
  firstReport ++ [passAt 83 false, passAt 116 false, passAt 149 false] ++
    List.replicate 4 (.goesOn 170 .operator true)

/-- The slot is handed over by a report that is already 110 ms old. -/
theorem not_slots_owned : ¬ ∀ w,
    Reaches (World.step Config.image .declared) (Timely 0) (World.boot {}) w →
      ∀ i, owner (w.state.supervisor.slots i) = .executor →
        w.history.clock ≤ w.history.reportAt i + limitMs Config.image .declared i := by
  intro h
  have hOld := h _ (reaches_follow overtaken (by decide +kernel)) .operator (by decide +kernel)
  revert hOld
  decide +kernel

end Slots
end SafetyIsland
