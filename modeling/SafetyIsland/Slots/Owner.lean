import SafetyIsland.Slots.State
import SafetyIsland.Supervisor.Run

/-! Who owns a slot: the direct path, then the component's executor path, then
the direct path again, and no way back. -/
namespace SafetyIsland

namespace Supervisor
variable (cfg : Config) (p : Pass) (s : Supervisor)

/-- What a pass leaves of a slot: whether it has resumed, and its calls. -/
theorem pass_slots (i : Slot) :
    ((pass cfg p s).1.slots i).registered = (s.slots i).registered ∧
      ((pass cfg p s).1.slots i).handover = (s.slots i).handover ∧
      ((pass cfg p s).1.slots i).aliveMs = (s.slots i).aliveMs ∧
      ((pass cfg p s).1.slots i).alivePeriodMs = (s.slots i).alivePeriodMs := by
  have hWatch (now : Int) : ((directWatch cfg now (taken cfg p s)).1.slots i).registered =
        (s.slots i).registered ∧
      ((directWatch cfg now (taken cfg p s)).1.slots i).handover = (s.slots i).handover ∧
      ((directWatch cfg now (taken cfg p s)).1.slots i).aliveMs = (s.slots i).aliveMs ∧
      ((directWatch cfg now (taken cfg p s)).1.slots i).alivePeriodMs =
        (s.slots i).alivePeriodMs := by
    rw [directWatch_slots, taken_slots]
    split <;> exact ⟨rfl, rfl, rfl, rfl⟩
  unfold pass
  split
  · rcases directService_slots cfg p.serviceNow p.publishNow (taken cfg p s) i with h | h
    · rw [h]
      exact hWatch _
    · rw [h]
      simpa using hWatch p.serviceNow
  · rw [taken_slots]
    exact ⟨rfl, rfl, rfl, rfl⟩

/-- A pass does not unlatch the output. -/
theorem pass_latched (hLatched : s.latch.latched = true) :
    (pass cfg p s).1.latch.latched = true := by
  rw [pass_latch, taken_latch cfg p s hLatched, hLatched]

/-- What a pass calls is the direct path's, of a latched output. -/
theorem pass_calls {call : DirectCall} (hCall : call ∈ (pass cfg p s).2) :
    (pass cfg p s).1.latch.latched = true ∧ ((pass cfg p s).1.slots call.slot).owned = true := by
  rw [pass_latch]
  unfold pass at hCall ⊢
  split at hCall
  · rename_i hLatched
    have hOwned := directService_calls hCall
    refine ⟨hLatched, ?_⟩
    rw [if_pos hLatched]
    rcases directService_slots cfg p.serviceNow p.publishNow (taken cfg p s) call.slot with h | h
    · rwa [h]
    · simpa [h, DirectSlot.owned] using hOwned
  · simp at hCall

variable {cfg s}

/-- Whoever else calls, the slots' words are the components' and the thread's. -/
theorem next_other_slots {e : Event} (hOther : Slots.other e = true) :
    (next cfg s e).slots = s.slots := by
  cases e with
  | pass p => simp [Slots.other] at hOther
  | handover now slot periodMs => simp [Slots.other] at hOther
  | setDirect i => simp [Slots.other] at hOther
  | arm now route due =>
      simp only [next, arm]
      split
      · rfl
      · exact (armRoute_frame ..).slots
  | done route =>
      simp only [next, done]
      split
      · rfl
      · exact (doneRoute_frame ..).slots
  | spinAfter now nowUs report =>
      obtain ⟨levels, h | ⟨due, h⟩ | h⟩ := spinAfter_cases cfg now nowUs report s <;>
        rw [next, h]
      · rfl
      · exact (armRoute_frame ..).slots
      · exact (doneRoute_frame ..).slots
  | noteSpeed | spin | timerExpiry | swtTimeout | hook => rfl

/-- No other call touches the slots or the latch. -/
theorem next_other {e : Event} (hOther : Slots.other e = true) : CallFrame s (next cfg s e) := by
  apply next_call
  rintro p rfl
  simp [Slots.other] at hOther

end Supervisor

namespace Slots
open Supervisor

/-- What another component's statement leaves alone. -/
structure MovedFrame (k : Slots) {i : Slot} (x : Moved i) : Prop where
  latch : x.supervisor.latch = k.supervisor.latch
  directNextMs : x.supervisor.directNextMs = k.supervisor.directNextMs
  slots : ∀ j, j ≠ i → x.supervisor.slots j = k.supervisor.slots j
  takenOver : k.takenOver = true → x.takenOver = true

/-- Of its own slot, what every statement leaves alone. -/
structure OwnFrame (k : Slots) {i : Slot} (x : Moved i) : Prop where
  registered : (x.supervisor.slots i).registered = (k.supervisor.slots i).registered
  resumed : (x.supervisor.slots i).resumed = (k.supervisor.slots i).resumed
  handover : (k.supervisor.slots i).handover = true → (x.supervisor.slots i).handover = true

section Statement
variable (rates : Rates) (now : Int) (runs : Bool) (k : Slots)

/-- A statement of a tick leaves the thread's words and the other slot alone. -/
theorem Tick.next_frame {i : Slot} (tick : Tick i) :
    MovedFrame k (tick.next rates now runs k) := by
  cases tick with
  | handover stage =>
      cases stage with
      | latched =>
          simp only [Tick.next, HandoverStage.proceed]
          split
          · exact ⟨rfl, rfl, fun j hOther => by simp [hOther], id⟩
          · exact ⟨rfl, rfl, fun _ _ => rfl, id⟩
      | held => exact ⟨rfl, rfl, fun _ _ => rfl, id⟩
      | clocked nowMs =>
          exact ⟨rfl, rfl, fun j hOther => by simp [Tick.next, HandoverStage.proceed, hOther], id⟩
      | timed nowMs =>
          exact ⟨rfl, rfl, fun j hOther => by simp [Tick.next, HandoverStage.proceed, hOther], id⟩
      | reported nowMs =>
          simp only [Tick.next, HandoverStage.proceed]
          split
          · exact ⟨rfl, rfl, fun _ _ => rfl, id⟩
          · exact ⟨rfl, rfl, fun j hOther => by simp [hOther], id⟩
      | stamped =>
          exact ⟨rfl, rfl, fun j hOther => by simp [Tick.next, HandoverStage.proceed, hOther], id⟩
      | handedOver => exact ⟨rfl, rfl, fun _ _ => rfl, id⟩
  | idle => exact ⟨rfl, rfl, fun _ _ => rfl, id⟩
  | begun =>
      cases i with
      | handler => exact ⟨rfl, rfl, fun _ _ => rfl, id⟩
      | operator =>
          simp only [Tick.next, beginTick]
          split
          · exact ⟨rfl, rfl, fun _ _ => rfl, fun h => by simp [h]⟩
          · exact ⟨rfl, rfl, fun _ _ => rfl, id⟩
  | closing latched =>
      simp only [Tick.next, enterHandover]
      split <;> exact ⟨rfl, rfl, fun _ _ => rfl, id⟩
  | owning =>
      simp only [Tick.next, enterHandover]
      split <;> exact ⟨rfl, rfl, fun _ _ => rfl, id⟩
  | judged | mrmState | announced | hazardLights | controlCmd =>
      exact ⟨rfl, rfl, fun _ _ => rfl, id⟩

/-- A statement outside `island_supervisor_handover` may enter it, and does
nothing to the supervisor. -/
theorem Tick.next_outside {i : Slot} (tick : Tick i) (hOutside : tick.stage = none) :
    (tick.next rates now runs k).supervisor = k.supervisor ∧
      (tick.next rates now runs k).gives = false ∧
      ((tick.next rates now runs k).tick.stage = none ∨
        (tick.next rates now runs k).tick.stage = some .latched ∧
          k.supervisor.latch.latched = true) := by
  have hEnter {i : Slot} : (enterHandover i k).tick.stage = none ∨
      (enterHandover i k).tick.stage = some .latched ∧ k.supervisor.latch.latched = true := by
    cases hLatched : k.supervisor.latch.latched <;> simp [enterHandover, hLatched, Tick.stage]
  cases tick with
  | handover stage => simp [Tick.stage] at hOutside
  | idle => exact ⟨rfl, rfl, .inl rfl⟩
  | begun =>
      cases i with
      | handler =>
          refine ⟨rfl, rfl, .inl ?_⟩
          cases runs <;> rfl
      | operator =>
          simp only [Tick.next, beginTick]
          split
          · exact ⟨rfl, rfl, .inl rfl⟩
          · refine ⟨rfl, rfl, .inl ?_⟩
            split <;> rfl
  | judged latched | announced latched =>
      refine ⟨rfl, rfl, .inl ?_⟩
      simp only [Tick.next]
      split <;> rfl
  | closing latched =>
      simp only [Tick.next]
      split
      · exact ⟨rfl, rfl, hEnter⟩
      · exact ⟨rfl, rfl, .inl rfl⟩
  | owning =>
      simp only [Tick.next]
      split
      · exact ⟨rfl, rfl, hEnter⟩
      · exact ⟨rfl, rfl, .inl rfl⟩
  | mrmState | hazardLights | controlCmd => exact ⟨rfl, rfl, .inl rfl⟩

/-- Of its own slot it writes only what a report writes. -/
theorem Tick.next_own {i : Slot} (tick : Tick i) : OwnFrame k (tick.next rates now runs k) := by
  cases hStage : tick.stage with
  | none =>
      have hSame := (Tick.next_outside rates now runs k tick hStage).1
      exact ⟨by rw [hSame], by rw [hSame], fun h => by rwa [hSame]⟩
  | some stage =>
      obtain rfl : tick = .handover stage := by
        cases tick <;> simp_all [Tick.stage]
      cases stage with
      | latched =>
          simp only [Tick.next, HandoverStage.proceed]
          split
          · exact ⟨by simp, by simp, by simp⟩
          · exact ⟨rfl, rfl, id⟩
      | reported nowMs =>
          simp only [Tick.next, HandoverStage.proceed]
          split
          · exact ⟨rfl, rfl, id⟩
          · exact ⟨by simp, by simp, by simp⟩
      | held | handedOver => exact ⟨rfl, rfl, id⟩
      | clocked | timed | stamped =>
          refine ⟨?_, ?_, ?_⟩ <;> simp [Tick.next, HandoverStage.proceed]

end Statement

def storedAt : HandoverStage → Bool
  | .latched | .held | .clocked _ => false
  | .timed _ | .reported _ | .stamped | .handedOver => true

def completeAt : HandoverStage → Bool
  | .latched | .held | .clocked _ | .timed _ => false
  | .reported _ | .stamped | .handedOver => true

/-- A tick that began after its slot's resume goes on without a publish. -/
def Tick.silent (takenOver : Bool) {i : Slot} : Tick i → Bool
  | .idle | .begun | .closing _ => true
  | .judged latched | .announced latched => latched
  | .owning => takenOver
  | .handover stage => stage == .latched
  | .mrmState _ | .hazardLights _ | .controlCmd => false

/-- A silent tick has nothing to publish. -/
theorem Tick.publishes_of_silent {takenOver : Bool} {i : Slot} {tick : Tick i}
    (hSilent : tick.silent takenOver = true) : tick.publishes = none := by
  cases tick <;> first | rfl | simp [Tick.silent] at hSilent

/-- The slot's own words and its component's tick, in any reachable state. -/
structure SlotInv (rates : Rates) (w : World) (i : Slot) : Prop where
  registered : (w.state.supervisor.slots i).registered = true
  latched : (w.state.supervisor.slots i).handover = true →
    w.state.supervisor.latch.latched = true
  calling : ∀ stage, (w.state.ticks i).stage = some stage →
    w.state.supervisor.latch.latched = true
  resumed : (w.state.supervisor.slots i).resumed = true →
    (w.state.supervisor.slots i).handover = true
  reportLe : w.history.reportAt i ≤ w.history.clock
  report : (w.state.supervisor.slots i).handover = true ∨
      (w.state.ticks i).stage.any storedAt = true →
    (w.state.supervisor.slots i).aliveMs = uptime32 (w.history.reportAt i)
  period : (w.state.supervisor.slots i).handover = true ∨
      (w.state.ticks i).stage.any completeAt = true →
    (w.state.supervisor.slots i).alivePeriodMs = rates.periodMs i
  reading : ∀ nowMs, (w.state.ticks i).stage = some (.clocked nowMs) →
    nowMs = uptime32 (w.history.readAt i) ∧ w.history.readAt i ≤ w.history.clock ∧
      w.history.reportAt i ≤ w.history.readAt i
  late : w.history.late i = true → (w.state.supervisor.slots i).resumed = true ∧
    (w.state.ticks i).silent w.state.takenOver = true

/-- A step that writes no word of the slot's report. -/
structure ReportSame (w v : World) (i : Slot) : Prop where
  registered : (v.state.supervisor.slots i).registered = (w.state.supervisor.slots i).registered
  handover : (v.state.supervisor.slots i).handover = (w.state.supervisor.slots i).handover
  aliveMs : (v.state.supervisor.slots i).aliveMs = (w.state.supervisor.slots i).aliveMs
  alivePeriodMs :
    (v.state.supervisor.slots i).alivePeriodMs = (w.state.supervisor.slots i).alivePeriodMs
  resumed : (v.state.supervisor.slots i).resumed = true →
    (w.state.supervisor.slots i).resumed = true ∨ (w.state.supervisor.slots i).handover = true
  latch : w.state.supervisor.latch.latched = true → v.state.supervisor.latch.latched = true
  calling : ∀ stage, (v.state.ticks i).stage = some stage →
    (w.state.ticks i).stage ≠ none ∨ v.state.supervisor.latch.latched = true
  stored : (v.state.ticks i).stage.any storedAt = true →
    (w.state.ticks i).stage.any storedAt = true
  complete : (v.state.ticks i).stage.any completeAt = true →
    (w.state.ticks i).stage.any completeAt = true
  clocked : ∀ nowMs, (v.state.ticks i).stage = some (.clocked nowMs) →
    (w.state.ticks i).stage = some (.clocked nowMs)
  clock : w.history.clock ≤ v.history.clock
  readAt : v.history.readAt i = w.history.readAt i
  reportAt : v.history.reportAt i = w.history.reportAt i

section Invariant
variable {cfg : Config} {rates : Rates} {w v : World} {i : Slot}

/-- At boot no slot has been handed over. -/
theorem SlotInv.boot (levels : Levels) (i : Slot) : SlotInv rates (World.boot levels) i where
  registered := rfl
  latched := nofun
  calling := nofun
  resumed := nofun
  reportLe := le_rfl
  report h := by simp [World.boot, Tick.stage] at h
  period h := by simp [World.boot, Tick.stage] at h
  reading := nofun
  late := nofun

/-- What leaves a slot's report alone keeps what it says. -/
theorem SlotInv.of_same (h : SlotInv rates w i) (hSame : ReportSame w v i)
    (hLate : v.history.late i = true → (v.state.supervisor.slots i).resumed = true ∧
      (v.state.ticks i).silent v.state.takenOver = true) : SlotInv rates v i where
  registered := hSame.registered.trans h.registered
  latched hHandover := hSame.latch (h.latched (hSame.handover.symm.trans hHandover))
  calling stage hStage := by
    rcases hSame.calling stage hStage with hBefore | hLatched
    · obtain ⟨before, hBefore⟩ := Option.ne_none_iff_exists'.mp hBefore
      exact hSame.latch (h.calling before hBefore)
    · exact hLatched
  resumed hResumed := by
    rw [hSame.handover]
    exact (hSame.resumed hResumed).elim h.resumed id
  reportLe := by
    rw [hSame.reportAt]
    exact h.reportLe.trans hSame.clock
  report hStored := by
    rw [hSame.aliveMs, hSame.reportAt]
    apply h.report
    rcases hStored with hHandover | hStage
    · exact .inl (hSame.handover.symm.trans hHandover)
    · exact .inr (hSame.stored hStage)
  period hComplete := by
    rw [hSame.alivePeriodMs]
    apply h.period
    rcases hComplete with hHandover | hStage
    · exact .inl (hSame.handover.symm.trans hHandover)
    · exact .inr (hSame.complete hStage)
  reading nowMs hStage := by
    obtain ⟨hRead, hClock, hReport⟩ := h.reading nowMs (hSame.clocked nowMs hStage)
    rw [hSame.readAt, hSame.reportAt]
    exact ⟨hRead, hClock.trans hSame.clock, hReport⟩
  late := hLate

/-- A slot whose words and tick are left alone. -/
theorem ReportSame.of_slots (hSlot : v.state.supervisor.slots i = w.state.supervisor.slots i)
    (hTick : (v.state.ticks i).stage = (w.state.ticks i).stage)
    (hLatch : w.state.supervisor.latch.latched = true → v.state.supervisor.latch.latched = true)
    (hClock : w.history.clock ≤ v.history.clock)
    (hRead : v.history.readAt i = w.history.readAt i)
    (hReport : v.history.reportAt i = w.history.reportAt i) : ReportSame w v i where
  registered := by rw [hSlot]
  handover := by rw [hSlot]
  aliveMs := by rw [hSlot]
  alivePeriodMs := by rw [hSlot]
  resumed hResumed := .inl (by rwa [hSlot] at hResumed)
  latch := hLatch
  calling stage hStage := by
    rw [hTick] at hStage
    exact .inl (by simp [hStage])
  stored hStored := by rwa [hTick] at hStored
  complete hComplete := by rwa [hTick] at hComplete
  clocked nowMs hStage := hTick.symm.trans hStage
  clock := hClock
  readAt := hRead
  reportAt := hReport

/-- A request is no report. -/
theorem SlotInv.operate (h : SlotInv rates w i) (operating : Bool) :
    SlotInv rates (w.step cfg rates (.operate operating)) i :=
  h.of_same (.of_slots rfl rfl id le_rfl rfl rfl) h.late

/-- Nor is a wake. -/
theorem SlotInv.give (h : SlotInv rates w i) : SlotInv rates (w.step cfg rates .give) i :=
  h.of_same (.of_slots rfl rfl id le_rfl rfl rfl) h.late

/-- Nor is any other call. -/
theorem SlotInv.call (h : SlotInv rates w i) {e : Supervisor.Event} (hOther : other e = true)
    (hOrder : e.Ordered w.history.clock) : SlotInv rates (w.step cfg rates (.call e)) i := by
  have hSlots : (Supervisor.next cfg w.state.supervisor e).slots = w.state.supervisor.slots :=
    next_other_slots hOther
  have hLatch : (Supervisor.next cfg w.state.supervisor e).latch = w.state.supervisor.latch :=
    (next_other hOther).latch
  refine h.of_same (.of_slots (congrFun hSlots i) rfl ?_ hOrder.le_finish rfl rfl) ?_
  · simp [next, hLatch]
  · intro hLate
    simpa [next, hSlots] using h.late hLate

/-- A tick begins with nothing reported yet. -/
theorem SlotInv.begins (h : SlotInv rates w i) {now : Int} {j : Slot}
    (hClock : w.history.clock ≤ now) (hIdle : w.state.ticks j = .idle) :
    SlotInv rates (w.step cfg rates (.begins now j)) i := by
  by_cases hOther : i = j
  · subst hOther
    refine h.of_same (.of_slots rfl ?_ id hClock rfl rfl) ?_
    · simp [next, hIdle, Tick.stage]
    · intro hLate
      exact ⟨by simpa [next, note] using hLate, by simp [next, Tick.silent]⟩
  · refine h.of_same (.of_slots rfl ?_ id hClock rfl rfl) ?_
    · simp [next, hOther]
    · simpa [next, note, hOther] using h.late

/-- A pass resumes a watched slot, and writes nothing of its report. -/
theorem SlotInv.pass (h : SlotInv rates w i) {p : Pass} {waitNow : Int}
    (hClock : w.history.clock ≤ waitNow) :
    SlotInv rates (w.step cfg rates (.pass p waitNow)) i := by
  obtain ⟨hRegistered, hHandover, hAlive, hPeriod⟩ := pass_slots cfg p w.state.supervisor i
  have hResumed := pass_resumed cfg p w.state.supervisor i
  refine h.of_same ⟨hRegistered, hHandover, hAlive, hPeriod, ?_, ?_, ?_, id, id, ?_, hClock, rfl,
    rfl⟩ ?_
  · intro hAfter
    have hAfter : ((Supervisor.pass cfg p w.state.supervisor).1.slots i).resumed = true := hAfter
    rw [hResumed] at hAfter
    cases hBefore : (w.state.supervisor.slots i).resumed with
    | true => exact .inl rfl
    | false =>
        simp [hBefore, resumable, taken_slots, DirectSlot.watched] at hAfter
        exact .inr hAfter.2.1.2
  · exact pass_latched cfg p w.state.supervisor
  · intro stage hStage
    exact .inl (by simp_all [next])
  · exact fun _ => id
  · intro hLate
    obtain ⟨hWas, hSilent⟩ := h.late hLate
    refine ⟨?_, hSilent⟩
    show ((Supervisor.pass cfg p w.state.supervisor).1.slots i).resumed = true
    rw [hResumed, hWas]
    rfl

/-- A tick stays silent once the operator has taken over. -/
theorem Tick.silent_mono {a b : Bool} (hMono : a = true → b = true) {i : Slot} {tick : Tick i}
    (hSilent : tick.silent a = true) : tick.silent b = true := by
  cases tick with
  | owning => exact hMono hSilent
  | _ => exact hSilent

/-- Once resumed, a silent tick stays silent. -/
theorem Tick.silent_next {now : Int} {runs : Bool} {k : Slots} {tick : Tick i}
    (hSilent : tick.silent k.takenOver = true)
    (hLatched : k.supervisor.latch.latched = true)
    (hResumed : (k.supervisor.slots i).resumed = true) :
    (tick.next rates now runs k).tick.silent (tick.next rates now runs k).takenOver = true := by
  have hEnter {i : Slot} : (enterHandover i k).tick.silent (enterHandover i k).takenOver = true := by
    simp [enterHandover, hLatched, Tick.silent]
  cases tick with
  | idle => rfl
  | begun =>
      cases i with
      | handler => cases runs <;> simp [Tick.next, beginTick, hLatched, Tick.silent]
      | operator => cases hOn : k.operating <;> simp [Tick.next, beginTick, hOn, hLatched, Tick.silent]
  | judged latched =>
      simp only [Tick.silent] at hSilent
      simp [Tick.next, hSilent, resumedSlot, hResumed, Tick.silent]
  | announced latched =>
      simp only [Tick.silent] at hSilent
      simp [Tick.next, hSilent, resumedSlot, hResumed, Tick.silent]
  | closing latched =>
      simp only [Tick.next]
      split
      · exact hEnter
      · rfl
  | owning =>
      simp only [Tick.silent] at hSilent
      simp only [Tick.next, hSilent, if_true]
      exact hEnter
  | handover stage =>
      obtain rfl : stage = .latched := by simpa [Tick.silent] using hSilent
      simp only [Tick.next, HandoverStage.proceed, hResumed, if_true]
      cases i <;> rfl
  | mrmState | hazardLights | controlCmd => simp [Tick.silent] at hSilent

/-- A tick's readings are its own slot's. -/
theorem note_other {h : History} {k t : Slots} {now : Int} {runs : Bool} {j : Slot}
    (hOther : i ≠ j) :
    (note h k (.goesOn now j runs) t).readAt i = h.readAt i ∧
      (note h k (.goesOn now j runs) t).reportAt i = h.reportAt i := by
  unfold note Event.completes
  dsimp only
  cases hStage : (k.ticks j).stage with
  | none => exact ⟨rfl, rfl⟩
  | some stage => cases stage <;> simp [hOther]

/-- Another component's statement. -/
theorem SlotInv.goesOn_other (h : SlotInv rates w i) {now : Int} {j : Slot} {runs : Bool}
    (hClock : w.history.clock ≤ now) (hOther : i ≠ j) :
    SlotInv rates (w.step cfg rates (.goesOn now j runs)) i := by
  have hFrame := Tick.next_frame rates now runs w.state (w.state.ticks j)
  obtain ⟨hRead, hReport⟩ :
      (w.step cfg rates (.goesOn now j runs)).history.readAt i = w.history.readAt i ∧
        (w.step cfg rates (.goesOn now j runs)).history.reportAt i = w.history.reportAt i :=
    note_other (t := next cfg rates w.state (.goesOn now j runs)) hOther
  refine h.of_same (.of_slots (hFrame.slots i hOther) ?_ ?_ hClock hRead hReport) ?_
  · simp [next, hOther]
  · simp [next, hFrame.latch]
  · intro hLate
    obtain ⟨hResumed, hSilent⟩ := h.late hLate
    refine ⟨?_, ?_⟩
    · show (((w.state.ticks j).next rates now runs w.state).supervisor.slots i).resumed = true
      rw [hFrame.slots i hOther, hResumed]
    · simpa [next, hOther] using Tick.silent_mono hFrame.takenOver hSilent

/-- A statement outside `island_supervisor_handover`. -/
theorem SlotInv.goesOn_outside (h : SlotInv rates w i) {now : Int} {runs : Bool}
    (hClock : w.history.clock ≤ now) (hOutside : (w.state.ticks i).stage = none) :
    SlotInv rates (w.step cfg rates (.goesOn now i runs)) i := by
  obtain ⟨hSame, -, hStage⟩ := Tick.next_outside rates now runs w.state (w.state.ticks i) hOutside
  have hFresh (check : HandoverStage → Bool) (hLatched : check .latched = false) :
      ((next cfg rates w.state (.goesOn now i runs)).ticks i).stage.any check = false := by
    rcases hStage with hNone | ⟨hEnter, -⟩
    · simp [next, hNone]
    · simp [next, hEnter, hLatched]
  have hNote : (w.step cfg rates (.goesOn now i runs)).history.readAt i = w.history.readAt i ∧
      (w.step cfg rates (.goesOn now i runs)).history.reportAt i = w.history.reportAt i := by
    simp [note, Event.completes, hOutside]
  refine h.of_same ⟨?_, ?_, ?_, ?_, ?_, ?_, ?_, ?_, ?_, ?_, hClock, hNote.1, hNote.2⟩ ?_
  · simp [next, hSame]
  · simp [next, hSame]
  · simp [next, hSame]
  · simp [next, hSame]
  · simp [next, hSame]
    tauto
  · simp [next, hSame]
  · intro stage hAfter
    rcases hStage with hNone | ⟨-, hLatched⟩
    · simp [next, hNone] at hAfter
    · exact .inr (by simpa [next, hSame] using hLatched)
  · intro hStored
    exact absurd hStored (by simp only [World.step_state, hFresh storedAt rfl]; decide)
  · intro hComplete
    exact absurd hComplete (by simp only [World.step_state, hFresh completeAt rfl]; decide)
  · intro nowMs hAfter
    rcases hStage with hNone | ⟨hEnter, -⟩
    · simp [next, hNone] at hAfter
    · simp [next, hEnter] at hAfter
  · intro hLate
    obtain ⟨hResumed, hSilent⟩ := h.late hLate
    refine ⟨by simpa [next, hSame] using hResumed, ?_⟩
    simpa [next] using Tick.silent_next hSilent (h.latched (h.resumed hResumed)) hResumed

/-- Only the slot's own resume stops its component's report. -/
theorem SlotInv.late_stage (h : SlotInv rates w i) {stage : HandoverStage}
    (hTick : w.state.ticks i = .handover stage) (hLate : w.history.late i = true) :
    (w.state.supervisor.slots i).resumed = true ∧ stage = .latched := by
  obtain ⟨hResumed, hSilent⟩ := h.late hLate
  exact ⟨hResumed, by simpa [hTick, Tick.silent] using hSilent⟩

theorem returned_stage (held : Bool) : (returned i held).stage = none := by
  cases i with
  | handler => rfl
  | operator => cases held <;> rfl

/-- The reading a report is made of, after a stage. -/
def readAfter (h : History) (i : Slot) (now : Int) : HandoverStage → Int
  | .held => now
  | _ => h.readAt i

/-- The reading the slot's last report carries, after a stage. -/
def reportAfter (h : History) (i : Slot) : HandoverStage → Int
  | .clocked _ => h.readAt i
  | _ => h.reportAt i

/-- A stage notes the clock it reads and the report it completes. -/
theorem note_own {h : History} {k t : Slots} {now : Int} {runs : Bool} {stage : HandoverStage}
    (hTick : k.ticks i = .handover stage) :
    (note h k (.goesOn now i runs) t).readAt i = readAfter h i now stage ∧
      (note h k (.goesOn now i runs) t).reportAt i = reportAfter h i stage := by
  unfold note Event.completes
  dsimp only
  rw [hTick]
  cases stage <;> simp [Tick.stage, readAfter, reportAfter, Event.finish]

/-- A stage of `island_supervisor_handover`, from what it leaves of the slot's
report. -/
theorem SlotInv.stage (h : SlotInv rates w i) {now : Int} {runs : Bool} {stage : HandoverStage}
    {x : Stage} (hTick : w.state.ticks i = .handover stage)
    (hStage : stage.proceed now i (rates.periodMs i) w.state.supervisor = x)
    (hReportLe : reportAfter w.history i stage ≤ now)
    (hReport : (x.supervisor.slots i).handover = true ∨ (afterStage i x).stage.any storedAt = true →
      (x.supervisor.slots i).aliveMs = uptime32 (reportAfter w.history i stage))
    (hPeriod : (x.supervisor.slots i).handover = true ∨
        (afterStage i x).stage.any completeAt = true →
      (x.supervisor.slots i).alivePeriodMs = rates.periodMs i)
    (hReading : ∀ nowMs, (afterStage i x).stage = some (.clocked nowMs) →
      nowMs = uptime32 (readAfter w.history i now stage) ∧
        readAfter w.history i now stage ≤ now ∧
        reportAfter w.history i stage ≤ readAfter w.history i now stage)
    (hEnds : stage = .latched → (w.state.supervisor.slots i).resumed = true →
      afterStage i x = .idle) :
    SlotInv rates (w.step cfg rates (.goesOn now i runs)) i := by
  have hLatched := h.calling stage (by simp [hTick, Tick.stage])
  have hFrame := Tick.next_frame rates now runs w.state (w.state.ticks i)
  have hOwn := Tick.next_own rates now runs w.state (w.state.ticks i)
  have hNext : (w.state.ticks i).next rates now runs w.state =
      { supervisor := x.supervisor, takenOver := w.state.takenOver
        tick := afterStage i x, gives := x.gives } := by
    rw [hTick, ← hStage]
    rfl
  have hTickAfter : (w.step cfg rates (.goesOn now i runs)).state.ticks i = afterStage i x := by
    simp [next, hNext]
  have hSlot : (w.step cfg rates (.goesOn now i runs)).state.supervisor = x.supervisor := by
    simp [next, hNext]
  obtain ⟨hRead, hReportAt⟩ :
      (w.step cfg rates (.goesOn now i runs)).history.readAt i =
          readAfter w.history i now stage ∧
        (w.step cfg rates (.goesOn now i runs)).history.reportAt i =
          reportAfter w.history i stage :=
    note_own (t := next cfg rates w.state (.goesOn now i runs)) hTick
  have hLatchedAfter : x.supervisor.latch.latched = true := by
    have hLatch := hFrame.latch
    rw [hNext] at hLatch
    rw [hLatch, hLatched]
  rw [hNext] at hOwn
  constructor
  · rw [hSlot, hOwn.registered, h.registered]
  · intro _
    rwa [hSlot]
  · intro _ _
    rwa [hSlot]
  · rw [hSlot, hOwn.resumed]
    exact fun hResumed => hOwn.handover (h.resumed hResumed)
  · rw [hReportAt]
    exact hReportLe
  · rw [hSlot, hTickAfter, hReportAt]
    exact hReport
  · rw [hSlot, hTickAfter]
    exact hPeriod
  · rw [hTickAfter, hRead, hReportAt]
    exact hReading
  · intro hLate
    obtain ⟨hResumed, hFirst⟩ := h.late_stage hTick hLate
    rw [hSlot, hTickAfter, hEnds hFirst hResumed, hOwn.resumed]
    exact ⟨hResumed, rfl⟩

section Proceed
variable (now : Int) (i : Slot) (periodMs nowMs : U32) (s : Supervisor)

theorem proceed_latched_resumed (h : (s.slots i).resumed = true) :
    HandoverStage.latched.proceed now i periodMs s =
      { supervisor := s.setSlot i
          { s.slots i with aliveAfterResume := (s.slots i).aliveAfterResume + 1 }
        returns := some false } :=
  if_pos h

theorem proceed_latched (h : (s.slots i).resumed = false) :
    HandoverStage.latched.proceed now i periodMs s =
      { supervisor := s, call := .handover i periodMs .held } :=
  if_neg (by simp [h])

theorem proceed_held : HandoverStage.held.proceed now i periodMs s =
    { supervisor := s, call := .handover i periodMs (.clocked (uptime32 now)) } := rfl

theorem proceed_clocked : (HandoverStage.clocked nowMs).proceed now i periodMs s =
    { supervisor := s.setSlot i { s.slots i with aliveMs := nowMs }
      call := .handover i periodMs (.timed nowMs) } := rfl

theorem proceed_timed : (HandoverStage.timed nowMs).proceed now i periodMs s =
    { supervisor := s.setSlot i { s.slots i with alivePeriodMs := periodMs }
      call := .handover i periodMs (.reported nowMs) } := rfl

theorem proceed_reported_again (h : (s.slots i).handover = true) :
    (HandoverStage.reported nowMs).proceed now i periodMs s =
      { supervisor := s, returns := some true } :=
  if_pos h

theorem proceed_reported (h : (s.slots i).handover = false) :
    (HandoverStage.reported nowMs).proceed now i periodMs s =
      { supervisor := s.setSlot i { s.slots i with handoverUptimeMs := nowMs }
        call := .handover i periodMs .stamped } :=
  if_neg (by simp [h])

theorem proceed_stamped : HandoverStage.stamped.proceed now i periodMs s =
    { supervisor := s.setSlot i { s.slots i with handover := true }
      call := .handover i periodMs .handedOver } := rfl

theorem proceed_handedOver : HandoverStage.handedOver.proceed now i periodMs s =
    { supervisor := s, gives := true, returns := some true } := rfl

end Proceed

/-- Each stage of `island_supervisor_handover` in turn. -/
theorem SlotInv.goesOn_stage (h : SlotInv rates w i) {now : Int} {runs : Bool}
    {stage : HandoverStage} (hClock : w.history.clock ≤ now)
    (hTick : w.state.ticks i = .handover stage) :
    SlotInv rates (w.step cfg rates (.goesOn now i runs)) i := by
  have hReportLe : w.history.reportAt i ≤ now := h.reportLe.trans hClock
  have hTickStage : (w.state.ticks i).stage = some stage := by simp [hTick, Tick.stage]
  cases stage with
  | latched =>
      cases hResumed : (w.state.supervisor.slots i).resumed with
      | true =>
          have hHandover := h.resumed hResumed
          refine h.stage hTick (proceed_latched_resumed _ _ _ _ hResumed) hReportLe
            ?_ ?_ ?_ ?_
          · intro _
            simpa [reportAfter] using h.report (.inl hHandover)
          · intro _
            simpa using h.period (.inl hHandover)
          · intro nowMs hAfter
            simp [afterStage, returned_stage] at hAfter
          · intro _ _
            cases i <;> rfl
      | false =>
          refine h.stage hTick (proceed_latched _ _ _ _ hResumed) hReportLe
            ?_ ?_ ?_ ?_
          · intro hStored
            exact h.report (.inl (by simpa [afterStage, Tick.stage, storedAt] using hStored))
          · intro hComplete
            exact h.period (.inl (by simpa [afterStage, Tick.stage, completeAt] using hComplete))
          · intro nowMs hAfter
            simp [afterStage, Tick.stage] at hAfter
          · intro _ hTrue
            simp [hResumed] at hTrue
  | held =>
      refine h.stage hTick (proceed_held ..) hReportLe ?_ ?_ ?_ (by simp)
      · intro hStored
        exact h.report (.inl (by simpa [afterStage, Tick.stage, storedAt] using hStored))
      · intro hComplete
        exact h.period (.inl (by simpa [afterStage, Tick.stage, completeAt] using hComplete))
      · intro nowMs hAfter
        obtain rfl : uptime32 now = nowMs := by simpa [afterStage, Tick.stage] using hAfter
        exact ⟨rfl, le_rfl, hReportLe⟩
  | clocked nowMs =>
      obtain ⟨hRead, hReadLe, -⟩ := h.reading nowMs hTickStage
      refine h.stage hTick (proceed_clocked ..) (hReadLe.trans hClock) ?_ ?_ ?_ (by simp)
      · intro _
        simpa [reportAfter] using hRead
      · intro hComplete
        have hHandover : (w.state.supervisor.slots i).handover = true := by
          simpa [afterStage, Tick.stage, completeAt] using hComplete
        simpa using h.period (.inl hHandover)
      · intro laterMs hAfter
        simp [afterStage, Tick.stage] at hAfter
  | timed nowMs =>
      refine h.stage hTick (proceed_timed ..) hReportLe ?_ ?_ ?_ (by simp)
      · intro _
        simpa [reportAfter] using h.report (.inr (by simp [hTickStage, storedAt]))
      · intro _
        simp
      · intro laterMs hAfter
        simp [afterStage, Tick.stage] at hAfter
  | reported nowMs =>
      have hStored := h.report (.inr (by simp [hTickStage, storedAt]))
      have hComplete := h.period (.inr (by simp [hTickStage, completeAt]))
      cases hHandover : (w.state.supervisor.slots i).handover with
      | true =>
          refine h.stage hTick (proceed_reported_again _ _ _ _ _ hHandover) hReportLe
            (fun _ => hStored) (fun _ => hComplete) ?_ (by simp)
          intro laterMs hAfter
          simp [afterStage, returned_stage] at hAfter
      | false =>
          refine h.stage hTick (proceed_reported _ _ _ _ _ hHandover) hReportLe
            ?_ ?_ ?_ (by simp)
          · intro _
            simpa [reportAfter] using hStored
          · intro _
            simpa using hComplete
          · intro laterMs hAfter
            simp [afterStage, Tick.stage] at hAfter
  | stamped =>
      have hStored := h.report (.inr (by simp [hTickStage, storedAt]))
      have hComplete := h.period (.inr (by simp [hTickStage, completeAt]))
      refine h.stage hTick (proceed_stamped ..) hReportLe ?_ ?_ ?_ (by simp)
      · intro _
        simpa [reportAfter] using hStored
      · intro _
        simpa using hComplete
      · intro laterMs hAfter
        simp [afterStage, Tick.stage] at hAfter
  | handedOver =>
      have hStored := h.report (.inr (by simp [hTickStage, storedAt]))
      have hComplete := h.period (.inr (by simp [hTickStage, completeAt]))
      refine h.stage hTick (proceed_handedOver ..) hReportLe (fun _ => hStored)
        (fun _ => hComplete) ?_ (by simp)
      intro laterMs hAfter
      simp [afterStage, returned_stage] at hAfter

/-- One event, whichever it is. -/
theorem SlotInv.step (h : SlotInv rates w i) {e : Event} (hAllowed : Allowed w e) :
    SlotInv rates (w.step cfg rates e) i := by
  cases e with
  | begins now j => exact h.begins hAllowed.1 hAllowed.2.2
  | goesOn now j runs =>
      by_cases hOther : i = j
      · subst hOther
        cases hStage : (w.state.ticks i).stage with
        | none => exact h.goesOn_outside hAllowed.1 hStage
        | some stage =>
            have hTick : w.state.ticks i = .handover stage := by
              cases hTick : w.state.ticks i <;> simp_all [Tick.stage]
            exact h.goesOn_stage hAllowed.1 hTick
      · exact h.goesOn_other hAllowed.1 hOther
  | operate operating => exact h.operate operating
  | call e => exact h.call hAllowed.1 hAllowed.2.1
  | give => exact h.give
  | pass p waitNow =>
      obtain ⟨⟨hNow, hLatch, hService, hPublish⟩, hWait, -⟩ := hAllowed
      exact h.pass (by omega)

end Invariant
end Slots
end SafetyIsland
