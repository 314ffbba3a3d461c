import SafetyIsland.Supervisor.Run

/-! What the observer's notes say of the supervisor's words: the start of the
braking command, and the last kinematic_state sample. -/
namespace SafetyIsland.Supervisor

open Transition

/-- The ages a woken pass judges by are below one turn of the 32-bit clock. -/
def Event.Aged (h : History) : Event → Prop
  | .pass p => p.woken = true →
      (∀ start ∈ h.brakeStart, p.now - start < 2 ^ 32) ∧
      ∀ sample ∈ h.sample, p.now - sample.1 < 2 ^ 32
  | _ => True

instance (h : History) (e : Event) : Decidable (e.Aged h) :=
  match e with
  | .pass .. => by unfold Event.Aged; infer_instance
  | .arm .. | .done .. | .noteSpeed .. | .handover .. | .setDirect .. | .spin .. | .spinAfter ..
  | .timerExpiry | .swtTimeout | .hook .. => isTrue trivial

/-- A sample is noted in a millisecond the 32-bit uptime does not read as 0. -/
def Event.Stamped : Event → Prop
  | .noteSpeed now _ => uptime32 now ≠ 0
  | _ => True

instance (e : Event) : Decidable e.Stamped :=
  match e with
  | .noteSpeed .. => by unfold Event.Stamped; infer_instance
  | .arm .. | .done .. | .handover .. | .setDirect .. | .spin .. | .spinAfter .. | .timerExpiry
  | .swtTimeout | .hook .. | .pass .. => isTrue trivial

/-- The words of the last sample, if one was noted. -/
def speedOf : Option (Int × U32) → Speed
  | none => {}
  | some (at', speedMmS) => { mmS := speedMmS, atMs := uptime32 at' }

/-- The observer's notes agree with the words the verdicts read. -/
structure World.Tracks (w : World) : Prop where
  speed : w.state.speed = speedOf w.history.sample
  brake : w.state.latch.latched = true → w.history.brakeStart = some w.state.brake.since
  sample_le : ∀ sample ∈ w.history.sample, sample.1 ≤ w.history.clock
  brake_le : ∀ start ∈ w.history.brakeStart, start ≤ w.history.clock

section Step
variable {cfg : Config} {w : World} {e : Event}

theorem World.Tracks.boot : World.boot.Tracks where
  speed := rfl
  brake := nofun
  sample_le := nofun
  brake_le := nofun

/-- Only a sample's own call writes the speed. -/
theorem next_speed {s : Supervisor} (hNote : ∀ now speedMmS, e ≠ .noteSpeed now speedMmS) :
    (next cfg s e).speed = s.speed := by
  cases e with
  | noteSpeed now speedMmS => exact absurd rfl (hNote now speedMmS)
  | pass p => exact pass_speed ..
  | arm now route due =>
      simp only [next, arm]
      split
      · rfl
      · exact (armRoute_frame ..).speed
  | done route =>
      simp only [next, done]
      split
      · rfl
      · exact (doneRoute_frame ..).speed
  | handover now slot periodMs =>
      simp only [next, handover]
      split
      · rfl
      · unfold handoverSlot
        dsimp only
        split_ifs <;> rfl
  | spinAfter now nowUs report =>
      obtain ⟨levels, h | ⟨due, h⟩ | h⟩ := spinAfter_cases cfg now nowUs report s <;>
        rw [next, h]
      · rfl
      · exact (armRoute_frame ..).speed
      · exact (doneRoute_frame ..).speed
  | setDirect | spin | timerExpiry | swtTimeout | hook => rfl

/-- The observer notes the start of the braking command as the pass does. -/
theorem brakeStartAfter_pass {p : Pass} {before : Option Int}
    (hBefore : w.state.latch.latched = true → before = some w.state.brake.since)
    (hLatched : (pass cfg p w.state).1.latch.latched = true) :
    brakeStartAfter p before w.state (pass cfg p w.state).1 =
      some (pass cfg p w.state).1.brake.since := by
  rw [pass_brake, brakeStartAfter, hLatched]
  cases hResumed : (w.state.slots .operator).resumed <;>
    cases hAfter : ((pass cfg p w.state).1.slots .operator).resumed <;>
    cases hWas : w.state.latch.latched <;> simp_all [startBrake]

/-- Every event keeps the notes in step with the words. -/
theorem World.Tracks.step (h : w.Tracks) (hOrder : e.Ordered w.history.clock) :
    (w.step cfg e).Tracks := by
  have hClock := hOrder.le_finish
  constructor
  · by_cases hNote : ∃ now speedMmS, e = .noteSpeed now speedMmS
    · obtain ⟨now, speedMmS, rfl⟩ := hNote
      rfl
    · push Not at hNote
      rw [World.step_state, next_speed hNote, h.speed, World.step_history]
      cases e with
      | noteSpeed now speedMmS => exact absurd rfl (hNote now speedMmS)
      | _ => rfl
  · intro hLatched
    by_cases hPass : ∃ p, e = .pass p
    · obtain ⟨p, rfl⟩ := hPass
      exact brakeStartAfter_pass h.brake hLatched
    · push Not at hPass
      have hCall := next_call cfg w.state hPass
      rw [World.step_state] at hLatched ⊢
      rw [hCall.latch] at hLatched
      rw [hCall.brake, ← h.brake hLatched, World.step_history]
      cases e with
      | pass p => exact absurd rfl (hPass p)
      | _ => rfl
  · cases e with
    | noteSpeed now speedMmS => simp [note, Event.finish]
    | _ => exact fun sample hSample => (h.sample_le sample hSample).trans hClock
  · cases e with
    | pass p =>
        simp only [Event.Ordered, Pass.Ordered] at hOrder
        intro start hStart
        simp only [World.step_history, note, brakeStartAfter, Event.finish] at hStart ⊢
        split_ifs at hStart
        · simp only [Option.mem_def, Option.some.injEq] at hStart
          omega
        · simp only [Option.mem_def, Option.some.injEq] at hStart
          omega
        · have := h.brake_le start hStart
          omega
    | _ => exact fun start hStart => (h.brake_le start hStart).trans hClock

/-- Where every sample noted is stamped, the last one is. -/
theorem stamped_step (hStamped : ∀ sample ∈ w.history.sample, uptime32 sample.1 ≠ 0)
    (hEvent : e.Stamped) : ∀ sample ∈ (w.step cfg e).history.sample, uptime32 sample.1 ≠ 0 := by
  cases e with
  | noteSpeed now speedMmS =>
      intro sample hSample
      obtain rfl : (now, speedMmS) = sample := by simpa [note] using hSample
      exact hEvent
  | _ => exact hStamped

end Step

section Truth
variable {w : World} {p : Pass}

/-- The age of the braking command is a true age. -/
theorem World.Tracks.brakeAge (h : w.Tracks) (hOrder : p.Ordered w.history.clock)
    (hAged : ∀ start ∈ w.history.brakeStart, p.now - start < 2 ^ 32) :
    w.state.BrakeAge p.now := by
  intro hLatched
  have hStart := h.brake hLatched
  have hLe := h.brake_le _ hStart
  have hLt := hAged _ hStart
  obtain ⟨hClock, -⟩ := hOrder
  exact ⟨by omega, by simpa using hLt⟩

/-- The vehicle stands still by a sample at most 300 ms old. -/
def World.FreshStandstill (w : World) (now : Int) : Prop :=
  ∃ at', w.history.sample = some (at', 0) ∧ now - at' ≤ 300

/-- A sample's age in words is its true age. -/
theorem sample_age {now at' : Int} (hLe : at' ≤ now) (hLt : now - at' < 2 ^ 32) :
    uptime32 now - uptime32 at' ≤ Judge.standstillFreshMs ↔ now - at' ≤ 300 := by
  have hAge := WrappingClock.age_eq (w := 32) hLe (by simpa using hLt)
  change (WrappingClock.stamp 32 now - WrappingClock.stamp 32 at').toNat ≤ 300 ↔ _
  omega

/-- A standstill the code judges is one by a fresh sample. -/
theorem World.Tracks.freshStandstill (h : w.Tracks) (hOrder : p.Ordered w.history.clock)
    (hAged : ∀ sample ∈ w.history.sample, p.now - sample.1 < 2 ^ 32)
    (hStopped : w.state.standstillNow p.now = true) : w.FreshStandstill p.now := by
  obtain ⟨hSeen, hFresh, hZero⟩ := Judge.standstill_eq_true.mp hStopped
  have hSpeed := h.speed
  cases hSample : w.history.sample with
  | none => simp [hSpeed, hSample, speedOf] at hSeen
  | some sample =>
      obtain ⟨at', speedMmS⟩ := sample
      have hLe := h.sample_le _ hSample
      have hLt := hAged _ hSample
      obtain ⟨hClock, -⟩ := hOrder
      rw [hSample, speedOf] at hSpeed
      rw [hSpeed] at hFresh hZero
      dsimp only at hFresh hZero hLe hLt
      refine ⟨at', by rw [hSample, hZero], (sample_age (by omega) hLt).mp hFresh⟩

end Truth
end SafetyIsland.Supervisor
