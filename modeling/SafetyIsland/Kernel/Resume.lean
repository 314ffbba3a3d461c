import SafetyIsland.Kernel.Deadlines
import SafetyIsland.General.WrappingClock

/-! The deadline a watched slot is slept on and the verdict it is resumed by.
One is an instant of the 64-bit uptime, the other an age in 32-bit words. With
no new report in between they turn at the same instant. -/
namespace SafetyIsland.Supervisor

section Silence
variable {cfg : Config} {d : DirectSlot}

/-- The product both sides compare with may wrap, so it is never the larger. -/
theorem resumeLimit_le :
    (resumeLimit cfg d).toNat ≤ (watchPeriod cfg d).toNat * cfg.resumePeriods := by
  rw [resumeLimit, BitVec.toNat_mul, BitVec.toNat_ofNat]
  exact (Nat.mod_le ..).trans (Nat.mul_le_mul_left _ (Nat.mod_le ..))

/-- The verdict, by the age of the report and the limit as numbers. -/
theorem silentAt_iff (t : Int) :
    silentAt cfg d t = true ↔ (resumeLimit cfg d).toNat ≤ (uptime32 t - d.aliveMs).toNat := by
  rw [silentAt, Judge.resume_eq_true, BitVec.le_def, resumeLimit]

/-- The deadline, in the silence there is already. -/
theorem resumeDue_eq_add (now : Int) : resumeDue cfg d now =
    now + ((resumeLimit cfg d).toNat - (uptime32 now - d.aliveMs).toNat : Nat) := by
  by_cases hSilent : resumeLimit cfg d ≤ uptime32 now - d.aliveMs
  · have hLe : (resumeLimit cfg d).toNat ≤ (uptime32 now - d.aliveMs).toNat := hSilent
    rw [resumeDue, if_pos hSilent, Nat.sub_eq_zero_of_le hLe]
    simp
  · have hLess : uptime32 now - d.aliveMs ≤ resumeLimit cfg d :=
      BitVec.le_of_lt (BitVec.not_le.mp hSilent)
    rw [resumeDue, if_neg hSilent, BitVec.toNat_sub_of_le hLess]

/-- While the silence the code sees does not wrap, the verdict is whether the
deadline has come. -/
theorem silentAt_iff_due {now t : Int} (hLe : now ≤ t)
    (hTurn : (uptime32 now - d.aliveMs).toNat + (t - now) < (2 ^ 32 : Nat)) :
    silentAt cfg d t = true ↔ resumeDue cfg d now ≤ t := by
  have hAge : ((uptime32 t - d.aliveMs).toNat : Int) =
      (uptime32 now - d.aliveMs).toNat + (t - now) := WrappingClock.age_add hLe hTurn
  rw [silentAt_iff, resumeDue_eq_add]
  omega

/-- Up to the deadline the silence cannot wrap: the limit is a word. -/
theorem silence_lt_of_le_due {now t : Int} (hDue : t ≤ resumeDue cfg d now) :
    (uptime32 now - d.aliveMs).toNat + (t - now) < (2 ^ 32 : Nat) := by
  have hLimit := (resumeLimit cfg d).isLt
  have hSilent := (uptime32 now - d.aliveMs).isLt
  rw [resumeDue_eq_add] at hDue
  omega

/-- The deadline is never past when it is computed. -/
theorem le_resumeDue (now : Int) : now ≤ resumeDue cfg d now := by
  rw [resumeDue_eq_add]
  omega

/-- Silent from its report on, for as long as the age of the report is true. -/
theorem silentAt_of_due_le {now t reported : Int} (hReport : d.aliveMs = uptime32 reported)
    (hLe : reported ≤ now) (hDue : resumeDue cfg d now ≤ t) (hTurn : t - reported < 2 ^ 32) :
    silentAt cfg d t = true := by
  have hNow : now ≤ t := (le_resumeDue now).trans hDue
  have hAge : ((uptime32 now - d.aliveMs).toNat : Int) = now - reported := by
    rw [hReport]
    exact WrappingClock.age_eq hLe (by omega)
  rw [silentAt_iff_due hNow (by omega)]
  exact hDue

/-- A watched slot resumes at a pass exactly when the verdict is given there. -/
theorem directWatch_resumed {s : Supervisor} {i : Slot} (t : Int)
    (hWatched : (s.slots i).watched = true) :
    ((directWatch cfg t s).1.slots i).resumed = silentAt cfg (s.slots i) t := by
  have hHeld : (s.slots i).resumed = false := by
    simp only [DirectSlot.watched, Bool.and_eq_true, Bool.not_eq_true'] at hWatched
    exact hWatched.2
  have hResumable : s.resumable cfg t i = silentAt cfg (s.slots i) t := by
    rw [resumable, hWatched, Bool.true_and]
  rw [directWatch_slots, hResumable]
  cases hSilent : silentAt cfg (s.slots i) t with
  | true => rfl
  | false => exact hHeld

end Silence

/-- The deadline and the verdict agree: before the deadline the verdict is
never given, at it it is, and it stays so while the age of the last report
fits a word. The deadline is at most the limit away. So a watched slot is
resumed by no pass before its deadline and by the one at it, and once latched
the thread does not sleep past it. -/
theorem resumeDue_agrees (cfg : Config) (s : Supervisor) (i : Slot) (now : Int) :
    (∀ t, now ≤ t → t < resumeDue cfg (s.slots i) now → silentAt cfg (s.slots i) t = false) ∧
    silentAt cfg (s.slots i) (resumeDue cfg (s.slots i) now) = true ∧
    (∀ reported t, (s.slots i).aliveMs = uptime32 reported → reported ≤ now →
      resumeDue cfg (s.slots i) now ≤ t → t - reported < 2 ^ 32 →
      silentAt cfg (s.slots i) t = true) ∧
    now ≤ resumeDue cfg (s.slots i) now ∧
    resumeDue cfg (s.slots i) now - now ≤
      ((watchPeriod cfg (s.slots i)).toNat * cfg.resumePeriods : Nat) ∧
    ((s.slots i).watched = true →
      (∀ t, now ≤ t → t < resumeDue cfg (s.slots i) now →
        ((directWatch cfg t s).1.slots i).resumed = false) ∧
      ((directWatch cfg (resumeDue cfg (s.slots i) now) s).1.slots i).resumed = true ∧
      (s.latch.latched = true →
        Earliest.NoLater (latchedWait cfg now s) (resumeDue cfg (s.slots i) now))) := by
  have hBefore (t : Int) (hNow : now ≤ t) (hEarly : t < resumeDue cfg (s.slots i) now) :
      silentAt cfg (s.slots i) t = false := by
    rw [Bool.eq_false_iff, Ne, silentAt_iff_due hNow (silence_lt_of_le_due hEarly.le)]
    omega
  have hAt : silentAt cfg (s.slots i) (resumeDue cfg (s.slots i) now) = true := by
    rw [silentAt_iff_due (le_resumeDue now) (silence_lt_of_le_due le_rfl)]
  refine ⟨hBefore, hAt, ?_, le_resumeDue now, ?_, ?_⟩
  · intro reported t hReport hLe hDue hTurn
    exact silentAt_of_due_le hReport hLe hDue hTurn
  · have hLimit : (resumeLimit cfg (s.slots i)).toNat ≤
        (watchPeriod cfg (s.slots i)).toNat * cfg.resumePeriods := resumeLimit_le
    rw [resumeDue_eq_add]
    omega
  · intro hWatched
    refine ⟨?_, ?_, ?_⟩
    · intro t hNow hEarly
      rw [directWatch_resumed t hWatched]
      exact hBefore t hNow hEarly
    · rw [directWatch_resumed _ hWatched]
      exact hAt
    · intro hLatched
      exact (latchedWait_noLater cfg now hLatched).2.1 i hWatched

end SafetyIsland.Supervisor
