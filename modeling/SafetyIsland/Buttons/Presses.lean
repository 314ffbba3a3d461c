import Mathlib.Tactic.IntervalCases
import SafetyIsland.Buttons.Reader
import SafetyIsland.Buttons.Update

/-! What the record holds after any run: a press for each rise of a button's
debouncer, counted and in the ring, and what a reader that comes back later
finds of them. -/
namespace SafetyIsland.Buttons
open Debounce Transition

/-- The tick's state allows a press of the button: the handler runs, and the
driver is asked to take over, or nothing has been lost yet. -/
def Tick.Allows (t : Tick) : Button → Prop
  | .sw1 => t.run ≠ 0 ∧ t.takeover ≠ 0
  | .sw2 => t.run ≠ 0 ∧ t.state = mrmNormal

instance (t : Tick) : (b : Button) → Decidable (t.Allows b)
  | .sw1 => inferInstanceAs (Decidable (_ ∧ _))
  | .sw2 => inferInstanceAs (Decidable (_ ∧ _))

/-- A press is accepted in the state that allows it, and in no other. -/
theorem why_eq_accepted (t : Tick) (b : Button) : t.why b = .accepted ↔ t.Allows b := by
  unfold Tick.why
  by_cases hRun : t.run = 0#32
  · cases b <;> simp [Tick.Allows, hRun]
  · cases b with
    | sw1 => by_cases hTakeover : t.takeover = 0#32 <;> simp [Tick.Allows, hRun, hTakeover]
    | sw2 => by_cases hNormal : t.state = mrmNormal <;> simp [Tick.Allows, hRun, hNormal]

/-- Four bits hold the value. -/
theorem getLsbD_of_toNat_lt {w : U32} {i : Nat} (h : w.toNat < 2 ^ 4) (hi : 4 ≤ i) :
    w.getLsbD i = false :=
  Nat.testBit_lt_two_pow (h.trans_le (Nat.pow_le_pow_right Nat.two_pos hi))

/-- The reader finds why a press was ignored where the firmware put it. -/
theorem codeFields_why (t : Tick) (b : Button) :
    (codeFields (t.press b).code.toNat).why = (t.why b).code.toNat := by
  have hWord : ((t.press b).code >>> 16) &&& 0xF = (t.why b).code := by
    apply BitVec.eq_of_getLsbD_eq
    intro i hi
    simp only [Tick.press, BitVec.getLsbD_and, BitVec.getLsbD_ushiftRight, BitVec.getLsbD_or,
      BitVec.getLsbD_shiftLeft]
    generalize t.why b = why
    by_cases hLow : i < 4
    · interval_cases i <;> cases why <;> simp [Why.code]
    · have hMask : (0xF : U32).getLsbD i = false :=
        getLsbD_of_toNat_lt (by decide) (Nat.le_of_not_lt hLow)
      have hCode : why.code.getLsbD i = false :=
        getLsbD_of_toNat_lt (by cases why <;> decide) (Nat.le_of_not_lt hLow)
      rw [hMask, hCode, Bool.and_false]
  rw [← hWord, BitVec.toNat_and, BitVec.toNat_ushiftRight]
  rfl

theorem why_code_eq_zero (w : Why) : w.code.toNat = 0 ↔ w = .accepted := by
  cases w <;> decide

section Note
variable (t : Tick) (b c : Button) (r : Record)

/-- A press goes to the slot that its number names. -/
theorem notePress_ring : (r.notePress t b).ring =
    Function.update r.ring (RingLog.slot 8 r.presses.toNat) (t.press b) := by
  unfold Record.notePress
  split <;> rfl

theorem notePress_presses : (r.notePress t b).presses = r.presses + 1 := rfl

/-- An allowed press is counted to its own button's accepted ones. -/
theorem notePress_accepted : (r.notePress t b).accepted c =
    r.accepted c + if b = c ∧ t.Allows b then 1 else 0 := by
  have hWhy := why_eq_accepted t b
  unfold Record.notePress
  split
  · rename_i hAccepted
    by_cases hSame : b = c
    · subst hSame
      simp [hWhy.mp hAccepted]
    · simp [hSame, Ne.symm hSame]
  · rename_i hIgnored
    have hRefused : ¬ (b = c ∧ t.Allows b) := fun h => hIgnored (hWhy.mpr h.2)
    rw [if_neg hRefused]
    exact (BitVec.add_zero _).symm

/-- Any other press is counted to its ignored ones. -/
theorem notePress_ignored : (r.notePress t b).ignored c =
    r.ignored c + if b = c ∧ ¬ t.Allows b then 1 else 0 := by
  have hWhy := why_eq_accepted t b
  unfold Record.notePress
  split
  · rename_i hAccepted
    have hAllowed : ¬ (b = c ∧ ¬ t.Allows b) := fun h => h.2 (hWhy.mp hAccepted)
    rw [if_neg hAllowed]
    exact (BitVec.add_zero _).symm
  · rename_i hIgnored
    have hRefused : ¬ t.Allows b := fun h => hIgnored (hWhy.mpr h)
    by_cases hSame : b = c
    · subst hSame
      simp [hRefused]
    · simp [hSame, Ne.symm hSame]

/-- A count in a word, one entry later. -/
theorem ofNat_countP_concat (es : List Noted) (e : Noted) (P : Noted → Prop) [DecidablePred P] :
    BitVec.ofNat 32 ((es ++ [e]).countP (P ·)) =
      BitVec.ofNat 32 (es.countP (P ·)) + if P e then 1 else 0 := by
  rw [List.countP_append, List.countP_singleton, BitVec.ofNat_add]
  by_cases hHolds : P e <;> simp [hHolds]

end Note

section Step
variable {btn : Button → Pin} {s : State} {b : Button}

theorem noteAll_magic (r : Record) (es : List Noted) : (r.noteAll es).magic = r.magic := by
  induction es generalizing r with
  | nil => rfl
  | cons e rest ih => exact (ih _).trans (notePress_magic r e.button)

theorem noteAll_debounced (r : Record) (es : List Noted) :
    (r.noteAll es).debounced = r.debounced := by
  induction es generalizing r with
  | nil => rfl
  | cons e rest ih => exact (ih _).trans (notePress_debounced r e.button)

theorem noteAll_inject (r : Record) (es : List Noted) : (r.noteAll es).inject = r.inject := by
  induction es generalizing r with
  | nil => rfl
  | cons e rest ih => exact (ih _).trans (notePress_inject r e.button)

/-- No event writes the record's magic. -/
theorem next_magic (hMagic : s.record.magic = magic) (e : Event) :
    (next btn s e).record.magic = magic := by
  cases e with
  | tick t =>
      rw [next, update_eq hMagic]
      exact (noteAll_magic _ _).trans (sampleBoth_sameNotes.magic.trans hMagic)
  | inject b ticks => exact hMagic

/-- Each button's debouncer takes the level the tick samples of it. -/
theorem view_tick (hMagic : s.record.magic = magic) (t : Tick) :
    view (next btn s (.tick t)) b = (view s b).next (sampled btn t s b) := by
  rw [next, update_eq hMagic]
  have hLast : (sampleBoth btn t s).sample.getLsbD b.no =
      ((view s b).next (sampled btn t s b)).last := sampleBoth_getLsbD b
  simp only [view, noteAll_debounced]
  show Debouncer.mk ((sampleBoth btn t s).sample.getLsbD b.no)
    ((debounce s.lastSample s.record.debounced (sampleBoth btn t s).sample).getLsbD b.no) = _
  rw [hLast, debounce_view]
  rfl

theorem view_inject (c : Button) (ticks : U32) :
    view (next btn s (.inject c ticks)) b = view s b := rfl

/-- A tick takes one from a button's injected ticks. -/
theorem inject_tick (hMagic : s.record.magic = magic) (t : Tick) :
    (next btn s (.tick t)).record.inject b = lessOne (s.record.inject b) := by
  rw [next, update_eq hMagic]
  simp only [noteAll_inject]
  exact sampleBoth_inject b

/-- A tick notes SW1's press before SW2's. -/
theorem noted_tick (hMagic : s.record.magic = magic) (t : Tick) :
    noted btn s (.tick t) = risen t .sw1 ((view s .sw1).rises (sampled btn t s .sw1)) ++
      risen t .sw2 ((view s .sw2).rises (sampled btn t s .sw2)) := by
  rw [noted, update_eq hMagic]

/-- A tick notes a press of a button when its debouncer rises. -/
theorem noted_tick_count (hMagic : s.record.magic = magic) (t : Tick) :
    (noted btn s (.tick t)).countP (·.button = b) =
      ((view s b).rises (sampled btn t s b)).toNat := by
  have hOne (c : Button) (rises : Bool) : (risen t c rises).countP (·.button = b) =
      if c = b then rises.toNat else 0 := by
    cases rises <;> by_cases hSame : c = b <;> simp [risen, hSame]
  rw [noted_tick hMagic, List.countP_append, hOne, hOne]
  cases b <;> simp

end Step

section Run
variable {btn : Button → Pin} {s : State}

theorem follow_magic (hMagic : s.record.magic = magic) (events : List Event) :
    (follow (next btn) s events).record.magic = magic := by
  induction events generalizing s with
  | nil => exact hMagic
  | cons e rest ih => exact ih (next_magic hMagic e)

/-- The presses of a button along a run are the rises of its debouncer along
what is sampled of it. -/
theorem noted_count (hMagic : s.record.magic = magic) (b : Button) (events : List Event) :
    (emitAlong (next btn) (noted btn) s events).countP (·.button = b) =
      (view s b).risesAlong (emitAlong (next btn) (reading btn b) s events) := by
  induction events generalizing s with
  | nil => rfl
  | cons e rest ih =>
      rw [emitAlong, emitAlong, List.countP_append, ih (next_magic hMagic e)]
      cases e with
      | tick t =>
          rw [noted_tick_count hMagic, view_tick hMagic]
          rfl
      | inject c ticks => exact Nat.zero_add _

/-- The record's counts and its ring, against the presses noted so far. -/
structure Logs (r : Record) (es : List Noted) : Prop where
  holds : RingLog.Holds (2 ^ 32) r.ring r.presses.toNat (es.map Noted.press)
  accepted : ∀ b, r.accepted b =
    BitVec.ofNat 32 (es.countP fun e => e.button = b ∧ e.tick.Allows e.button)
  ignored : ∀ b, r.ignored b =
    BitVec.ofNat 32 (es.countP fun e => e.button = b ∧ ¬ e.tick.Allows e.button)

/-- One press more in the record is one press more in the log. -/
theorem Logs.note {r : Record} {es : List Noted} (h : Logs r es) (t : Tick) (b : Button) :
    Logs (r.notePress t b) (es ++ [⟨b, t⟩]) := by
  constructor
  · have hNext : (r.presses + 1).toNat = (r.presses.toNat + 1) % 2 ^ 32 := BitVec.toNat_add ..
    rw [notePress_ring, notePress_presses, hNext, List.map_append]
    exact h.holds.write (t.press b)
  · intro c
    rw [notePress_accepted, h.accepted c, ofNat_countP_concat]
  · intro c
    rw [notePress_ignored, h.ignored c, ofNat_countP_concat]

/-- So are several. -/
theorem Logs.noteAll {r : Record} {es : List Noted} (h : Logs r es) (fs : List Noted) :
    Logs (r.noteAll fs) (es ++ fs) := by
  induction fs generalizing r es with
  | nil =>
      rw [List.append_nil]
      exact h
  | cons f rest ih =>
      have hRest := ih (h.note f.tick f.button)
      rw [List.append_assoc] at hRest
      exact hRest

/-- What sampling writes is no part of the log. -/
theorem Logs.same {r r' : Record} {es : List Noted} (h : Logs r es) (hSame : SameNotes r r') :
    Logs r' es := by
  constructor
  · rw [hSame.ring, hSame.presses]
    exact h.holds
  · rw [hSame.accepted]
    exact h.accepted
  · rw [hSame.ignored]
    exact h.ignored

/-- One event logs the presses it notes. -/
theorem Logs.next {es : List Noted} (hMagic : s.record.magic = magic) (h : Logs s.record es)
    (e : Event) : Logs (Buttons.next btn s e).record (es ++ noted btn s e) := by
  cases e with
  | tick t =>
      have hSettled : Logs (sampleBoth btn t s).record es := h.same sampleBoth_sameNotes
      have hTick : Logs ((sampleBoth btn t s).settle
          (debounce s.lastSample s.record.debounced (sampleBoth btn t s).sample)) es :=
        ⟨hSettled.holds, hSettled.accepted, hSettled.ignored⟩
      rw [Buttons.next, noted, update_eq hMagic]
      exact hTick.noteAll _
  | inject c ticks =>
      rw [noted, List.append_nil]
      exact ⟨h.holds, h.accepted, h.ignored⟩

/-- A run logs the presses it notes. -/
theorem Logs.follow {es : List Noted} (hMagic : s.record.magic = magic) (h : Logs s.record es)
    (events : List Event) : Logs (Transition.follow (Buttons.next btn) s events).record
      (es ++ emitAlong (Buttons.next btn) (noted btn) s events) := by
  induction events generalizing s es with
  | nil =>
      rw [emitAlong, List.append_nil]
      exact h
  | cons e rest ih =>
      rw [emitAlong, ← List.append_assoc]
      exact ih (next_magic hMagic e) (h.next hMagic e)

end Run

end SafetyIsland.Buttons
