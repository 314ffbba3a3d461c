import SafetyIsland.Buttons.State

/-! What one event does to each button: the words hold two debouncers side by
side, and the record notes a press where one of them rises. -/
namespace SafetyIsland.Buttons
open Debounce

section Bits
variable {w : U32} {n i : Nat}

/-- A button's mask has that button's bit, and no other. -/
theorem getLsbD_bit (hi : i < 32) : (bit n).getLsbD i = decide (i = n) := by
  rw [bit, BitVec.getLsbD_shiftLeft, BitVec.getLsbD_one]
  simp only [hi, decide_true, Bool.true_and]
  rw [Bool.eq_iff_iff]
  simp only [Bool.and_eq_true, Bool.not_eq_true', decide_eq_false_iff_not, decide_eq_true_iff]
  omega

/-- A masked word is 0 where the button's bit is clear. -/
theorem and_bit_eq_zero (hn : n < 32) : w &&& bit n = 0 ↔ w.getLsbD n = false := by
  constructor
  · intro hZero
    have hBit := congrArg (fun v => BitVec.getLsbD v n) hZero
    simpa [getLsbD_bit hn] using hBit
  · intro hClear
    apply BitVec.eq_of_getLsbD_eq
    intro i hi
    rw [BitVec.getLsbD_and, getLsbD_bit hi]
    by_cases hSame : i = n
    · rw [hSame, hClear]
      simp
    · simp [hSame]

theorem Button.no_lt (b : Button) : b.no < 2 := by cases b <;> decide

theorem Button.no_inj {b c : Button} : b.no = c.no ↔ b = c := by
  cases b <;> cases c <;> decide

/-- Only the buttons' two bits take part in the debounce. -/
theorem debounce_getLsbD (last prev sample : U32) (b : Button) :
    (debounce last prev sample).getLsbD b.no =
      if sample.getLsbD b.no = last.getLsbD b.no then sample.getLsbD b.no
      else prev.getLsbD b.no := by
  have hMask : (3 : U32).getLsbD b.no = true := by cases b <;> decide
  have hWidth : b.no < 32 := by
    have hNo := b.no_lt
    omega
  simp only [debounce, BitVec.getLsbD_or, BitVec.getLsbD_and, BitVec.getLsbD_not,
    BitVec.getLsbD_xor, hMask, hWidth, decide_true, Bool.true_and, Bool.and_true]
  cases sample.getLsbD b.no <;> cases last.getLsbD b.no <;> cases prev.getLsbD b.no <;> rfl

end Bits

section Samples
variable {btn : Button → Pin} {t : Tick} {s : State}

/-- A turn of the loop samples its own button, and leaves the other's bit. -/
theorem sampleButton_getLsbD (x : Sampling) (b c : Button) :
    (sampleButton btn t x b).sample.getLsbD c.no =
      (x.sample.getLsbD c.no ||
        (decide (c = b) && (pinRead (btn b) (t.port b) || x.record.inject b != 0))) := by
  have hWidth : c.no < 32 := by
    have hNo := c.no_lt
    omega
  show BitVec.getLsbD (if (pinRead (btn b) (t.port b) || x.record.inject b != 0) = true then
    x.sample ||| bit b.no else x.sample) c.no = _
  cases pinRead (btn b) (t.port b) || x.record.inject b != 0 with
  | true =>
      rw [if_pos rfl, BitVec.getLsbD_or, getLsbD_bit hWidth, Bool.and_true]
      simp only [Button.no_inj]
  | false => rw [if_neg Bool.false_ne_true, Bool.and_false, Bool.or_false]

/-- A button's injected ticks after one more. -/
def lessOne (n : U32) : U32 := if n ≠ 0 then n - 1 else 0

@[simp] theorem noteRead_inject (port : Option U32) (r : Record) :
    (r.noteRead port).inject = r.inject := by
  cases port <;> rfl

/-- A turn counts its own button's injected ticks down. -/
theorem countDown_inject (b : Button) (r : Record) :
    (r.countDown b).inject = Function.update r.inject b (lessOne (r.inject b)) := by
  rw [Record.countDown, lessOne]
  split_ifs with hRunning
  · rfl
  · have hZero : r.inject b = 0 := not_not.mp hRunning
    rw [← hZero, Function.update_eq_self]

theorem sampleBoth_inject (b : Button) :
    (sampleBoth btn t s).record.inject b = lessOne (s.record.inject b) := by
  simp only [sampleBoth, sampleButton, countDown_inject, noteRead_inject]
  cases b <;> simp

/-- Each bit of the sample is its button's level. -/
theorem sampleBoth_getLsbD (b : Button) :
    (sampleBoth btn t s).sample.getLsbD b.no = sampled btn t s b := by
  have hFirst : (sampleButton btn t { record := s.record } .sw1).record.inject .sw2 =
      s.record.inject .sw2 := by
    simp [sampleButton, countDown_inject]
  rw [sampleBoth, sampleButton_getLsbD, sampleButton_getLsbD, hFirst, sampled]
  cases b <;> simp

/-- Sampling leaves the presses and the debounced level as they are. -/
structure SameNotes (r r' : Record) : Prop where
  magic : r'.magic = r.magic
  presses : r'.presses = r.presses
  accepted : r'.accepted = r.accepted
  ignored : r'.ignored = r.ignored
  ring : r'.ring = r.ring
  debounced : r'.debounced = r.debounced

theorem SameNotes.trans {r r' r'' : Record} (h : SameNotes r r') (h' : SameNotes r' r'') :
    SameNotes r r'' :=
  ⟨h'.magic.trans h.magic, h'.presses.trans h.presses, h'.accepted.trans h.accepted,
    h'.ignored.trans h.ignored, h'.ring.trans h.ring, h'.debounced.trans h.debounced⟩

/-- A turn of the loop over the pins notes no press. -/
theorem sampleButton_sameNotes (x : Sampling) (b : Button) :
    SameNotes x.record (sampleButton btn t x b).record := by
  have hRead : SameNotes x.record (x.record.noteRead (t.port b)) := by
    cases hPort : t.port b <;> exact ⟨rfl, rfl, rfl, rfl, rfl, rfl⟩
  have hCount (r : Record) : SameNotes r (r.countDown b) := by
    rw [Record.countDown]
    split <;> exact ⟨rfl, rfl, rfl, rfl, rfl, rfl⟩
  exact hRead.trans (hCount _)

theorem sampleBoth_sameNotes : SameNotes s.record (sampleBoth btn t s).record :=
  (sampleButton_sameNotes { record := s.record } .sw1).trans (sampleButton_sameNotes _ .sw2)

end Samples

/-- A button's debouncer, out of the words. -/
def view (s : State) (b : Button) : Debouncer where
  last := s.lastSample.getLsbD b.no
  level := s.record.debounced.getLsbD b.no

/-- A record with some presses noted in it. -/
def Record.noteAll (r : Record) (es : List Noted) : Record :=
  es.foldl (fun r e => r.notePress e.tick e.button) r

/-- The press of a button whose debouncer rises. -/
def risen (t : Tick) (b : Button) (rises : Bool) : List Noted := if rises then [⟨b, t⟩] else []

section Edges
variable {btn : Button → Pin} {t : Tick} {s : State}

@[simp] theorem notePress_debounced (r : Record) (b : Button) :
    (r.notePress t b).debounced = r.debounced := by
  rw [Record.notePress]
  split <;> rfl

@[simp] theorem notePress_magic (r : Record) (b : Button) :
    (r.notePress t b).magic = r.magic := by
  rw [Record.notePress]
  split <;> rfl

@[simp] theorem notePress_inject (r : Record) (b : Button) :
    (r.notePress t b).inject = r.inject := by
  rw [Record.notePress]
  split <;> rfl

/-- A turn of the loop over the edges notes its button's press, if its level
rises. -/
theorem noteEdge_eq (prev now : U32) (x : Record × List Noted) (b : Button) :
    noteEdge t prev now x b =
      (x.1.noteAll (risen t b (now.getLsbD b.no && !prev.getLsbD b.no)),
        x.2 ++ risen t b (now.getLsbD b.no && !prev.getLsbD b.no)) := by
  have hWidth : b.no < 32 := by
    have hNo := b.no_lt
    omega
  have hEdge : now &&& ~~~prev &&& bit b.no = 0 ↔
      (now.getLsbD b.no && !prev.getLsbD b.no) = false := by
    rw [and_bit_eq_zero hWidth, BitVec.getLsbD_and, BitVec.getLsbD_not]
    simp only [hWidth, decide_true, Bool.true_and]
  rw [noteEdge]
  cases hRises : now.getLsbD b.no && !prev.getLsbD b.no with
  | true =>
      have hNonzero : ¬ now &&& ~~~prev &&& bit b.no = 0 := by
        rw [hEdge, hRises]
        exact Bool.noConfusion
      rw [if_neg hNonzero]
      rfl
  | false =>
      rw [if_pos (hEdge.mpr hRises), risen, if_neg Bool.false_ne_true, List.append_nil]
      rfl

/-- Presses are noted one after the other. -/
theorem noteAll_append (r : Record) (es fs : List Noted) :
    r.noteAll (es ++ fs) = (r.noteAll es).noteAll fs := List.foldl_append

/-- The level of a button after a tick is its debouncer's next. -/
theorem debounce_view (b : Button) :
    (debounce s.lastSample s.record.debounced (sampleBoth btn t s).sample).getLsbD b.no =
      ((view s b).next (sampled btn t s b)).level := by
  rw [debounce_getLsbD, sampleBoth_getLsbD]
  rfl

/-- A tick is one turn of each button's debouncer; the record notes a press
of each that rises, the first button's first. -/
theorem update_eq (hMagic : s.record.magic = magic) :
    update btn t s =
      let notes := risen t .sw1 ((view s .sw1).rises (sampled btn t s .sw1)) ++
        risen t .sw2 ((view s .sw2).rises (sampled btn t s .sw2))
      let x := sampleBoth btn t s
      ({ record := (x.settle (debounce s.lastSample s.record.debounced x.sample)).noteAll notes
         lastSample := x.sample }, notes) := by
  have hPrev : (sampleBoth btn t s).record.debounced = s.record.debounced :=
    sampleBoth_sameNotes.debounced
  have hRises (b : Button) :
      ((debounce s.lastSample s.record.debounced (sampleBoth btn t s).sample).getLsbD b.no &&
        !s.record.debounced.getLsbD b.no) = (view s b).rises (sampled btn t s b) := by
    rw [debounce_view]
    rfl
  rw [update, if_neg (not_not.mpr hMagic)]
  simp only [noteEdge_eq, hPrev, hRises, noteAll_append, List.nil_append]

end Edges

end SafetyIsland.Buttons
