import Mathlib.Data.List.DropRight
import SafetyIsland.Buttons.Presses

/-! No press is lost and none is invented: the account of a whole run, and the
presses a reader takes who has seen an earlier count. The count is a word. The
reader compares two of them as numbers, so it depends on the count not having
wrapped in between. -/
namespace SafetyIsland.Buttons
open Debounce Transition

section Counts
variable (btn : Button → Pin) (ready : Button → Bool) (events : List Event)

/-- The record of a run logs the presses noted in it. -/
theorem logs_run : Logs (run btn ready events).record (recorded btn ready events) := by
  have hStart : Logs (init ready).record [] :=
    ⟨RingLog.Holds.empty, fun _ => rfl, fun _ => rfl⟩
  exact hStart.follow (s := init ready) rfl events

theorem run_magic : (run btn ready events).record.magic = magic := follow_magic rfl events

/-- Each button's presses are those its readings make. -/
theorem recorded_count (b : Button) : (recorded btn ready events).countP (·.button = b) =
    presses (readings btn ready b events) := by
  have hRest : view (init ready) b = Debouncer.rest := by
    simp [view, init, Debouncer.rest]
  rw [recorded, noted_count (s := init ready) rfl b events, hRest, Debouncer.risesAlong_rest]
  rfl

/-- The number of presses is their count, modulo a word. -/
theorem presses_run : (run btn ready events).record.presses.toNat =
    (recorded btn ready events).length % 2 ^ 32 := by
  rw [(logs_run btn ready events).holds.count, List.length_map]

/-- A press is of one button, and accepted or ignored. -/
theorem length_eq_counts (es : List Noted) : es.length =
    es.countP (fun e => e.button = .sw1 ∧ e.tick.Allows e.button) +
      es.countP (fun e => e.button = .sw2 ∧ e.tick.Allows e.button) +
      es.countP (fun e => e.button = .sw1 ∧ ¬ e.tick.Allows e.button) +
      es.countP (fun e => e.button = .sw2 ∧ ¬ e.tick.Allows e.button) := by
  induction es with
  | nil => rfl
  | cons e rest ih =>
      obtain ⟨button, tick⟩ := e
      rw [List.length_cons, ih]
      simp only [List.countP_cons]
      cases button with
      | sw1 => by_cases hAllows : tick.Allows .sw1 <;> simp [hAllows] <;> omega
      | sw2 => by_cases hAllows : tick.Allows .sw2 <;> simp [hAllows] <;> omega

/-- Every press is counted once, as accepted or as ignored. -/
theorem Logs.summed {r : Record} {es : List Noted} (h : Logs r es) :
    r.presses = r.accepted .sw1 + r.accepted .sw2 + r.ignored .sw1 + r.ignored .sw2 := by
  have hPresses : r.presses = BitVec.ofNat 32 es.length := by
    apply BitVec.eq_of_toNat_eq
    rw [h.holds.count, List.length_map, BitVec.toNat_ofNat]
  rw [hPresses, h.accepted, h.accepted, h.ignored, h.ignored, ← BitVec.ofNat_add,
    ← BitVec.ofNat_add, ← BitVec.ofNat_add, ← length_eq_counts]

end Counts

/-- The button is released, has been read so, and nothing is injected. -/
def AtRest (s : State) (b : Button) : Prop := view s b = Debouncer.rest ∧ s.record.inject b = 0

/-- The event neither presses the button's pin nor injects it. -/
def Quiet (btn : Button → Pin) (b : Button) : Event → Prop
  | .tick t => pinRead (btn b) (t.port b) = false
  | .inject c _ => c ≠ b

def Event.isTick : Event → Bool
  | .tick _ => true
  | .inject .. => false

section Injection
variable {btn : Button → Pin} {s : State} {b : Button}

theorem toNat_lessOne (n : U32) : (lessOne n).toNat = n.toNat - 1 := by
  have hZero : (0 : U32).toNat = 0 := rfl
  rw [lessOne]
  split
  · rename_i hRunning
    have hPos : n.toNat ≠ 0 := fun hNone => hRunning (BitVec.eq_of_toNat_eq hNone)
    rw [BitVec.toNat_sub_of_le (by rw [BitVec.le_def]; show 1 ≤ n.toNat; omega)]
    rfl
  · rename_i hStopped
    rw [not_not.mp hStopped]
    rfl

/-- Left alone, a button is read as pressed for the injected ticks and then as
released. -/
theorem readings_quiet (hMagic : s.record.magic = magic) {later : List Event}
    (hQuiet : ∀ e ∈ later, Quiet btn b e) :
    emitAlong (next btn) (reading btn b) s later =
      List.replicate (min (s.record.inject b).toNat (later.countP Event.isTick)) true ++
        List.replicate (later.countP Event.isTick - (s.record.inject b).toNat) false := by
  induction later generalizing s with
  | nil => rw [List.countP_nil, Nat.min_zero, Nat.zero_sub]; rfl
  | cons e rest ih =>
      have hNext : (next btn s e).record.magic = magic := next_magic hMagic e
      have hRest := ih hNext fun e hMem => hQuiet e (List.mem_cons_of_mem _ hMem)
      rw [emitAlong, hRest]
      cases e with
      | tick t =>
          have hPin : pinRead (btn b) (t.port b) = false := hQuiet _ List.mem_cons_self
          have hCount : (Event.tick t :: rest).countP Event.isTick =
              rest.countP Event.isTick + 1 := List.countP_cons_of_pos rfl
          rw [inject_tick hMagic, toNat_lessOne, hCount]
          generalize rest.countP Event.isTick = ticks
          have hRead : reading btn b s (.tick t) = [s.record.inject b != 0] := by
            rw [reading, sampled, hPin, Bool.false_or]
          rw [hRead]
          by_cases hNone : s.record.inject b = 0
          · rw [hNone]
            simp [List.replicate_succ]
          · have hPos : 0 < (s.record.inject b).toNat :=
              Nat.pos_of_ne_zero fun hZero => hNone (BitVec.eq_of_toNat_eq hZero)
            have hRunning : (s.record.inject b != 0) = true := bne_iff_ne.mpr hNone
            have hMore : min (s.record.inject b).toNat (ticks + 1) =
                min ((s.record.inject b).toNat - 1) ticks + 1 := by omega
            have hLeft : ticks + 1 - (s.record.inject b).toNat =
                ticks - ((s.record.inject b).toNat - 1) := by omega
            rw [hRunning, hMore, hLeft, List.replicate_succ]
            rfl
      | inject c ticks =>
          have hOther : c ≠ b := hQuiet _ List.mem_cons_self
          have hSame : (next btn s (.inject c ticks)).record.inject b = s.record.inject b :=
            Function.update_of_ne hOther.symm ..
          rw [hSame]
          rfl

/-- An injection of two ticks or more, from rest, is one press. -/
theorem injected_once (hMagic : s.record.magic = magic) (hRest : AtRest s b) {ticks : U32}
    (hTicks : 2 ≤ ticks.toNat) {later : List Event} (hQuiet : ∀ e ∈ later, Quiet btn b e)
    (hLater : 2 ≤ later.countP Event.isTick) :
    (emitAlong (next btn) (noted btn) (next btn s (.inject b ticks)) later).countP
      (·.button = b) = 1 := by
  have hInjected : (next btn s (.inject b ticks)).record.inject b = ticks :=
    Function.update_self ..
  rw [noted_count (s := next btn s (.inject b ticks)) hMagic, view_inject, hRest.1,
    readings_quiet (s := next btn s (.inject b ticks)) hMagic hQuiet, hInjected]
  obtain ⟨held, hHeld⟩ : ∃ held, min ticks.toNat (later.countP Event.isTick) = held + 2 :=
    ⟨min ticks.toNat (later.countP Event.isTick) - 2, by omega⟩
  rw [hHeld]
  exact Debouncer.risesAlong_held _ _

end Injection

/-- One poll of the bridge: the presses after the count it saw last. -/
def poll (blob : List LittleEndian.Byte) (seen : Nat) : Option (List (Nat × Nat × Nat)) := do
  let (hdr, ring) ← readRecord blob
  newPresses hdr ring seen

section Read
variable (btn : Button → Pin) (ready : Button → Bool) (before after : List Event)

/-- A press as a poll gives it: its number, in a word, its uptime and code. -/
def Noted.read (e : Noted × Nat) : Nat × Nat × Nat := (e.2 % 2 ^ 32, e.1.press.pair)

/-- A poll gives the latest entries of the log, numbered from 1, as many as the
two counts are apart as numbers, eight at most. -/
theorem poll_image {r : Record} {es : List Noted} (h : Logs r es) (seen : Nat) :
    poll r.image seen =
      some (((es.zipIdx 1).rtake (min (r.presses.toNat - seen) 8)).map Noted.read) := by
  have hCount : r.presses.toNat = es.length % 2 ^ 32 := by
    rw [h.holds.count, List.length_map]
  have hSize : r.presses.toNat - max seen (r.presses.toNat - 8) =
      min (r.presses.toNat - seen) 8 := by omega
  have hLatest := h.holds.latest_eq
    (show min (r.presses.toNat - seen) 8 ≤ min r.presses.toNat 8 by omega)
  rw [poll, readRecord_image, Option.bind_eq_bind, Option.bind_some]
  show newPresses _ _ _ = _
  rw [newPresses_eq, hSize]
  congr 1
  apply List.ext_getElem
  · simp only [List.length_map, List.length_range, List.rtake, List.length_drop, List.length_zipIdx]
    omega
  · intro k hk _
    have hk : k < min (r.presses.toNat - seen) 8 := by simpa using hk
    have hSlot : max seen (r.presses.toNat - 8) + k =
        r.presses.toNat - min (r.presses.toNat - seen) 8 + k := by omega
    have hLt : es.length - min (r.presses.toNat - seen) 8 + k < es.length := by omega
    have hEntry : r.ring (RingLog.slot 8 (max seen (r.presses.toNat - 8) + k)) =
        es[es.length - min (r.presses.toNat - seen) 8 + k].press := by
      have hGet := congrArg (fun xs => xs[k]?) hLatest
      simp only [List.rtake, List.getElem?_map, List.getElem?_drop, List.length_map,
        List.getElem?_range hk, List.getElem?_eq_getElem hLt, Option.map_some] at hGet
      rw [hSlot]
      exact Option.some.inj hGet
    simp only [List.getElem_map, List.getElem_range, List.rtake, List.getElem_drop,
      List.getElem_zipIdx, List.length_zipIdx, Noted.read, hEntry]
    congr 1
    omega

/-- What is recorded stays recorded. -/
theorem recorded_begins :
    recorded btn ready before <+: recorded btn ready (before ++ after) := by
  induction after using List.reverseRecOn with
  | nil =>
      rw [List.append_nil]
  | append_singleton after e ih =>
      have hMore : recorded btn ready (before ++ after ++ [e]) =
          recorded btn ready (before ++ after) ++ noted btn (run btn ready (before ++ after)) e :=
        emitAlong_append _ _
      rw [← List.append_assoc, hMore]
      exact ih.trans (List.prefix_append _ _)

/-- The presses since an earlier count are all there, if the two counts are as
far apart as the presses are. -/
theorem poll_eq_iff :
    poll (run btn ready (before ++ after)).record.image
        (run btn ready before).record.presses.toNat =
      some ((((recorded btn ready (before ++ after)).zipIdx 1).drop
        (max (recorded btn ready before).length
          ((recorded btn ready (before ++ after)).length - 8))).map Noted.read) ↔
    min ((recorded btn ready (before ++ after)).length - (recorded btn ready before).length) 8 ≤
      (run btn ready (before ++ after)).record.presses.toNat -
        (run btn ready before).record.presses.toNat := by
  have hSeen := presses_run btn ready before
  have hNow := presses_run btn ready (before ++ after)
  have hGrown := (recorded_begins btn ready before after).length_le
  rw [poll_image (logs_run btn ready (before ++ after))]
  generalize recorded btn ready (before ++ after) = all at *
  generalize (recorded btn ready before).length = count at *
  generalize (run btn ready (before ++ after)).record.presses.toNat = now at *
  generalize (run btn ready before).record.presses.toNat = seen at *
  have hDrop : (all.zipIdx 1).drop (max count (all.length - 8)) =
      (all.zipIdx 1).rtake (min (all.length - count) 8) := by
    rw [List.rtake, List.length_zipIdx]
    congr 1
    omega
  rw [hDrop]
  constructor
  · intro hSame
    have hLength := congrArg List.length (Option.some.inj hSame)
    simp only [List.length_map, List.rtake, List.length_drop, List.length_zipIdx] at hLength
    omega
  · intro hFar
    -- the counts differ by no more than the presses do
    have hSize : min (now - seen) 8 = min (all.length - count) 8 := by omega
    rw [hSize]

end Read

/-- After a run the record accounts for every press, and a reader that saw it
after the first part of the run finds those of the rest, the last eight if
there are more. -/
structure PressesKept (btn : Button → Pin) (ready : Button → Bool) (before after : List Event) :
    Prop where
  counted : ∀ b, (recorded btn ready (before ++ after)).countP (·.button = b) =
    presses (readings btn ready b (before ++ after))
  glitch : ∀ b xs ys x,
    readings btn ready b (before ++ after) = xs ++ x :: x :: (!x) :: x :: ys →
    (recorded btn ready (before ++ after)).countP (·.button = b) =
      presses (xs ++ x :: x :: x :: x :: ys)
  total : (run btn ready (before ++ after)).record.presses =
    BitVec.ofNat 32 (recorded btn ready (before ++ after)).length
  summed : (run btn ready (before ++ after)).record.presses =
    (run btn ready (before ++ after)).record.accepted .sw1 +
      (run btn ready (before ++ after)).record.accepted .sw2 +
      (run btn ready (before ++ after)).record.ignored .sw1 +
      (run btn ready (before ++ after)).record.ignored .sw2
  accepted : ∀ b, (run btn ready (before ++ after)).record.accepted b =
    BitVec.ofNat 32 ((recorded btn ready (before ++ after)).countP fun e =>
      e.button = b ∧ e.tick.Allows e.button)
  ignored : ∀ b, (run btn ready (before ++ after)).record.ignored b =
    BitVec.ofNat 32 ((recorded btn ready (before ++ after)).countP fun e =>
      e.button = b ∧ ¬ e.tick.Allows e.button)
  why : ∀ e ∈ recorded btn ready (before ++ after),
    (codeFields e.press.code.toNat).why = 0 ↔ e.tick.Allows e.button
  injected : ∀ b ticks later, AtRest (run btn ready (before ++ after)) b → 2 ≤ ticks.toNat →
    (∀ e ∈ later, Quiet btn b e) → 2 ≤ later.countP Event.isTick →
    (emitAlong (next btn) (noted btn)
      (next btn (run btn ready (before ++ after)) (.inject b ticks)) later).countP
        (·.button = b) = 1
  /-- Each press comes with its number, its uptime and its code. -/
  read : poll (run btn ready (before ++ after)).record.image
      (run btn ready before).record.presses.toNat =
    some ((((recorded btn ready (before ++ after)).zipIdx 1).drop
      (max (recorded btn ready before).length
        ((recorded btn ready (before ++ after)).length - 8))).map Noted.read)

/-- The presses are all accounted for and all read, exactly when the two counts
read, as numbers, are as far apart as the presses made in between (or eight
of them): when the count has not wrapped among them. -/
theorem pressesKept_iff (btn : Button → Pin) (ready : Button → Bool)
    (before after : List Event) : PressesKept btn ready before after ↔
    min ((recorded btn ready (before ++ after)).length - (recorded btn ready before).length) 8 ≤
      (run btn ready (before ++ after)).record.presses.toNat -
        (run btn ready before).record.presses.toNat := by
  rw [← poll_eq_iff]
  constructor
  · exact PressesKept.read
  · intro hRead
    have hLogs := logs_run btn ready (before ++ after)
    refine ⟨recorded_count btn ready _, ?_, ?_, hLogs.summed, hLogs.accepted, hLogs.ignored, ?_, ?_,
      hRead⟩
    · intro b xs ys x hReadings
      rw [recorded_count, hReadings, presses_glitch]
    · apply BitVec.eq_of_toNat_eq
      rw [presses_run, BitVec.toNat_ofNat]
    · intro e _
      rw [Noted.press, codeFields_why, why_code_eq_zero, why_eq_accepted]
    · intro b ticks later hRest hTicks hQuiet hLater
      exact injected_once (run_magic btn ready _) hRest hTicks hQuiet hLater

/-- SW1's pin is high, SW2's is not. -/
def held (high : Bool) : Tick where
  run := 0
  state := 0
  behavior := 0
  takeover := 0
  port
    | .sw1 => some (if high then 1 else 0)
    | .sw2 => some 0
  uptimeMs _ := 0

def firstPin (_ : Button) : Pin := { pin := 0, activeLow := false }

def configured (_ : Button) : Bool := true

/-- SW1 is pressed for two ticks and released for two, over and over. -/
def highs (n : Nat) : List Bool := (List.replicate n [true, true, false, false]).flatten

def manyPresses (n : Nat) : List Event := (highs n).map fun high => .tick (held high)

/-- With nothing injected only the pins are read. -/
theorem readings_held {s : State} (hMagic : s.record.magic = magic)
    (hNone : ∀ b, s.record.inject b = 0) (b : Button) (levels : List Bool) :
    emitAlong (next firstPin) (reading firstPin b) s
        (levels.map fun high => .tick (held high)) =
      levels.map fun high => high && b = .sw1 := by
  induction levels generalizing s with
  | nil => rfl
  | cons high rest ih =>
      have hSampled : sampled firstPin (held high) s b = (high && b = .sw1) := by
        rw [sampled, hNone b]
        cases high <;> cases b <;> rfl
      have hRest := ih (s := next firstPin s (.tick (held high))) (next_magic hMagic _) (by
        intro c
        rw [inject_tick hMagic, hNone c]
        rfl)
      rw [List.map_cons, emitAlong, hRest, reading, hSampled]
      rfl

theorem foldl_onePress :
    [true, true, false, false].foldl Debouncer.next Debouncer.rest = Debouncer.rest := by
  decide

/-- Two ticks up and two down are one press. -/
theorem presses_highs (n : Nat) : presses (highs n) = n := by
  rw [← Debouncer.risesAlong_rest]
  induction n with
  | zero => rfl
  | succ n ih =>
      rw [highs, List.replicate_succ, List.flatten_cons, Debouncer.risesAlong_append, foldl_onePress]
      show 1 + Debouncer.rest.risesAlong (highs n) = n + 1
      rw [ih, Nat.add_comm]

theorem highs_succ (n : Nat) : highs (n + 1) = highs n ++ highs 1 := by
  rw [highs, List.replicate_succ', List.flatten_append]
  rfl

/-- A run of any number of presses records them all. -/
theorem length_recorded_manyPresses (n : Nat) :
    (recorded firstPin configured (manyPresses n)).length = n := by
  have hReadings (b : Button) : readings firstPin configured b (manyPresses n) =
      (highs n).map fun high => high && b = .sw1 :=
    readings_held (s := init configured) rfl (fun _ => rfl) b (highs n)
  have hFirst := recorded_count firstPin configured (manyPresses n) .sw1
  have hSecond := recorded_count firstPin configured (manyPresses n) .sw2
  have hKeep : ((highs n).map fun high => high && (Button.sw1 = Button.sw1 : Bool)) = highs n := by
    simp
  have hDrop : ((highs n).map fun high => high && (Button.sw2 = Button.sw1 : Bool)) =
      List.replicate (highs n).length false := by
    simp
  rw [hReadings, hKeep, presses_highs] at hFirst
  rw [hReadings, hDrop, ← Debouncer.risesAlong_rest, Debouncer.risesAlong_released] at hSecond
  have hOnly (e : Noted) (hMem : e ∈ recorded firstPin configured (manyPresses n)) :
      decide (e.button = .sw1) = true := by
    have hNot := List.countP_eq_zero.mp hSecond e hMem
    cases hButton : e.button with
    | sw1 => rfl
    | sw2 => exact absurd (decide_eq_true hButton) hNot
  exact (List.countP_eq_length.mpr hOnly).symm.trans hFirst

/-- The press that makes the count wrap is not read: the count read before it
is the greatest a word can hold. -/
theorem not_pressesKept :
    ¬ ∀ btn ready before after, PressesKept btn ready before after := by
  intro h
  have hRead := (h firstPin configured (manyPresses (2 ^ 32 - 1)) (manyPresses 1)).read
  have hJoin : manyPresses (2 ^ 32 - 1) ++ manyPresses 1 = manyPresses (2 ^ 32) := by
    have hLast : (2 ^ 32 - 1) + 1 = 2 ^ 32 := by decide
    rw [manyPresses, manyPresses, ← List.map_append, ← highs_succ, hLast]
    rfl
  rw [poll_eq_iff, presses_run, presses_run, hJoin, length_recorded_manyPresses,
    length_recorded_manyPresses] at hRead
  omega

end SafetyIsland.Buttons
