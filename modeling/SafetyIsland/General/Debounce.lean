import Mathlib.Data.List.Induction
import Mathlib.Logic.Basic

/-! A level read once a turn and debounced: it counts once two turns in a row
agree on it. A press is stated on the readings alone, and the filter that keeps
one reading and one level finds exactly those. -/
namespace Debounce

/-- The readings of a turn and of the one before are both `x`. -/
def Agree (x : Bool) (xs : List Bool) (i : Nat) : Prop :=
  0 < i ∧ xs[i - 1]? = some x ∧ xs[i]? = some x

instance (x : Bool) (xs : List Bool) (i : Nat) : Decidable (Agree x xs i) :=
  inferInstanceAs (Decidable (_ ∧ _))

/-- Two turns agree on pressed here, for the first time since two last agreed
on released, or at all. -/
def PressedAt (xs : List Bool) (i : Nat) : Prop :=
  Agree true xs i ∧ ∀ j < i, Agree true xs j → ∃ k < i, j < k ∧ Agree false xs k

instance (xs : List Bool) (i : Nat) : Decidable (PressedAt xs i) :=
  inferInstanceAs (Decidable (_ ∧ _))

/-- The turns at which the readings make a press. -/
def presses (xs : List Bool) : Nat := (List.range xs.length).countP (PressedAt xs ·)

section Readings
variable {x y : Bool} {xs : List Bool} {i : Nat}

theorem Agree.lt_length (h : Agree x xs i) : i < xs.length :=
  (List.getElem?_eq_some_iff.mp h.2.2).1

/-- A later reading does not change what two turns agreed on. -/
theorem agree_append (hi : i < xs.length) : Agree x (xs ++ [y]) i ↔ Agree x xs i := by
  rw [Agree, Agree, List.getElem?_append_left hi, List.getElem?_append_left (by omega)]

/-- What was a press stays one, whatever is read later. -/
theorem pressedAt_append (hi : i < xs.length) : PressedAt (xs ++ [y]) i ↔ PressedAt xs i := by
  rw [PressedAt, PressedAt, agree_append hi]
  apply and_congr_right
  intro _
  constructor
  · intro hFirst j hj hAgree
    obtain ⟨k, hk, hLater, hReleased⟩ := hFirst j hj ((agree_append (by omega)).mpr hAgree)
    exact ⟨k, hk, hLater, (agree_append (by omega)).mp hReleased⟩
  · intro hFirst j hj hAgree
    obtain ⟨k, hk, hLater, hReleased⟩ := hFirst j hj ((agree_append (by omega)).mp hAgree)
    exact ⟨k, hk, hLater, (agree_append (by omega)).mpr hReleased⟩

end Readings

/-- The last reading, and the level two turns last agreed on. -/
structure Debouncer where
  last : Bool
  level : Bool
  deriving DecidableEq, Repr

namespace Debouncer

def rest : Debouncer := ⟨false, false⟩

def next (f : Debouncer) (x : Bool) : Debouncer := ⟨x, if x = f.last then x else f.level⟩

/-- The level goes from released to pressed. -/
def rises (f : Debouncer) (x : Bool) : Bool := (f.next x).level && !f.level

def risesAlong : Debouncer → List Bool → Nat
  | _, [] => 0
  | f, x :: rest => (f.rises x).toNat + (f.next x).risesAlong rest

/-- The rises of two parts add up. -/
theorem risesAlong_append (f : Debouncer) (xs ys : List Bool) :
    f.risesAlong (xs ++ ys) = f.risesAlong xs + (xs.foldl next f).risesAlong ys := by
  induction xs generalizing f with
  | nil => exact (Nat.zero_add _).symm
  | cons x rest ih =>
      rw [List.cons_append, risesAlong, risesAlong, ih, Nat.add_assoc]
      rfl

/-- The level rises at the second of two pressed readings. -/
theorem rises_eq_true (f : Debouncer) (x : Bool) :
    f.rises x = true ↔ x = true ∧ f.last = true ∧ f.level = false := by
  obtain ⟨last, level⟩ := f
  cases x <;> cases last <;> cases level <;> decide

/-- What the filter keeps, in terms of the readings so far. -/
structure Tracks (f : Debouncer) (xs : List Bool) : Prop where
  last : f.last = true ↔ 0 < xs.length ∧ xs[xs.length - 1]? = some true
  released : f.last = false → 0 < xs.length → xs[xs.length - 1]? = some false
  level : f.level = true ↔
    ∃ j, Agree true xs j ∧ ∀ k, j < k → ¬ Agree false xs k

theorem Tracks.rest : Tracks rest [] where
  last := by simp [Debouncer.rest]
  released := fun _ hPos => absurd hPos (Nat.lt_irrefl 0)
  level := by simp [Debouncer.rest, Agree]

/-- The newest turn agrees with the one before when the filter's last reading
is the new one. -/
theorem Tracks.agree_new {f : Debouncer} {xs : List Bool} (h : f.Tracks xs) (x y : Bool)
    (hPos : 0 < xs.length) : Agree y (xs ++ [x]) xs.length ↔ x = y ∧ f.last = y := by
  have hLast : xs[xs.length - 1]? = some f.last := by
    cases hRead : f.last with
    | true => exact (h.last.mp hRead).2
    | false => exact h.released hRead hPos
  rw [Agree, List.getElem?_append_left (by omega), List.getElem?_concat_length, hLast]
  simp only [Option.some.injEq]
  constructor
  · rintro ⟨-, hBefore, hNew⟩
    exact ⟨hNew, hBefore⟩
  · rintro ⟨hNew, hBefore⟩
    exact ⟨hPos, hBefore, hNew⟩

/-- A rise is a press of the readings. -/
theorem Tracks.rises_iff {f : Debouncer} {xs : List Bool} (h : f.Tracks xs) (x : Bool) :
    f.rises x = true ↔ PressedAt (xs ++ [x]) xs.length := by
  rw [rises_eq_true]
  constructor
  · rintro ⟨hNew, hLast, hLevel⟩
    have hPos := (h.last.mp hLast).1
    refine ⟨(h.agree_new x true hPos).mpr ⟨hNew, hLast⟩, ?_⟩
    intro j hj hAgree
    rw [agree_append hj] at hAgree
    -- the level is released, so a release came after that turn
    by_contra hNone
    have hHeld : f.level = true := by
      rw [h.level]
      refine ⟨j, hAgree, ?_⟩
      intro k hLater hReleased
      have hk := hReleased.lt_length
      exact hNone ⟨k, hk, hLater, (agree_append hk).mpr hReleased⟩
    rw [hHeld] at hLevel
    cases hLevel
  · rintro ⟨hAgree, hFirst⟩
    have hPos : 0 < xs.length := hAgree.1
    obtain ⟨hNew, hLast⟩ := (h.agree_new x true hPos).mp hAgree
    refine ⟨hNew, hLast, ?_⟩
    rw [Bool.eq_false_iff]
    intro hHeld
    obtain ⟨j, hPressed, hStill⟩ := h.level.mp hHeld
    have hj := hPressed.lt_length
    obtain ⟨k, hk, hLater, hReleased⟩ := hFirst j hj ((agree_append hj).mpr hPressed)
    exact hStill k hLater ((agree_append hk).mp hReleased)

/-- One reading more keeps the filter and the readings in step. -/
theorem Tracks.next {f : Debouncer} {xs : List Bool} (h : f.Tracks xs) (x : Bool) :
    (f.next x).Tracks (xs ++ [x]) := by
  have hLength : (xs ++ [x]).length = xs.length + 1 := List.length_append
  have hNewest : (xs ++ [x])[(xs ++ [x]).length - 1]? = some x := by
    rw [hLength, Nat.add_sub_cancel, List.getElem?_concat_length]
  constructor
  · rw [hNewest, hLength]
    simp [Debouncer.next]
  · intro hReleased _
    rw [hNewest]
    exact congrArg some hReleased
  · by_cases hAgrees : 0 < xs.length ∧ x = f.last
    · obtain ⟨hPos, hSame⟩ := hAgrees
      have hLevel : (f.next x).level = x := if_pos hSame
      rw [hLevel]
      constructor
      · intro hPressed
        refine ⟨xs.length, (h.agree_new x true hPos).mpr ⟨hPressed, hSame ▸ hPressed⟩, ?_⟩
        intro k hLater hReleased
        have hk := hReleased.lt_length
        omega
      · rintro ⟨j, hAgree, hStill⟩
        by_contra hReleased
        rw [Bool.not_eq_true] at hReleased
        have hNew : Agree false (xs ++ [x]) xs.length :=
          (h.agree_new x false hPos).mpr ⟨hReleased, hSame ▸ hReleased⟩
        have hj := hAgree.lt_length
        rcases Nat.lt_or_ge j xs.length with hBefore | hAt
        · exact hStill xs.length hBefore hNew
        · have hEq : j = xs.length := by omega
          subst hEq
          rw [((h.agree_new x true hPos).mp hAgree).1] at hReleased
          cases hReleased
    · -- nothing new is agreed on
      have hOld (y : Bool) (i : Nat) : Agree y (xs ++ [x]) i ↔ Agree y xs i := by
        constructor
        · intro hAgree
          have hi := hAgree.lt_length
          rcases Nat.lt_or_ge i xs.length with hBefore | hAt
          · exact (agree_append hBefore).mp hAgree
          · have hEq : i = xs.length := by omega
            subst hEq
            have hPos : 0 < xs.length := hAgree.1
            obtain ⟨hNew, hLast⟩ := (h.agree_new x y hPos).mp hAgree
            exact absurd ⟨hPos, hNew.trans hLast.symm⟩ hAgrees
        · intro hAgree
          exact (agree_append hAgree.lt_length).mpr hAgree
      have hLevel : (f.next x).level = f.level := by
        by_cases hSame : x = f.last
        · -- the first reading, and released
          have hEmpty : ¬ 0 < xs.length := fun hPos => hAgrees ⟨hPos, hSame⟩
          have hReleased : f.last = false := by
            rw [Bool.eq_false_iff]
            exact fun hLast => hEmpty (h.last.mp hLast).1
          have hLow : f.level = false := by
            rw [Bool.eq_false_iff]
            intro hHeld
            obtain ⟨j, hAgree, -⟩ := h.level.mp hHeld
            have hj := hAgree.lt_length
            omega
          rw [Debouncer.next, if_pos hSame, hSame, hReleased, hLow]
        · exact if_neg hSame
      rw [hLevel, h.level]
      simp only [hOld]

/-- From rest the filter tracks any readings. -/
theorem tracks_foldl (xs : List Bool) : (xs.foldl next Debouncer.rest).Tracks xs := by
  induction xs using List.reverseRecOn with
  | nil => exact .rest
  | append_singleton xs x ih =>
      rw [List.foldl_append]
      exact ih.next x

/-- One more reading makes one more press where the filter rises. -/
theorem presses_append (xs : List Bool) (x : Bool) :
    presses (xs ++ [x]) = presses xs + ((xs.foldl next Debouncer.rest).rises x).toNat := by
  have hBefore : (List.range xs.length).countP (PressedAt (xs ++ [x]) ·) = presses xs := by
    apply List.countP_congr
    intro i hi
    rw [decide_eq_true_iff, decide_eq_true_iff]
    exact pressedAt_append (List.mem_range.mp hi)
  have hNew : decide (PressedAt (xs ++ [x]) xs.length) =
      (xs.foldl Debouncer.next Debouncer.rest).rises x := by
    rw [Bool.eq_iff_iff, decide_eq_true_iff]
    exact ((tracks_foldl xs).rises_iff x).symm
  rw [presses, List.length_append, List.length_singleton, List.range_succ, List.countP_append,
    hBefore, List.countP_singleton, hNew]
  cases (xs.foldl Debouncer.next Debouncer.rest).rises x <;> rfl

/-- The filter rises as often as the readings make a press. -/
theorem risesAlong_rest (xs : List Bool) : Debouncer.rest.risesAlong xs = presses xs := by
  induction xs using List.reverseRecOn with
  | nil => rfl
  | append_singleton xs x ih =>
      rw [risesAlong_append, ih, presses_append]
      rfl

/-- A release never rises. -/
theorem risesAlong_released (f : Debouncer) (released : Nat) :
    f.risesAlong (List.replicate released false) = 0 := by
  induction released generalizing f with
  | zero => rfl
  | succ released ih =>
      have hLow : f.rises false = false := by
        rw [Bool.eq_false_iff, Ne, rises_eq_true]
        rintro ⟨hNew, -⟩
        cases hNew
      rw [List.replicate_succ, risesAlong, hLow, ih]
      rfl

/-- A level held for two turns or more, and then released, rises once. -/
theorem risesAlong_held (held released : Nat) :
    Debouncer.rest.risesAlong (List.replicate (held + 2) true ++ List.replicate released false) = 1 := by
  -- risen, it stays up while pressed
  have hPressed (ys : List Bool) : Debouncer.risesAlong ⟨true, true⟩ (List.replicate held true ++ ys) =
      Debouncer.risesAlong ⟨true, true⟩ ys := by
    induction held with
    | zero => rfl
    | succ held ih =>
        rw [List.replicate_succ, List.cons_append, risesAlong]
        exact (Nat.zero_add _).trans ih
  rw [List.replicate_succ, List.replicate_succ, List.cons_append, List.cons_append, risesAlong,
    risesAlong]
  show 0 + (1 + Debouncer.risesAlong ⟨true, true⟩ (List.replicate held true ++ _)) = 1
  rw [hPressed, risesAlong_released]

end Debouncer

/-- Once two turns agree, a single turn that reads otherwise counts for
nothing, whichever way it reads. -/
theorem presses_glitch (xs ys : List Bool) (x : Bool) :
    presses (xs ++ x :: x :: (!x) :: x :: ys) = presses (xs ++ x :: x :: x :: x :: ys) := by
  rw [← Debouncer.risesAlong_rest, ← Debouncer.risesAlong_rest, Debouncer.risesAlong_append,
    Debouncer.risesAlong_append]
  congr 1
  generalize xs.foldl Debouncer.next Debouncer.rest = f
  obtain ⟨last, level⟩ := f
  cases x <;> cases last <;> cases level <;>
    simp [Debouncer.risesAlong, Debouncer.rises, Debouncer.next]

end Debounce
