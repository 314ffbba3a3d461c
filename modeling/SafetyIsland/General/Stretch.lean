import Mathlib.Data.List.Chain
import Mathlib.Data.List.GetD

/-! The unbroken stretch a list ends in: every element of it has a property,
and each is related to the next. -/
namespace Stretch

variable {α : Type*} {P : α → Prop} {R : α → α → Prop} {xs : List α} {first last new : α}

/-- A chain is prolonged at its end. -/
theorem isChain_concat {later : List α} (h : (first :: later).IsChain R)
    (hNew : R (later.getLastD first) new) : (first :: (later ++ [new])).IsChain R := by
  apply List.isChain_append.mpr ⟨h, List.isChain_singleton new, _⟩
  intro x hx y hy
  rw [List.getLast?_cons, Option.mem_some_iff] at hx
  rw [List.head?_cons, Option.mem_some_iff] at hy
  rw [← hx, ← hy, ← List.getLastD_eq_getLast?]
  exact hNew

/-- The list ends in an unbroken stretch from `first` to `last`. -/
def EndsIn (P : α → Prop) (R : α → α → Prop) (xs : List α) (first last : α) : Prop :=
  ∃ before later, xs = before ++ first :: later ∧ (∀ x ∈ first :: later, P x) ∧
    (first :: later).IsChain R ∧ later.getLastD first = last

/-- A stretch begins. -/
theorem EndsIn.begin (hNew : P new) : EndsIn P R (xs ++ [new]) new new := by
  refine ⟨xs, [], rfl, ?_, List.isChain_singleton new, rfl⟩
  intro x hMem
  rw [List.mem_singleton.mp hMem]
  exact hNew

/-- A stretch goes on. -/
theorem EndsIn.concat (h : EndsIn P R xs first last) (hNew : P new) (hNext : R last new) :
    EndsIn P R (xs ++ [new]) first new := by
  obtain ⟨before, later, rfl, hAll, hChain, rfl⟩ := h
  refine ⟨before, later ++ [new], ?_, ?_, isChain_concat hChain hNext, List.getLastD_concat ..⟩
  · rw [List.append_assoc, List.cons_append]
  · intro x hMem
    rw [← List.cons_append, List.mem_append, List.mem_singleton] at hMem
    rcases hMem with hBefore | rfl
    · exact hAll x hBefore
    · exact hNew

end Stretch
