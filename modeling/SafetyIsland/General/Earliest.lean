import Mathlib.Order.Bounds.Basic

/-! The least of a set of instants, as a loop computes it: a best value so
far, replaced only by a smaller one. `none` stands for an empty set, so no
sentinel is needed. -/
namespace Earliest

variable {α : Type*} [LinearOrder α]

def keep (best : Option α) (x : α) : Option α :=
  match best with
  | none => some x
  | some b => if x < b then some x else some b

/-- The value is the least of the set, or the set is empty. -/
def LeastOf (S : Set α) : Option α → Prop
  | none => S = ∅
  | some a => IsLeast S a

/-- Of nothing there is no least. -/
theorem leastOf_empty : LeastOf (∅ : Set α) none := rfl

/-- A turn of the loop keeps the least of one value more. -/
theorem LeastOf.keep {S : Set α} {best : Option α} (h : LeastOf S best) (x : α) :
    LeastOf (insert x S) (keep best x) := by
  cases best with
  | none =>
      have hEmpty : S = ∅ := h
      subst hEmpty
      simp [Earliest.keep, LeastOf]
  | some b =>
      have hLeast : IsLeast (insert x S) (min x b) := IsLeast.insert x h
      by_cases hLess : x < b
      · simpa [Earliest.keep, LeastOf, hLess, min_eq_left hLess.le] using hLeast
      · simpa [Earliest.keep, LeastOf, hLess, min_eq_right (not_lt.mp hLess)] using hLeast

/-- There is a value, and it is no later than `t`. -/
def NoLater (best : Option α) (t : α) : Prop := ∃ a, best = some a ∧ a ≤ t

/-- The best value is no later than the one just kept. -/
theorem noLater_keep (best : Option α) (x : α) : NoLater (keep best x) x := by
  cases best with
  | none => exact ⟨x, rfl, le_rfl⟩
  | some b =>
      by_cases hLess : x < b
      · exact ⟨x, by simp [keep, hLess], le_rfl⟩
      · exact ⟨b, by simp [keep, hLess], not_lt.mp hLess⟩

/-- Keeping one more value only brings the least forward. -/
theorem NoLater.keep {best : Option α} {t : α} (h : NoLater best t) (x : α) :
    NoLater (keep best x) t := by
  obtain ⟨b, rfl, hLe⟩ := h
  by_cases hLess : x < b
  · exact ⟨x, by simp [Earliest.keep, hLess], hLess.le.trans hLe⟩
  · exact ⟨b, by simp [Earliest.keep, hLess], hLe⟩

end Earliest
