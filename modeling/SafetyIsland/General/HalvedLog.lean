import Mathlib.Algebra.GroupWithZero.Nat
import Mathlib.Data.List.Basic

/-! A bounded log in two halves, each filled in order with whole entries: when
the next entry does not fit the current half, the older one is given up and
the halves change places. -/

universe u

structure HalvedLog (α : Type u) where
  older : List α := []
  current : List α := []

namespace HalvedLog
variable {α : Type u} (size : α → Nat) (room : Nat)

/-- What some entries take of a half. -/
def load (entries : List α) : Nat := (entries.map size).sum

def push (l : HalvedLog α) (a : α) : HalvedLog α :=
  if room < load size l.current + size a then { older := l.current, current := [a] }
  else { l with current := l.current ++ [a] }

/-- The entries the log still has, oldest first. -/
def entries (l : HalvedLog α) : List α := l.older ++ l.current

variable {size room} {l : HalvedLog α} {a : α}

@[simp] theorem load_nil : load size ([] : List α) = 0 := rfl

@[simp] theorem load_cons {rest : List α} : load size (a :: rest) = size a + load size rest := by
  rw [load, List.map_cons, List.sum_cons]
  rfl

@[simp] theorem load_append {first rest : List α} :
    load size (first ++ rest) = load size first + load size rest := by
  rw [load, List.map_append, List.sum_append]
  rfl

/-- Every entry of a half takes at least `least` of it. -/
theorem length_le_load (least : Nat) {held : List α} (h : ∀ a ∈ held, least ≤ size a) :
    held.length * least ≤ load size held := by
  induction held with
  | nil =>
      rw [List.length_nil, Nat.zero_mul]
      exact Nat.zero_le _
  | cons a rest ih =>
      have hRest := ih fun b hb => h b (List.mem_cons_of_mem a hb)
      have hHead := h a List.mem_cons_self
      rw [List.length_cons, load_cons, Nat.succ_mul]
      omega

/-- An entry is never lost while a later one is kept. -/
theorem push_suffix : (l.push size room a).entries <:+ l.entries ++ [a] := by
  rw [push]
  split
  · exact ⟨l.older, by rw [entries, entries, List.append_assoc]⟩
  · exact ⟨[], by rw [entries, entries, List.nil_append, List.append_assoc]⟩

/-- Neither half overflows. -/
structure Fits (size : α → Nat) (room : Nat) (l : HalvedLog α) : Prop where
  older : load size l.older ≤ room
  current : load size l.current ≤ room

/-- No push overflows a half. -/
theorem Fits.push (h : l.Fits size room) (hEntry : size a ≤ room) :
    (l.push size room a).Fits size room := by
  rw [HalvedLog.push]
  split
  · refine ⟨h.current, ?_⟩
    rw [load_cons, load_nil]
    exact hEntry
  · refine ⟨h.older, ?_⟩
    rw [load_append, load_cons, load_nil]
    omega

/-- Leaving out entries up to the first one of interest leaves out exactly
those without interest, when interest is not lost along the log. -/
theorem dropWhile_eq_filter {young : α → Bool} {held : List α}
    (h : held.Pairwise fun a b => young a = true → young b = true) :
    held.dropWhile (fun a => !young a) = held.filter young := by
  induction held with
  | nil => rfl
  | cons a rest ih =>
      obtain ⟨hHead, hRest⟩ := List.pairwise_cons.mp h
      cases hYoung : young a with
      | false =>
          rw [List.dropWhile_cons_of_pos (by simp [hYoung]), List.filter_cons_of_neg (by simp [hYoung])]
          exact ih hRest
      | true =>
          rw [List.dropWhile_cons_of_neg (by simp [hYoung])]
          exact (List.filter_eq_self.mpr (by
            intro b hb
            rcases List.mem_cons.mp hb with rfl | hb
            · exact hYoung
            · exact hHead b hb hYoung)).symm

end HalvedLog
