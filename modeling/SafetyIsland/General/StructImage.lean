import Mathlib.Data.List.FinRange
import SafetyIsland.General.LittleEndian

/-! A struct of 32-bit words as it lies in memory: where its parts stand, and
what a reader that counts offsets takes out. -/
namespace StructImage
open LittleEndian

def words (ws : List (BitVec 32)) : List Byte := ws.flatMap fun w => bytes 4 w.toNat

/-- The `n` words at an offset, where the bytes reach that far. -/
def unpack (data : List Byte) (off n : Nat) : Option (List Nat) :=
  if off + 4 * n ≤ data.length then some ((List.range n).map fun i => word 4 (off + 4 * i) data)
  else none

def Placed (data : List Byte) (off : Nat) (part : List Byte) : Prop :=
  ∃ before after, data = before ++ (part ++ after) ∧ before.length = off

variable {α : Type*} {data part first second : List Byte} {off size : Nat}
  {ws : List (BitVec 32)} {w : BitVec 32} {xs : List α} {f : α → List Byte}

@[simp] theorem words_cons : words (w :: ws) = bytes 4 w.toNat ++ words ws := List.flatMap_cons

@[simp] theorem length_words : (words ws).length = 4 * ws.length := by
  induction ws with
  | nil => rfl
  | cons w rest ih =>
      rw [words_cons, List.length_append, length_bytes, ih, List.length_cons]
      omega

namespace Placed

theorem whole : Placed data 0 data := ⟨[], [], by rw [List.nil_append, List.append_nil], rfl⟩

/-- The first of two parts stands where both do. -/
theorem left (h : Placed data off (first ++ second)) : Placed data off first := by
  obtain ⟨before, after, rfl, hLength⟩ := h
  exact ⟨before, second ++ after, by rw [List.append_assoc], hLength⟩

/-- The second stands right behind the first. -/
theorem right (h : Placed data off (first ++ second)) :
    Placed data (off + first.length) second := by
  obtain ⟨before, after, rfl, rfl⟩ := h
  exact ⟨before ++ first, after, by rw [List.append_assoc, List.append_assoc],
    List.length_append⟩

/-- The rows of a table stand a row's size apart. -/
theorem row (h : Placed data off (xs.flatMap f)) (hSize : ∀ x, (f x).length = size) {i : Nat}
    (hi : i < xs.length) : Placed data (off + i * size) (f xs[i]) := by
  induction xs generalizing off i with
  | nil => exact absurd hi (Nat.not_lt_zero i)
  | cons x rest ih =>
      rw [List.flatMap_cons] at h
      cases i with
      | zero =>
          rw [Nat.zero_mul]
          exact h.left
      | succ i =>
          have hRest := ih h.right (Nat.lt_of_succ_lt_succ hi)
          have hOff : off + (f x).length + i * size = off + (i + 1) * size := by
            rw [hSize, Nat.succ_mul]
            omega
          rw [hOff] at hRest
          exact hRest

/-- A part that stands in the image does not reach beyond it. -/
theorem le_length (h : Placed data off part) : off + part.length ≤ data.length := by
  obtain ⟨before, after, rfl, rfl⟩ := h
  rw [List.length_append, List.length_append]
  omega

/-- And is the slice there. -/
theorem slice (h : Placed data off part) : (data.drop off).take part.length = part := by
  obtain ⟨before, after, rfl, rfl⟩ := h
  rw [List.drop_left, List.take_left]

/-- A word read where it stands. -/
theorem word_eq (h : Placed data off (bytes 4 w.toNat)) : word 4 off data = w.toNat := by
  have hSlice := h.slice
  rw [length_bytes] at hSlice
  rw [word, hSlice, value_bytes_of_lt w.isLt]

/-- The words read where they stand. -/
theorem unpack_eq (h : Placed data off (words ws)) :
    unpack data off ws.length = some (ws.map BitVec.toNat) := by
  have hLength := h.le_length
  rw [length_words] at hLength
  rw [unpack, if_pos hLength]
  congr 1
  apply List.ext_getElem
  · rw [List.length_map, List.length_range, List.length_map]
  · intro i hi _
    rw [List.length_map, List.length_range] at hi
    have hRow := h.row (fun _ => length_bytes) hi
    rw [List.getElem_map, List.getElem_range, List.getElem_map, Nat.mul_comm, hRow.word_eq]

/-- A loop whose every turn succeeds. -/
theorem mapM_eq_some {α β : Type} {f : α → Option β} {g : α → β} {xs : List α}
    (h : ∀ x ∈ xs, f x = some (g x)) : xs.mapM f = some (xs.map g) := by
  induction xs with
  | nil => rfl
  | cons x rest ih =>
      rw [List.mapM_cons, h x List.mem_cons_self, ih fun y hy => h y (List.mem_cons_of_mem x hy)]
      rfl

/-- A table's rows, read one by one. -/
theorem rows_eq {α β : Type} {n : Nat} {xs : Fin n → α} {image : α → List Byte}
    {row : Nat → α → β} (h : Placed data off ((List.ofFn xs).flatMap image))
    (read : Nat → Nat → Option β) (hSize : ∀ x, (image x).length = size)
    (hRead : ∀ {i o : Nat} {x : α}, Placed data o (image x) → read i o = some (row i x)) :
    (List.range n).mapM (fun i => read i (off + i * size)) =
      some ((List.finRange n).map fun i : Fin n => row i.val (xs i)) := by
  have hRange : List.range n = (List.finRange n).map Fin.val := by rw [List.map_coe_finRange_eq_range]
  rw [hRange, List.mapM_map]
  apply mapM_eq_some
  intro i _
  have hRow := h.row hSize (i := i.val) (by rw [List.length_ofFn]; exact i.isLt)
  rw [List.getElem_ofFn] at hRow
  exact hRead hRow

end Placed
end StructImage
