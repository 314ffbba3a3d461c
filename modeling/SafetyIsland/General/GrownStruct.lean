import Mathlib.Algebra.GroupWithZero.Nat
import SafetyIsland.General.StructImage

/-! A struct that grew at its end: its parts lie behind each other, and a reader
who gets only a prefix of it, as from an older image, finds the parts that fit. -/
namespace StructImage
open LittleEndian

variable {α : Type*} {data p : List Byte} {parts : List (List Byte)} {off o m n : Nat}
  {ws : List (BitVec 32)}

namespace Placed

/-- A part stands behind all the parts before it. -/
theorem part {i : Nat} (h : parts[i]? = some p) :
    Placed parts.flatten ((parts.map List.length).take i).sum p := by
  induction parts generalizing i with
  | nil => exact absurd h (by simp)
  | cons first rest ih =>
      cases i with
      | zero =>
          cases h
          exact ⟨[], rest.flatten, rfl, rfl⟩
      | succ i =>
          obtain ⟨before, after, hRest, hLength⟩ := ih (by simpa using h)
          refine ⟨first ++ before, after, ?_, ?_⟩
          · rw [List.flatten_cons, hRest, List.append_assoc]
          · rw [List.length_append, hLength, List.map_cons, List.take_succ_cons, List.sum_cons]

/-- What a prefix reaches over stands there as in the whole. -/
theorem take (h : Placed data off p) (hIn : off + p.length ≤ m) :
    Placed (data.take m) off p := by
  obtain ⟨before, after, rfl, rfl⟩ := h
  refine ⟨before, after.take (m - before.length - p.length), ?_, rfl⟩
  rw [List.take_append, List.take_of_length_le (by omega), List.take_append,
    List.take_of_length_le (by omega)]

end Placed

def allWords (data : List Byte) : List Nat :=
  (List.range (data.length / 4)).map fun i => word 4 (4 * i) data

/-- The `k` words from word `o` on, as many of them as there are. -/
def wordsAt (data : List Byte) (o k : Nat) : List Nat := ((allWords data).drop o).take k

/-- Words placed on a word boundary are read back. -/
theorem wordsAt_eq (h : Placed data (4 * o) (words ws)) :
    wordsAt data o ws.length = ws.map BitVec.toNat := by
  have hLength := h.le_length
  rw [length_words] at hLength
  have hUnpack := h.unpack_eq
  rw [unpack, if_pos (by omega), Option.some_inj] at hUnpack
  rw [← hUnpack, wordsAt, allWords]
  apply List.ext_getElem
  · simp only [List.length_take, List.length_drop, List.length_map, List.length_range]
    omega
  · intro i hi _
    simp only [List.getElem_take, List.getElem_drop, List.getElem_map, List.getElem_range]
    rw [show 4 * (o + i) = 4 * o + 4 * i by omega]

/-- The rows up to the first one that ends behind `n`. -/
def fitting (n : Nat) (rows : List (Nat × α)) : List α :=
  (rows.takeWhile fun row => row.1 ≤ n).map Prod.snd

theorem fitting_nil : fitting n ([] : List (Nat × α)) = [] := rfl

/-- A row fits, and the next may, or the rows end there. -/
theorem fitting_cons {row : Nat × α} {rows : List (Nat × α)} :
    fitting n (row :: rows) = if row.1 ≤ n then row.2 :: fitting n rows else [] := by
  by_cases hFits : row.1 ≤ n
  · rw [if_pos hFits, fitting, List.takeWhile_cons_of_pos (by simpa using hFits)]
    rfl
  · rw [if_neg hFits, fitting, List.takeWhile_cons_of_neg (by simpa using hFits)]
    rfl

theorem fitting_pos {row : Nat × α} {rows : List (Nat × α)} (h : row.1 ≤ n) :
    fitting n (row :: rows) = row.2 :: fitting n rows := by
  rw [fitting_cons, if_pos h]

theorem fitting_prefix_all (n : Nat) (rows : List (Nat × α)) :
    fitting n rows <+: rows.map Prod.snd := (List.takeWhile_prefix _).map _

/-- Where every row fits, all of them are read. -/
theorem fitting_all {rows : List (Nat × α)} (h : ∀ row ∈ rows, row.1 ≤ n) :
    fitting n rows = rows.map Prod.snd := by
  induction rows with
  | nil => rfl
  | cons row rest ih =>
      rw [fitting_cons, if_pos (h row List.mem_cons_self),
        ih fun other hRow => h other (List.mem_cons_of_mem row hRow), List.map_cons]

/-- Where none fits, none is. -/
theorem fitting_none {rows : List (Nat × α)} (h : ∀ row ∈ rows, n < row.1) :
    fitting n rows = [] := by
  cases rows with
  | nil => rfl
  | cons row rest =>
      have hLate := h row List.mem_cons_self
      rw [fitting_cons, if_neg (by omega)]

/-- Where the rows' ends ascend, each row fits or not by its own end. -/
theorem fitting_ascending {row : Nat × α} {rows : List (Nat × α)}
    (hAscend : ∀ other ∈ rows, row.1 ≤ other.1) :
    fitting n (row :: rows) = fitting n [row] ++ fitting n rows := by
  rw [fitting_cons, fitting_cons]
  split_ifs with hFits
  · rfl
  · rw [fitting_none fun other hOther => by have hLate := hAscend other hOther; omega]
    rfl

/-- In the order of their ends, each row fits or not by itself. -/
theorem fitting_singly {rows : List (Nat × α)}
    (hAscend : rows.Pairwise fun row other => row.1 ≤ other.1) :
    fitting n rows = rows.flatMap fun row => fitting n [row] := by
  induction rows with
  | nil => rfl
  | cons row rest ih =>
      obtain ⟨hFirst, hRest⟩ := List.pairwise_cons.mp hAscend
      rw [fitting_ascending hFirst, ih hRest, List.flatMap_cons]

/-- Two runs of rows fit separately. -/
theorem fitting_append {first second : List (Nat × α)}
    (hAscend : (first ++ second).Pairwise fun row other => row.1 ≤ other.1) :
    fitting n (first ++ second) = fitting n first ++ fitting n second := by
  obtain ⟨hFirst, hSecond, -⟩ := List.pairwise_append.mp hAscend
  rw [fitting_singly hAscend, fitting_singly hFirst, fitting_singly hSecond, List.flatMap_append]

/-- Only the rows that fit are looked at. -/
theorem fitting_congr {κ : Type*} {keys : List κ} {stop : κ → Nat} {f g : κ → α}
    (h : ∀ k ∈ keys, stop k ≤ n → f k = g k) :
    fitting n (keys.map fun k => (stop k, f k)) = fitting n (keys.map fun k => (stop k, g k)) := by
  induction keys with
  | nil => rfl
  | cons k rest ih =>
      rw [List.map_cons, List.map_cons, fitting_cons, fitting_cons,
        ih fun other hOther => h other (List.mem_cons_of_mem k hOther)]
      split_ifs with hFits
      · rw [h k List.mem_cons_self hFits]
      · rfl

/-- A loop that leaves at the first row behind `n`. -/
theorem fitting_takeWhile {κ : Type*} {keys : List κ} {stop : κ → Nat} {f : κ → α} :
    fitting n (keys.map fun k => (stop k, f k)) =
      (keys.takeWhile fun k => stop k ≤ n).map f := by
  rw [fitting, List.takeWhile_map, List.map_map]
  rfl

/-- A loop that passes over the rows behind `n`, where the ends ascend. -/
theorem fitting_filter {κ : Type*} {keys : List κ} {stop : κ → Nat} {f : κ → α}
    (hAscend : keys.Pairwise fun k k' => stop k ≤ stop k') :
    fitting n (keys.map fun k => (stop k, f k)) = (keys.filter fun k => stop k ≤ n).map f := by
  induction keys with
  | nil => rfl
  | cons k rest ih =>
      obtain ⟨hFirst, hRest⟩ := List.pairwise_cons.mp hAscend
      rw [List.map_cons, fitting_ascending, ih hRest]
      · by_cases hFits : stop k ≤ n
        · rw [fitting_pos hFits, List.filter_cons_of_pos (by simpa using hFits)]
          rfl
        · rw [fitting_cons, if_neg hFits, List.filter_cons_of_neg (by simpa using hFits)]
          rfl
      · intro row hRow
        obtain ⟨k', hk', rfl⟩ := List.mem_map.mp hRow
        exact hFirst k' hk'

/-- The first numbers of a bounded range. -/
theorem range_eq_finRange {count size : Nat} (h : count ≤ size) :
    List.range count = ((List.finRange size).take count).map Fin.val := by
  rw [List.map_take, List.map_coe_finRange_eq_range, List.take_range, Nat.min_eq_left h]

end StructImage
