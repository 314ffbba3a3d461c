import Mathlib.Data.Fintype.Basic
import Mathlib.Data.Int.ModEq
import Mathlib.Data.List.DropRight

/-! A ring of the latest entries of a log, beside a counter of the entries
written. The counter wraps: after a wrap the ring stands for as many entries
as have been counted since. -/
namespace RingLog

variable {α : Type*} {n m next k : Nat} [NeZero n] {cells : Fin n → α} {log : List α} {a : α}

/-- Where the entry numbered `k` is written. -/
def slot (n k : Nat) [NeZero n] : Fin n := ⟨k % n, Nat.mod_lt k (Nat.pos_of_ne_zero (NeZero.ne n))⟩

/-- What the ring gives back, oldest first. -/
def entries (cells : Fin n → α) (next : Nat) : List α :=
  (List.range (min next n)).map fun i => cells (slot n (next - min next n + i))

/-- The counter is the log's length modulo `m`, and the entries before it, no
more than it has counted, are the latest of the log. -/
structure Holds (m : Nat) (cells : Fin n → α) (next : Nat) (log : List α) : Prop where
  count : next = log.length % m
  latest : ∀ back < min next n, log.reverse[back]? = some (cells (slot n (next - 1 - back)))

theorem Holds.empty : Holds m cells 0 [] where
  count := (Nat.zero_mod m).symm
  latest := by
    intro back hBack
    omega

/-- Fewer than `n` writes apart, two entries have different slots. -/
theorem slot_ne {back : Nat} (hPos : 0 < back) (hBack : back ≤ k) (hSize : back < n) :
    slot n (k - back) ≠ slot n k := by
  intro hSame
  have hMod : (k - back) % n = k % n := congrArg Fin.val hSame
  have hDvd : n ∣ k - (k - back) := (Nat.modEq_iff_dvd' (Nat.sub_le k back)).mp hMod
  rw [Nat.sub_sub_self hBack] at hDvd
  exact absurd (Nat.le_of_dvd hPos hDvd) (by omega)

/-- An entry goes to the counter's slot, and is counted. -/
theorem Holds.write (h : Holds m cells next log) (a : α) :
    Holds m (Function.update cells (slot n next) a) ((next + 1) % m) (log ++ [a]) := by
  constructor
  · rw [h.count, List.length_append, List.length_singleton, Nat.mod_add_mod]
  · intro back hBack
    rcases Nat.eq_zero_or_pos ((next + 1) % m) with hWrapped | hCounted
    · omega
    · have hNext : (next + 1) % m = next + 1 := by
        rcases Nat.eq_zero_or_pos m with rfl | hm
        · exact Nat.mod_zero _
        · have hBound : next < m := by
            rw [h.count]
            exact Nat.mod_lt _ hm
          apply Nat.mod_eq_of_lt
          by_contra hFull
          have hEnd : next + 1 = m := by omega
          rw [hEnd, Nat.mod_self] at hCounted
          omega
      rw [hNext] at hBack ⊢
      rw [List.reverse_append, List.reverse_singleton, List.singleton_append]
      cases back with
      | zero =>
          rw [List.getElem?_cons_zero, Nat.add_sub_cancel, Nat.sub_zero, Function.update_self]
      | succ back =>
          have hOther := slot_ne (n := n) (k := next) (Nat.succ_pos back) (by omega) (by omega)
          have hIndex : next + 1 - 1 - (back + 1) = next - (back + 1) := by omega
          rw [List.getElem?_cons_succ, h.latest back (by omega), hIndex,
            Function.update_of_ne hOther, Nat.sub_sub, Nat.add_comm 1 back]

/-- Any number of latest entries the ring stands for, oldest first. -/
theorem Holds.latest_eq (h : Holds m cells next log) {size : Nat} (hSize : size ≤ min next n) :
    ((List.range size).map fun i => cells (slot n (next - size + i))) = log.rtake size := by
  have hLength : next ≤ log.length := by
    rw [h.count]
    exact Nat.mod_le _ _
  apply List.ext_getElem?
  intro i
  rw [List.rtake, List.getElem?_drop, List.getElem?_map]
  by_cases hi : i < size
  · have hLatest := h.latest (size - 1 - i) (by omega)
    have hIndex : next - 1 - (size - 1 - i) = next - size + i := by omega
    rw [List.getElem?_reverse (by omega), hIndex] at hLatest
    rw [List.getElem?_range hi, Option.map_some, ← hLatest]
    congr 1
    omega
  · rw [List.getElem?_eq_none (by rw [List.length_range]; omega),
      List.getElem?_eq_none (by omega)]
    rfl

/-- The ring gives the latest entries of the log, as many as it stands for. -/
theorem Holds.entries_eq (h : Holds m cells next log) :
    entries cells next = log.rtake (min next n) := h.latest_eq le_rfl

end RingLog
