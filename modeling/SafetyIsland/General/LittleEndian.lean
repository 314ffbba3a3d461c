import Mathlib.Data.BitVec
import Mathlib.Tactic.Ring

/-! Words in memory, the lowest byte first: what a machine's store leaves in a
byte string, and what a read at an offset takes back out. -/
namespace LittleEndian

abbrev Byte := BitVec 8

/-- The `n` bytes of a word. -/
def bytes : Nat → Nat → List Byte
  | 0, _ => []
  | n + 1, x => BitVec.ofNat 8 x :: bytes n (x / 256)

def value : List Byte → Nat
  | [] => 0
  | b :: rest => b.toNat + 256 * value rest

/-- The word of the `n` bytes at an offset. -/
def word (n off : Nat) (data : List Byte) : Nat := value ((data.drop off).take n)

variable {n m off x : Nat} {data rest : List Byte}

@[simp] theorem length_bytes : (bytes n x).length = n := by
  induction n generalizing x with
  | zero => rfl
  | succ n ih =>
      rw [bytes, List.length_cons, ih]

/-- The bytes of a number give its low digits back. -/
theorem value_bytes : value (bytes n x) = x % 256 ^ n := by
  induction n generalizing x with
  | zero =>
      rw [Nat.pow_zero, Nat.mod_one]
      rfl
  | succ n ih =>
      have hMod : x % 256 ^ (n + 1) = x % 256 + 256 * (x / 256 % 256 ^ n) := by
        rw [Nat.pow_succ', Nat.mod_mul]
      rw [bytes, value, ih, BitVec.toNat_ofNat, hMod]

/-- A word that fits its bytes is read back. -/
theorem value_bytes_of_lt (h : x < 256 ^ n) : value (bytes n x) = x := by
  rw [value_bytes, Nat.mod_eq_of_lt h]

/-- The word at the front of a string is the one put there. -/
theorem word_bytes : word n 0 (bytes n x ++ rest) = x % 256 ^ n := by
  rw [word, List.drop_zero, List.take_left' length_bytes, value_bytes]

/-- A word that fits its bytes is read back. -/
theorem word_bytes_of_lt (h : x < 256 ^ n) : word n 0 (bytes n x ++ rest) = x := by
  rw [word_bytes, Nat.mod_eq_of_lt h]

/-- A read past a prefix is a read of the rest. -/
theorem word_append (h : data.length ≤ off) :
    word n off (data ++ rest) = word n (off - data.length) rest := by
  rw [word, List.drop_append, List.drop_of_length_le h, List.nil_append]
  rfl

/-- A read behind a dropped prefix is a read further on. -/
theorem word_drop : word n off (data.drop m) = word n (m + off) data := by
  rw [word, word, List.drop_drop]

/-- There is nothing in zero bytes. -/
theorem word_zeros (k : Nat) : word n off (List.replicate k 0) = 0 := by
  rw [word, List.drop_replicate, List.take_replicate]
  induction min n (k - off) with
  | zero => rfl
  | succ k ih =>
      rw [List.replicate_succ, value, ih]
      rfl

/-- A read inside a prefix does not see what follows it. -/
theorem word_take (h : off + n ≤ m) : word n off (data.take m) = word n off data := by
  rw [word, List.drop_take, List.take_take, Nat.min_eq_left (by omega)]
  rfl

end LittleEndian
