import Mathlib.Data.Int.Log
import Mathlib.Data.Rat.Floor
import Mathlib.Data.Rat.Lemmas

/-! IEEE 754 binary64 on rationals: a finite double is the rational it stands
for, and each operation rounds its exact result once, to nearest, ties to even.
There is no overflow, infinity or NaN. -/
namespace Double

/-- The nearest integer, of two the even one. -/
def nearest (x : ℚ) : ℤ :=
  if 2 * Int.fract x < 1 ∨ 2 * Int.fract x = 1 ∧ ⌊x⌋ % 2 = 0 then ⌊x⌋ else ⌊x⌋ + 1

/-- The exponent of the last of 53 significant bits, no less than that of the
subnormals. -/
def lastPlace (x : ℚ) : ℤ := max (Int.log 2 |x| - 52) (-1074)

def round (x : ℚ) : ℚ := nearest (x / 2 ^ lastPlace x) * 2 ^ lastPlace x

def sub (x y : ℚ) : ℚ := round (x - y)

def mul (x y : ℚ) : ℚ := round (x * y)

/-- A count of nanoseconds in seconds, as `static_cast<double>(ns) * 1e-9`. -/
def seconds (ns : ℤ) : ℚ := mul (round ns) (round (1 / 10 ^ 9))

@[simp] theorem round_zero : round 0 = 0 := by
  simp [round, nearest]

@[simp] theorem sub_self (x : ℚ) : sub x x = 0 := by
  simp [sub]

example : sub (seconds 4061000000) (seconds 1061000000) = 3 ∧
    1 / 2 < sub (seconds 600000000) (seconds 100000000) := by decide +kernel

end Double
