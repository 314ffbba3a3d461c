import Mathlib.Data.BitVec
import Mathlib.Data.List.Chain
import Mathlib.Tactic.Ring
import Mathlib.Tactic.Positivity

/-! Time kept in words of a fixed width. A stamp is an instant reduced modulo
`2 ^ w`; the age of a stamp is a difference of words, so it wraps as well. It
is the true age exactly while the true age is below `2 ^ w`. -/
namespace WrappingClock

variable {w : Nat}

/-- The word a clock of width `w` shows at the instant `t`. -/
def stamp (w : Nat) (t : Int) : BitVec w := BitVec.ofInt w t

/-- The difference of two stamps is that of their instants. -/
theorem stamp_sub (now t : Int) : stamp w now - stamp w t = stamp w (now - t) := by
  apply BitVec.eq_of_toInt_eq
  simp only [stamp, BitVec.toInt_sub, BitVec.toInt_ofInt]
  rw [Int.sub_eq_add_neg, Int.bmod_add_bmod, ← Int.sub_eq_add_neg, Int.sub_bmod_bmod]

/-- A stamp shows the instant modulo one turn. -/
theorem toNat_stamp (t : Int) : ((stamp w t).toNat : Int) = t % (2 ^ w : Nat) := by
  have hPos : ((2 ^ w : Nat) : Int) ≠ 0 := by positivity
  rw [stamp, BitVec.toNat_ofInt, Int.toNat_of_nonneg (Int.emod_nonneg t hPos)]

/-- Below one turn of the clock, the age of a stamp is the time elapsed. -/
theorem age_eq {now t : Int} (hLe : t ≤ now) (hLt : now - t < (2 ^ w : Nat)) :
    ((stamp w now - stamp w t).toNat : Int) = now - t := by
  rw [stamp_sub, toNat_stamp]
  exact Int.emod_eq_of_lt (by omega) hLt

/-- However often the clock has turned, an age never overstates. -/
theorem age_le {now t : Int} (hLe : t ≤ now) :
    ((stamp w now - stamp w t).toNat : Int) ≤ now - t := by
  rw [stamp_sub, toNat_stamp]
  have hDiv := Int.emod_add_mul_ediv (now - t) (2 ^ w : Nat)
  have hQuotient : 0 ≤ ((2 ^ w : Nat) : Int) * ((now - t) / (2 ^ w : Nat)) :=
    Int.mul_nonneg (by positivity) (Int.ediv_nonneg (by omega) (by positivity))
  omega

/-- The age of any word grows with the clock, until it wraps. -/
theorem age_add {a : BitVec w} {now t : Int} (hLe : now ≤ t)
    (hTurn : (stamp w now - a).toNat + (t - now) < (2 ^ w : Nat)) :
    ((stamp w t - a).toNat : Int) = (stamp w now - a).toNat + (t - now) := by
  have hWord : a = stamp w (now - (stamp w now - a).toNat) := by
    have hAge : stamp w ((stamp w now - a).toNat : Int) = stamp w now - a := by
      rw [stamp, BitVec.ofInt_natCast, BitVec.ofNat_toNat, BitVec.setWidth_eq]
    rw [← stamp_sub, hAge, sub_sub_cancel]
  generalize (stamp w now - a).toNat = age at *
  rw [hWord, age_eq (by omega) (by omega)]
  omega

/-- Instants in order, each less than one turn of the clock after the last. -/
def Close (w : Nat) (ts : List Int) : Prop :=
  ts.IsChain fun t u : Int => t ≤ u ∧ u - t < (2 ^ w : Nat)

instance (ts : List Int) : Decidable (Close w ts) :=
  inferInstanceAs (Decidable (ts.IsChain fun t u : Int => t ≤ u ∧ u - t < (2 ^ w : Nat)))

/-- A clock of another width, advanced by the age of each stamp at the next,
goes on showing the time since its own start. -/
theorem stamp_add_age {v : Nat} {start t u : Int} (hLe : t ≤ u) (hLt : u - t < (2 ^ w : Nat)) :
    stamp v (t - start) + (stamp w u - stamp w t).setWidth v = stamp v (u - start) := by
  have hAge : (stamp w u - stamp w t).setWidth v = stamp v (u - t) := by
    have hWord : stamp v ((stamp w u - stamp w t).toNat : Int) =
        BitVec.ofNat v (stamp w u - stamp w t).toNat := BitVec.ofInt_natCast v _
    rw [← age_eq hLe hLt, hWord]
    apply BitVec.eq_of_toNat_eq
    rw [BitVec.toNat_setWidth, BitVec.toNat_ofNat]
  rw [hAge, stamp, stamp, ← BitVec.ofInt_add, stamp]
  congr 1
  ring

/-- Between the first of close instants and another there is at most a turn
for each step. -/
theorem Close.span {t u : Int} {ts : List Int} (h : Close w (t :: ts)) (hMem : u ∈ ts) :
    t ≤ u ∧ u - t ≤ ts.length * (2 ^ w : Nat) := by
  induction ts generalizing t with
  | nil => cases hMem
  | cons next rest ih =>
      obtain ⟨⟨hLe, hLt⟩, hRest⟩ := List.isChain_cons_cons.mp h
      have hStep : ((next :: rest).length : Int) * (2 ^ w : Nat) =
          rest.length * (2 ^ w : Nat) + (2 ^ w : Nat) := by
        push_cast [List.length_cons]
        ring
      rw [hStep]
      rcases List.mem_cons.mp hMem with rfl | hMem
      · have hNonneg : (0 : Int) ≤ rest.length * (2 ^ w : Nat) := by positivity
        omega
      · obtain ⟨hFrom, hSpan⟩ := ih hRest hMem
        omega

/-- Such instants are in order. -/
theorem Close.sorted {ts : List Int} (h : Close w ts) : ts.Pairwise (· ≤ ·) :=
  List.isChain_iff_pairwise.mp (h.imp fun _ _ hStep => hStep.1)

theorem Close.suffix {ts us : List Int} (h : Close w us) (hSuffix : ts <:+ us) : Close w ts :=
  h.infix hSuffix.isInfix

end WrappingClock
