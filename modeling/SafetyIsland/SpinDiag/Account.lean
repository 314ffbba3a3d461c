import Mathlib.Algebra.BigOperators.Fin
import Mathlib.Data.BitVec
import SafetyIsland.SpinDiag.State

/-! What one thread's marks amount to: the intervals they close, and the
numbers of a list of intervals. Nothing here is shared between threads. -/
namespace SafetyIsland.SpinDiag

/-- A phase, as its thread emits it. -/
structure Mark where
  phase : U32
  value : U32
  cycles : Nat

/-- An interval from one entry of the spin to the next. -/
structure Interval where
  first : Nat
  last : Nat
  bound : Option U32
  walls : Seg → U32

/-- What is asked of a record. -/
@[ext] structure Outline where
  intervalUs : U32 := 0
  parkBoundUs : U32 := 0
  lateUs : U32 := 0
  segWall : Seg → U32 := fun _ => 0

def Rec.outline (c : Rec) : Outline where
  intervalUs := c.intervalUs
  parkBoundUs := c.parkBoundUs
  lateUs := c.lateUs
  segWall := c.segWall

namespace Interval

def lengthUs (hz : Nat) (iv : Interval) : U32 :=
  us hz (cycleGet32 iv.last - cycleGet32 iv.first)

/-- An interval with no bound is not judged. -/
def lateUs (hz : Nat) (iv : Interval) : U32 :=
  match iv.bound with
  | none => 0
  | some bound => lateness (iv.lengthUs hz) bound

def outline (hz : Nat) (iv : Interval) : Outline where
  intervalUs := iv.lengthUs hz
  parkBoundUs := iv.bound.getD noBound
  lateUs := iv.lateUs hz
  segWall := iv.walls

end Interval

/-- The spin under way. -/
structure Spin where
  bound : Option U32 := none
  walls : Seg → U32 := fun _ => 0

/-- A thread's own marks, taken alone: the latest stamp of each phase, the
spin under way and the intervals closed. -/
structure Own where
  stamps : Fin 5 → Nat := fun _ => 0
  spin : Option Spin := none
  closed : List Interval := []

namespace Own

/-- A segment's wall time, from the stamp of the phase before its end. -/
def wall (hz : Nat) (s : Seg) (cycles : Nat) (o : Own) : U32 :=
  us hz (cycleGet32 cycles - cycleGet32 (o.stamps s))

def close (hz : Nat) (cycles : Nat) (o : Own) (spin : Spin) : Interval where
  first := o.stamps 0
  last := cycles
  bound := spin.bound
  walls := Function.update spin.walls 4 (o.wall hz 4 cycles)

/-- An entry closes the spin under way, and begins one. -/
def enter (hz : Nat) (cycles : Nat) (o : Own) : Own where
  stamps := Function.update o.stamps 0 cycles
  spin := some {}
  closed := o.closed ++ (o.spin.map (o.close hz cycles)).toList

/-- A later phase of the spin under way. -/
def pass (hz : Nat) (p : Fin 5) (value : U32) (cycles : Nat) (o : Own) (spin : Spin) : Own where
  stamps := Function.update o.stamps p cycles
  spin := some
    { bound := if p = 1 then some value else spin.bound
      walls := Function.update spin.walls (p - 1) (o.wall hz (p - 1) cycles) }
  closed := o.closed

def mark (hz : Nat) (o : Own) (m : Mark) : Own :=
  if m.phase = 0 then o.enter hz m.cycles
  else if h : m.phase.toNat ≤ 4 then
    match o.spin with
    | none => o
    | some spin => o.pass hz ⟨m.phase.toNat, Nat.lt_succ_of_le h⟩ m.value m.cycles spin
  else o

end Own

def own (hz : Nat) (marks : List Mark) : Own := marks.foldl (Own.mark hz) {}

def greatest (xs : List U32) : U32 := xs.foldl (fun most x => if most < x then x else most) 0

def least (xs : List U32) : U32 := xs.foldl (fun best x => if x < best then x else best) noBound

/-- The numbers asked of a level. -/
@[ext] structure Totals where
  spins : U32
  nobound : U32
  late : U32
  hist : Bin → U32
  maxLateUs : U32
  boundMinUs : U32
  boundMaxUs : U32
  intervalMaxUs : U32
  segMaxWall : Seg → U32
  worst : Outline

def Level.totals (l : Level) : Totals where
  spins := l.spins
  nobound := l.nobound
  late := l.late
  hist := l.hist
  maxLateUs := l.maxLateUs
  boundMinUs := l.boundMinUs
  boundMaxUs := l.boundMaxUs
  intervalMaxUs := l.intervalMaxUs
  segMaxWall := l.segMaxWall
  worst := l.worst.outline

def maxLate (hz : Nat) (ivs : List Interval) : U32 := greatest (ivs.map (Interval.lateUs hz))

/-- The first of the latest intervals, where any is late. -/
def worstOf (hz : Nat) (ivs : List Interval) : Option Interval :=
  ivs.find? fun iv => 0 < iv.lateUs hz && iv.lateUs hz == maxLate hz ivs

def totals (hz : Nat) (ivs : List Interval) : Totals where
  spins := BitVec.ofNat 32 ivs.length
  nobound := BitVec.ofNat 32 (ivs.countP fun iv => iv.bound.isNone)
  late := BitVec.ofNat 32 (ivs.countP fun iv => lateUs ≤ iv.lateUs hz)
  hist := fun bin =>
    BitVec.ofNat 32 (ivs.countP fun iv => iv.bound.isSome && binOf (iv.lateUs hz) == bin)
  maxLateUs := maxLate hz ivs
  boundMinUs := least (ivs.filterMap Interval.bound)
  boundMaxUs := greatest (ivs.filterMap Interval.bound)
  intervalMaxUs := greatest (ivs.map (Interval.lengthUs hz))
  segMaxWall := fun s => greatest (ivs.map fun iv => iv.walls s)
  worst := (worstOf hz ivs).elim {} (Interval.outline hz)

section Numbers
variable {hz : Nat} {ivs : List Interval} {iv : Interval} {xs : List U32} {x : U32}

/-- One word more. -/
theorem greatest_concat :
    greatest (xs ++ [x]) = if greatest xs < x then x else greatest xs := by
  rw [greatest, List.foldl_append]
  rfl

theorem least_concat : least (xs ++ [x]) = if x < least xs then x else least xs := by
  rw [least, List.foldl_append]
  rfl

theorem maxLate_concat : maxLate hz (ivs ++ [iv]) =
    if maxLate hz ivs < iv.lateUs hz then iv.lateUs hz else maxLate hz ivs := by
  rw [maxLate, List.map_append]
  exact greatest_concat

/-- The greatest is no smaller than any. -/
theorem le_greatest (hMem : x ∈ xs) : x ≤ greatest xs := by
  induction xs using List.reverseRecOn with
  | nil => exact absurd hMem List.not_mem_nil
  | append_singleton rest y ih =>
      rw [greatest_concat]
      rcases List.mem_append.mp hMem with hRest | hLast
      · have hLe := ih hRest
        split_ifs with hMore
        · exact BitVec.le_trans hLe (BitVec.le_of_lt hMore)
        · exact hLe
      · obtain rfl := List.mem_singleton.mp hLast
        split_ifs with hMore
        · exact BitVec.le_refl _
        · exact BitVec.not_lt.mp hMore

/-- The greatest of some words is one of them, or there is none above zero. -/
theorem greatest_mem (xs : List U32) : greatest xs = 0 ∨ greatest xs ∈ xs := by
  induction xs using List.reverseRecOn with
  | nil => exact .inl rfl
  | append_singleton rest y ih =>
      rw [greatest_concat]
      split_ifs with hMore
      · exact .inr (List.mem_append_right _ List.mem_cons_self)
      · exact ih.imp id (List.mem_append_left _)

/-- No interval is later than the latest. -/
theorem late_le_maxLate (hMem : iv ∈ ivs) : iv.lateUs hz ≤ maxLate hz ivs :=
  le_greatest (List.mem_map_of_mem hMem)

/-- A later interval than all before is the worst. -/
theorem worstOf_concat_of_lt (hMore : maxLate hz ivs < iv.lateUs hz) :
    worstOf hz (ivs ++ [iv]) = some iv := by
  have hMax : maxLate hz (ivs ++ [iv]) = iv.lateUs hz := by rw [maxLate_concat, if_pos hMore]
  have hPos : 0 < iv.lateUs hz := Nat.lt_of_le_of_lt (Nat.zero_le _) hMore
  have hNone : ivs.find? (fun jv =>
      decide (0 < jv.lateUs hz) && jv.lateUs hz == maxLate hz (ivs ++ [iv])) = none := by
    apply List.find?_eq_none.mpr
    intro jv hMem hWorst
    rw [hMax, Bool.and_eq_true, beq_iff_eq] at hWorst
    have hLe : jv.lateUs hz ≤ maxLate hz ivs := late_le_maxLate hMem
    rw [hWorst.2] at hLe
    exact absurd hMore (BitVec.not_lt.mpr hLe)
  rw [worstOf, List.find?_append, hNone, Option.none_or, List.find?_singleton, hMax,
    if_pos (by simpa using hPos)]

/-- An interval no later than one before is not. -/
theorem worstOf_concat_of_not_lt (hNot : ¬ maxLate hz ivs < iv.lateUs hz) :
    worstOf hz (ivs ++ [iv]) = worstOf hz ivs := by
  have hMax : maxLate hz (ivs ++ [iv]) = maxLate hz ivs := by rw [maxLate_concat, if_neg hNot]
  rw [worstOf, worstOf, hMax, List.find?_append]
  cases hFound : ivs.find? (fun jv =>
      decide (0 < jv.lateUs hz) && jv.lateUs hz == maxLate hz ivs) with
  | some jv => rfl
  | none =>
      rw [Option.none_or, List.find?_singleton]
      apply if_neg
      intro hWorst
      rw [Bool.and_eq_true, beq_iff_eq, decide_eq_true_eq] at hWorst
      rcases greatest_mem (ivs.map (Interval.lateUs hz)) with hZero | hMem
      · -- nothing was late, and the new one is not
        have hSame : iv.lateUs hz = 0 := hWorst.2.trans hZero
        exact absurd hWorst.1 (by rw [hSame]; exact BitVec.lt_irrefl 0)
      · obtain ⟨jv, hJv, hLate⟩ := List.mem_map.mp hMem
        have hNone := List.find?_eq_none.mp hFound jv hJv
        rw [Bool.and_eq_true, beq_iff_eq, decide_eq_true_eq] at hNone
        have hPos := hWorst.1
        rw [hWorst.2, maxLate, ← hLate] at hPos
        exact hNone ⟨hPos, hLate⟩

theorem ofNat_countP_concat {P : Interval → Bool} :
    BitVec.ofNat 32 ((ivs ++ [iv]).countP P) =
      if P iv then BitVec.ofNat 32 (ivs.countP P) + 1 else BitVec.ofNat 32 (ivs.countP P) := by
  rw [List.countP_append, List.countP_singleton, BitVec.ofNat_add]
  split_ifs
  · rfl
  · exact BitVec.add_zero _

section Account
variable {l : Level} {c : Rec}

/-- Judged or not, an interval is counted and measured. -/
theorem account_measures (haveBound : Bool) :
    (l.account haveBound c).spins = l.spins + 1 ∧
      (l.account haveBound c).intervalMaxUs =
        (if l.intervalMaxUs < c.intervalUs then c.intervalUs else l.intervalMaxUs) ∧
      (l.account haveBound c).segMaxWall = fun s =>
        if l.segMaxWall s < c.segWall s then c.segWall s else l.segMaxWall s := by
  cases haveBound with
  | false => exact ⟨rfl, rfl, rfl⟩
  | true =>
      by_cases hMore : l.maxLateUs < c.lateUs
      · simp [Level.account, hMore]
      · simp [Level.account, hMore]

/-- The counters of one interval more are the totals with it. -/
theorem account_measures_eq (hTotals : l.totals = totals hz ivs)
    (hOutline : c.outline = iv.outline hz) (haveBound : Bool) :
    (l.account haveBound c).spins = (totals hz (ivs ++ [iv])).spins ∧
      (l.account haveBound c).intervalMaxUs = (totals hz (ivs ++ [iv])).intervalMaxUs ∧
      (l.account haveBound c).segMaxWall = (totals hz (ivs ++ [iv])).segMaxWall := by
  have hInterval : c.intervalUs = iv.lengthUs hz := congrArg Outline.intervalUs hOutline
  have hWalls : c.segWall = iv.walls := congrArg Outline.segWall hOutline
  have hSpins : l.spins = (totals hz ivs).spins := congrArg Totals.spins hTotals
  have hIntervalMax : l.intervalMaxUs = (totals hz ivs).intervalMaxUs :=
    congrArg Totals.intervalMaxUs hTotals
  have hSegMax : l.segMaxWall = (totals hz ivs).segMaxWall := congrArg Totals.segMaxWall hTotals
  obtain ⟨hSpins', hIntervalMax', hSegMax'⟩ := account_measures (l := l) (c := c) haveBound
  refine ⟨?_, ?_, ?_⟩
  · rw [hSpins', hSpins]
    show _ = BitVec.ofNat 32 (ivs ++ [iv]).length
    rw [List.length_append, BitVec.ofNat_add]
    rfl
  · rw [hIntervalMax', hIntervalMax, hInterval]
    show _ = greatest ((ivs ++ [iv]).map (Interval.lengthUs hz))
    rw [List.map_append, List.map_singleton, greatest_concat]
    rfl
  · rw [hSegMax', hSegMax, hWalls]
    funext s
    show _ = greatest ((ivs ++ [iv]).map fun iv => iv.walls s)
    rw [List.map_append, List.map_singleton, greatest_concat]
    rfl

/-- An interval with no bound is not judged. -/
theorem account_unjudged (hTotals : l.totals = totals hz ivs) (hOutline : c.outline = iv.outline hz)
    (hBound : iv.bound = none) : (l.account false c).totals = totals hz (ivs ++ [iv]) := by
  obtain ⟨hSpins, hIntervalMax, hSegMax⟩ := account_measures_eq hTotals hOutline false
  have hUnjudged : iv.lateUs hz = 0 := by rw [Interval.lateUs, hBound]
  have hNot : ¬ maxLate hz ivs < iv.lateUs hz := by
    rw [hUnjudged]
    exact Nat.not_lt_zero _
  have hBounds : (ivs ++ [iv]).filterMap Interval.bound = ivs.filterMap Interval.bound := by
    rw [List.filterMap_append, List.filterMap_cons_none hBound, List.filterMap_nil, List.append_nil]
  apply Totals.ext
  · exact hSpins
  · show l.nobound + 1 = BitVec.ofNat 32 ((ivs ++ [iv]).countP _)
    rw [ofNat_countP_concat, if_pos (by rw [hBound]; rfl)]
    exact congrArg (fun t : Totals => t.nobound + 1) hTotals
  · show l.late = BitVec.ofNat 32 ((ivs ++ [iv]).countP _)
    rw [ofNat_countP_concat, if_neg (by rw [hUnjudged]; decide)]
    exact congrArg Totals.late hTotals
  · funext bin
    show l.hist bin = BitVec.ofNat 32 ((ivs ++ [iv]).countP _)
    rw [ofNat_countP_concat, if_neg (by rw [hBound]; exact Bool.false_ne_true)]
    exact congrArg (fun t : Totals => t.hist bin) hTotals
  · show l.maxLateUs = maxLate hz (ivs ++ [iv])
    rw [maxLate_concat, if_neg hNot]
    exact congrArg Totals.maxLateUs hTotals
  · show l.boundMinUs = least _
    rw [hBounds]
    exact congrArg Totals.boundMinUs hTotals
  · show l.boundMaxUs = greatest _
    rw [hBounds]
    exact congrArg Totals.boundMaxUs hTotals
  · exact hIntervalMax
  · exact hSegMax
  · show l.worst.outline = (worstOf hz (ivs ++ [iv])).elim {} (Interval.outline hz)
    rw [worstOf_concat_of_not_lt hNot]
    exact congrArg Totals.worst hTotals

/-- A judged one goes into the bounds, the histogram, and the latest. -/
theorem account_judged (hTotals : l.totals = totals hz ivs) (hOutline : c.outline = iv.outline hz)
    {bound : U32} (hBound : iv.bound = some bound) :
    (l.account true c).totals = totals hz (ivs ++ [iv]) := by
  obtain ⟨hSpins, hIntervalMax, hSegMax⟩ := account_measures_eq hTotals hOutline true
  have hParkBound : c.parkBoundUs = bound := by
    have hSame : c.parkBoundUs = iv.bound.getD noBound := congrArg Outline.parkBoundUs hOutline
    rw [hSame, hBound, Option.getD_some]
  have hLateUs : c.lateUs = iv.lateUs hz := congrArg Outline.lateUs hOutline
  have hMaxLate : l.maxLateUs = maxLate hz ivs := congrArg Totals.maxLateUs hTotals
  have hBounds : (ivs ++ [iv]).filterMap Interval.bound =
      ivs.filterMap Interval.bound ++ [bound] := by
    rw [List.filterMap_append, List.filterMap_cons_some hBound, List.filterMap_nil]
  -- what the code does past the measures, whether it is the latest or not
  have hAccount : (l.account true c).nobound = l.nobound ∧
      (l.account true c).late = (if lateUs ≤ c.lateUs then l.late + 1 else l.late) ∧
      (l.account true c).hist =
        Function.update l.hist (binOf c.lateUs) (l.hist (binOf c.lateUs) + 1) ∧
      (l.account true c).boundMinUs =
        (if c.parkBoundUs < l.boundMinUs then c.parkBoundUs else l.boundMinUs) ∧
      (l.account true c).boundMaxUs =
        (if l.boundMaxUs < c.parkBoundUs then c.parkBoundUs else l.boundMaxUs) ∧
      (l.account true c).maxLateUs =
        (if l.maxLateUs < c.lateUs then c.lateUs else l.maxLateUs) ∧
      (l.account true c).worst = (if l.maxLateUs < c.lateUs then c else l.worst) := by
    by_cases hMore : l.maxLateUs < c.lateUs
    · simp [Level.account, hMore]
    · simp [Level.account, hMore]
  obtain ⟨hNobound, hLate, hHist, hBoundMin, hBoundMax, hMaxLate', hWorst⟩ := hAccount
  apply Totals.ext
  · exact hSpins
  · show (l.account true c).nobound = BitVec.ofNat 32 ((ivs ++ [iv]).countP _)
    rw [hNobound, ofNat_countP_concat, if_neg (by rw [hBound]; exact Bool.false_ne_true)]
    exact congrArg Totals.nobound hTotals
  · show (l.account true c).late = BitVec.ofNat 32 ((ivs ++ [iv]).countP _)
    rw [hLate, hLateUs, ofNat_countP_concat, show l.late = _ from congrArg Totals.late hTotals]
    simp only [decide_eq_true_eq]
    rfl
  · funext bin
    show (l.account true c).hist bin = BitVec.ofNat 32 ((ivs ++ [iv]).countP _)
    have hOld : l.hist bin = (totals hz ivs).hist bin :=
      congrArg (fun t : Totals => t.hist bin) hTotals
    rw [hHist, hLateUs, ofNat_countP_concat, hBound, Option.isSome_some, Bool.true_and]
    by_cases hBin : binOf (iv.lateUs hz) = bin
    · rw [hBin, Function.update_self, hOld, if_pos (by rw [beq_self_eq_true])]
      rfl
    · rw [Function.update_of_ne (Ne.symm hBin), hOld, if_neg (by simpa using hBin)]
      rfl
  · show (l.account true c).maxLateUs = maxLate hz (ivs ++ [iv])
    rw [hMaxLate', hMaxLate, hLateUs, maxLate_concat]
  · show (l.account true c).boundMinUs = least _
    rw [hBoundMin, hParkBound, hBounds, least_concat,
      show l.boundMinUs = _ from congrArg Totals.boundMinUs hTotals]
    rfl
  · show (l.account true c).boundMaxUs = greatest _
    rw [hBoundMax, hParkBound, hBounds, greatest_concat,
      show l.boundMaxUs = _ from congrArg Totals.boundMaxUs hTotals]
    rfl
  · exact hIntervalMax
  · exact hSegMax
  · show (l.account true c).worst.outline =
      (worstOf hz (ivs ++ [iv])).elim {} (Interval.outline hz)
    rw [hWorst, hMaxLate, hLateUs]
    by_cases hMore : maxLate hz ivs < iv.lateUs hz
    · rw [if_pos hMore, worstOf_concat_of_lt hMore]
      exact hOutline
    · rw [if_neg hMore, worstOf_concat_of_not_lt hMore]
      exact congrArg Totals.worst hTotals

/-- What the recorder adds of a record to its level is what its interval adds
to the numbers. -/
theorem totals_account (hTotals : l.totals = totals hz ivs) (hOutline : c.outline = iv.outline hz) :
    (l.account iv.bound.isSome c).totals = totals hz (ivs ++ [iv]) := by
  cases hBound : iv.bound with
  | none => exact account_unjudged hTotals hOutline hBound
  | some bound => exact account_judged hTotals hOutline hBound

end Account

/-- Every interval is in the histogram, or has no bound: in words, which wrap
alike. -/
theorem spins_eq_sum :
    (totals hz ivs).spins = (totals hz ivs).nobound + ∑ bin, (totals hz ivs).hist bin := by
  induction ivs using List.reverseRecOn with
  | nil =>
      have hHist : ∀ bin, (totals hz []).hist bin = 0 := fun _ => rfl
      rw [Finset.sum_congr rfl fun bin _ => hHist bin, Finset.sum_const_zero, add_zero]
      rfl
  | append_singleton ivs iv ih =>
      have hSpins : (totals hz (ivs ++ [iv])).spins = (totals hz ivs).spins + 1 := by
        show BitVec.ofNat 32 (ivs ++ [iv]).length = _
        rw [List.length_append, BitVec.ofNat_add]
        rfl
      have hHist : ∀ bin, (totals hz (ivs ++ [iv])).hist bin = (totals hz ivs).hist bin +
          if iv.bound.isSome && binOf (iv.lateUs hz) == bin then 1 else 0 := by
        intro bin
        show BitVec.ofNat 32 ((ivs ++ [iv]).countP _) = _
        rw [ofNat_countP_concat]
        split_ifs
        · rfl
        · exact (BitVec.add_zero _).symm
      have hNobound : (totals hz (ivs ++ [iv])).nobound = (totals hz ivs).nobound +
          if iv.bound.isNone then 1 else 0 := by
        show BitVec.ofNat 32 ((ivs ++ [iv]).countP _) = _
        rw [ofNat_countP_concat]
        split_ifs
        · rfl
        · exact (BitVec.add_zero _).symm
      rw [hSpins, hNobound, Finset.sum_congr rfl fun bin _ => hHist bin, Finset.sum_add_distrib, ih]
      cases iv.bound with
      | none =>
          simp only [Option.isSome_none, Option.isNone_none, Bool.false_and, Bool.false_eq_true,
            if_false, if_true, Finset.sum_const_zero]
          rw [add_zero, add_right_comm]
      | some bound =>
          have hOne : ∑ bin : Bin, (if binOf (iv.lateUs hz) = bin then (1 : U32) else 0) = 1 := by
            rw [Finset.sum_ite_eq, if_pos (Finset.mem_univ _)]
          simp only [Option.isSome_some, Option.isNone_some, Bool.true_and, beq_iff_eq,
            Bool.false_eq_true, if_false]
          rw [hOne, add_zero, add_assoc]

end Numbers

end SafetyIsland.SpinDiag
