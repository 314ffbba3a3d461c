import SafetyIsland.General.WrappingClock
import SafetyIsland.SpinDiag.Act

/-! The rows of the act's table, against the intervals closed between the two
reads. The counts are theirs while no counter has wrapped; the worst lateness
is put together from the boot's maximum, the ring and the histogram, and the
last bin of the histogram has no upper end. -/
namespace SafetyIsland.SpinDiag
open StructImage Transition LittleEndian

/-- The lateness of the intervals judged, in microseconds, as the recorder's
words have it. -/
def readLates (hz : Nat) (ivs : List Interval) : List Nat :=
  (ivs.filter fun iv => iv.bound.isSome).map fun iv => (iv.lateUs hz).toNat

/-- The interval's length in microseconds, by the true count of cycles. -/
def Interval.elapsedUs (hz : Nat) (iv : Interval) : Nat := (iv.last - iv.first) * 1000000 / hz

/-- The lateness of the intervals judged, in microseconds, by the true count of
cycles. -/
def judgedLates (hz : Nat) (ivs : List Interval) : List Nat :=
  ivs.filterMap fun iv => iv.bound.map fun bound => iv.elapsedUs hz - bound.toNat

/-- The counter turns over in no part of the interval, and a word holds its
microseconds. -/
def Interval.Fits (hz : Nat) (iv : Interval) : Prop :=
  iv.first ≤ iv.last ∧ iv.last - iv.first < 2 ^ 32 ∧ iv.elapsedUs hz < 2 ^ 32

instance (hz : Nat) (iv : Interval) : Decidable (iv.Fits hz) :=
  inferInstanceAs (Decidable (_ ∧ _ ∧ _))

section Judged
variable {hz : Nat} {ivs : List Interval} {iv : Interval}

/-- Of an interval that fits, the recorder's word is its true length. -/
theorem Interval.Fits.lengthUs (h : iv.Fits hz) : (iv.lengthUs hz).toNat = iv.elapsedUs hz := by
  obtain ⟨hClock, hCycles, hUs⟩ := h
  have hRead : (cycleGet32 iv.last - cycleGet32 iv.first).toNat = iv.last - iv.first := by
    have hAge := @WrappingClock.age_eq 32 iv.last iv.first (by omega) (by omega)
    rw [WrappingClock.stamp, WrappingClock.stamp, BitVec.ofInt_natCast, BitVec.ofInt_natCast] at hAge
    rw [cycleGet32, cycleGet32]
    omega
  rw [Interval.elapsedUs] at hUs ⊢
  rw [Interval.lengthUs, us, hRead, BitVec.toNat_ofNat, Nat.mod_eq_of_lt hUs]

/-- The recorder's lateness is the excess over the bound. -/
theorem lateness_toNat (intervalUs bound : U32) :
    (lateness intervalUs bound).toNat = intervalUs.toNat - bound.toNat := by
  rw [lateness]
  split_ifs with hLate
  · exact BitVec.toNat_sub_of_le (BitVec.le_of_lt hLate)
  · have hEarly : intervalUs.toNat ≤ bound.toNat := Nat.le_of_not_lt hLate
    rw [Nat.sub_eq_zero_of_le hEarly]
    rfl

/-- The recorder's words tell the truth of intervals that fit them. -/
theorem judgedLates_eq (hFits : ∀ iv ∈ ivs, iv.Fits hz) : judgedLates hz ivs = readLates hz ivs := by
  induction ivs with
  | nil => rfl
  | cons iv rest ih =>
      have hRest := ih fun x hx => hFits x (List.mem_cons_of_mem iv hx)
      rw [judgedLates, readLates] at hRest ⊢
      cases hBound : iv.bound with
      | none =>
          rw [List.filterMap_cons_none (by rw [hBound]; rfl), hRest,
            List.filter_cons_of_neg (by simp [hBound])]
      | some bound =>
          have hLate : (iv.lateUs hz).toNat = iv.elapsedUs hz - bound.toNat := by
            rw [Interval.lateUs, hBound]
            exact (lateness_toNat _ _).trans
              (congrArg (· - bound.toNat) (hFits iv List.mem_cons_self).lengthUs)
          rw [List.filterMap_cons_some (by rw [hBound]; rfl), hRest,
            List.filter_cons_of_pos (by simp [hBound]), List.map_cons, hLate]

/-- One lateness is read for each interval with a bound. -/
theorem length_readLates : (readLates hz ivs).length = ivs.countP fun iv => iv.bound.isSome := by
  rw [readLates, List.length_map, List.countP_eq_length_filter]

/-- What is counted of the latenesses is counted of those intervals. -/
theorem countP_readLates (P : Nat → Bool) : (readLates hz ivs).countP P =
    ivs.countP fun iv => iv.bound.isSome && P (iv.lateUs hz).toNat := by
  rw [readLates, List.countP_map, List.countP_filter]
  apply List.countP_congr
  intro iv _
  rw [Bool.and_comm]
  rfl

theorem mem_readLates {late : Nat} : late ∈ readLates hz ivs ↔
    ∃ iv ∈ ivs, iv.bound.isSome = true ∧ (iv.lateUs hz).toNat = late := by
  rw [readLates, List.mem_map]
  constructor
  · rintro ⟨iv, hMem, hLate⟩
    obtain ⟨hIn, hBound⟩ := List.mem_filter.mp hMem
    exact ⟨iv, hIn, hBound, hLate⟩
  · rintro ⟨iv, hIn, hBound, hLate⟩
    exact ⟨iv, List.mem_filter.mpr ⟨hIn, hBound⟩, hLate⟩

/-- Only an interval with a bound can be late. -/
theorem judged_of_late (hz : Nat) (hLate : (iv.lateUs hz).toNat ≠ 0) : iv.bound.isSome = true := by
  cases hBound : iv.bound with
  | some bound => rfl
  | none =>
      apply absurd _ hLate
      rw [Interval.lateUs, hBound]
      rfl

/-- The late intervals are judged. -/
theorem countP_late : (ivs.countP fun iv => lateUs ≤ iv.lateUs hz) =
    (readLates hz ivs).countP (2000 ≤ ·) := by
  rw [countP_readLates]
  apply List.countP_congr
  intro iv _
  have hLate : lateUs ≤ iv.lateUs hz ↔ 2000 ≤ (iv.lateUs hz).toNat := Iff.rfl
  rw [decide_eq_true_iff, hLate, Bool.and_eq_true, decide_eq_true_iff]
  constructor
  · intro hMany
    exact ⟨judged_of_late hz (by omega), hMany⟩
  · exact And.right

end Judged

/-- The bins are a millisecond wide, the last one open. -/
theorem binOf_val (late : U32) : (binOf late).val = min (late.toNat / 1000) 39 := by
  rw [binOf]
  split_ifs with hLow
  · show late.toNat / 1000 = _
    omega
  · show 39 = _
    omega

def inBin (hz : Nat) (bin : Bin) (iv : Interval) : Bool :=
  iv.bound.isSome && binOf (iv.lateUs hz) == bin

def histOf (hz : Nat) (ivs : List Interval) : List Int :=
  List.ofFn fun bin : Bin => ((ivs.countP (inBin hz bin) : Nat) : Int)

section Hist
variable {hz : Nat} {ivs : List Interval} {iv : Interval}

/-- A late interval is in exactly one of the upper bins. -/
theorem sum_inBin (iv : Interval) : (∑ bin : Fin 39, if inBin hz bin.succ iv then 1 else 0) =
    if iv.bound.isSome && decide (1000 ≤ (iv.lateUs hz).toNat) then 1 else 0 := by
  have hVal := binOf_val (iv.lateUs hz)
  cases hBound : iv.bound.isSome with
  | false => simp [inBin, hBound]
  | true =>
      simp only [inBin, hBound, Bool.true_and, beq_iff_eq, decide_eq_true_eq]
      by_cases hMs : 1000 ≤ (iv.lateUs hz).toNat
      · rw [if_pos hMs]
        obtain ⟨bin, hBin⟩ : ∃ bin : Fin 39, binOf (iv.lateUs hz) = bin.succ := by
          apply Fin.exists_succ_eq.mpr _ |>.imp fun _ h => h.symm
          intro hZero
          rw [hZero] at hVal
          have hNone : (0 : Bin).val = 0 := rfl
          omega
        simp only [hBin, Fin.succ_inj]
        rw [Finset.sum_ite_eq, if_pos (Finset.mem_univ _)]
      · rw [if_neg hMs]
        apply Finset.sum_eq_zero
        intro bin _
        rw [if_neg]
        intro hBin
        rw [hBin] at hVal
        have hSucc : (Fin.succ bin).val = bin.val + 1 := rfl
        omega

/-- Past the first bin the histogram counts the intervals a millisecond late. -/
theorem sum_tail_histOf : (histOf hz ivs).tail.sum = (readLates hz ivs).countP (1000 ≤ ·) := by
  have hSum : ∑ bin : Fin 39, ivs.countP (inBin hz bin.succ) =
      ivs.countP fun iv => iv.bound.isSome && decide (1000 ≤ (iv.lateUs hz).toNat) := by
    induction ivs with
    | nil => simp
    | cons iv rest ih =>
        simp only [List.countP_cons, Finset.sum_add_distrib, ih, sum_inBin]
  rw [histOf, List.ofFn_succ, List.tail_cons, List.sum_ofFn, countP_readLates, ← hSum]
  push_cast
  rfl

/-- The highest bin with a count, where there is one. -/
theorem highestBin_some {f : Bin → Nat} {b : Nat}
    (h : highestBin (List.ofFn fun bin => (f bin : Int)) = some b) :
    (∃ bin : Bin, bin.val = b ∧ f bin ≠ 0) ∧ ∀ bin : Bin, f bin ≠ 0 → bin.val ≤ b := by
  obtain ⟨hMem, hMax⟩ := List.max?_eq_some_iff.mp h
  have hGet (bin : Bin) : (List.ofFn fun bin => (f bin : Int)).getD bin.val 0 = f bin := by
    rw [List.getD_eq_getElem _ _ (by rw [List.length_ofFn]; exact bin.isLt), List.getElem_ofFn]
  have hIn (bin : Bin) : bin.val ∈ (List.range (List.ofFn fun bin => (f bin : Int)).length).filter
      (fun b => (List.ofFn fun bin => (f bin : Int)).getD b 0 ≠ 0) ↔ f bin ≠ 0 := by
    rw [List.mem_filter, List.mem_range, List.length_ofFn, decide_eq_true_iff, hGet]
    constructor
    · exact fun hBin hZero => hBin.2 (by rw [hZero]; rfl)
    · exact fun hCount => ⟨bin.isLt, fun hZero => hCount (Int.natCast_eq_zero.mp hZero)⟩
  constructor
  · have hLt := List.mem_range.mp (List.mem_filter.mp hMem).1
    rw [List.length_ofFn] at hLt
    exact ⟨⟨b, hLt⟩, rfl, (hIn ⟨b, hLt⟩).mp hMem⟩
  · intro bin hCount
    exact hMax _ ((hIn bin).mpr hCount)

/-- Where there is none, nothing is counted. -/
theorem highestBin_none {f : Bin → Nat}
    (h : highestBin (List.ofFn fun bin => (f bin : Int)) = none) (bin : Bin) : f bin = 0 := by
  have hNil := List.max?_eq_none_iff.mp h
  have hNot := List.filter_eq_nil_iff.mp hNil bin.val (by
    rw [List.mem_range, List.length_ofFn]
    exact bin.isLt)
  rw [List.getD_eq_getElem _ _ (by rw [List.length_ofFn]; exact bin.isLt), List.getElem_ofFn] at hNot
  simpa using hNot

end Hist

/-- What a value of the column says of the lateness of some intervals. -/
def Worst.Sound (lates : List Nat) : Worst → Prop
  | exact us => ∀ late ∈ lates, late ≤ us
  | below ms => ∀ late ∈ lates, late < 1000 * ms
  | unknown => lates = []

section Worst
variable {hz : Nat} {ivs : List Interval}

/-- The histogram's value says the truth while no interval is past the last
bin's millisecond. -/
theorem histogram_sound :
    (Worst.ofBin (highestBin (histOf hz ivs))).Sound (readLates hz ivs) ↔
      ∀ late ∈ readLates hz ivs, late < 40000 := by
  have hCount {iv : Interval} (hMem : iv ∈ ivs) (hBound : iv.bound.isSome = true) :
      ivs.countP (inBin hz (binOf (iv.lateUs hz))) ≠ 0 := by
    apply Nat.pos_iff_ne_zero.mp
    apply List.countP_pos_iff.mpr
    exact ⟨iv, hMem, by rw [inBin, hBound, beq_self_eq_true]; rfl⟩
  cases hBin : highestBin (histOf hz ivs) with
  | none =>
      have hNone : readLates hz ivs = [] := by
        apply List.eq_nil_iff_forall_not_mem.mpr
        intro late hMem
        obtain ⟨iv, hIn, hBound, -⟩ := mem_readLates.mp hMem
        exact hCount hIn hBound (highestBin_none hBin _)
      rw [hNone]
      exact ⟨fun _ late hMem => absurd hMem List.not_mem_nil, fun _ => rfl⟩
  | some b =>
      obtain ⟨⟨bin, hVal, hSome⟩, hMax⟩ := highestBin_some hBin
      have hTop : b ≤ 39 := by
        have hLt := bin.isLt
        omega
      constructor
      · intro hSound late hMem
        have hLate : late < 1000 * (b + 1) := hSound late hMem
        omega
      · intro hLow late hMem
        obtain ⟨iv, hIn, hBound, hLate⟩ := mem_readLates.mp hMem
        have hLe := hMax _ (hCount hIn hBound)
        rw [binOf_val, hLate] at hLe
        have hLt := hLow late hMem
        show late < 1000 * (b + 1)
        omega

theorem le_foldl_max {xs : List Nat} {start x : Nat} (h : x ∈ xs ∨ x ≤ start) :
    x ≤ xs.foldl max start := by
  induction xs generalizing start with
  | nil => exact h.resolve_left List.not_mem_nil
  | cons y rest ih =>
      apply ih
      rcases h with hMem | hLe
      · rcases List.mem_cons.mp hMem with rfl | hRest
        · exact .inr (le_max_right _ _)
        · exact .inl hRest
      · exact .inr (hLe.trans (le_max_left _ _))

/-- The ring's value says the truth where it holds every late interval of the
level, and one at least. -/
theorem ring_sound {lates : List Nat} (hSome : lates.filter (2000 ≤ ·) ≠ []) :
    (Worst.exact ((lates.filter (2000 ≤ ·)).foldl max 0)).Sound lates := by
  obtain ⟨one, hOne⟩ := List.exists_mem_of_ne_nil _ hSome
  have hFloor : 2000 ≤ (lates.filter (2000 ≤ ·)).foldl max 0 := by
    have hLate := of_decide_eq_true (List.mem_filter.mp hOne).2
    exact hLate.trans (le_foldl_max (.inl hOne))
  intro late hMem
  by_cases hLate : 2000 ≤ late
  · exact le_foldl_max (.inl (List.mem_filter.mpr ⟨hMem, decide_eq_true hLate⟩))
  · omega

end Worst

end SafetyIsland.SpinDiag
