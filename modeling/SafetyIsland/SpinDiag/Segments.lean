import SafetyIsland.SpinDiag.Run

/-! When a level's segments lie inside their interval: over whole runs of its
marks, any of the phases 1 to 4 missing. -/
namespace SafetyIsland.SpinDiag
open Transition

/-- The mark before. -/
structure Trail where
  phase : U32 := 0
  last : Nat := 0
  deriving DecidableEq, Repr

abbrev Lone := Observed Own Trail

def Lone.boot : Lone := { state := {}, history := {} }

def Lone.step (hz : Nat) : Lone → Mark → Lone :=
  observe (Own.mark hz) fun _ _ m _ => { phase := m.phase, last := m.cycles }

/-- The phases of a level: first a 0, increasing within a spin, on a counter
that does not go back and turns over in no interval. -/
structure InOrder (w : Lone) (m : Mark) : Prop where
  begins : w.state.spin.isNone = true → m.phase = 0
  phase : m.phase.toNat ≤ 4
  increases : m.phase = 0 ∨ w.history.phase < m.phase
  clock : w.history.last ≤ m.cycles
  short : w.state.spin.isSome = true → m.cycles - w.state.stamps 0 < 2 ^ 32

instance (w : Lone) (m : Mark) : Decidable (InOrder w m) :=
  decidable_of_iff ((w.state.spin.isNone = true → m.phase = 0) ∧ m.phase.toNat ≤ 4 ∧
      (m.phase = 0 ∨ w.history.phase < m.phase) ∧ w.history.last ≤ m.cycles ∧
      (w.state.spin.isSome = true → m.cycles - w.state.stamps 0 < 2 ^ 32))
    ⟨fun ⟨h₁, h₂, h₃, h₄, h₅⟩ => ⟨h₁, h₂, h₃, h₄, h₅⟩, fun h => ⟨h.1, h.2, h.3, h.4, h.5⟩⟩

/-- The stamp that a mark measures its segment from, the phase before its
own, is the spin's latest: no phase between them is missing, or the stale
stamp reads the same. -/
def Timely (w : Lone) (m : Mark) : Prop :=
  w.state.spin.isSome = true → ∀ p : Fin 5, m.phase.toNat = p.val →
    cycleGet32 (w.state.stamps (p - 1)) = cycleGet32 w.history.last

instance (w : Lone) (m : Mark) : Decidable (Timely w m) :=
  inferInstanceAs (Decidable (_ → ∀ _ : Fin 5, _ → _))

/-- The segments' wall times sum to the interval's length at most, but for a
microsecond each. -/
def Interval.Inside (hz : Nat) (iv : Interval) : Prop :=
  (∑ s, (iv.walls s).toNat) * hz ≤ (iv.last - iv.first) * 1000000 + 5 * hz

instance (hz : Nat) (iv : Interval) : Decidable (iv.Inside hz) :=
  inferInstanceAs (Decidable (_ ≤ _))

/-- The intervals a level closes, its segment maxima and its worst record. -/
structure SegmentsInside (hz : Nat) (events : List Event) (i : LevelNo) (addr : Nat) : Prop where
  inside : ∀ iv ∈ (own hz (marksOf addr events)).closed, iv.Inside hz
  records : ((filed hz events).filter fun c => c.level == BitVec.ofNat 32 i.val).map Rec.outline =
    (own hz (marksOf addr events)).closed.map (Interval.outline hz)
  segMax : ∀ s, ((run hz events).lev i).segMaxWall s = 0 ∨
    ∃ iv ∈ (own hz (marksOf addr events)).closed, ((run hz events).lev i).segMaxWall s = iv.walls s
  worst : ((run hz events).lev i).worst.outline = {} ∨
    ∃ iv ∈ (own hz (marksOf addr events)).closed,
      ((run hz events).lev i).worst.outline = iv.outline hz

/-- The segments measured so far reach from the entry to the last mark, and no
later segment has been measured. -/
structure Charged (hz : Nat) (w : Lone) (spin : Spin) : Prop where
  entered : w.state.stamps 0 ≤ w.history.last
  phase : w.history.phase.toNat ≤ 4
  sum : (∑ s, (spin.walls s).toNat) * hz ≤ (w.history.last - w.state.stamps 0) * 1000000
  blank : ∀ s : Seg, w.history.phase.toNat ≤ s.val → spin.walls s = 0

/-- The level's invariant: the spin under way, and the intervals closed. -/
structure Accounted (hz : Nat) (w : Lone) : Prop where
  spin : ∀ spin, w.state.spin = some spin → Charged hz w spin
  closed : ∀ iv ∈ w.state.closed, iv.Inside hz

section Wall
variable {hz : Nat}

/-- Microseconds are rounded down. -/
theorem us_le (c : U32) : (us hz c).toNat * hz ≤ c.toNat * 1000000 := by
  have hMod : (us hz c).toNat ≤ c.toNat * 1000000 / hz := by
    rw [us, BitVec.toNat_ofNat]
    exact Nat.mod_le _ _
  exact (Nat.mul_le_mul_right hz hMod).trans (Nat.div_mul_le_self _ _)

/-- Two readings are at most as far apart as the counter was. -/
theorem cycleGet32_sub_le {earlier later : Nat} (h : earlier ≤ later) :
    (cycleGet32 later - cycleGet32 earlier).toNat ≤ later - earlier := by
  obtain ⟨d, rfl⟩ := Nat.exists_eq_add_of_le h
  rw [cycleGet32, cycleGet32, BitVec.ofNat_add, BitVec.add_comm, BitVec.add_sub_cancel,
    BitVec.toNat_ofNat, Nat.add_sub_cancel_left]
  exact Nat.mod_le _ _

/-- A segment not yet measured adds its time to the sum. -/
theorem sum_update {walls : Seg → U32} {s : Seg} (hBlank : walls s = 0) (x : U32) :
    ∑ q, (Function.update walls s x q).toNat = (∑ q, (walls q).toNat) + x.toNat := by
  have hOthers : ∀ f : Seg → U32, ∑ q, (f q).toNat =
      (f s).toNat + ∑ q ∈ Finset.univ.erase s, (f q).toNat := fun f =>
    (Finset.add_sum_erase _ (fun q => (f q).toNat) (Finset.mem_univ s)).symm
  have hRest : ∑ q ∈ Finset.univ.erase s, (Function.update walls s x q).toNat =
      ∑ q ∈ Finset.univ.erase s, (walls q).toNat := by
    apply Finset.sum_congr rfl
    intro q hq
    rw [Function.update_of_ne (Finset.ne_of_mem_erase hq)]
  have hZero : (0 : U32).toNat = 0 := rfl
  rw [hOthers, hRest, hOthers walls, Function.update_self, hBlank, hZero]
  omega

end Wall

section Step
variable {hz : Nat} {w : Lone} {m : Mark} {spin : Spin}

/-- A segment measured from a stamp that reads as the last mark did. -/
theorem wall_le {s : Seg} (hClock : w.history.last ≤ m.cycles)
    (hSame : cycleGet32 (w.state.stamps s) = cycleGet32 w.history.last) :
    (w.state.wall hz s m.cycles).toNat * hz ≤ (m.cycles - w.history.last) * 1000000 := by
  rw [Own.wall, hSame]
  exact (us_le _).trans (Nat.mul_le_mul_right _ (cycleGet32_sub_le hClock))

/-- One more segment, as far as the mark. -/
theorem Charged.measure (h : Charged hz w spin) {s : Seg} (hAhead : w.history.phase.toNat ≤ s.val)
    (hClock : w.history.last ≤ m.cycles)
    (hSame : cycleGet32 (w.state.stamps s) = cycleGet32 w.history.last) :
    (∑ q, (Function.update spin.walls s (w.state.wall hz s m.cycles) q).toNat) * hz ≤
      (m.cycles - w.state.stamps 0) * 1000000 := by
  have hEntered := h.entered
  have hReach : m.cycles - w.state.stamps 0 =
      w.history.last - w.state.stamps 0 + (m.cycles - w.history.last) := by omega
  rw [sum_update (h.blank s hAhead), Nat.add_mul, hReach, Nat.add_mul]
  exact Nat.add_le_add h.sum (wall_le hClock hSame)

/-- An entry closes the spin under way inside its interval, and begins one. -/
theorem Accounted.entry (h : Accounted hz w) (hOrder : InOrder w m) (hTimely : Timely w m)
    (hEntry : m.phase = 0) : Accounted hz (w.step hz m) := by
  have hMark : (w.step hz m).state = w.state.enter hz m.cycles := if_pos hEntry
  constructor
  · intro spin hSpin
    rw [hMark] at hSpin
    obtain rfl := Option.some.inj hSpin
    have hStamp : (w.step hz m).state.stamps 0 = m.cycles := by
      rw [hMark]
      exact Function.update_self 0 m.cycles w.state.stamps
    constructor
    · rw [hStamp]
      exact le_rfl
    · exact hOrder.phase
    · have hZero : ∑ s : Seg, (({} : Spin).walls s).toNat = 0 :=
        Finset.sum_eq_zero fun _ _ => rfl
      rw [hZero, Nat.zero_mul]
      exact Nat.zero_le _
    · exact fun _ _ => rfl
  · intro iv hMem
    rw [hMark] at hMem
    rcases List.mem_append.mp hMem with hOld | hNew
    · exact h.closed iv hOld
    · cases hSpin : w.state.spin with
      | none =>
          rw [hSpin] at hNew
          exact absurd hNew List.not_mem_nil
      | some spin =>
          rw [hSpin] at hNew
          obtain rfl := List.mem_singleton.mp hNew
          have hCharged := h.spin spin hSpin
          have hSome : w.state.spin.isSome = true := by rw [hSpin]; rfl
          have hPhase : m.phase.toNat = (0 : Fin 5).val := by
            rw [hEntry]
            rfl
          have hSame := hTimely hSome 0 hPhase
          exact (hCharged.measure (s := 4) hCharged.phase hOrder.clock hSame).trans
            (Nat.le_add_right _ _)

/-- A later phase measures the segment before it. -/
theorem Accounted.pass (h : Accounted hz w) (hOrder : InOrder w m) (hTimely : Timely w m)
    (hLater : m.phase ≠ 0) : Accounted hz (w.step hz m) := by
  cases hSpin : w.state.spin with
  | none => exact absurd (hOrder.begins (by rw [hSpin]; rfl)) hLater
  | some spin =>
      have hSome : w.state.spin.isSome = true := by rw [hSpin]; rfl
      have hIn := hOrder.phase
      have hAhead : w.history.phase.toNat < m.phase.toNat :=
        hOrder.increases.resolve_left hLater
      have hMark : (w.step hz m).state =
          w.state.pass hz ⟨m.phase.toNat, Nat.lt_succ_of_le hIn⟩ m.value m.cycles spin := by
        show w.state.mark hz m = _
        rw [Own.mark, if_neg hLater, dif_pos hIn, hSpin]
      have hCharged := h.spin spin hSpin
      have hPred : ((⟨m.phase.toNat, Nat.lt_succ_of_le hIn⟩ : Fin 5) - 1).val =
          m.phase.toNat - 1 := by
        rw [Fin.val_sub_one_of_ne_zero]
        intro hZero
        have hVal : m.phase.toNat = 0 := congrArg Fin.val hZero
        omega
      constructor
      · intro later hLaterSpin
        rw [hMark] at hLaterSpin
        obtain rfl := Option.some.inj hLaterSpin
        have hEntry : (w.step hz m).state.stamps 0 = w.state.stamps 0 := by
          rw [hMark]
          apply Function.update_of_ne
          intro hZero
          have hVal : 0 = m.phase.toNat := congrArg Fin.val hZero
          omega
        constructor
        · rw [hEntry]
          exact hCharged.entered.trans hOrder.clock
        · exact hIn
        · rw [hEntry]
          exact hCharged.measure (by rw [hPred]; omega) hOrder.clock (hTimely hSome _ rfl)
        · intro s hs
          have hs' : m.phase.toNat ≤ s.val := hs
          have hOther : s ≠ (⟨m.phase.toNat, Nat.lt_succ_of_le hIn⟩ : Fin 5) - 1 := by
            intro hSame
            rw [hSame, hPred] at hs'
            omega
          show Function.update spin.walls _ _ s = 0
          rw [Function.update_of_ne hOther]
          exact hCharged.blank s (by omega)
      · rw [hMark]
        exact h.closed

/-- A mark in order keeps the segments inside their interval. -/
theorem accounted_step (h : Accounted hz w) (hStep : InOrder w m ∧ Timely w m) :
    Accounted hz (w.step hz m) := by
  by_cases hEntry : m.phase = 0
  · exact h.entry hStep.1 hStep.2 hEntry
  · exact h.pass hStep.1 hStep.2 hEntry

end Step

section Run
variable {hz addr : Nat} {events : List Event} {i : LevelNo}

/-- The observed run is the thread's own. -/
theorem follow_state (marks : List Mark) :
    (follow (Lone.step hz) Lone.boot marks).state = own hz marks := by
  induction marks using List.reverseRecOn with
  | nil => rfl
  | append_singleton marks m ih =>
      have hOwn : own hz (marks ++ [m]) = (own hz marks).mark hz m := List.foldl_append
      rw [follow_append, hOwn, ← ih]
      rfl

/-- Where every mark of a level is measured from the spin's latest stamp,
every interval's segments lie inside it, and so do the segment maxima and the
worst record. -/
theorem segments_inside (hLevel : (spinners events)[i.val]? = some addr)
    (hMarks : AllowedAlong (Lone.step hz) (fun w m => InOrder w m ∧ Timely w m) Lone.boot
      (marksOf addr events)) : SegmentsInside hz events i addr := by
  have hAccounted : Accounted hz (follow (Lone.step hz) Lone.boot (marksOf addr events)) := by
    apply (reaches_follow _ hMarks).invariant (P := Accounted hz)
    · exact ⟨fun _ hSpin => absurd hSpin (Option.some_ne_none _).symm,
        fun _ hMem => absurd hMem List.not_mem_nil⟩
    · intro w m h hStep
      exact accounted_step h hStep
  have hFollows := (registered hz events).follows i addr hLevel
  have hTotals := hFollows.totals
  constructor
  · rw [← follow_state]
    exact hAccounted.closed
  · exact hFollows.filed
  · intro s
    have hMax : ((run hz events).lev i).segMaxWall s =
        greatest ((own hz (marksOf addr events)).closed.map fun iv => iv.walls s) :=
      congrArg (fun t : Totals => t.segMaxWall s) hTotals
    rw [hMax]
    apply (greatest_mem _).imp id
    intro hMem
    obtain ⟨iv, hIv, hWall⟩ := List.mem_map.mp hMem
    exact ⟨iv, hIv, hWall.symm⟩
  · have hWorst : ((run hz events).lev i).worst.outline =
        (worstOf hz (own hz (marksOf addr events)).closed).elim {} (Interval.outline hz) :=
      congrArg Totals.worst hTotals
    rw [hWorst]
    cases hFound : worstOf hz (own hz (marksOf addr events)).closed with
    | none => exact .inl rfl
    | some iv => exact .inr ⟨iv, List.mem_of_find?_eq_some hFound, rfl⟩

def everyPhase : List Event :=
  [phaseAt 7 0 0 0, phaseAt 7 1 30000 100, phaseAt 7 2 0 30100, phaseAt 7 3 0 30800,
    phaseAt 7 4 0 30900, phaseAt 7 0 0 31000, phaseAt 7 1 29000 31100, phaseAt 7 2 0 60100,
    phaseAt 7 3 0 63500, phaseAt 7 4 0 63600, phaseAt 7 0 0 63700]

theorem segments_inside_everyPhase : SegmentsInside 1000000 everyPhase 0 7 :=
  segments_inside (by decide) (by decide)

/-- A spin with every phase, then one that does not reach the park: its phase 3
is measured from the stamp that the first spin's phase 2 left. -/
def noPark : List Event :=
  [phaseAt 7 0 0 1000, phaseAt 7 1 85000 1100, phaseAt 7 2 0 86100, phaseAt 7 3 1 86400,
    phaseAt 7 4 1 86500, phaseAt 7 0 0 87000, phaseAt 7 3 1 87500, phaseAt 7 4 1 87600,
    phaseAt 7 0 0 88000]

/-- An interval of 1 ms is charged 1.9 ms. -/
theorem not_segments_inside : ¬ ∀ hz events (i : LevelNo) addr,
    (spinners events)[i.val]? = some addr →
    AllowedAlong (Lone.step hz) InOrder Lone.boot (marksOf addr events) →
    SegmentsInside hz events i addr := by
  intro hAll
  have hInside := (hAll 1000000 noPark 0 7 (by decide) (by decide)).inside
  exact absurd hInside (by decide)

end Run

end SafetyIsland.SpinDiag
