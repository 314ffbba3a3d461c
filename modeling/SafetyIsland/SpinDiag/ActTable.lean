import SafetyIsland.SpinDiag.ActRows

/-! The act's table over whole runs: what `segment` makes of two reads of a
boot, level by level. -/
namespace SafetyIsland.SpinDiag
open StructImage Transition LittleEndian

/-- Before the first spin there is nothing to read. -/
theorem parse_unbegun {r : Recorder} (hMagic : r.magic = 0) :
    parse r.image = some (.inl (.badMagic 0)) := by
  have hWhole : Placed r.image 0 r.image := Placed.whole
  have hHead := hWhole.left.unpack_eq
  have hLength := hWhole.left.le_length
  simp only [length_words, List.length_cons, List.length_nil, Nat.reduceAdd, Nat.reduceMul,
    Nat.zero_add] at hHead hLength
  have hNot : ¬ r.image.length < 4 * headWords := by
    show ¬ r.image.length < 36
    omega
  have hFirst : ¬ (0 : U32).toNat = magicV1 := by decide
  have hOther : (0 : U32).toNat ≠ SpinDiag.magic.toNat := by decide
  rw [parse, if_neg hNot]
  simp only [headWords, hHead, List.map_cons, Option.bind_eq_bind, Option.bind_some,
    List.getD_cons_zero, hMagic]
  rw [if_neg hFirst, if_pos hOther]
  rfl

section Reads
variable (hz : Nat) (events : List Event)

def shownLevels : List LevelRow :=
  ((List.finRange 4).map fun i => ((run hz events).lev i).row i.val).take (spinners events).length

/-- At most four levels are shown. -/
theorem nlev_toNat : (BitVec.ofNat 32 (run hz events).nlev).toNat =
    min (spinners events).length 4 := by
  rw [(registered hz events).count, BitVec.toNat_ofNat, Nat.mod_eq_of_lt]
  omega

/-- The rows a read shows are its levels'. -/
theorem shownLevels_eq : ((List.finRange 4).map fun i => ((run hz events).lev i).row i.val).take
    (BitVec.ofNat 32 (run hz events).nlev).toNat = shownLevels hz events := by
  have hAll : ((List.finRange 4).map fun i => ((run hz events).lev i).row i.val).length = 4 := by
    rw [List.length_map, List.length_finRange]
  rw [nlev_toNat, shownLevels]
  rcases Nat.le_total (spinners events).length 4 with hFew | hMany
  · rw [Nat.min_eq_left hFew]
  · rw [Nat.min_eq_right hMany, List.take_of_length_le hAll.le,
      List.take_of_length_le (hAll.trans_le hMany)]

/-- What a read gives of the levels and of the ring's counter; refused, it
gives none. -/
theorem read_levels : (parse (run hz events).image).map earlierOf =
    some (shownLevels hz events, (run hz events).ringNext.toNat) := by
  have hShared := shared hz events
  by_cases hNone : spinners events = []
  · have hFiled : filed hz events = [] := by
      apply List.eq_nil_iff_forall_not_mem.mpr
      intro c hMem
      obtain ⟨i, hi, -⟩ := (registered hz events).level c hMem
      rw [(registered hz events).count, hNone] at hi
      exact absurd hi (Nat.not_lt_zero _)
    have hNext : (run hz events).ringNext.toNat = 0 := by
      rw [hShared.ring.count, hFiled]
      rfl
    rw [parse_unbegun (magic_of_not_begun hz hNone), hNext, shownLevels, hNone]
    rfl
  · rw [parse_image (hShared.magic (hShared.begun hNone)), Option.map_some]
    show some ((run hz events).parsed.levels, _) = _
    rw [Recorder.parsed, shownLevels_eq]

variable {hz events}

/-- The row of a level that has spun is at its place. -/
theorem getElem?_shownLevels {i : Nat} {x : LevelRow} :
    (shownLevels hz events)[i]? = some x ↔
      ∃ l : LevelNo, l.val = i ∧ i < (spinners events).length ∧
        x = ((run hz events).lev l).row i := by
  rw [shownLevels, List.getElem?_take]
  by_cases hSpun : i < (spinners events).length
  · rw [if_pos hSpun]
    by_cases hLevel : i < 4
    · rw [List.getElem?_map, List.getElem?_eq_getElem (by rw [List.length_finRange]; exact hLevel),
        List.getElem_finRange, Option.map_some]
      constructor
      · intro hSame
        exact ⟨⟨i, hLevel⟩, rfl, hSpun, (Option.some.inj hSame).symm⟩
      · rintro ⟨l, rfl, -, rfl⟩
        rfl
    · rw [List.getElem?_eq_none (by rw [List.length_map, List.length_finRange]; omega)]
      constructor
      · intro hNone
        cases hNone
      · rintro ⟨l, rfl, -, -⟩
        exact absurd l.isLt hLevel
  · rw [if_neg hSpun]
    constructor
    · intro hNone
      cases hNone
    · rintro ⟨l, -, hSome, -⟩
      exact absurd hSome hSpun

end Reads

/-- The words of the threads' addresses are the addresses: they are pointers of
32 bits. -/
def Addressed (events : List Event) : Prop := ∀ addr ∈ spinners events, addr < 2 ^ 32

instance (events : List Event) : Decidable (Addressed events) :=
  inferInstanceAs (Decidable (∀ addr ∈ spinners events, addr < 2 ^ 32))

def Totals.base (t : Totals) : Base where
  spins := t.spins.toNat
  nobound := t.nobound.toNat
  late := t.late.toNat
  maxLateUs := t.maxLateUs.toNat
  hist := (List.ofFn t.hist).map BitVec.toNat

section Table
variable {hz addr : Nat} {pre post : List Event} {l : LevelNo}

/-- A level's number is its thread's place, in both reads. -/
theorem spinners_getElem? {i : Nat} (hOld : i < (spinners pre).length) :
    (spinners pre)[i]? = (spinners (pre ++ post))[i]? := by
  obtain ⟨rest, hRest⟩ := spinners_prefix pre post
  rw [← hRest, List.getElem?_append_left hOld]

/-- The earlier read's numbers of a level are those of the intervals its thread
had closed: none, if it was not there. -/
theorem baseOf_eq (hz : Nat) (hWords : Addressed (pre ++ post))
    (hAddr : (spinners (pre ++ post))[l.val]? = some addr) :
    baseOf (shownLevels hz pre) (((run hz (pre ++ post)).lev l).row l.val) =
      (totals hz (own hz (marksOf addr pre)).closed).base := by
  have hWord {a : Nat} (hMem : a ∈ spinners (pre ++ post)) : (BitVec.ofNat 32 a).toNat = a := by
    rw [BitVec.toNat_ofNat, Nat.mod_eq_of_lt (hWords a hMem)]
  have hTid : (((run hz (pre ++ post)).lev l).row l.val).tid = addr := by
    show ((run hz (pre ++ post)).lev l).tid.toNat = addr
    rw [tid_eq hAddr, hWord (List.mem_of_getElem? hAddr)]
  -- a level of the earlier read with the same thread is the same level
  have hSame {q : LevelRow} (hMem : q ∈ shownLevels hz pre) (hEq : q.tid = addr) :
      l.val < (spinners pre).length ∧ q = ((run hz pre).lev l).row l.val := by
    obtain ⟨j, hj⟩ := List.getElem?_of_mem hMem
    obtain ⟨k, rfl, hSpun, rfl⟩ := getElem?_shownLevels.mp hj
    obtain ⟨other, hOther⟩ : ∃ other, (spinners pre)[k.val]? = some other :=
      ⟨_, List.getElem?_eq_getElem hSpun⟩
    have hLater : (spinners (pre ++ post))[k.val]? = some other :=
      (spinners_getElem? hSpun).symm.trans hOther
    have hOtherWord : (((run hz pre).lev k).row k.val).tid = other := by
      show ((run hz pre).lev k).tid.toNat = other
      rw [tid_eq hOther, hWord (List.mem_of_getElem? hLater)]
    have hOne : other = addr := hOtherWord.symm.trans hEq
    rw [hOne] at hLater
    obtain ⟨hk, hGetK⟩ := List.getElem?_eq_some_iff.mp hLater
    obtain ⟨hl, hGetL⟩ := List.getElem?_eq_some_iff.mp hAddr
    have hIndex : k.val = l.val :=
      (List.Nodup.getElem_inj_iff spinners_nodup).mp (hGetK.trans hGetL.symm)
    obtain rfl := Fin.ext hIndex
    exact ⟨hSpun, rfl⟩
  rw [baseOf, hTid]
  cases hFound : (shownLevels hz pre).reverse.find? fun q => q.tid == addr with
  | some q =>
      have hMem := List.mem_reverse.mp (List.mem_of_find?_eq_some hFound)
      have hHit := List.find?_some hFound
      have hEq : q.tid = addr := beq_iff_eq.mp hHit
      obtain ⟨hOld, rfl⟩ := hSame hMem hEq
      have hBefore : (spinners pre)[l.val]? = some addr :=
        (spinners_getElem? hOld).trans hAddr
      rw [← ((registered hz pre).follows l addr hBefore).totals]
      rfl
  | none =>
      have hNew : ¬ l.val < (spinners pre).length := by
        intro hOld
        have hBefore : (spinners pre)[l.val]? = some addr := (spinners_getElem? hOld).trans hAddr
        have hShown : (shownLevels hz pre)[l.val]? = some (((run hz pre).lev l).row l.val) :=
          getElem?_shownLevels.mpr ⟨l, rfl, hOld, rfl⟩
        have hNot := List.find?_eq_none.mp hFound _
          (List.mem_reverse.mpr (List.mem_of_getElem? hShown))
        apply hNot
        rw [beq_iff_eq]
        show ((run hz pre).lev l).tid.toNat = addr
        rw [tid_eq hBefore, hWord (List.mem_of_getElem? hAddr)]
      have hOut : addr ∉ spinners pre := by
        intro hMem
        obtain ⟨j, hj, hGet⟩ := List.getElem_of_mem hMem
        have hLater : (spinners (pre ++ post))[j]? = some addr := by
          rw [← spinners_getElem? hj, List.getElem?_eq_getElem hj, hGet]
        obtain ⟨hj', hGetJ⟩ := List.getElem?_eq_some_iff.mp hLater
        obtain ⟨hl, hGetL⟩ := List.getElem?_eq_some_iff.mp hAddr
        have hIndex : j = l.val :=
          (List.Nodup.getElem_inj_iff spinners_nodup).mp (hGetJ.trans hGetL.symm)
        omega
      have hZeros : (((run hz (pre ++ post)).lev l).row l.val).hist.length = 40 := by
        show ((List.ofFn _).map BitVec.toNat).length = 40
        rw [List.length_map, List.length_ofFn]
      rw [own_of_not_mem hOut, hZeros]
      rfl

/-- The counter's word is the number of late records while it has not wrapped. -/
theorem ringNext_toNat (hCount : (filed hz pre).length < 2 ^ 32) :
    (run hz pre).ringNext.toNat = (filed hz pre).countP Rec.isLate := by
  rw [(shared hz pre).ring.count, ← List.countP_eq_length_filter, Nat.mod_eq_of_lt]
  exact List.countP_le_length.trans_lt hCount

theorem field_level (c : Rec) : field c.dict "level" = c.level.toNat := by
  simp [field, Rec.dict, recNames, Rec.words, List.lookup_cons]

theorem field_late (c : Rec) : field c.dict "late_us" = c.lateUs.toNat := by
  simp [field, Rec.dict, recNames, Rec.words, List.lookup_cons]

/-- What a level has in the ring of the records late between the reads. -/
theorem late_records (hAddr : (spinners (pre ++ post))[l.val]? = some addr) :
    (((filedBetween hz pre post).filter Rec.isLate).filter fun c => c.level.toNat = l.val).map
        (fun c => c.lateUs.toNat) =
      (readLates hz (actOf hz addr pre post)).filter (2000 ≤ ·) := by
  have hLevel (c : Rec) : decide (c.level.toNat = l.val) =
      (c.level == BitVec.ofNat 32 l.val) := by
    have hWord : (BitVec.ofNat 32 l.val).toNat = l.val := by
      have hLt := l.isLt
      rw [BitVec.toNat_ofNat, Nat.mod_eq_of_lt (by omega)]
    rw [Bool.eq_iff_iff, decide_eq_true_iff, beq_iff_eq]
    constructor
    · intro hSame
      exact BitVec.eq_of_toNat_eq (hSame.trans hWord.symm)
    · intro hSame
      rw [hSame, hWord]
  have hOutlines := outlines_between hz hAddr
  have hLates := congrArg
    (fun os => (os.filter fun o => decide (lateUs ≤ o.lateUs)).map fun o => o.lateUs.toNat) hOutlines
  simp only [List.filter_map, List.map_map] at hLates
  simp only [hLevel]
  rw [List.filter_comm]
  refine Eq.trans hLates ?_
  rw [readLates, List.filter_map, List.filter_filter]
  have hJudged : (actOf hz addr pre post).filter
      ((fun o : Outline => decide (lateUs ≤ o.lateUs)) ∘ Interval.outline hz) =
      (actOf hz addr pre post).filter fun iv =>
        ((fun late : Nat => decide (2000 ≤ late)) ∘ fun iv => (iv.lateUs hz).toNat) iv &&
          iv.bound.isSome := by
    apply List.filter_congr
    intro iv _
    rw [Bool.eq_iff_iff, Bool.and_eq_true]
    constructor
    · intro hLate
      have hMany : 2000 ≤ (iv.lateUs hz).toNat := of_decide_eq_true hLate
      exact ⟨decide_eq_true hMany, judged_of_late hz (by omega)⟩
    · exact And.left
  rw [hJudged]
  rfl

/-- While the ring has room for them, the reader finds a level's late records
between the reads. -/
theorem heldOf_eq (hz : Nat) (hCount : (filed hz (pre ++ post)).length < 2 ^ 32)
    (hRoom : lateBetween hz pre post ≤ 48)
    (hAddr : (spinners (pre ++ post))[l.val]? = some addr) :
    heldOf (run hz (pre ++ post)).parsed.ring (lateBetween hz pre post) l.val =
      (readLates hz (actOf hz addr pre post)).filter (2000 ≤ ·) := by
  have hRing := parsed_ring (r := run hz (pre ++ post))
  have hShared := shared hz (pre ++ post)
  rw [hShared.ring.entries_eq, ringNext_toNat hCount] at hRing
  have hAll : (filed hz (pre ++ post)).filter Rec.isLate =
      (filed hz pre).filter Rec.isLate ++ (filedBetween hz pre post).filter Rec.isLate := by
    rw [filed_append, List.filter_append]
  have hBetween : ((filedBetween hz pre post).filter Rec.isLate).length =
      lateBetween hz pre post := List.countP_eq_length_filter.symm
  have hTotal : (filed hz (pre ++ post)).countP Rec.isLate =
      ((filed hz pre).filter Rec.isLate).length + lateBetween hz pre post := by
    rw [List.countP_eq_length_filter, hAll, List.length_append, hBetween]
  have hLength : (run hz (pre ++ post)).parsed.ring.length =
      min ((filed hz (pre ++ post)).countP Rec.isLate) 48 := by
    have hLengths := congrArg List.length hRing
    rw [List.length_map, List.length_map, List.rtake, List.length_drop,
      ← List.countP_eq_length_filter] at hLengths
    rw [hLengths]
    omega
  have hDrop : (max 0 (((run hz (pre ++ post)).parsed.ring.length : Int) -
      (lateBetween hz pre post : Int))).toNat =
        min ((filed hz (pre ++ post)).countP Rec.isLate) 48 - lateBetween hz pre post := by
    rw [hLength]
    omega
  have hNewest : ((run hz (pre ++ post)).parsed.ring.map Prod.snd).drop
      (min ((filed hz (pre ++ post)).countP Rec.isLate) 48 - lateBetween hz pre post) =
        ((filedBetween hz pre post).filter Rec.isLate).map Rec.dict := by
    rw [hRing, List.rtake, ← List.map_drop, List.drop_drop, ← List.countP_eq_length_filter, hAll]
    congr 1
    rw [hTotal]
    apply List.drop_left'
    omega
  rw [heldOf, hDrop, ← late_records hAddr, ← List.filterMap_eq_map', ← List.filterMap_eq_filter]
  have hSnd : ((run hz (pre ++ post)).parsed.ring.drop
      (min ((filed hz (pre ++ post)).countP Rec.isLate) 48 - lateBetween hz pre post)).filterMap
        (fun e => if field e.2 "level" = l.val then some (field e.2 "late_us") else none) =
      (((filedBetween hz pre post).filter Rec.isLate).map Rec.dict).filterMap
        (fun d => if field d "level" = l.val then some (field d "late_us") else none) := by
    rw [← hNewest, ← List.map_drop, List.filterMap_map]
    rfl
  rw [hSnd, List.filterMap_map, List.filterMap_filterMap]
  apply List.filterMap_congr
  intro c _
  show (if field c.dict "level" = l.val then some (field c.dict "late_us") else none) = _
  rw [field_level, field_late]
  by_cases hOwn : c.level.toNat = l.val <;> simp [hOwn, Option.guard]

end Table

/-- A row tells the truth of a level's intervals between the reads. -/
structure RowSound (hz : Nat) (ivs : List Interval) (row : SegmentRow) : Prop where
  spins : row.spins = ivs.length
  judged : row.judged = (judgedLates hz ivs).length
  atLeast1 : row.atLeast1 = (judgedLates hz ivs).countP (1000 ≤ ·)
  late : row.late = (judgedLates hz ivs).countP (2000 ≤ ·)
  worst : row.worst.Sound (judgedLates hz ivs)

/-- The boot's greatest lateness moved, or the ring still holds every record
late between the reads, or no interval is past the histogram. -/
def Covered (hz : Nat) (pre post : List Event) (addr : Nat) : Prop :=
  maxLate hz (own hz (marksOf addr pre)).closed <
      maxLate hz (own hz (marksOf addr (pre ++ post))).closed ∨
    lateBetween hz pre post ≤ 48 ∨
    ∀ late ∈ judgedLates hz (actOf hz addr pre post), late < 40000

section Row
variable {hz addr : Nat} {pre post : List Event} {l : LevelNo}

/-- A count of the later read less that of the earlier, where neither has
wrapped. -/
theorem counted_between {xs ys : List Interval} (hSmall : (xs ++ ys).length < 2 ^ 32)
    (P : Interval → Bool) : ((BitVec.ofNat 32 ((xs ++ ys).countP P)).toNat : Int) -
      (BitVec.ofNat 32 (xs.countP P)).toNat = ys.countP P := by
  have hAll : (xs ++ ys).countP P < 2 ^ 32 := List.countP_le_length.trans_lt hSmall
  rw [List.countP_append] at hAll ⊢
  rw [BitVec.toNat_ofNat, BitVec.toNat_ofNat, Nat.mod_eq_of_lt hAll, Nat.mod_eq_of_lt (by omega)]
  omega

/-- The histogram of the act is the difference of two reads. -/
theorem hist_between {xs ys : List Interval} (hSmall : (xs ++ ys).length < 2 ^ 32) :
    List.zipWith (fun c c₀ : Nat => (c : Int) - c₀)
      ((List.ofFn (totals hz (xs ++ ys)).hist).map BitVec.toNat)
      ((List.ofFn (totals hz xs).hist).map BitVec.toNat) = histOf hz ys := by
  apply List.ext_getElem
  · rw [List.length_zipWith, List.length_map, List.length_map, List.length_ofFn, List.length_ofFn,
      histOf, List.length_ofFn]
    rfl
  · intro bin _ hBin
    rw [histOf, List.length_ofFn] at hBin
    rw [List.getElem_zipWith, List.getElem_map, List.getElem_map, List.getElem_ofFn,
      List.getElem_ofFn]
    simp only [histOf, List.getElem_ofFn]
    exact counted_between hSmall (inBin hz ⟨bin, hBin⟩)

/-- The level's intervals are among those of the run. -/
theorem length_closed_le (hz : Nat) (hAddr : (spinners pre)[l.val]? = some addr) :
    (own hz (marksOf addr pre)).closed.length ≤ (filed hz pre).length := by
  have hFiled := congrArg List.length ((registered hz pre).follows l addr hAddr).filed
  rw [List.length_map, List.length_map] at hFiled
  rw [← hFiled]
  exact List.length_filter_le _ _

/-- The row of a level, in the later read. -/
def actRow (hz : Nat) (pre post : List Event) (l : LevelNo) : SegmentRow :=
  rowOf (shownLevels hz pre) (lateBetween hz pre post) (run hz (pre ++ post)).parsed
    (((run hz (pre ++ post)).lev l).row l.val)

/-- What the row says, of the intervals before the reads and between them. -/
theorem actRow_eq (hWords : Addressed (pre ++ post))
    (hCount : (filed hz (pre ++ post)).length < 2 ^ 32)
    (hAddr : (spinners (pre ++ post))[l.val]? = some addr) {before act : List Interval}
    (hBefore : (own hz (marksOf addr pre)).closed = before)
    (hAct : actOf hz addr pre post = act) :
    actRow hz pre post l =
      { level := ((run hz (pre ++ post)).lev l).row l.val
        spins := act.length
        judged := act.length - (act.countP fun iv => iv.bound.isNone : Nat)
        atLeast1 := (histOf hz act).tail.sum
        late := (act.countP fun iv => lateUs ≤ iv.lateUs hz : Nat)
        worst := worstOfRow (maxLate hz before).toNat (maxLate hz (before ++ act)).toNat
          (heldOf (run hz (pre ++ post)).parsed.ring (lateBetween hz pre post) l.val)
          (lateBetween hz pre post) 48 (histOf hz act)
        hist := histOf hz act } := by
  have hTotals := ((registered hz (pre ++ post)).follows l addr hAddr).totals
  have hSmall := (length_closed_le hz hAddr).trans_lt hCount
  have hBase := baseOf_eq hz hWords hAddr
  rw [closed_append, hBefore, hAct] at hTotals hSmall
  rw [hBefore] at hBase
  have hSpins : ((((run hz (pre ++ post)).lev l).spins.toNat : Int) -
      (totals hz before).spins.toNat) = act.length := by
    have hAll := counted_between hSmall fun _ => true
    simp only [List.countP_true] at hAll
    have hWord : ((run hz (pre ++ post)).lev l).spins = (totals hz (before ++ act)).spins :=
      congrArg Totals.spins hTotals
    rw [hWord]
    exact hAll
  have hNobound : ((((run hz (pre ++ post)).lev l).nobound.toNat : Int) -
      (totals hz before).nobound.toNat) = (act.countP fun iv => iv.bound.isNone : Nat) := by
    have hWord : ((run hz (pre ++ post)).lev l).nobound = (totals hz (before ++ act)).nobound :=
      congrArg Totals.nobound hTotals
    rw [hWord]
    exact counted_between hSmall _
  have hLate : ((((run hz (pre ++ post)).lev l).late.toNat : Int) -
      (totals hz before).late.toNat) = (act.countP fun iv => lateUs ≤ iv.lateUs hz : Nat) := by
    have hWord : ((run hz (pre ++ post)).lev l).late = (totals hz (before ++ act)).late :=
      congrArg Totals.late hTotals
    rw [hWord]
    exact counted_between hSmall _
  have hHist : List.zipWith (fun c c₀ : Nat => (c : Int) - c₀)
      ((List.ofFn ((run hz (pre ++ post)).lev l).hist).map BitVec.toNat)
      ((List.ofFn (totals hz before).hist).map BitVec.toNat) = histOf hz act := by
    have hWord : ((run hz (pre ++ post)).lev l).hist = (totals hz (before ++ act)).hist :=
      congrArg Totals.hist hTotals
    rw [hWord]
    exact hist_between hSmall
  have hMax : ((run hz (pre ++ post)).lev l).maxLateUs = maxLate hz (before ++ act) :=
    congrArg Totals.maxLateUs hTotals
  rw [actRow, rowOf, hBase]
  simp only [Totals.base, Level.row, hSpins, hNobound, hLate, hHist, hMax]
  rfl

/-- A level's row is sound exactly where its worst lateness is covered. -/
theorem rowSound_iff (hWords : Addressed (pre ++ post))
    (hCount : (filed hz (pre ++ post)).length < 2 ^ 32)
    (hFits : ∀ iv ∈ actOf hz addr pre post, iv.Fits hz)
    (hAddr : (spinners (pre ++ post))[l.val]? = some addr) :
    RowSound hz (actOf hz addr pre post) (actRow hz pre post l) ↔ Covered hz pre post addr := by
  have hMoved : Covered hz pre post addr ↔
      (maxLate hz (own hz (marksOf addr pre)).closed).toNat <
        (maxLate hz ((own hz (marksOf addr pre)).closed ++ actOf hz addr pre post)).toNat ∨
      lateBetween hz pre post ≤ 48 ∨
      ∀ late ∈ readLates hz (actOf hz addr pre post), late < 40000 := by
    rw [Covered, closed_append, judgedLates_eq hFits]
    rfl
  have hLates := judgedLates_eq hFits
  have hHeld := fun hRoom => heldOf_eq hz hCount hRoom hAddr
  rw [hMoved, actRow_eq hWords hCount hAddr rfl rfl]
  generalize (own hz (marksOf addr pre)).closed = before at *
  generalize actOf hz addr pre post = act at *
  generalize heldOf (run hz (pre ++ post)).parsed.ring (lateBetween hz pre post) l.val = held at *
  have hWorst : (worstOfRow (maxLate hz before).toNat (maxLate hz (before ++ act)).toNat held
      (lateBetween hz pre post) 48 (histOf hz act)).Sound (readLates hz act) ↔
      (maxLate hz before).toNat < (maxLate hz (before ++ act)).toNat ∨
        lateBetween hz pre post ≤ 48 ∨ ∀ late ∈ readLates hz act, late < 40000 := by
    rw [worstOfRow]
    split_ifs with hBoot hRing
    · -- the boot's greatest is one of the level's, and bounds them all
      refine ⟨fun _ => .inl hBoot, fun _ late hMem => ?_⟩
      obtain ⟨iv, hIn, -, rfl⟩ := mem_readLates.mp hMem
      exact late_le_maxLate (List.mem_append_right _ hIn)
    · have hRoom : lateBetween hz pre post ≤ 48 := Int.ofNat_le.mp hRing.2
      refine ⟨fun _ => .inr (.inl hRoom), fun _ => ?_⟩
      have hSome := hRing.1
      rw [hHeld hRoom] at hSome ⊢
      exact ring_sound hSome
    · rw [histogram_sound]
      constructor
      · exact fun hLow => .inr (.inr hLow)
      · rintro (hMore | hRoom | hLow)
        · exact absurd hMore hBoot
        · -- nothing of the level is in the ring, so none of it was late
          have hNone : (readLates hz act).filter (2000 ≤ ·) = [] := by
            rw [← hHeld hRoom]
            by_contra hSome
            exact hRing ⟨hSome, Int.ofNat_le.mpr hRoom⟩
          intro late hMem
          have hNot := List.filter_eq_nil_iff.mp hNone late hMem
          rw [decide_eq_true_iff] at hNot
          omega
        · exact hLow
  constructor
  · intro hRow
    have hSound := hRow.worst
    rw [hLates] at hSound
    exact hWorst.mp hSound
  · intro hCovered
    refine ⟨rfl, ?_, ?_, ?_, hLates ▸ hWorst.mpr hCovered⟩
    · have hParts : act.length = (act.countP fun iv => iv.bound.isSome) +
          act.countP fun iv => iv.bound.isNone := by
        rw [List.length_eq_countP_add_countP fun iv : Interval => iv.bound.isSome]
        congr 1
        apply List.countP_congr
        intro iv _
        cases iv.bound <;> simp
      rw [hLates, length_readLates]
      show ((act.length : Nat) : Int) - _ = _
      rw [hParts]
      push_cast
      omega
    · rw [hLates]
      exact sum_tail_histOf
    · show ((_ : Nat) : Int) = _
      rw [hLates, countP_late]

end Row

end SafetyIsland.SpinDiag
