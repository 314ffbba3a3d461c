import SafetyIsland.SpinDiag.ActTable

/-! When the act's table can be trusted: over every run and every two reads of
it, and a run in which its worst lateness is not. -/
namespace SafetyIsland.SpinDiag
open Transition

section Table
variable {hz : Nat} {pre post : List Event}

/-- No event files two records. -/
theorem length_filedBetween_le (pre post : List Event) :
    (filedBetween hz pre post).length ≤ post.length := by
  have hAll : (filed hz (pre ++ post)).length ≤ (filed hz pre).length + post.length := by
    induction post using List.reverseRecOn with
    | nil => rw [List.append_nil, List.length_nil, Nat.add_zero]
    | append_singleton post e ih =>
        have hOne : (files hz (run hz (pre ++ post)) e).length ≤ 1 := by
          have hStep := step hz (run hz (pre ++ post)) e
          generalize next hz (run hz (pre ++ post)) e = r' at hStep
          generalize files hz (run hz (pre ++ post)) e = more at hStep
          cases hStep with
          | lockWait => exact Nat.zero_le _
          | call =>
              split_ifs
              · exact Nat.le_refl _
              · exact Nat.zero_le _
          | ignored => exact Nat.zero_le _
          | newcomer => exact Nat.zero_le _
          | dropped => exact Nat.zero_le _
        rw [← List.append_assoc, filed_concat, List.length_append, List.length_append,
          List.length_singleton]
        omega
  rw [filed_append, List.length_append] at hAll
  omega

/-- No more intervals are closed than there are events. -/
theorem length_filed_le (events : List Event) : (filed hz events).length ≤ events.length := by
  have hBetween : (filedBetween hz [] events).length ≤ events.length :=
    length_filedBetween_le [] events
  have hAll := congrArg List.length (filed_append hz [] events)
  rw [List.length_append, List.nil_append] at hAll
  have hNone : (filed hz []).length = 0 := rfl
  omega

/-- Once a thread spins the table has a row for each level. -/
theorem segment_eq (hCount : (filed hz (pre ++ post)).length < 2 ^ 32)
    (hSpun : spinners (pre ++ post) ≠ []) :
    segment (run hz pre).image (run hz (pre ++ post)).image = some (.inr
      { lateThr := (run hz (pre ++ post)).lateUs.toNat
        rows := (shownLevels hz (pre ++ post)).map
          (rowOf (shownLevels hz pre) (lateBetween hz pre post) (run hz (pre ++ post)).parsed)
        wrapped := if (48 : Int) < lateBetween hz pre post then
          some (lateBetween hz pre post, 48) else none }) := by
  have hShared := shared hz (pre ++ post)
  have hPre : (filed hz pre).length < 2 ^ 32 :=
    (filed_begins hz pre post).length_le.trans_lt hCount
  have hNew : ((run hz (pre ++ post)).ringNext.toNat : Int) - (run hz pre).ringNext.toNat =
      lateBetween hz pre post := by
    rw [ringNext_toNat hCount, ringNext_toNat hPre, filed_append, List.countP_append, lateBetween]
    omega
  have hRead := read_levels hz pre
  rw [segment, parse_image (hShared.magic (hShared.begun hSpun)), Option.bind_some]
  cases hParse : parse (run hz pre).image with
  | none =>
      rw [hParse] at hRead
      cases hRead
  | some read =>
      rw [hParse, Option.map_some] at hRead
      have hLevels := Option.some.inj hRead
      simp only [Option.map_some]
      rw [hLevels]
      simp only [Recorder.parsed, shownLevels_eq, hNew]
      rfl

end Table

/-- The act's table, of two reads of a boot: a row for each level, each true of
what its thread closed between the reads. -/
structure SegmentSound (hz : Nat) (pre post : List Event) : Prop where
  printed : spinners (pre ++ post) ≠ [] → ∃ table,
    segment (run hz pre).image (run hz (pre ++ post)).image = some (.inr table) ∧
      table.rows.length = min (spinners (pre ++ post)).length 4
  sound : ∀ table, segment (run hz pre).image (run hz (pre ++ post)).image = some (.inr table) →
    ∀ i row, table.rows[i]? = some row → ∃ addr, (spinners (pre ++ post))[i]? = some addr ∧
      row.level.index = i ∧ RowSound hz (actOf hz addr pre post) row

section Sound
variable {hz : Nat} {pre post : List Event}

/-- The row of a level is in the table. -/
theorem row_of_level {l : LevelNo} {addr : Nat}
    (hAddr : (spinners (pre ++ post))[l.val]? = some addr) :
    ((shownLevels hz (pre ++ post)).map (rowOf (shownLevels hz pre) (lateBetween hz pre post)
      (run hz (pre ++ post)).parsed))[l.val]? = some (actRow hz pre post l) := by
  have hLt := (List.getElem?_eq_some_iff.mp hAddr).1
  rw [List.getElem?_map, getElem?_shownLevels.mpr ⟨l, rfl, hLt, rfl⟩]
  rfl

/-- A table that can be trusted covers each of its levels. -/
theorem covered_of_sound (hWords : Addressed (pre ++ post))
    (hCount : (filed hz (pre ++ post)).length < 2 ^ 32) (h : SegmentSound hz pre post)
    {l : LevelNo} {addr : Nat} (hAddr : (spinners (pre ++ post))[l.val]? = some addr)
    (hFits : ∀ iv ∈ actOf hz addr pre post, iv.Fits hz) : Covered hz pre post addr := by
  have hSpun : spinners (pre ++ post) ≠ [] := List.ne_nil_of_mem (List.mem_of_getElem? hAddr)
  obtain ⟨other, hOther, -, hSound⟩ :=
    h.sound _ (segment_eq hCount hSpun) l.val _ (row_of_level hAddr)
  obtain rfl : addr = other := Option.some.inj (hAddr.symm.trans hOther)
  exact (rowSound_iff hWords hCount hFits hAddr).mp hSound

/-- While the counter turns over in no interval of the act, its table can be
trusted, for every level, exactly when the boot's greatest lateness moved
between the reads, or no more records were late than the ring keeps, or none of
the level was past the histogram. -/
theorem segmentSound_iff (hWords : Addressed (pre ++ post))
    (hCount : (filed hz (pre ++ post)).length < 2 ^ 32)
    (hFits : ∀ addr ∈ (spinners (pre ++ post)).take 4, ∀ iv ∈ actOf hz addr pre post,
      iv.Fits hz) : SegmentSound hz pre post ↔
      ∀ (l : LevelNo) addr, (spinners (pre ++ post))[l.val]? = some addr →
        Covered hz pre post addr := by
  have hLevel (l : LevelNo) {addr : Nat} (hAddr : (spinners (pre ++ post))[l.val]? = some addr) :
      ∀ iv ∈ actOf hz addr pre post, iv.Fits hz := by
    apply hFits
    apply List.mem_of_getElem? (i := l.val)
    rw [List.getElem?_take_of_lt l.isLt, hAddr]
  constructor
  · intro h l addr hAddr
    exact covered_of_sound hWords hCount h hAddr (hLevel l hAddr)
  · intro hCovered
    constructor
    · intro hSpun
      refine ⟨_, segment_eq hCount hSpun, ?_⟩
      rw [List.length_map, shownLevels, List.length_take, List.length_map, List.length_finRange]
    · intro table hTable i row hGet
      by_cases hSpun : spinners (pre ++ post) = []
      · -- nothing has spun: the later read is refused
        rw [segment, parse_unbegun (magic_of_not_begun hz hSpun)] at hTable
        cases hTable
      · rw [segment_eq hCount hSpun] at hTable
        obtain rfl := Sum.inr.inj (Option.some.inj hTable)
        rw [List.getElem?_map] at hGet
        obtain ⟨x, hShown, hIs⟩ := Option.map_eq_some_iff.mp hGet
        obtain ⟨l, rfl, hLt, rfl⟩ := getElem?_shownLevels.mp hShown
        have hAddr := List.getElem?_eq_getElem hLt
        refine ⟨_, hAddr, ?_, ?_⟩
        · rw [← hIs]
          rfl
        · rw [← hIs]
          exact (rowSound_iff hWords hCount (hLevel l hAddr) hAddr).mpr (hCovered l _ hAddr)

end Sound

/-- Two threads spin, each an interval in the act. -/
theorem segmentSound_twoLevels :
    SegmentSound 1000000 (twoLevels.take 4) (twoLevels.drop 4) := by
  have hFew : (twoLevels.drop 4).length ≤ 48 := by decide
  have hEvents : (twoLevels.take 4 ++ twoLevels.drop 4).length < 2 ^ 32 := by decide
  apply (segmentSound_iff (by decide) ((length_filed_le _).trans_lt hEvents) (by decide)).mpr
  intro l addr _
  have hLate : lateBetween 1000000 (twoLevels.take 4) (twoLevels.drop 4) ≤ 48 :=
    (List.countP_le_length.trans (length_filedBetween_le _ _)).trans hFew
  exact .inr (.inl hLate)

/-- A spin entered at a time, its park bound 0. -/
def spinAt (cycles : Nat) : List Event := [phaseAt 7 0 0 cycles, phaseAt 7 1 0 cycles]

/-- Before the act an interval 200 ms late; in it one 100 ms late, and 48 that
are 2 ms late. -/
def wrapPre : List Event := spinAt 0 ++ spinAt 200000
def wrapPost : List Event := (List.range 49).flatMap fun k => spinAt (300000 + 2000 * k)

theorem spinners_wrap : spinners wrapPre = [7] ∧ spinners (wrapPre ++ wrapPost) = [7] := by
  decide +kernel

theorem lates_wrap :
    (own 1000000 (marksOf 7 wrapPre)).closed.map (Interval.lateUs 1000000) = [200000] ∧
    (own 1000000 (marksOf 7 (wrapPre ++ wrapPost))).closed.map (Interval.lateUs 1000000) =
      200000 :: 100000 :: List.replicate 48 2000 := by
  decide +kernel

theorem fits_wrap : ∀ iv ∈ actOf 1000000 7 wrapPre wrapPost, iv.Fits 1000000 := by
  decide +kernel

/-- The act files one late record more than the ring keeps. -/
theorem lateBetween_wrap : lateBetween 1000000 wrapPre wrapPost = 49 := by
  have hPre := length_late_eq 1000000 spinners_wrap.1
  have hAll := length_late_eq 1000000 spinners_wrap.2
  have hCount (ivs : List Interval) : (ivs.countP fun iv => lateUs ≤ iv.lateUs 1000000) =
      (ivs.map (Interval.lateUs 1000000)).countP (lateUs ≤ ·) := by
    rw [List.countP_map]
    rfl
  rw [hCount, lates_wrap.1] at hPre
  rw [hCount, lates_wrap.2] at hAll
  have hPre1 : [(200000 : U32)].countP (lateUs ≤ ·) = 1 := by decide
  have hAll50 : (200000 :: 100000 :: List.replicate 48 (2000 : U32)).countP (lateUs ≤ ·) = 50 := by
    decide
  rw [hPre1] at hPre
  rw [hAll50, filed_append, List.filter_append, List.length_append, hPre] at hAll
  rw [lateBetween, List.countP_eq_length_filter]
  omega

/-- The interval 100 ms late is printed as below 40 ms. -/
theorem not_segmentSound : ¬ SegmentSound 1000000 wrapPre wrapPost := by
  intro h
  have hAddr : (spinners (wrapPre ++ wrapPost))[(0 : LevelNo).val]? = some 7 := by
    rw [spinners_wrap.2]
    rfl
  have hWords : Addressed (wrapPre ++ wrapPost) := by
    intro addr hMem
    rw [spinners_wrap.2, List.mem_singleton] at hMem
    omega
  have hEvents : (wrapPre ++ wrapPost).length < 2 ^ 32 := by decide +kernel
  have hCount : (filed 1000000 (wrapPre ++ wrapPost)).length < 2 ^ 32 :=
    (length_filed_le _).trans_lt hEvents
  rcases covered_of_sound hWords hCount h hAddr fits_wrap with hMoved | hRoom | hLow
  · rw [maxLate, maxLate, lates_wrap.1, lates_wrap.2] at hMoved
    exact absurd hMoved (by decide +kernel)
  · rw [lateBetween_wrap] at hRoom
    omega
  · have hAct : (actOf 1000000 7 wrapPre wrapPost).map (Interval.lateUs 1000000) =
        100000 :: List.replicate 48 2000 := by
      have hPre := congrArg List.length lates_wrap.1
      rw [List.length_map] at hPre
      rw [actOf, hPre, List.map_drop, lates_wrap.2]
      rfl
    have hMem : (100000 : U32) ∈
        (actOf 1000000 7 wrapPre wrapPost).map (Interval.lateUs 1000000) := by
      rw [hAct]
      exact List.mem_cons_self
    obtain ⟨iv, hIn, hLate⟩ := List.mem_map.mp hMem
    have hWord : (iv.lateUs 1000000).toNat = 100000 := by
      rw [hLate]
      rfl
    rw [judgedLates_eq fits_wrap] at hLow
    have hBad := hLow 100000
      (mem_readLates.mpr ⟨iv, hIn, judged_of_late 1000000 (by omega), hWord⟩)
    omega

end SafetyIsland.SpinDiag
