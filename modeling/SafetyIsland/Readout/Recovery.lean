import SafetyIsland.Readout.Layout

/-! The whole record read back: every word under its own name, every row in its
place, and of any prefix nothing that the whole record does not show. -/
namespace SafetyIsland.Readout
open StructImage

section Words
variable {d : Dict} {name : String} {v : Int}

/-- Where no name comes twice, a lookup finds the pair. -/
theorem lookup_eq_some (h : (d.map Prod.fst).Nodup) : d.lookup name = some v ↔ (name, v) ∈ d := by
  induction d with
  | nil => simp
  | cons kv rest ih =>
      obtain ⟨hNew, hRest⟩ := List.nodup_cons.mp h
      rw [List.lookup_cons, List.mem_cons]
      by_cases hName : name = kv.1
      · rw [hName, beq_self_eq_true]
        constructor
        · intro hSome
          left
          rw [← Option.some.inj hSome]
        · rintro (hHead | hTail)
          · rw [← hHead]
          · exact absurd (List.mem_map_of_mem hTail) hNew
      · rw [beq_eq_false_iff_ne.mpr hName]
        simp only [ih hRest]
        constructor
        · exact Or.inr
        · rintro (hHead | hTail)
          · exact absurd (congrArg Prod.fst hHead) hName
          · exact hTail

theorem Dict.get_eq_some (h : (d.map Prod.fst).Nodup) :
    Dict.get d name = some v ↔ (name, v) ∈ d := by
  have hReverse : (d.reverse.map Prod.fst).Nodup := by
    rw [List.map_reverse]
    exact List.nodup_reverse.mpr h
  rw [Dict.get, lookup_eq_some hReverse, List.mem_reverse]

end Words

namespace Record
variable (r : Record)

/-- Every word outside the rows, under its field's name. -/
def named : Dict :=
  r.header.dict ++ r.tail.dict ++ r.prioDict ++ r.late.dict ++ r.levelWords.dict ++
    r.floor.dict ++ r.unseen.dict ++ r.resume.dict ++ r.response.dict

/-- The groups hold every word of the record, in order. -/
theorem flatten_groups : (r.groups.map Prod.snd).flatten = r.named := by
  simp only [groups, named, List.map_cons, List.map_nil, List.flatten_cons, List.flatten_nil,
    List.append_nil, List.append_assoc]

/-- No word of the record has another's name. -/
theorem names_nodup : (r.named.map Prod.fst).Nodup := by
  have hNames : r.named.map Prod.fst = supHeader ++ supTail ++ supPrio ++ supLate ++ supLevels ++
      supFloor ++ supFloorUnseen ++ supResume ++ supResponse := rfl
  rw [hNames]
  decide +kernel

end Record

/-- The decoder has every word and row of the record, and no others. -/
structure Recovers (r : Record) (d : Decoded) : Prop where
  words : ∀ name v, Dict.get d.words name = some v ↔ (name, v) ∈ r.named
  /-- Three in `route[]`, then the two appended. -/
  route : d.route = [r.route 0, r.route 1, r.route 2, r.routeFloor, r.routeResponse].map
    fun x => x.named.dict
  direct : d.direct = [(r.direct 0).named.dict, (r.direct 1).named.dict]
  threads : d.threads = some (((List.finRange 12).take r.prioThreads.toNat).map fun i =>
    (r.thread i).entry)
  level : d.level = some (((List.finRange 4).take r.levelCount.toNat).map fun i =>
    (r.level i).dict)

/-- What one decoding shows the other shows as well, in the same place. -/
structure SubRecord (d all : Decoded) : Prop where
  words : ∀ name v, Dict.get d.words name = some v → Dict.get all.words name = some v
  route : d.route <+: all.route
  direct : d.direct <+: all.direct
  threads : ∀ rows, d.threads = some rows → ∃ full, all.threads = some full ∧ rows <+: full
  level : ∀ rows, d.level = some rows → ∃ full, all.level = some full ∧ rows <+: full

namespace Record
variable (r : Record)

/-- The whole record is recovered by name. -/
theorem shown_whole : Recovers r (r.shown 217) := by
  have hGroups : fitting 217 r.groups = r.groups.map Prod.snd := fitting_all (by simp [groups])
  have hRoutes : fitting 217 r.routeRows = r.routeRows.map Prod.snd :=
    fitting_all (by simp [routeRows, List.finRange_succ])
  have hDirect : fitting 217 r.directRows = r.directRows.map Prod.snd :=
    fitting_all (by simp [directRows, List.finRange_succ])
  have hThreads : fitting 217 r.threadRows = r.threadRows.map Prod.snd := by
    apply fitting_all
    intro row hRow
    obtain ⟨i, -, rfl⟩ := List.mem_map.mp hRow
    have hLast := i.isLt
    show 62 + (i.val + 1) * 5 ≤ 217
    omega
  have hLevels : fitting 217 r.levelRows = r.levelRows.map Prod.snd := by
    apply fitting_all
    intro row hRow
    obtain ⟨i, -, rfl⟩ := List.mem_map.mp hRow
    have hLast := i.isLt
    show 135 + (i.val + 1) * 10 ≤ 217
    omega
  constructor
  · intro name v
    rw [shown, hGroups, flatten_groups]
    exact Dict.get_eq_some r.names_nodup
  · exact hRoutes
  · exact hDirect
  · show some (fitting 217 r.threadRows) = _
    rw [hThreads, threadRows, List.map_map]
    rfl
  · show some (fitting 217 r.levelRows) = _
    rw [hLevels, levelRows, List.map_map]
    rfl

/-- Fewer words show a part of what more of them show. -/
theorem shown_sub {n : Nat} (hWhole : Recovers r (r.shown 217)) :
    SubRecord (r.shown n) (r.shown 217) := by
  have hPrefix : (r.shown n).words <+: r.named := by
    rw [← flatten_groups]
    obtain ⟨rest, hRest⟩ := fitting_prefix_all n r.groups
    rw [← hRest, List.flatten_append]
    exact List.prefix_append _ _
  have hNodup : ((r.shown n).words.map Prod.fst).Nodup :=
    (hPrefix.sublist.map Prod.fst).nodup r.names_nodup
  constructor
  · intro name v hGet
    apply (hWhole.words name v).mpr
    exact hPrefix.subset ((Dict.get_eq_some hNodup).mp hGet)
  · rw [hWhole.route]
    exact fitting_prefix_all n r.routeRows
  · rw [hWhole.direct]
    exact fitting_prefix_all n r.directRows
  · intro rows hRows
    refine ⟨_, hWhole.threads, ?_⟩
    rw [shown] at hRows
    dsimp only at hRows
    split_ifs at hRows
    cases hRows
    have hAll := fitting_prefix_all n r.threadRows
    rw [threadRows, List.map_map] at hAll
    exact hAll
  · intro rows hRows
    refine ⟨_, hWhole.level, ?_⟩
    rw [shown] at hRows
    dsimp only at hRows
    split_ifs at hRows
    cases hRows
    have hAll := fitting_prefix_all n r.levelRows
    rw [levelRows, List.map_map] at hAll
    exact hAll

end Record

/-- The decoder and the struct agree on every offset, and each prefix decodes to a
part of the record. -/
theorem supervisorDecode_image (r : Record) (hSound : r.Sound) :
    r.image.length = supervisorLayoutBytes 3 4 ∧
      ∃ d, supervisorDecode r.image = some d ∧ Recovers r d ∧
        ∀ blob, blob <+: r.image → supHeader.length * 4 ≤ blob.length →
          ∃ part, supervisorDecode blob = some part ∧ SubRecord part d := by
  have hBytes : r.image.length = 868 := r.length_image
  have hWhole := r.shown_whole
  refine ⟨hBytes, r.shown 217, ?_, hWhole, ?_⟩
  · have hTake := r.supervisorDecode_take (Nat.le_refl _) hSound (by omega)
    rw [List.take_length, hBytes] at hTake
    exact hTake
  · intro blob hPrefix hHeader
    have hTake : blob = r.image.take blob.length := List.prefix_iff_eq_take.mp hPrefix
    refine ⟨r.shown (blob.length / 4), ?_, r.shown_sub hWhole⟩
    have hDecode := r.supervisorDecode_take hPrefix.length_le hSound hHeader
    rw [← hTake] at hDecode
    exact hDecode

/-- The record of an image in which the direct path resumed the operator's slot
and the response check found the vehicle at fault. -/
def resumedRecord : Record :=
  { magic := 0x56505553, routes := 3, levels := 4, levelCount := 2, prioTaken := 1
    prioThreads := 3, floorUnseen := 2, resumePeriods := 3
    resumed := fun i => if i.val = 1 then 1 else 0, vehicleFaultRoute := 4 }

theorem supervisorDecode_resumed :
    resumedRecord.image.length = supervisorLayoutBytes 3 4 ∧
      ∃ d, supervisorDecode resumedRecord.image = some d ∧ Recovers resumedRecord d ∧
        ∀ blob, blob <+: resumedRecord.image → supHeader.length * 4 ≤ blob.length →
          ∃ part, supervisorDecode blob = some part ∧ SubRecord part d :=
  supervisorDecode_image resumedRecord
    { routes := rfl
      levels := rfl
      levelCount := by decide
      prioTaken := Or.inr rfl
      prioThreads := by decide
      threadNames := by decide
      levelNames := by decide }

end SafetyIsland.Readout
