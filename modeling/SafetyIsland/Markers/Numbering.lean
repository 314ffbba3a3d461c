import SafetyIsland.Markers.Table

/-! Where `build_table` puts each marker: the numbers follow the rows, the paths
come first, two by two, and no two groups share a name. -/
namespace SafetyIsland.Markers.SystemModel
open Numbered

variable {model : SystemModel} {g : Groups}

/-- A marker of the table is a row, under its number. -/
theorem Groups.mem_table {m : Marker} :
    m ∈ g.table ↔ ∃ (i : Nat) (row : Row), g.rows[i]? = some row ∧ row.marker (i + 1) = m :=
  Numbered.mem_table

/-- The table is numbered from 1 on. -/
theorem Groups.table_ids : g.table.map Marker.id = List.range' 1 g.table.length :=
  map_number fun _ _ => rfl

/-- A number belongs to one marker. -/
theorem Groups.table_ext {m m' : Marker} (hm : m ∈ g.table) (hm' : m' ∈ g.table)
    (hId : m.id = m'.id) : m = m' := by
  obtain ⟨i, row, hRow, rfl⟩ := mem_table.mp hm
  obtain ⟨j, row', hRow', rfl⟩ := mem_table.mp hm'
  have hSame : i = j := Nat.succ.inj hId
  subst hSame
  rw [Option.some.inj (hRow.symm.trans hRow')]

/-- Every number up to the table's length does belong to one. -/
theorem Groups.table_number {n : Nat} (hFirst : 1 ≤ n) (hLast : n ≤ g.table.length) :
    ∃! m, m ∈ g.table ∧ m.id = n := by
  have hMem : n ∈ g.table.map Marker.id := by
    rw [table_ids, List.mem_range'_1]
    omega
  obtain ⟨m, hm, hId⟩ := List.mem_map.mp hMem
  exact ⟨m, ⟨hm, hId⟩, fun m' ⟨hm', hId'⟩ => table_ext hm' hm (hId'.trans hId.symm)⟩

/-- Both markers of a pair stand in the table, the second right behind the
first. -/
theorem Groups.pair_marker {k : Nat} {pair : Row × Row} (hPair : g.paths[k]? = some pair) :
    pair.1.marker (2 * k + 1) ∈ g.table ∧
      pair.2.marker (2 * k + 2) ∈ g.table := by
  have hBound : k < g.paths.length := (List.getElem?_eq_some_iff.mp hPair).1
  have hLength : (paired g.paths).length = 2 * g.paths.length := length_paired
  constructor
  · apply mem_table.mpr
    refine ⟨2 * k, pair.1, ?_, rfl⟩
    rw [Groups.rows, List.getElem?_append_left (by omega), getElem?_paired_even, hPair]
    rfl
  · apply mem_table.mpr
    refine ⟨2 * k + 1, pair.2, ?_, rfl⟩
    rw [Groups.rows, List.getElem?_append_left (by omega), getElem?_paired_odd, hPair]
    rfl

namespace Groups.From
variable (h : g.From model)
include h

/-- A path's two rows name one element, and carry the same extras. -/
theorem path {pair : Row × Row} (hPair : pair ∈ g.paths) :
    pair.1.kind = .pathEntry ∧ pair.2.kind = .pathExit ∧ pair.1.element = pair.2.element ∧
      pair.2.extra = pair.1.extra := by
  obtain ⟨key, -, hKey⟩ := mapM_row h.paths hPair
  obtain ⟨-, -, -, -, -, -, -, hEntry, hExit, hFirst, hSecond, hExtra⟩ := pathRows_eq_some hKey
  exact ⟨hEntry, hExit, hFirst.trans hSecond.symm, hExtra⟩

/-- Each pair's path, in order. -/
theorem path_elements : g.paths.map (fun pair => pair.1.element) = model.nodePaths.sorted := by
  have hMap : g.paths.map (fun pair => pair.1.element) = model.nodePaths.sorted.map id := by
    apply mapM_map h.paths
    intro key pair hKey
    obtain ⟨-, -, -, -, -, -, -, -, -, hFirst, -⟩ := pathRows_eq_some hKey
    exact hFirst
  rw [hMap, List.map_id]

/-- A path has one pair. -/
theorem path_index {j k : Nat} {pair pair' : Row × Row} (hj : g.paths[j]? = some pair)
    (hk : g.paths[k]? = some pair') (hSame : pair.1.element = pair'.1.element) : j = k := by
  have hNodup : (g.paths.map fun pair => pair.1.element).Nodup := by
    rw [h.path_elements]
    exact (List.perm_insertionSort _ _).nodup_iff.mpr model.nodePaths.nodupKeys
  have hElements : (g.paths.map fun pair => pair.1.element)[j]? =
      (g.paths.map fun pair => pair.1.element)[k]? := by
    rw [List.getElem?_map, List.getElem?_map, hj, hk, Option.map_some, Option.map_some, hSame]
  have hBound : j < (g.paths.map fun pair => pair.1.element).length := by
    rw [List.length_map]
    exact (List.getElem?_eq_some_iff.mp hj).1
  exact (List.getElem?_inj hBound hNodup).mp hElements

/-- No other group holds a path's marker. -/
theorem other_kind {row : Row}
    (hRow : row ∈ g.takes ++ (g.calls ++ (paired g.serves ++ (g.pubs ++ g.board)))) :
    row.kind ≠ .pathEntry ∧ row.kind ≠ .pathExit := by
  simp only [List.mem_append] at hRow
  obtain hTake | hCall | hServe | hPub | hBoard := hRow
  · obtain ⟨take, -, hRow⟩ := mapM_row h.takes hTake
    obtain ⟨-, -, -, -, hKind⟩ := takeRow_eq_some hRow
    rw [hKind]
    decide
  · obtain ⟨call, -, hRow⟩ := mapM_row h.calls hCall
    obtain ⟨-, -, -, -, hKind⟩ := callRow_eq_some hRow
    rw [hKind]
    decide
  · obtain ⟨pair, hPair, hSide⟩ := List.mem_flatMap.mp hServe
    obtain ⟨serve, -, hRow⟩ := mapM_row h.serves hPair
    obtain ⟨-, -, -, -, -, hEntry, hExit⟩ := serveRows_eq_some hRow
    simp only [List.mem_cons, List.not_mem_nil, or_false] at hSide
    obtain rfl | rfl := hSide
    · rw [hEntry]
      decide
    · rw [hExit]
      decide
  · obtain ⟨ep, -, hRow⟩ := mapM_row h.pubs hPub
    obtain ⟨-, -, -, -, hKind⟩ := pubRow_eq_some hRow
    rw [hKind]
    decide
  · obtain ⟨source, hSource, hRow⟩ := mapM_row h.board hBoard
    have hBoardKinds : ∀ source ∈ lifecycle ++ supervision,
        source.2.2 ≠ Kind.pathEntry ∧ source.2.2 ≠ Kind.pathExit := by decide
    rw [(boardRow_eq_some hRow).2]
    exact hBoardKinds source hSource

/-- A path's marker is the first or the second of its pair, and its number
tells which pair. -/
theorem path_marker {m : Marker} (hm : m ∈ g.table)
    (hKind : m.kind = .pathEntry ∨ m.kind = .pathExit) :
    ∃ (k : Nat) (pair : Row × Row), g.paths[k]? = some pair ∧
      (m = pair.1.marker (2 * k + 1) ∨ m = pair.2.marker (2 * k + 2)) := by
  obtain ⟨i, row, hRow, rfl⟩ := mem_table.mp hm
  rw [rows, List.getElem?_append] at hRow
  split_ifs at hRow with hPaths
  · have hHalf : i = 2 * (i / 2) ∨ i = 2 * (i / 2) + 1 := by omega
    generalize i / 2 = k at hHalf
    obtain rfl | rfl := hHalf
    · rw [getElem?_paired_even, Option.map_eq_some_iff] at hRow
      obtain ⟨pair, hPair, rfl⟩ := hRow
      exact ⟨k, pair, hPair, Or.inl rfl⟩
    · rw [getElem?_paired_odd, Option.map_eq_some_iff] at hRow
      obtain ⟨pair, hPair, rfl⟩ := hRow
      exact ⟨k, pair, hPair, Or.inr rfl⟩
  · obtain ⟨hEntry, hExit⟩ := h.other_kind (List.mem_of_getElem? hRow)
    exact absurd hKind (not_or.mpr ⟨hEntry, hExit⟩)

end Groups.From

/-- The endpoint is an input of the path. -/
def Triggers (model : SystemModel) (ep key : String) : Prop :=
  ∃ p, model.nodePaths.lookup key = some p ∧ ep ∈ p.input

/-- Within each group the folded identifiers differ, and no input triggers two
paths. -/
structure NamesApart (model : SystemModel) : Prop where
  paths : (model.nodePaths.keys.map endpointIdent).Nodup
  takes : ∀ ep key ep' key', model.Triggers ep key → model.Triggers ep' key' →
    endpointIdent ep = endpointIdent ep' → ep = ep' ∧ key = key'
  calls : ((model.served Service.client).map fun call => endpointIdent call.2).Nodup
  serves : ((model.served Service.server).map fun serve => endpointIdent serve.2).Nodup
  pubs : (model.pubEndpoints.keys.map endpointIdent).Nodup

/-- A pair's names differ, and each of them tells its pair. -/
theorem bracketed_nodup {σ : Type} {word : String} {sources : List σ} {part : σ → String}
    {rowsOf : σ → Option (Row × Row)} {pairs : List (Row × Row)}
    (h : sources.mapM rowsOf = some pairs)
    (hRows : ∀ source pair, rowsOf source = some pair → ∃ node name,
      splitEndpoint (part source) = some (node, name) ∧
        pair.1.name = word ++ ident node name ++ "_ENTRY" ∧
        pair.2.name = word ++ ident node name ++ "_EXIT") :
    ((paired pairs).map Row.name).Nodup ↔
      (sources.map fun source => endpointIdent (part source)).Nodup := by
  have hNames : ∀ pair ∈ pairs, ∃ i, pair.1.name = word ++ i ++ "_ENTRY" ∧
      pair.2.name = word ++ i ++ "_EXIT" := by
    intro pair hPair
    obtain ⟨source, -, hSource⟩ := mapM_row h hPair
    obtain ⟨node, name, -, hEntry, hExit⟩ := hRows source pair hSource
    exact ⟨ident node name, hEntry, hExit⟩
  rw [nodup_paired]
  · apply mapM_nodup h (between_injective word "_ENTRY")
    intro source pair hSource
    obtain ⟨node, name, hSplit, hEntry, -⟩ := hRows source pair hSource
    exact ⟨ident node name, endpointIdent_of_split hSplit, hEntry⟩
  · intro p hp q hq hEq
    obtain ⟨i, hEntry, -⟩ := hNames p hp
    obtain ⟨j, -, hExit⟩ := hNames q hq
    rw [hEntry, hExit] at hEq
    exact entry_ne_exit _ _ hEq
  · intro p hp q hq
    obtain ⟨i, hEntry, hExit⟩ := hNames p hp
    obtain ⟨j, hEntry', hExit'⟩ := hNames q hq
    rw [hEntry, hExit, hEntry', hExit', String.append_left_inj, String.append_left_inj]

/-- A name behind its group's word tells the endpoint's identifier. -/
theorem worded_nodup {σ : Type} {word : String} {sources : List σ} {part : σ → String}
    {rowOf : σ → Option Row} {rows : List Row} (h : sources.mapM rowOf = some rows)
    (hRow : ∀ source row, rowOf source = some row → ∃ node name,
      splitEndpoint (part source) = some (node, name) ∧ row.name = word ++ ident node name) :
    (rows.map Row.name).Nodup ↔ (sources.map fun source => endpointIdent (part source)).Nodup := by
  apply mapM_nodup h (append_injective word)
  intro source row hSource
  obtain ⟨node, name, hSplit, hName⟩ := hRow source row hSource
  exact ⟨ident node name, endpointIdent_of_split hSplit, hName⟩

/-- There is a take for each input that triggers a path. -/
theorem mem_takes {ep key : String} : (ep, key) ∈ model.takes ↔ model.Triggers ep key := by
  rw [takes, (List.perm_insertionSort _ _).mem_iff, List.mem_dedup, List.mem_flatMap]
  constructor
  · rintro ⟨key', -, hInput⟩
    obtain ⟨ep', hInput, hPair⟩ := List.mem_map.mp hInput
    cases hPair
    cases hPath : model.nodePaths.lookup key with
    | none => simp [hPath] at hInput
    | some p => exact ⟨p, hPath, by simpa [hPath] using hInput⟩
  · rintro ⟨p, hPath, hInput⟩
    have hKey : key ∈ model.nodePaths := AList.lookup_isSome.mp (by rw [hPath]; rfl)
    refine ⟨key, (List.perm_insertionSort _ _).mem_iff.mpr hKey, ?_⟩
    rw [hPath]
    exact List.mem_map_of_mem hInput

/-- The takes' identifiers differ exactly where no two triggers fold alike. -/
theorem takes_apart :
    (model.takes.map fun take => endpointIdent take.1).Nodup ↔
      ∀ ep key ep' key', model.Triggers ep key → model.Triggers ep' key' →
        endpointIdent ep = endpointIdent ep' → ep = ep' ∧ key = key' := by
  have hSet : model.takes.Nodup :=
    (List.perm_insertionSort _ _).nodup_iff.mpr (List.nodup_dedup _)
  rw [List.nodup_map_iff_inj_on hSet]
  constructor
  · intro hApart ep key ep' key' hTake hTake' hIdent
    have hPair := hApart _ (mem_takes.mpr hTake) _ (mem_takes.mpr hTake') hIdent
    exact Prod.mk.inj hPair
  · rintro hApart ⟨ep, key⟩ hTake ⟨ep', key'⟩ hTake' hIdent
    obtain ⟨rfl, rfl⟩ := hApart ep key ep' key' (mem_takes.mp hTake) (mem_takes.mp hTake') hIdent
    rfl

/-- Sorting the keys makes no two names alike. -/
theorem sorted_nodup {α β : Type} {d : Dict α} {f : String → β} :
    (d.sorted.map f).Nodup ↔ (d.keys.map f).Nodup :=
  ((List.perm_insertionSort _ _).map f).nodup_iff

/-- The names of each group, behind what they all begin with. -/
def Groups.names (g : Groups) : List (List Char × List String) :=
  [(['P', 'A'], (paired g.paths).map Row.name),
   (['T', 'A'], g.takes.map Row.name),
   (['C', 'A'], g.calls.map Row.name),
   (['S', 'E'], (paired g.serves).map Row.name),
   (['P', 'U'], g.pubs.map Row.name),
   (['M', 'R'], lifecycle.map fun source => source.2.1),
   (['S', 'U'], supervision.map fun source => source.2.1)]

namespace Groups.From
variable (h : g.From model)
include h

/-- The board's rows have the names of its sources. -/
theorem board_names :
    g.board.map Row.name = (lifecycle ++ supervision).map fun source => source.2.1 :=
  mapM_map h.board fun _ _ hRow => (boardRow_eq_some hRow).1

/-- The table's names are those of its groups. -/
theorem table_names :
    (g.table.map fun m => m.name) = (g.names.map Prod.snd).flatten := by
  have hRows : (g.table.map fun m => m.name) = g.rows.map Row.name := map_table fun _ _ => rfl
  rw [hRows, rows]
  simp only [names, List.map_append, h.board_names, List.map_cons, List.map_nil,
    List.flatten_cons, List.flatten_nil, List.append_nil]

/-- Each group's names begin alike. -/
theorem names_begin : ∀ group ∈ g.names, ∀ name ∈ group.2, initials name = group.1 := by
  have hBracketed {word : String} {pair : Row × Row} {row : Row} (hWord : 2 ≤ word.length)
      (hPair : ∃ i, pair.1.name = word ++ i ++ "_ENTRY" ∧ pair.2.name = word ++ i ++ "_EXIT")
      (hRow : row ∈ [pair.1, pair.2]) : initials row.name = initials word := by
    obtain ⟨i, hEntry, hExit⟩ := hPair
    simp only [List.mem_cons, List.not_mem_nil, or_false] at hRow
    obtain rfl | rfl := hRow
    · rw [hEntry, String.append_assoc, initials_append hWord]
    · rw [hExit, String.append_assoc, initials_append hWord]
  intro group hGroup name hName
  simp only [names, List.mem_cons, List.not_mem_nil, or_false] at hGroup
  obtain rfl | rfl | rfl | rfl | rfl | rfl | rfl := hGroup
  · obtain ⟨row, hRow, rfl⟩ := List.mem_map.mp hName
    obtain ⟨pair, hPair, hSide⟩ := List.mem_flatMap.mp hRow
    obtain ⟨key, -, hKey⟩ := mapM_row h.paths hPair
    obtain ⟨-, node, path, -, -, hEntry, hExit, -⟩ := pathRows_eq_some hKey
    exact hBracketed (show 2 ≤ "PATH_".length by decide) ⟨ident node path, hEntry, hExit⟩ hSide
  · obtain ⟨row, hRow, rfl⟩ := List.mem_map.mp hName
    obtain ⟨take, -, hTake⟩ := mapM_row h.takes hRow
    obtain ⟨node, name, -, hWord, -⟩ := takeRow_eq_some hTake
    rw [hWord]
    exact initials_append (by decide) _
  · obtain ⟨row, hRow, rfl⟩ := List.mem_map.mp hName
    obtain ⟨call, -, hCall⟩ := mapM_row h.calls hRow
    obtain ⟨node, name, -, hWord, -⟩ := callRow_eq_some hCall
    rw [hWord]
    exact initials_append (by decide) _
  · obtain ⟨row, hRow, rfl⟩ := List.mem_map.mp hName
    obtain ⟨pair, hPair, hSide⟩ := List.mem_flatMap.mp hRow
    obtain ⟨serve, -, hServe⟩ := mapM_row h.serves hPair
    obtain ⟨node, name, -, hEntry, hExit, -⟩ := serveRows_eq_some hServe
    exact hBracketed (show 2 ≤ "SERVE_".length by decide) ⟨ident node name, hEntry, hExit⟩ hSide
  · obtain ⟨row, hRow, rfl⟩ := List.mem_map.mp hName
    obtain ⟨ep, -, hPub⟩ := mapM_row h.pubs hRow
    obtain ⟨node, name, -, hWord, -⟩ := pubRow_eq_some hPub
    rw [hWord]
    exact initials_append (by decide) _
  · revert name
    decide
  · revert name
    decide

/-- The whole table's names differ exactly where each group's do. -/
theorem names_nodup : (g.table.map fun m => m.name).Nodup ↔ model.NamesApart := by
  have hPaths : ((paired g.paths).map Row.name).Nodup ↔
      (model.nodePaths.keys.map endpointIdent).Nodup := by
    rw [← sorted_nodup]
    apply bracketed_nodup h.paths
    intro key pair hKey
    obtain ⟨-, node, path, -, hSplit, hEntry, hExit, -⟩ := pathRows_eq_some hKey
    exact ⟨node, path, hSplit, hEntry, hExit⟩
  have hTakes : (g.takes.map Row.name).Nodup ↔
      ∀ ep key ep' key', model.Triggers ep key → model.Triggers ep' key' →
        endpointIdent ep = endpointIdent ep' → ep = ep' ∧ key = key' := by
    rw [← takes_apart]
    apply worded_nodup h.takes
    intro take row hRow
    obtain ⟨node, name, hSplit, hName, -⟩ := takeRow_eq_some hRow
    exact ⟨node, name, hSplit, hName⟩
  have hCalls : (g.calls.map Row.name).Nodup ↔
      ((model.served Service.client).map fun call => endpointIdent call.2).Nodup := by
    apply worded_nodup h.calls
    intro call row hRow
    obtain ⟨node, name, hSplit, hName, -⟩ := callRow_eq_some hRow
    exact ⟨node, name, hSplit, hName⟩
  have hServes : ((paired g.serves).map Row.name).Nodup ↔
      ((model.served Service.server).map fun serve => endpointIdent serve.2).Nodup := by
    apply bracketed_nodup h.serves
    intro serve pair hRow
    obtain ⟨node, name, hSplit, hEntry, hExit, -⟩ := serveRows_eq_some hRow
    exact ⟨node, name, hSplit, hEntry, hExit⟩
  have hPubs : (g.pubs.map Row.name).Nodup ↔
      (model.pubEndpoints.keys.map endpointIdent).Nodup := by
    rw [← sorted_nodup]
    apply worded_nodup h.pubs
    intro ep row hRow
    obtain ⟨node, name, hSplit, hName, -⟩ := pubRow_eq_some hRow
    exact ⟨node, name, hSplit, hName⟩
  have hLifecycle : (lifecycle.map fun source => source.2.1).Nodup := by decide
  have hSupervision : (supervision.map fun source => source.2.1).Nodup := by decide
  have hWords : (g.names.map Prod.fst).Nodup := by
    show [['P', 'A'], ['T', 'A'], ['C', 'A'], ['S', 'E'], ['P', 'U'], ['M', 'R'], ['S', 'U']].Nodup
    decide
  rw [h.table_names, nodup_groups h.names_begin hWords]
  simp only [names, List.forall_mem_cons, List.not_mem_nil, false_implies, implies_true, hPaths, hTakes,
    hCalls, hServes, hPubs, hLifecycle, hSupervision, and_true]
  constructor
  · rintro ⟨hPath, hTake, hCall, hServe, hPub⟩
    exact ⟨hPath, hTake, hCall, hServe, hPub⟩
  · rintro ⟨hPath, hTake, hCall, hServe, hPub⟩
    exact ⟨hPath, hTake, hCall, hServe, hPub⟩

end Groups.From
end SafetyIsland.Markers.SystemModel
