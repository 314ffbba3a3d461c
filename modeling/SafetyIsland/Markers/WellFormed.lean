import SafetyIsland.Markers.Policy

/-! A generated table is well formed exactly where the folded identifiers of each
group differ: the numbers, the pairs, the policies and the window's two markers
come out right for every model, the names do not. -/
namespace SafetyIsland.Markers
open Trace (Policy)

/-- What the firmware and the decoder rely on. -/
structure WellFormed (model : SystemModel) (markers : List Marker) (w : Window) : Prop where
  ids : markers.map Marker.id = List.range' 1 markers.length
  decodes : ∀ n, 1 ≤ n → n ≤ markers.length → ∃! m, m ∈ markers ∧ m.id = n
  names : (markers.map fun m => m.name).Nodup
  /-- Each path has one ENTRY and one EXIT, and the EXIT is right behind. -/
  brackets : ∀ key ∈ model.nodePaths.keys, ∃ entry ∈ markers, ∃ exit ∈ markers,
    exit.id = entry.id + 1 ∧
      ∀ m ∈ markers, (m.kind = .pathEntry ∧ m.element = key ↔ m = entry) ∧
        (m.kind = .pathExit ∧ m.element = key ↔ m = exit)
  recorded : ∀ m ∈ markers, ∃ p, w.policy m.id = some p
  spins : ∀ m ∈ markers, w.policy m.id = some .spinExit ↔
    ∃ entry ∈ markers, m.id = entry.id + 1 ∧ entry.kind = .pathEntry ∧
      entry.element = m.element ∧ w.policy entry.id = some .spinEntry
  window : ∃ det ∈ markers, ∃ arm ∈ markers,
    det.id = w.trigger ∧ det.kind = .pathEntry ∧
      (∀ key, (∃ ep, model.GuardedInput key ep) ↔ key = det.element) ∧
    arm.id = w.arm ∧
      ∀ m ∈ markers, (m.kind = .take ∧ model.GuardedInput det.element m.element) ↔ m = arm

namespace SystemModel
variable {model : SystemModel} {g : Groups} {w : Window}

namespace Groups.From
variable (h : g.From model)
include h

/-- Every path has one ENTRY and one EXIT, the one behind the other. -/
theorem bracketed {key : String} (hKey : key ∈ model.nodePaths.keys) :
    ∃ entry ∈ g.table, ∃ exit ∈ g.table, exit.id = entry.id + 1 ∧
      ∀ m ∈ g.table, (m.kind = .pathEntry ∧ m.element = key ↔ m = entry) ∧
        (m.kind = .pathExit ∧ m.element = key ↔ m = exit) := by
  have hSorted : key ∈ model.nodePaths.sorted := (List.perm_insertionSort _ _).mem_iff.mpr hKey
  rw [← h.path_elements] at hSorted
  obtain ⟨pair, hPair, rfl⟩ := List.mem_map.mp hSorted
  obtain ⟨k, hk⟩ := List.mem_iff_getElem?.mp hPair
  obtain ⟨hEntryKind, hExitKind, hElement, -⟩ := h.path hPair
  obtain ⟨hEntry, hExit⟩ := pair_marker hk
  refine ⟨_, hEntry, _, hExit, rfl, ?_⟩
  intro m hm
  -- A marker of the path comes from the path's own pair.
  have hSide (hKind : m.kind = .pathEntry ∨ m.kind = .pathExit)
      (hOwn : m.element = pair.1.element) :
      m = pair.1.marker (2 * k + 1) ∨ m = pair.2.marker (2 * k + 2) := by
    obtain ⟨j, pair', hj, hMarker⟩ := h.path_marker hm hKind
    have hElement' : pair'.1.element = pair'.2.element := (h.path (List.mem_of_getElem? hj)).2.2.1
    have hSame : pair'.1.element = pair.1.element := by
      obtain rfl | rfl := hMarker
      · exact hOwn
      · exact hElement'.trans hOwn
    obtain rfl := h.path_index hj hk hSame
    rw [Option.some.inj (hj.symm.trans hk)] at hMarker
    exact hMarker
  constructor
  · constructor
    · rintro ⟨hKind, hOwn⟩
      obtain hFirst | rfl := hSide (Or.inl hKind) hOwn
      · exact hFirst
      · exact absurd (hExitKind.symm.trans hKind) (by decide)
    · rintro rfl
      exact ⟨hEntryKind, rfl⟩
  · constructor
    · rintro ⟨hKind, hOwn⟩
      obtain rfl | hSecond := hSide (Or.inr hKind) hOwn
      · exact absurd (hEntryKind.symm.trans hKind) (by decide)
      · exact hSecond
    · rintro rfl
      exact ⟨hExitKind, hElement.symm⟩

/-- An EXIT spins exactly behind its own path's spinning ENTRY. -/
theorem spinning {m : Marker} (hm : m ∈ g.table) :
    model.policies g.table m.id = some .spinExit ↔
      ∃ entry ∈ g.table, m.id = entry.id + 1 ∧ entry.kind = .pathEntry ∧
        entry.element = m.element ∧ model.policies g.table entry.id = some .spinEntry := by
  rw [policies_eq hm, Option.some_inj, policyOf_spinExit]
  constructor
  · rintro ⟨hKind, hTimer⟩
    obtain ⟨k, pair, hk, rfl | rfl⟩ := h.path_marker hm (Or.inr hKind)
    · exact absurd ((h.path (List.mem_of_getElem? hk)).1.symm.trans hKind) (by decide)
    · obtain ⟨hEntryKind, -, hElement, hExtra⟩ := h.path (List.mem_of_getElem? hk)
      have hEntry := (pair_marker hk).1
      have hSpin : model.policyOf (pair.1.marker (2 * k + 1)) = .spinEntry :=
        policyOf_spinEntry.mpr ⟨hEntryKind, (congrArg Extra.trigger hExtra).symm.trans hTimer⟩
      exact ⟨_, hEntry, rfl, hEntryKind, hElement, by rw [policies_eq hEntry, hSpin]⟩
  · rintro ⟨entry, hEntry, hId, hKind, -, hSpin⟩
    rw [policies_eq hEntry, Option.some_inj, policyOf_spinEntry] at hSpin
    obtain ⟨k, pair, hk, rfl | rfl⟩ := h.path_marker hEntry (Or.inl hKind)
    · obtain ⟨-, hExitKind, -, hExtra⟩ := h.path (List.mem_of_getElem? hk)
      have hExit : m = pair.2.marker (2 * k + 2) := table_ext hm (pair_marker hk).2 hId
      rw [hExit]
      exact ⟨hExitKind, (congrArg Extra.trigger hExtra).trans hSpin.2⟩
    · exact absurd ((h.path (List.mem_of_getElem? hk)).2.1.symm.trans hKind) (by decide)

/-- The window's markers are the one detector's ENTRY and the one take of its
guarded input. -/
theorem window_markers (hWindow : model.windowPolicy g.table = some w) :
    ∃ det ∈ g.table, ∃ arm ∈ g.table,
      det.id = w.trigger ∧ det.kind = .pathEntry ∧
        (∀ key, (∃ ep, model.GuardedInput key ep) ↔ key = det.element) ∧
      arm.id = w.arm ∧
        ∀ m ∈ g.table, (m.kind = .take ∧ model.GuardedInput det.element m.element) ↔ m = arm := by
  obtain ⟨-, det, arm, hDetectors, hTrigger, hArms, hArm⟩ := windowPolicy_eq_some hWindow
  have hDetector (m : Marker) : m ∈ g.table ∧ model.detects m ↔ m = det := by
    rw [← List.mem_filter, hDetectors, List.mem_singleton]
  have hArmed (m : Marker) : m ∈ g.table ∧ model.arms det m ↔ m = arm := by
    rw [← List.mem_filter, hArms, List.mem_singleton]
  obtain ⟨hDet, hDetects⟩ := (hDetector det).mpr rfl
  obtain ⟨hDetKind, hDetInput⟩ := detects_iff.mp hDetects
  refine ⟨det, hDet, arm, ((hArmed arm).mpr rfl).1, hTrigger.symm, hDetKind, ?_, hArm.symm, ?_⟩
  · intro key
    constructor
    · rintro ⟨ep, hInput⟩
      have ⟨p, _, hPath, _⟩ := hInput
      have hKey : key ∈ model.nodePaths.keys :=
        AList.mem_keys.mpr (AList.lookup_isSome.mp (by rw [hPath]; rfl))
      obtain ⟨entry, hEntry, exit, -, -, hOwn⟩ := h.bracketed hKey
      obtain ⟨hKind, rfl⟩ := (hOwn entry hEntry).1.mpr rfl
      rw [(hDetector entry).mp ⟨hEntry, detects_iff.mpr ⟨hKind, ep, hInput⟩⟩]
    · rintro rfl
      exact hDetInput
  · intro m hm
    rw [← arms_iff, ← hArmed m, and_iff_right hm]

end Groups.From

/-- What is generated is the table of the model's groups. -/
theorem generate_eq_some {markers : List Marker} (h : model.generate = some (markers, w)) :
    ∃ g : Groups, g.From model ∧ markers = g.table ∧ model.windowPolicy g.table = some w := by
  simp only [generate, buildTable, Option.bind_eq_bind, Option.bind_eq_some_iff,
    Option.map_eq_some_iff, Option.pure_def, Option.some.injEq, Prod.mk.injEq] at h
  obtain ⟨_, ⟨g, hGroups, rfl⟩, _, hWindow, rfl, rfl⟩ := h
  exact ⟨g, groups_eq_some hGroups, rfl, hWindow⟩

end SystemModel

/-- A generated table is well formed exactly where the folded identifiers differ
within each group. -/
theorem wellFormed_iff {model : SystemModel} {markers : List Marker} {w : Window}
    (h : model.generate = some (markers, w)) :
    WellFormed model markers w ↔ model.NamesApart := by
  obtain ⟨g, hFrom, rfl, hWindow⟩ := SystemModel.generate_eq_some h
  have hPolicy : w.policy = model.policies g.table :=
    (SystemModel.windowPolicy_eq_some hWindow).1
  constructor
  · intro hFormed
    exact hFrom.names_nodup.mp hFormed.names
  · intro hApart
    exact
      { ids := SystemModel.Groups.table_ids
        decodes := fun n hFirst hLast => SystemModel.Groups.table_number hFirst hLast
        names := hFrom.names_nodup.mpr hApart
        brackets := fun key hKey => hFrom.bracketed hKey
        recorded := fun m hm =>
          ⟨model.policyOf m, by rw [hPolicy, SystemModel.policies_eq hm]⟩
        spins := by
          rw [hPolicy]
          exact fun m hm => hFrom.spinning hm
        window := hFrom.window_markers hWindow }

/-- A contract whose one hazard guards the availability that triggers `call`. -/
def guardedContract (others : List (String × Path))
    (h : ("/h/call" :: others.map Prod.fst).Nodup) : SystemModel where
  nodePaths := .of
    (("/h/call", { trigger := .input ["/h/avail"], input := ["/h/avail"] }) :: others) h
  pubEndpoints := ∅
  hazards := .of [("loss", { guards := [{ members := ["/avail"] }] })] (by decide)
  services := ∅
  topics := .of [("/avail", { sub := ["/h/avail"] })] (by decide)

def tickContract : SystemModel :=
  guardedContract [("/h/on_tick", { trigger := .timer 10 })] (by decide)

theorem wellFormed_tick :
    ∃ markers w, tickContract.generate = some (markers, w) ∧ WellFormed tickContract markers w := by
  obtain ⟨⟨markers, w⟩, h⟩ := Option.isSome_iff_exists.mp
    (show tickContract.generate.isSome = true by decide +kernel)
  have hApart : tickContract.NamesApart :=
    { paths := by decide +kernel
      takes := SystemModel.takes_apart.mp (by decide +kernel)
      calls := by decide +kernel
      serves := by decide +kernel
      pubs := by decide +kernel }
  exact ⟨markers, w, h, (wellFormed_iff h).mpr hApart⟩

def sharedContract : SystemModel :=
  guardedContract
    [("/h/enter", { trigger := .input ["/h/mode"], input := ["/h/mode"] }),
     ("/h/leave", { trigger := .input ["/h/mode"], input := ["/h/mode"] })] (by decide)

/-- Two paths whose names fold into one. -/
def foldedContract : SystemModel :=
  guardedContract
    [("/h/on_tick", { trigger := .timer 10 }), ("/h/on-tick", { trigger := .timer 10 })]
    (by decide)

/-- Two paths on one input, and two names that fold alike, make the table's
names collide. -/
theorem not_wellFormed :
    (∃ markers w, sharedContract.generate = some (markers, w) ∧
      ¬WellFormed sharedContract markers w) ∧
    ∃ markers w, foldedContract.generate = some (markers, w) ∧
      ¬WellFormed foldedContract markers w := by
  have hClash {model : SystemModel}
      (h : (model.generate.map fun t => decide (t.1.map fun m => m.name).Nodup) = some false) :
      ∃ markers w, model.generate = some (markers, w) ∧ ¬WellFormed model markers w := by
    obtain ⟨⟨markers, w⟩, hGenerate, hNames⟩ := Option.map_eq_some_iff.mp h
    exact ⟨markers, w, hGenerate, fun hFormed => of_decide_eq_false hNames hFormed.names⟩
  exact ⟨hClash (by decide +kernel), hClash (by decide +kernel)⟩

end SafetyIsland.Markers
