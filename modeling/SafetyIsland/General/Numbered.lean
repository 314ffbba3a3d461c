import Mathlib.Data.List.Forall2
import Mathlib.Data.List.Induction
import Mathlib.Data.List.Nodup
import Mathlib.Data.Option.Basic

/-! A table whose rows are added one by one, each numbered by the rows before
it, counting from one; pairs of rows laid out behind each other; and rows that
come from sources which may have none. -/
namespace Numbered

variable {α β : Type*} {mk : Nat → α → β} {rows : List α} {pairs : List (α × α)}

def add (mk : Nat → α → β) (table : List β) (row : α) : List β :=
  table ++ [mk (table.length + 1) row]

/-- Rows are numbered on from where the table ends. -/
theorem foldl_add (table : List β) :
    rows.foldl (add mk) table = table ++ rows.mapIdx fun i => mk (table.length + i + 1) := by
  induction rows generalizing table with
  | nil => simp
  | cons row rest ih =>
      rw [List.foldl_cons, ih, add, List.append_assoc, List.mapIdx_cons]
      simp only [List.length_append, List.length_singleton, List.singleton_append, Nat.add_zero]
      congr 2
      apply List.mapIdx_eq_mapIdx_iff.mpr
      intro i _
      rw [show table.length + 1 + i + 1 = table.length + (i + 1) + 1 by omega]

/-- A table numbers its rows from 1. -/
theorem table_eq : rows.foldl (add mk) [] = rows.mapIdx fun i => mk (i + 1) := by
  rw [foldl_add, List.nil_append]
  simp only [List.length_nil, Nat.zero_add]

/-- A row of the table is its source row, under its number. -/
theorem mem_table {b : β} :
    b ∈ rows.foldl (add mk) [] ↔ ∃ i row, rows[i]? = some row ∧ mk (i + 1) row = b := by
  rw [table_eq, List.mem_mapIdx]
  constructor
  · rintro ⟨i, hi, hMk⟩
    exact ⟨i, rows[i], List.getElem?_eq_getElem hi, hMk⟩
  · rintro ⟨i, row, hRow, hMk⟩
    obtain ⟨hi, rfl⟩ := List.getElem?_eq_some_iff.mp hRow
    exact ⟨i, hi, hMk⟩

/-- A field that only the row decides. -/
theorem map_table {γ : Type*} {f : β → γ} {g : α → γ} (h : ∀ n row, f (mk n row) = g row) :
    (rows.foldl (add mk) []).map f = rows.map g := by
  rw [table_eq]
  apply List.ext_getElem
  · simp
  · intro i _ _
    simp only [List.getElem_map, List.getElem_mapIdx, h]

/-- Row `i` bears number `i + 1`. -/
theorem map_number {f : β → Nat} (h : ∀ n row, f (mk n row) = n) :
    (rows.foldl (add mk) []).map f = List.range' 1 (rows.foldl (add mk) []).length := by
  rw [table_eq]
  apply List.ext_getElem
  · simp
  · intro i _ _
    simp only [List.getElem_map, List.getElem_mapIdx, h, List.getElem_range']
    omega

/-- A mapping written row by row: where rows under one key agree, each finds its
own value. -/
theorem foldl_update {κ γ : Type*} [DecidableEq κ] {key : β → κ} {value : β → γ} {table : List β}
    {b : β} (hSame : ∀ a ∈ table, key a = key b → value a = value b) (hb : b ∈ table)
    (start : κ → Option γ) :
    table.foldl (fun d a => Function.update d (key a) (some (value a))) start (key b) =
      some (value b) := by
  induction table using List.reverseRecOn with
  | nil => exact absurd hb List.not_mem_nil
  | append_singleton rest last ih =>
      rw [List.foldl_append, List.foldl_cons, List.foldl_nil]
      by_cases hKey : key b = key last
      · have hLast : last ∈ rest ++ [last] := List.mem_append_right _ List.mem_cons_self
        rw [hKey, Function.update_self, hSame last hLast hKey.symm]
      · rw [Function.update_of_ne hKey]
        have hRest : b ∈ rest := by
          obtain hRest | hLast := List.mem_append.mp hb
          · exact hRest
          · exact absurd (congrArg key (List.mem_singleton.mp hLast)) hKey
        exact ih (fun a ha => hSame a (List.mem_append_left _ ha)) hRest

/-- Each pair's first row right before its second. -/
def paired (pairs : List (α × α)) : List α := pairs.flatMap fun pair => [pair.1, pair.2]

@[simp] theorem paired_cons {pair : α × α} :
    paired (pair :: pairs) = pair.1 :: pair.2 :: paired pairs := rfl

/-- A pair makes two rows. -/
theorem length_paired : (paired pairs).length = 2 * pairs.length := by
  induction pairs with
  | nil => rfl
  | cons pair rest ih =>
      rw [paired_cons, List.length_cons, List.length_cons, List.length_cons, ih]
      omega

/-- A pair's first row stands at the even place. -/
theorem getElem?_paired_even (i : Nat) : (paired pairs)[2 * i]? = pairs[i]?.map Prod.fst := by
  induction pairs generalizing i with
  | nil => rfl
  | cons pair rest ih =>
      cases i with
      | zero => rfl
      | succ i => exact ih i

/-- Its second stands right behind it. -/
theorem getElem?_paired_odd (i : Nat) : (paired pairs)[2 * i + 1]? = pairs[i]?.map Prod.snd := by
  induction pairs generalizing i with
  | nil => rfl
  | cons pair rest ih =>
      cases i with
      | zero => rfl
      | succ i => exact ih i

/-- Pairing loses no row and invents none. -/
theorem paired_perm : (paired pairs).Perm (pairs.map Prod.fst ++ pairs.map Prod.snd) := by
  induction pairs with
  | nil => exact List.Perm.refl _
  | cons pair rest ih => exact ((ih.cons pair.2).trans List.perm_middle.symm).cons pair.1

/-- Rows of two kinds that never agree: the first rows alone decide whether any
two rows agree. -/
theorem nodup_paired {γ : Type*} {f : α → γ} (hApart : ∀ p ∈ pairs, ∀ q ∈ pairs, f p.1 ≠ f q.2)
    (hSame : ∀ p ∈ pairs, ∀ q ∈ pairs, (f p.1 = f q.1 ↔ f p.2 = f q.2)) :
    ((paired pairs).map f).Nodup ↔ (pairs.map fun p => f p.1).Nodup := by
  rw [(paired_perm.map f).nodup_iff, List.map_append, List.map_map, List.map_map,
    List.nodup_append']
  have hSecond : (pairs.map (f ∘ Prod.fst)).Nodup → (pairs.map (f ∘ Prod.snd)).Nodup := by
    intro hFirst
    rw [List.Nodup, List.pairwise_map] at hFirst ⊢
    exact hFirst.imp_of_mem fun hp hq hNe hEq => hNe ((hSame _ hp _ hq).mpr hEq)
  have hDisjoint : List.Disjoint (pairs.map (f ∘ Prod.fst)) (pairs.map (f ∘ Prod.snd)) := by
    intro c hFirst hLast
    obtain ⟨p, hp, rfl⟩ := List.mem_map.mp hFirst
    obtain ⟨q, hq, hEq⟩ := List.mem_map.mp hLast
    exact hApart p hp q hq hEq.symm
  exact ⟨fun h => h.1, fun h => ⟨h, hSecond h, hDisjoint⟩⟩

section Sources
variable {σ γ : Type*} {sources : List σ} {rowOf : σ → Option α}

/-- Each row comes from the source at its own place. -/
theorem mapM_forall₂ (h : sources.mapM rowOf = some rows) :
    List.Forall₂ (fun source row => rowOf source = some row) sources rows := by
  induction sources generalizing rows with
  | nil =>
      cases h
      exact List.Forall₂.nil
  | cons source rest ih =>
      simp only [List.mapM_cons, Option.pure_def, Option.bind_eq_bind, Option.bind_eq_some_iff,
        Option.some.injEq] at h
      obtain ⟨row, hRow, tail, hTail, rfl⟩ := h
      exact List.Forall₂.cons hRow (ih hTail)

/-- Every row made comes from some source. -/
theorem mapM_row (h : sources.mapM rowOf = some rows) {row : α} (hRow : row ∈ rows) :
    ∃ source ∈ sources, rowOf source = some row := by
  obtain ⟨i, hi, rfl⟩ := List.getElem_of_mem hRow
  have hAll := mapM_forall₂ h
  have hSource : i < sources.length := hAll.length_eq ▸ hi
  exact ⟨sources[i], List.getElem_mem hSource, hAll.get hSource hi⟩

/-- A field of the rows that the sources decide. -/
theorem mapM_map {f : α → γ} {part : σ → γ} (h : sources.mapM rowOf = some rows)
    (hRow : ∀ source row, rowOf source = some row → f row = part source) :
    rows.map f = sources.map part := by
  have hAll := mapM_forall₂ h
  clear h
  induction hAll with
  | nil => rfl
  | cons hHead _ ih => rw [List.map_cons, List.map_cons, hRow _ _ hHead, ih]

/-- A field of the rows that a part of the sources shapes: it tells two rows
apart wherever that part tells their sources apart. -/
theorem mapM_nodup {δ : Type*} {f : α → γ} {part : σ → Option δ} {shape : δ → γ}
    (h : sources.mapM rowOf = some rows) (hShape : Function.Injective shape)
    (hRow : ∀ source row, rowOf source = some row →
      ∃ d, part source = some d ∧ f row = shape d) :
    (rows.map f).Nodup ↔ (sources.map part).Nodup := by
  have hMaps : rows.map (some ∘ f) = sources.map (Option.map shape ∘ part) := by
    apply mapM_map h
    intro source row hSource
    obtain ⟨d, hPart, hField⟩ := hRow source row hSource
    simp only [Function.comp_apply, hPart, hField, Option.map_some]
  rw [← List.nodup_map_iff (Option.some_injective γ), List.map_map, hMaps, ← List.map_map,
    List.nodup_map_iff (Option.map_injective hShape)]

end Sources
end Numbered
