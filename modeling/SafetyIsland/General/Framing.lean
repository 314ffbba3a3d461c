import Mathlib.Data.List.Basic

/-! A stream whose records carry no length of their own, read from the front:
only the record itself says how far it reaches, so a reader that misjudges one
misreads all that follow. -/
namespace Framing

/-- What a reader finds at the front of what is left of a stream. -/
inductive Front (σ ε : Type*) where
  | stop
  | fault (e : ε)
  | item (state : σ) (size : Nat)

variable {α β σ ε : Type*} {front : σ → List α → Front σ ε} {s s' : σ} {data rest : List α}
  {size fuel : Nat} {e : ε}

/-- Records off the front, up to a stop or a fault. -/
def scan (front : σ → List α → Front σ ε) : Nat → σ → List α → σ × Option ε
  | 0, s, _ => (s, none)
  | fuel + 1, s, data =>
      match front s data with
      | .stop => (s, none)
      | .fault e => (s, some e)
      | .item s' size => scan front fuel s' (data.drop size)

/-- All there is: a record takes room, so the stream's length is fuel enough. -/
def read (front : σ → List α → Front σ ε) (s : σ) (data : List α) : σ × Option ε :=
  scan front data.length s data

/-- The reader stops at the end, and a record takes room. -/
structure Advances (front : σ → List α → Front σ ε) : Prop where
  nil : ∀ s, front s [] = .stop
  pos : ∀ {s s' data size}, front s data = .item s' size → 0 < size

/-- Behind a record less of the stream is left. -/
theorem Advances.drop_lt (h : Advances front) (hItem : front s data = .item s' size) :
    (data.drop size).length < data.length := by
  have hPos := h.pos hItem
  have hSome : 0 < data.length := by
    rw [List.length_pos_iff]
    rintro rfl
    rw [h.nil] at hItem
    cases hItem
  rw [List.length_drop]
  omega

/-- Fuel for the whole stream is enough, and more makes no difference. -/
theorem scan_eq_read (h : Advances front) (hFuel : data.length ≤ fuel) :
    scan front fuel s data = read front s data := by
  rw [read]
  induction hLength : data.length using Nat.strongRecOn generalizing fuel s data with
  | ind n ih =>
      subst hLength
      cases hFront : front s data with
      | stop =>
          cases fuel <;> cases data <;> simp [scan, hFront]
      | fault e =>
          cases data with
          | nil =>
              rw [h.nil] at hFront
              cases hFront
          | cons a rest =>
              cases fuel with
              | zero => exact absurd hFuel (by simp)
              | succ fuel => simp [scan, hFront]
      | item s' size =>
          have hLess := h.drop_lt hFront
          obtain ⟨fuel, rfl⟩ := Nat.exists_eq_succ_of_ne_zero (by omega : fuel ≠ 0)
          obtain ⟨n, hLength⟩ := Nat.exists_eq_succ_of_ne_zero (by omega : data.length ≠ 0)
          rw [hLength]
          simp only [scan, hFront]
          rw [ih _ hLess (by omega) rfl]
          exact (ih _ hLess (by omega) rfl).symm

/-- The reader stops where it finds the end. -/
theorem read_stop (hStop : front s data = .stop) : read front s data = (s, none) := by
  rw [read]
  cases data with
  | nil => rfl
  | cons a rest => rw [List.length_cons, scan, hStop]

/-- A fault ends the reading with what was read before. -/
theorem read_fault (h : Advances front) (hFault : front s data = .fault e) :
    read front s data = (s, some e) := by
  cases data with
  | nil =>
      rw [h.nil] at hFault
      cases hFault
  | cons a rest => rw [read, List.length_cons, scan, hFault]

/-- A record is read, and the reader goes on behind it. -/
theorem read_item (h : Advances front) (hItem : front s data = .item s' size) :
    read front s data = read front s' (data.drop size) := by
  cases data with
  | nil =>
      rw [h.nil] at hItem
      cases hItem
  | cons a rest =>
      have hLess := h.drop_lt hItem
      have hRead : read front s (a :: rest) =
          scan front rest.length s' ((a :: rest).drop size) := by
        rw [read, List.length_cons, scan, hItem]
      rw [hRead, scan_eq_read h (Nat.lt_succ_iff.mp hLess)]

/-- Records that are read back one at a time, whatever follows them, are read
back out of their stream. -/
theorem read_items (h : Advances front) {pack : β → List α} {next : σ → β → σ} {xs : List β}
    (hBack : ∀ x ∈ xs, ∀ s rest, front s (pack x ++ rest) = .item (next s x) (pack x).length) :
    read front s (xs.flatMap pack ++ rest) = read front (xs.foldl next s) rest := by
  induction xs generalizing s with
  | nil => rfl
  | cons x xs ih =>
      have hFirst := hBack x List.mem_cons_self s (xs.flatMap pack ++ rest)
      rw [List.flatMap_cons, List.append_assoc, read_item h hFirst, List.drop_left,
        ih fun y hy => hBack y (List.mem_cons_of_mem x hy), List.foldl_cons]

/-- What every record keeps holds where the reader ends, and it ends at a stop
or at a fault. -/
theorem read_ends (h : Advances front) {P : σ → List α → Prop} (hStart : P s data)
    (hKeeps : ∀ s data s' size, P s data → front s data = .item s' size →
      P s' (data.drop size)) :
    ∃ last rest, P last rest ∧
      (front last rest = .stop ∧ read front s data = (last, none) ∨
        ∃ e, front last rest = .fault e ∧ read front s data = (last, some e)) := by
  induction hLength : data.length using Nat.strongRecOn generalizing s data with
  | ind n ih =>
      subst hLength
      cases hFront : front s data with
      | stop => exact ⟨s, data, hStart, .inl ⟨hFront, read_stop hFront⟩⟩
      | fault e => exact ⟨s, data, hStart, .inr ⟨e, hFront, read_fault h hFront⟩⟩
      | item s' size =>
          rw [read_item h hFront]
          exact ih _ (h.drop_lt hFront) (hKeeps s data s' size hStart hFront) rfl

end Framing
