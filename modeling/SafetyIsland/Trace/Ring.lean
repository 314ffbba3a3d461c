import SafetyIsland.General.HalvedLog
import SafetyIsland.Trace.Window

/-! The pre-trigger ring holds a log in two halves, and the trigger flushes its
young end. -/
namespace SafetyIsland.Trace

open LittleEndian WrappingClock HalvedLog

def packAll (e : EvId) (entries : List Entry) : List Byte := entries.flatMap (Entry.pack e)

@[simp] theorem packAll_cons {e : EvId} {p : Entry} {rest : List Entry} :
    packAll e (p :: rest) = p.pack e ++ packAll e rest := List.flatMap_cons

@[simp] theorem packAll_append {e : EvId} {first rest : List Entry} :
    packAll e (first ++ rest) = packAll e first ++ packAll e rest := List.flatMap_append

@[simp] theorem length_packAll {e : EvId} {entries : List Entry} :
    (packAll e entries).length = load (Entry.size e) entries := by
  induction entries with
  | nil => rfl
  | cons p rest ih =>
      rw [packAll_cons, List.length_append, ih, Entry.length_pack, load_cons]

/-- The shortest record has 11 bytes. -/
theorem length_le_bytes {e : EvId} {entries : List Entry} :
    entries.length * 11 ≤ load (Entry.size e) entries :=
  length_le_load 11 fun _ _ => Entry.size_ge

/-- The ring's bytes are the log's records, and no half is longer than its
array. -/
structure Ring.Holds (b : Build) (r : Ring) (held : HalvedLog Entry) : Prop where
  memory : ∀ c, (r.pre c).length = b.half
  fits : held.Fits (Entry.size b.evId) b.half
  olderLen : (r.preLen !r.cur).toNat = load (Entry.size b.evId) held.older
  currentLen : (r.preLen r.cur).toNat = load (Entry.size b.evId) held.current
  older : r.used (!r.cur) = packAll b.evId held.older
  current : r.used r.cur = packAll b.evId held.current

/-- A copy inside an array keeps its length and what stands before it. -/
theorem memcpy_spec (dst src : List Byte) (off : Nat) (h : off + src.length ≤ dst.length) :
    ∃ dst', memcpy dst off src = some dst' ∧ dst'.length = dst.length ∧
      dst'.take (off + src.length) = dst.take off ++ src := by
  have hLength : (dst.take off ++ src).length = off + src.length := by
    rw [List.length_append, List.length_take, Nat.min_eq_left (by omega)]
  refine ⟨_, if_pos h, ?_, List.take_left' hLength⟩
  rw [List.length_append, hLength, List.length_drop]
  omega

theorem Build.half_ge (b : Build) : 32 ≤ b.half := by
  have hBytes := b.preBytes_ge
  show 32 ≤ b.preBytes / 2
  omega

section Put
variable {b : Build} {r : Ring} {held : HalvedLog Entry}

/-- A ring whose halves are empty holds nothing. -/
theorem Ring.holds_empty (hMemory : ∀ c, (r.pre c).length = b.half) (hLen : ∀ c, r.preLen c = 0) :
    r.Holds b {} where
  memory := hMemory
  fits := ⟨Nat.zero_le _, Nat.zero_le _⟩
  olderLen := by
    rw [hLen]
    rfl
  currentLen := by
    rw [hLen]
    rfl
  older := by
    rw [used, hLen]
    rfl
  current := by
    rw [used, hLen]
    rfl

/-- `island_trace_pre_put` writes inside a half and pushes the record. -/
theorem Ring.Holds.prePut (h : r.Holds b held) (p : Entry) :
    ∃ r', r.prePut b (p.pack b.evId) = some r' ∧ r'.n = r.n + 1 ∧
      r'.Holds b (held.push (Entry.size b.evId) b.half p) := by
  have hSize := Entry.size_le (e := b.evId) (p := p)
  have hHalf := b.half_ge
  have hWidth : b.half < 2 ^ 16 := b.half_lt
  have hPush := h.fits.push (a := p) (by omega)
  have hCurrent := h.fits.current
  by_cases hFull : b.half < load (Entry.size b.evId) held.current + p.size b.evId
  · obtain ⟨dst, hCopy, hLength, hTake⟩ := memcpy_spec (r.pre !r.cur) (p.pack b.evId) 0
      (by rw [h.memory, Entry.length_pack]; omega)
    rw [Nat.zero_add, Entry.length_pack, List.take_zero, List.nil_append] at hTake
    have hNew : held.push (Entry.size b.evId) b.half p = ⟨held.current, [p]⟩ := if_pos hFull
    refine ⟨{ pre := Function.update r.pre (!r.cur) dst
              preLen := Function.update (Function.update r.preLen (!r.cur) 0) (!r.cur)
                (BitVec.ofNat 16 (p.size b.evId))
              cur := !r.cur
              n := r.n + 1 }, ?_, rfl, ?_⟩
    · simp [Ring.prePut, h.currentLen, hFull, hCopy]
    · rw [hNew] at hPush ⊢
      exact {
        memory := by
          intro c
          by_cases hc : c = !r.cur
          · subst hc
            simp [hLength, h.memory]
          · simp [Function.update_of_ne hc, h.memory]
        fits := hPush
        olderLen := by simp [h.currentLen]
        currentLen := by
          simp
          omega
        older := by simpa [Ring.used] using h.current
        current := by
          have hMod : p.size b.evId % 65536 = p.size b.evId := Nat.mod_eq_of_lt (by omega)
          simp [Ring.used, hMod, hTake, packAll] }
  · obtain ⟨dst, hCopy, hLength, hTake⟩ := memcpy_spec (r.pre r.cur) (p.pack b.evId)
      (r.preLen r.cur).toNat
      (by rw [h.memory, Entry.length_pack, h.currentLen]; omega)
    rw [Entry.length_pack] at hTake
    have hNew : held.push (Entry.size b.evId) b.half p = ⟨held.older, held.current ++ [p]⟩ :=
      if_neg hFull
    refine ⟨{ pre := Function.update r.pre r.cur dst
              preLen := Function.update r.preLen r.cur
                (BitVec.ofNat 16 ((r.preLen r.cur).toNat + p.size b.evId))
              cur := r.cur
              n := r.n + 1 }, ?_, rfl, ?_⟩
    · rw [h.currentLen] at hCopy
      simp [Ring.prePut, h.currentLen, hFull, hCopy]
    · rw [hNew] at hPush ⊢
      have hMod : ((r.preLen r.cur).toNat + p.size b.evId) % 65536 =
          (r.preLen r.cur).toNat + p.size b.evId := by
        rw [h.currentLen]
        exact Nat.mod_eq_of_lt (by omega)
      exact {
        memory := by
          intro c
          by_cases hc : c = r.cur
          · subst hc
            simp [hLength, h.memory]
          · simp [Function.update_of_ne hc, h.memory]
        fits := hPush
        olderLen := by simp [h.olderLen]
        currentLen := by
          simp [h.currentLen]
          omega
        older := by simpa [Ring.used] using h.older
        current := by
          have hUsed := h.current
          rw [Ring.used] at hUsed
          simp [Ring.used, hMod, hTake, hUsed, packAll] }

end Put

/-- Where entries stand from an offset on, and their stamps. -/
def laid (e : EvId) : Nat → List Entry → List (U16 × U32)
  | _, [] => []
  | off, p :: rest => (BitVec.ofNat 16 off, tsAt p.time) :: laid e (off + p.size e) rest

/-- The length read back from a record's bytes is its own. -/
theorem recLen_pack {e : EvId} {p : Entry} {rest : List Byte} :
    recLen e (p.pack e ++ rest) = p.size e := by
  obtain ⟨fields, hPack⟩ := Entry.pack_header (e := e) (p := p)
  rw [recLen, hPack, List.append_assoc, word_header_id Entry.id_lt]
  cases p with
  | marker =>
      have hOther : e.marker ≠ e.heartbeat := by
        show e.base ≠ e.base + 1
        omega
      exact if_neg hOther
  | heartbeat => exact if_pos rfl

/-- The loop over a half visits its records, and ends behind the last one. -/
theorem walk_laid {e : EvId} {seg : List Byte} {segLen : U16} {entries : List Entry} {fuel : Nat}
    (off : Nat) (hUsed : (seg.take segLen.toNat).drop off = packAll e entries)
    (hLen : segLen.toNat = off + load (Entry.size e) entries) (hFuel : entries.length ≤ fuel) :
    walk e seg segLen fuel (BitVec.ofNat 16 off) = laid e off entries := by
  have hWidth := segLen.isLt
  have hOff : (BitVec.ofNat 16 off).toNat = off := by
    rw [BitVec.toNat_ofNat]
    exact Nat.mod_eq_of_lt (by omega)
  induction entries generalizing off fuel with
  | nil =>
      have hEnd : ¬ BitVec.ofNat 16 off < segLen := by
        rw [BitVec.lt_def, hOff, hLen, load_nil]
        omega
      cases fuel with
      | zero => rfl
      | succ fuel => exact if_neg hEnd
  | cons p rest ih =>
      obtain ⟨fuel, rfl⟩ : ∃ more, fuel = more + 1 := ⟨fuel - 1, by
        rw [List.length_cons] at hFuel
        omega⟩
      have hSize := Entry.size_ge (e := e) (p := p)
      rw [load_cons] at hLen
      have hIn : BitVec.ofNat 16 off < segLen := by
        rw [BitVec.lt_def, hOff]
        omega
      -- the record's bytes, as far as the half is in use
      have hBytes : (seg.take segLen.toNat).drop off = p.pack e ++ packAll e rest := by
        rw [hUsed, packAll_cons]
      obtain ⟨fields, hPack⟩ := Entry.pack_header (e := e) (p := p)
      have hStamp : word 4 off seg = (tsAt p.time).toNat := by
        rw [← word_take (m := segLen.toNat) (by omega), ← Nat.add_zero off, ← word_drop, hBytes,
          hPack, List.append_assoc, word_header_ts]
      have hRecLen : recLen e (seg.drop off) = p.size e := by
        have hId : 4 + e.size ≤ p.size e := by
          cases p with
          | marker =>
              show 4 + e.size ≤ 4 + e.size + 2 + 4
              omega
          | heartbeat =>
              show 4 + e.size ≤ 4 + e.size + 2 * 4
              omega
        have hWord : word e.size 4 (seg.drop off) =
            word e.size 4 (p.pack e ++ packAll e rest) := by
          rw [← hBytes, word_drop, word_drop, word_take (by omega)]
        rw [recLen, hWord, ← recLen, recLen_pack]
      have hNext : BitVec.ofNat 16 off + BitVec.ofNat 16 (p.size e) =
          BitVec.ofNat 16 (off + p.size e) := (BitVec.ofNat_add _ _).symm
      have hRest : (seg.take segLen.toNat).drop (off + p.size e) = packAll e rest := by
        rw [← List.drop_drop, hBytes, List.drop_left' Entry.length_pack]
      rw [walk, if_pos hIn, hOff, hStamp, hRecLen, hNext, BitVec.ofNat_toNat, BitVec.setWidth_eq, laid,
        ih _ hRest (by omega) (by rw [List.length_cons] at hFuel; omega) (by
          rw [BitVec.toNat_ofNat]
          exact Nat.mod_eq_of_lt (by omega))]

end SafetyIsland.Trace
