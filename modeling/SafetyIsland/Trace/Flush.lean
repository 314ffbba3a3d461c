import SafetyIsland.Trace.Ring

/-! The trigger's two passes over the ring. The stamps wrap, the summed ages do
not: both passes find the true age of every record, and what is written is
exactly the young end of the log. -/
namespace SafetyIsland.Trace

open LittleEndian WrappingClock HalvedLog

def times (entries : List Entry) : List Int := entries.map fun p => (p.time : Int)

/-- A record's age at an instant is within `CONFIG_ISLAND_TRACE_PRE_MS`. -/
def young (b : Build) (now : Nat) (p : Entry) : Bool :=
  decide (now - p.time ≤ b.preMs.toNat * 1000000)

/-- The age was last advanced at `t`, and counts from `start`. -/
structure Age.At (start t : Int) (a : Age) : Prop where
  known : a.known = true
  rel : a.rel = stamp 64 (t - start)
  prev : a.prev = stamp 32 t

/-- The next stamp, if there is one, will be counted from `start`. -/
structure Age.Ready (start : Int) (ts : List Int) (a : Age) : Prop where
  close : Close 32 ts
  next : ∀ t ∈ ts.head?, (a.next (stamp 32 t)).At start t

section Ages
variable {start t : Int} {ts us : List Int} {a : Age}

/-- The oldest record's age is zero. -/
theorem Age.ready_first (hKnown : a.known = false) (hRel : a.rel = 0) (hClose : Close 32 (t :: ts)) :
    a.Ready t (t :: ts) where
  close := hClose
  next := by
    intro u hu
    cases hu
    refine ⟨rfl, ?_, rfl⟩
    rw [next, hKnown, hRel, Int.sub_self]
    rfl

/-- Stamps less than a turn apart add up to the true time. -/
theorem Age.At.ready (h : a.At start t) (hClose : Close 32 (t :: ts)) : a.Ready start ts where
  close := hClose.suffix (List.suffix_cons t ts)
  next := by
    intro u hu
    obtain ⟨rest, rfl⟩ : ∃ rest, ts = u :: rest := List.head?_eq_some_iff.mp hu
    obtain ⟨⟨hLe, hLt⟩, _⟩ := List.isChain_cons_cons.mp hClose
    refine ⟨rfl, ?_, rfl⟩
    rw [next, h.known, h.rel, h.prev, if_pos rfl]
    exact stamp_add_age hLe hLt

theorem Age.Ready.at (h : a.Ready start (t :: ts)) : (a.next (stamp 32 t)).At start t :=
  h.next t rfl

theorem Age.Ready.tail (h : a.Ready start (t :: ts)) : (a.next (stamp 32 t)).Ready start ts :=
  h.at.ready h.close

/-- Pass 1 over the first records leaves the age ready for the others. -/
theorem Age.Ready.fold (h : a.Ready start (ts ++ us)) :
    ((ts.map (stamp 32)).foldl Age.next a).Ready start us := by
  induction ts generalizing a with
  | nil => exact h
  | cons t rest ih => exact ih h.tail

/-- What is ready for more is ready for less. -/
theorem Age.Ready.left (h : a.Ready start (ts ++ us)) : a.Ready start ts where
  close := h.close.infix (List.prefix_append ts us).isInfix
  next := by
    intro t ht
    apply h.next
    rw [List.head?_append, Option.mem_def.mp ht]
    rfl

/-- The age is known as soon as a stamp has been read. -/
theorem Age.fold_known {marks : List U32} (h : marks ≠ []) :
    (marks.foldl Age.next a).known = true := by
  obtain ⟨before, mark, rfl⟩ := (List.eq_nil_or_concat marks).resolve_left h
  rw [List.concat_eq_append, List.foldl_append]
  rfl

end Ages

section Cuts
variable {b : Build} {e : EvId} {start : Int} {now : Nat} {segLen : U16} {c : Cut} {off : Nat}
  {entries : List Entry}

/-- The span before the trigger does not overflow. -/
theorem pre_toNat : (b.preMs.setWidth 64 * 1000000 : U64).toNat = b.preMs.toNat * 1000000 := by
  have hWidth := b.preMs.isLt
  rw [BitVec.toNat_mul, BitVec.toNat_setWidth, Nat.mod_eq_of_lt (by omega : b.preMs.toNat < 2 ^ 64)]
  exact Nat.mod_eq_of_lt (by simp only [BitVec.reduceToNat]; omega)

/-- The words of pass 2 compare the true age with `PRE_MS`. -/
theorem young_iff {p : Entry} (hLe : p.time ≤ now) (hLt : now - p.time < 2 ^ 64) :
    stamp 64 ((now : Int) - start) - stamp 64 ((p.time : Int) - start) ≤
      b.preMs.setWidth 64 * 1000000 ↔ young b now p = true := by
  have hDiff : (now : Int) - start - ((p.time : Int) - start) = ((now - p.time : Nat) : Int) := by
    omega
  have hAge : (stamp 64 ((now - p.time : Nat) : Int)).toNat = now - p.time := by
    have hNat := toNat_stamp (w := 64) ((now - p.time : Nat) : Int)
    omega
  rw [stamp_sub, hDiff, BitVec.le_def, hAge, pre_toNat, young, decide_eq_true_iff]

section Fold
variable {nowRel preNs : U64} {mark : U16 × U32}

theorem Cut.next_kept : (c.next nowRel preNs segLen mark).kept =
    if (c.next nowRel preNs segLen mark).start ≠ segLen then c.kept + 1 else c.kept := rfl

/-- After the cut every record of the half is flushed. -/
theorem Cut.fold_found (nowRel preNs : U64) (marks : List (U16 × U32)) (h : c.start ≠ segLen) :
    (marks.foldl (Cut.next nowRel preNs segLen) c).start = c.start ∧
      (marks.foldl (Cut.next nowRel preNs segLen) c).kept =
        c.kept + BitVec.ofNat 32 marks.length := by
  induction marks generalizing c with
  | nil => exact ⟨rfl, (BitVec.add_zero _).symm⟩
  | cons mark rest ih =>
      have hStart : (c.next nowRel preNs segLen mark).start = c.start := if_neg fun hCut => h hCut.1
      have hKept : (c.next nowRel preNs segLen mark).kept = c.kept + 1 := by
        rw [next_kept, hStart, if_pos h]
      obtain ⟨hS, hK⟩ := ih (c := c.next nowRel preNs segLen mark) (by rw [hStart]; exact h)
      rw [List.foldl_cons, hS, hK, hStart, hKept, List.length_cons, BitVec.add_assoc]
      refine ⟨rfl, ?_⟩
      rw [Nat.add_comm, BitVec.ofNat_add]
      rfl

@[simp] theorem length_laid : (laid e off entries).length = entries.length := by
  induction entries generalizing off with
  | nil => rfl
  | cons p rest ih => rw [laid, List.length_cons, ih, List.length_cons]

/-- The records are stamped by the clock they were put at. -/
theorem laid_stamps : (laid e off entries).map Prod.snd = (times entries).map (stamp 32) := by
  induction entries generalizing off with
  | nil => rfl
  | cons p rest ih =>
      rw [laid, List.map_cons, ih]
      rfl

/-- Pass 2 advances the age as pass 1 does. -/
theorem Cut.fold_age : ((laid e off entries).foldl (Cut.next nowRel preNs segLen) c).age =
    ((times entries).map (stamp 32)).foldl Age.next c.age := by
  induction entries generalizing c off with
  | nil => rfl
  | cons p rest ih =>
      rw [laid, List.foldl_cons, ih]
      rfl

/-- The cut of a half stands before its first young record. -/
theorem Cut.fold_cut (off : Nat) (hStart : c.start = segLen)
    (hLen : segLen.toNat = off + load (Entry.size e) entries)
    (hReady : c.age.Ready start (times entries))
    (hYoung : ∀ p ∈ entries,
      (nowRel - stamp 64 ((p.time : Int) - start) ≤ preNs ↔ young b now p = true)) :
    ((laid e off entries).foldl (Cut.next nowRel preNs segLen) c).start.toNat +
        load (Entry.size e) (entries.dropWhile fun p => !young b now p) = segLen.toNat ∧
      ((laid e off entries).foldl (Cut.next nowRel preNs segLen) c).kept =
        c.kept + BitVec.ofNat 32 (entries.dropWhile fun p => !young b now p).length := by
  have hWidth := segLen.isLt
  induction entries generalizing c off with
  | nil =>
      refine ⟨?_, (BitVec.add_zero _).symm⟩
      show c.start.toNat + 0 = _
      rw [hStart, Nat.add_zero]
  | cons p rest ih =>
      have hSize := Entry.size_ge (e := e) (p := p)
      rw [load_cons] at hLen
      have hOff : (BitVec.ofNat 16 off).toNat = off := by
        rw [BitVec.toNat_ofNat]
        exact Nat.mod_eq_of_lt (by omega)
      have hBefore : BitVec.ofNat 16 off ≠ segLen := by
        intro h
        have hNat := congrArg BitVec.toNat h
        omega
      have hAge : (c.age.next (tsAt p.time)).rel = stamp 64 ((p.time : Int) - start) := hReady.at.rel
      have hFirst := hYoung p List.mem_cons_self
      rw [← hAge] at hFirst
      rw [laid, List.foldl_cons]
      cases hy : young b now p with
      | true =>
          have hNext : (c.next nowRel preNs segLen (BitVec.ofNat 16 off, tsAt p.time)).start =
              BitVec.ofNat 16 off := if_pos ⟨hStart, hFirst.mpr hy⟩
          obtain ⟨hS, hK⟩ := Cut.fold_found nowRel preNs (laid e (off + p.size e) rest)
            (c := c.next nowRel preNs segLen (BitVec.ofNat 16 off, tsAt p.time))
            (by rw [hNext]; exact hBefore)
          rw [List.dropWhile_cons_of_neg (by simp [hy]), hS, hK, next_kept, hNext, if_pos hBefore]
          refine ⟨?_, ?_⟩
          · rw [hOff, load_cons, hLen]
          · rw [length_laid, List.length_cons, BitVec.add_assoc, Nat.add_comm, BitVec.ofNat_add]
            rfl
      | false =>
          have hOld : ¬ (nowRel - (c.age.next (tsAt p.time)).rel ≤ preNs) := by
            intro h
            rw [hFirst.mp h] at hy
            cases hy
          have hNext : (c.next nowRel preNs segLen (BitVec.ofNat 16 off, tsAt p.time)).start =
              c.start := if_neg fun h => hOld h.2
          have hCount : (c.next nowRel preNs segLen (BitVec.ofNat 16 off, tsAt p.time)).kept =
              c.kept := by
            rw [next_kept, hNext]
            exact if_neg fun h => h hStart
          obtain ⟨hS, hK⟩ := ih (off + p.size e) (hNext.trans hStart) (by omega) hReady.tail
            fun q hq => hYoung q (List.mem_cons_of_mem p hq)
          rw [List.dropWhile_cons_of_pos (by simp [hy])]
          exact ⟨hS, hK.trans (by rw [hCount])⟩

/-- Pass 2 over a half writes the bytes of its young records, and counts them. -/
theorem Cut.half_spec (nowRel : U64) {seg : List Byte} (hUsed : seg.take segLen.toNat = packAll e entries)
    (hLen : segLen.toNat = load (Entry.size e) entries)
    (hReady : c.age.Ready start (times entries))
    (hYoung : ∀ p ∈ entries,
      (nowRel - stamp 64 ((p.time : Int) - start) ≤ preNs ↔ young b now p = true)) :
    (Cut.half e nowRel preNs c seg segLen).2 =
        packAll e (entries.dropWhile fun p => !young b now p) ∧
      (Cut.half e nowRel preNs c seg segLen).1.kept =
        c.kept + BitVec.ofNat 32 (entries.dropWhile fun p => !young b now p).length ∧
      (Cut.half e nowRel preNs c seg segLen).1.age =
        ((times entries).map (stamp 32)).foldl Age.next c.age := by
  have hFuel : entries.length ≤ segLen.toNat := by
    have hLoad : entries.length * 11 ≤ load (Entry.size e) entries := length_le_bytes
    omega
  have hWalk : walk e seg segLen segLen.toNat 0 = laid e 0 entries :=
    walk_laid 0 (by rw [List.drop_zero, hUsed]) (by rw [hLen, Nat.zero_add]) hFuel
  have hSentinel : ({ c with start := segLen } : Cut).start = segLen := rfl
  obtain ⟨hS, hK⟩ := Cut.fold_cut 0 hSentinel (by rw [hLen, Nat.zero_add]) hReady
    hYoung
  rw [Cut.half, hWalk]
  refine ⟨?_, hK, Cut.fold_age⟩
  generalize hCut : (laid e 0 entries).foldl (Cut.next nowRel preNs segLen)
    { c with start := segLen } = cut at hS ⊢
  generalize hKept : (entries.dropWhile fun p => !young b now p) = kept at hS ⊢
  show (if cut.start < segLen then (seg.drop cut.start.toNat).take (segLen - cut.start).toNat
    else []) = packAll e kept
  -- the records before the cut
  have hSplit : entries.takeWhile (fun p => !young b now p) ++ kept = entries := by
    rw [← hKept, List.takeWhile_append_dropWhile]
  have hDrop : (packAll e entries).drop cut.start.toNat = packAll e kept := by
    have hLoad := congrArg (load (Entry.size e)) hSplit
    rw [load_append] at hLoad
    rw [← hSplit, packAll_append]
    apply List.drop_left'
    rw [length_packAll]
    omega
  split
  · next hLt =>
      have hSub : (segLen - cut.start).toNat = segLen.toNat - cut.start.toNat :=
        BitVec.toNat_sub_of_le (BitVec.le_of_lt hLt)
      rw [hSub, ← List.drop_take, hUsed, hDrop]
  · next hGe =>
      rw [← hDrop]
      rw [BitVec.lt_def] at hGe
      refine (List.drop_of_length_le ?_).symm
      rw [length_packAll]
      omega

end Fold
end Cuts

/-- Neither half has room for more entries than this. -/
theorem length_le_half {b : Build} {entries : List Entry}
    (h : load (Entry.size b.evId) entries ≤ b.half) : entries.length < 5958 := by
  have hLoad : entries.length * 11 ≤ load (Entry.size b.evId) entries := length_le_bytes
  have hWidth : b.half < 2 ^ 16 := b.half_lt
  omega

/-- The records that `island_trace_fire` writes: those within `PRE_MS` of it. -/
def flushed (b : Build) (now : Nat) (held : HalvedLog Entry) : List Entry :=
  held.entries.filter (young b now)

/-- The TRIGGER record of a window whose ring has taken `n` entries. -/
def triggerOf (b : Build) (w : Window) (m : U16) (kept : Nat) : Trigger where
  marker := m
  preMs := b.preMs
  preKept := BitVec.ofNat 16 kept
  spinKeep := b.spinKeep
  preLost := w.ring.n - BitVec.ofNat 32 kept
  filtered := w.filtered

section Fire
variable {b : Build} {w : Window} {held : HalvedLog Entry} {now : Nat}

/-- Walking both halves finds the stamps of the whole log. -/
theorem Ring.Holds.stamps {r : Ring} (h : r.Holds b held) :
    (walk b.evId (r.pre !r.cur) (r.preLen !r.cur) (r.preLen !r.cur).toNat 0 ++
      walk b.evId (r.pre r.cur) (r.preLen r.cur) (r.preLen r.cur).toNat 0).map Prod.snd =
    (times held.entries).map (stamp 32) := by
  have hWalk : ∀ (c : Bool) (entries : List Entry), r.used c = packAll b.evId entries →
      (r.preLen c).toNat = load (Entry.size b.evId) entries →
      (walk b.evId (r.pre c) (r.preLen c) (r.preLen c).toNat 0).map Prod.snd =
        (times entries).map (stamp 32) := by
    intro c entries hUsed hLen
    have hLoad : entries.length * 11 ≤ load (Entry.size b.evId) entries := length_le_bytes
    have hLaid : walk b.evId (r.pre c) (r.preLen c) (r.preLen c).toNat (BitVec.ofNat 16 0) =
        laid b.evId 0 entries :=
      walk_laid 0 (by rw [List.drop_zero]; exact hUsed) (by rw [hLen, Nat.zero_add]) (by omega)
    rw [show (0 : U16) = BitVec.ofNat 16 0 from rfl, hLaid]
    exact laid_stamps
  rw [List.map_append, hWalk _ _ h.older h.olderLen, hWalk _ _ h.current h.currentLen, entries,
    times, times, times, List.map_append, List.map_append]

/-- Every entry is at most as old as the ring can hold, and in order. -/
theorem Ring.Holds.age {r : Ring} (h : r.Holds b held)
    (hClose : Close 32 (times held.entries ++ [(now : Int)])) :
    ∀ p ∈ held.entries, p.time ≤ now ∧ now - p.time < 2 ^ 64 := by
  intro p hp
  have hLength : held.entries.length < 2 * 5958 := by
    have hOlder := length_le_half h.fits.older
    have hCurrent := length_le_half h.fits.current
    rw [entries, List.length_append]
    omega
  have hMem : (p.time : Int) ∈ times held.entries := List.mem_map_of_mem hp
  obtain ⟨before, after, hSplit⟩ := List.append_of_mem hMem
  have hFrom : Close 32 ((p.time : Int) :: (after ++ [(now : Int)])) := by
    apply hClose.suffix
    rw [hSplit, List.append_assoc]
    exact List.suffix_append _ _
  obtain ⟨hLe, hSpan⟩ := hFrom.span (List.mem_append_right _ List.mem_cons_self)
  have hCount : (after ++ [(now : Int)]).length ≤ held.entries.length := by
    have hSize := congrArg List.length hSplit
    rw [times, List.length_map, List.length_append, List.length_cons] at hSize
    rw [List.length_append, List.length_singleton]
    omega
  omega

/-- In time order, no record is older than one before it. -/
theorem young_sorted {entries : List Entry} (h : (times entries).Pairwise (· ≤ ·)) :
    entries.Pairwise fun p q => young b now p = true → young b now q = true := by
  apply (List.pairwise_map.mp h).imp
  intro p q hLe hYoung
  have hAge : now - p.time ≤ b.preMs.toNat * 1000000 := of_decide_eq_true hYoung
  apply decide_eq_true
  omega

/-- `island_trace_fire` writes the records within `PRE_MS`, oldest first, and
one TRIGGER record that counts them. -/
theorem Ring.Holds.fire (up : U32) (m : U16) (h : w.ring.Holds b held)
    (hClose : Close 32 (times held.entries ++ [(now : Int)])) :
    (w.fire b (tsAt now) up m).stream = w.stream ++ packAll b.evId (flushed b now held) ++
      (triggerOf b w m (flushed b now held).length).pack b.evId (tsAt now) := by
  obtain ⟨start, hReady⟩ : ∃ start : Int, ∀ a : Age, a.known = false → a.rel = 0 →
      a.Ready start (times held.entries ++ [(now : Int)]) := by
    generalize times held.entries = ts at hClose
    cases ts with
    | nil => exact ⟨now, fun a hKnown hRel => Age.ready_first hKnown hRel hClose⟩
    | cons t rest => exact ⟨t, fun a hKnown hRel => Age.ready_first hKnown hRel hClose⟩
  -- pass 1
  generalize hAge : ((times held.entries).map (stamp 32)).foldl Age.next {} = age
  have hNow : age.known = true →
      age.rel + (tsAt now - age.prev).setWidth 64 = stamp 64 ((now : Int) - start) := by
    intro hKnown
    have hAt := ((hReady {} rfl rfl).fold).at
    rw [hAge] at hAt
    rw [← hAt.rel, Age.next, hKnown]
    rfl
  have hKnown : held.entries ≠ [] → age.known = true := by
    intro hSome
    rw [← hAge]
    apply Age.fold_known
    intro hNil
    exact hSome (List.map_eq_nil_iff.mp (List.map_eq_nil_iff.mp hNil))
  have hYoung : ∀ p ∈ held.entries,
      ((if age.known then age.rel + (tsAt now - age.prev).setWidth 64 else 0) -
        stamp 64 ((p.time : Int) - start) ≤ b.preMs.setWidth 64 * 1000000 ↔
        young b now p = true) := by
    intro p hp
    have hSome := hKnown (List.ne_nil_of_mem hp)
    obtain ⟨hLe, hLt⟩ := h.age hClose p hp
    rw [if_pos hSome, hNow hSome]
    exact young_iff hLe hLt
  generalize hRel : (if age.known then age.rel + (tsAt now - age.prev).setWidth 64 else 0) = nowRel
    at hYoung
  -- pass 2
  have hFirst : ({ age with rel := 0, known := false } : Age).Ready start
      (times held.older ++ (times held.current ++ [(now : Int)])) := by
    have hAll := hReady { age with rel := 0, known := false } rfl rfl
    rwa [entries, times, List.map_append, List.append_assoc] at hAll
  obtain ⟨hOut, hKept, hThen⟩ := Cut.half_spec nowRel
    (c := { age := { age with rel := 0, known := false } }) h.older h.olderLen hFirst.left
    fun p hp => hYoung p (List.mem_append_left _ hp)
  generalize hHalf : Cut.half b.evId nowRel (b.preMs.setWidth 64 * 1000000)
    { age := { age with rel := 0, known := false } } (w.ring.pre !w.ring.cur)
    (w.ring.preLen !w.ring.cur) = first at hOut hKept hThen
  have hSecond : first.1.age.Ready start (times held.current ++ [(now : Int)]) := by
    rw [hThen]
    exact hFirst.fold
  obtain ⟨hOut', hKept', _⟩ := Cut.half_spec nowRel h.current h.currentLen hSecond.left
    fun p hp => hYoung p (List.mem_append_right _ hp)
  -- what is skipped is what is too old
  have hSorted : (times held.older ++ times held.current).Pairwise (· ≤ ·) := by
    rw [times, times, ← List.map_append]
    exact hClose.sorted.sublist (List.sublist_append_left _ _)
  rw [List.pairwise_append] at hSorted
  rw [dropWhile_eq_filter (young_sorted hSorted.1)] at hOut hKept
  rw [dropWhile_eq_filter (young_sorted hSorted.2.1)] at hOut' hKept'
  have hZero : first.1.kept = BitVec.ofNat 32 (held.older.filter (young b now)).length :=
    hKept.trans (BitVec.zero_add _)
  have hCount : (Cut.half b.evId nowRel (b.preMs.setWidth 64 * 1000000) first.1
      (w.ring.pre w.ring.cur) (w.ring.preLen w.ring.cur)).1.kept =
      BitVec.ofNat 32 (flushed b now held).length := by
    rw [hKept', hZero, flushed, entries, List.filter_append, List.length_append, BitVec.ofNat_add]
  rw [Window.fire]
  dsimp only
  rw [h.stamps, hAge, hRel, hHalf, hOut, hOut', hCount, triggerOf,
    BitVec.setWidth_ofNat_of_le (by decide), flushed, entries, List.filter_append, packAll_append,
    List.append_assoc w.stream]

end Fire

end SafetyIsland.Trace
