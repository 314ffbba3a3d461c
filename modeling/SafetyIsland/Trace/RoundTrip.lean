import SafetyIsland.Trace.ReadBack

/-! A trace read back: raw, wrapped or dumped, `load` returns the records that
were written, with the time that elapsed between them, and from a trace
window's heartbeat on the uptime itself. -/
namespace SafetyIsland.Trace

open LittleEndian Framing

/-- A heartbeat's uptime, beside the instant of its stamp. -/
def Written.heartbeat? : Written → Option (Nat × U32)
  | .entry (.heartbeat t _ up) => some (t, up)
  | _ => none

/-- The first heartbeat's uptime is of the clock that stamps, within 2^31 ns. -/
def Written.Anchored (seg : List Written) : Prop :=
  ∃ t up, seg.findSome? Written.heartbeat? = some (t, up) ∧
    (t : Int) - 2 ^ 31 < up.toNat * 1000000 ∧ (up.toNat * 1000000 : Int) < t + 2 ^ 31

/-- What `load` shows is what was written. -/
structure ReadBack (u : Setup) (d : Tsdl) (e : EvId) (ws : List Written) (l : Loaded) : Prop where
  used : l.used = (Written.stream e ws).length
  content : l.records.map Record.content = Written.shown u d e 0 ws
  elapsed : (ws.zip l.records).IsChain Elapsed
  uptime : ∀ before seg, LastSegment ws before seg → Written.Anchored seg →
    ∀ p ∈ seg.zip (l.records.drop (before.length + 1)), p.2.tNs = p.1.time

/-- The nearest turn is the one the anchor stands in. -/
theorem roundTurns_near {n k : Int} (hFrom : k * 2 ^ 32 - 2 ^ 31 < n)
    (hTo : n < k * 2 ^ 32 + 2 ^ 31) : roundTurns n = k := by
  rw [roundTurns]
  split_ifs <;> omega

section Anchor
variable {u : Setup} {d : Tsdl} {e : EvId} {ws before seg : List Written} {recs : List Record}
  {s : Reading}

/-- Anchoring changes nothing but the times. -/
theorem anchor_content (segStart : Option Nat) :
    (anchor segStart recs).map Record.content = recs.map Record.content := by
  cases segStart with
  | none => rfl
  | some start =>
      rw [anchor]
      split
      · rfl
      · rw [List.map_append, List.map_map]
        conv_rhs => rw [← List.take_append_drop start recs, List.map_append]
        rfl

/-- A segment's start anchors the rest of the records at a time of their own. -/
theorem anchor_some (recs : List Record) (start : Nat) : ∃ ns, anchor (some start) recs =
    recs.take start ++ (recs.drop start).map (Record.shift ns) := by
  rw [anchor]
  split
  · refine ⟨0, ?_⟩
    have hSame : Record.shift 0 = id := by
      funext r
      rw [Record.shift, Int.add_zero]
      rfl
    rw [hSame, List.map_id, List.take_append_drop]
  · exact ⟨_, rfl⟩

theorem LastSegment.length (h : LastSegment ws before seg) :
    ws.length = before.length + 1 + seg.length := by
  obtain ⟨⟨p, rfl, -⟩, -⟩ := h
  rw [List.length_append, List.length_cons]
  omega

/-- Behind the opening record stands the last segment. -/
theorem LastSegment.drop (h : LastSegment ws before seg) : ws.drop (before.length + 1) = seg := by
  obtain ⟨⟨p, rfl, -⟩, -⟩ := h
  rw [← List.singleton_append, ← List.append_assoc]
  exact List.drop_left' (by simp)

theorem zip_drop (n : Nat) : (ws.zip recs).drop n = (ws.drop n).zip (recs.drop n) :=
  List.drop_zipWith

/-- There is one last segment. -/
theorem LastSegment.unique {before' seg' : List Written} (h : LastSegment ws before seg)
    (h' : LastSegment ws before' seg') : before = before' := by
  obtain ⟨⟨p, rfl, hOpens⟩, hLast⟩ := h
  obtain ⟨⟨q, hSplit, hOpens'⟩, hLast'⟩ := h'
  rcases List.append_eq_append_iff.mp hSplit with ⟨gap, rfl, hGap⟩ | ⟨gap, rfl, hGap⟩
  · cases gap with
    | nil => rw [List.append_nil]
    | cons g gap =>
        obtain ⟨-, rfl⟩ := List.cons.inj hGap
        exact absurd (hLast q (by simp)) (by simp [hOpens'])
  · cases gap with
    | nil => rw [List.append_nil]
    | cons g gap =>
        obtain ⟨-, rfl⟩ := List.cons.inj hGap
        exact absurd (hLast' p (by simp)) (by simp [hOpens])

/-- Within a segment all times are as far off. -/
theorem Elapsed.constant {recs : List Record} (h : (seg.zip recs).IsChain Elapsed)
    (hSeg : ∀ w ∈ seg, w.opens = false) :
    ∃ c : Int, ∀ p ∈ seg.zip recs, (p.1.time : Int) = p.2.tNs + c := by
  generalize hPairs : seg.zip recs = pairs at h
  have hNot : ∀ p ∈ pairs, p.1.opens = false := by
    intro p hp
    rw [← hPairs] at hp
    exact hSeg p.1 (List.of_mem_zip hp).1
  clear hPairs hSeg
  induction pairs with
  | nil =>
      refine ⟨0, ?_⟩
      intro p hp
      cases hp
  | cons p pairs ih =>
      cases pairs with
      | nil =>
          refine ⟨p.1.time - p.2.tNs, ?_⟩
          intro q hq
          rw [List.mem_singleton.mp hq]
          omega
      | cons q pairs =>
          obtain ⟨hStep, hRest⟩ := List.isChain_cons_cons.mp h
          obtain ⟨c, hc⟩ := ih hRest fun r hr => hNot r (List.mem_cons_of_mem p hr)
          refine ⟨c, ?_⟩
          intro r hr
          rcases List.mem_cons.mp hr with rfl | hr
          · have hElapsed := hStep (hNot r List.mem_cons_self)
            have hq := hc q List.mem_cons_self
            omega
          · exact hc r hr

/-- The first heartbeat read is the first one written. -/
theorem findSome_heartbeat {c : Int} (hLength : recs.length = seg.length)
    (hBodies : ∀ p ∈ seg.zip recs, p.2.body = p.1.body u d)
    (hTimes : ∀ p ∈ seg.zip recs, (p.1.time : Int) = p.2.tNs + c) :
    recs.findSome? Record.heartbeat? =
      (seg.findSome? Written.heartbeat?).map fun h => ((h.1 : Int) - c, h.2) := by
  induction seg generalizing recs with
  | nil =>
      rw [List.eq_nil_of_length_eq_zero hLength]
      rfl
  | cons w seg ih =>
      obtain ⟨r, recs, rfl⟩ := List.exists_cons_of_length_eq_add_one hLength
      have hBody : r.body = w.body u d := hBodies (w, r) List.mem_cons_self
      have hTime : (w.time : Int) = r.tNs + c := hTimes (w, r) List.mem_cons_self
      have hRest := ih (by simpa using hLength : recs.length = seg.length)
        (fun p hp => hBodies p (List.mem_cons_of_mem _ hp))
        (fun p hp => hTimes p (List.mem_cons_of_mem _ hp))
      have hHead : Record.heartbeat? r =
          (Written.heartbeat? w).map fun h => ((h.1 : Int) - c, h.2) := by
        rw [Record.heartbeat?, hBody]
        cases w with
        | entry p =>
            cases p with
            | marker t m arg => rfl
            | heartbeat t seq up =>
                have hAt : (t : Int) = r.tNs + c := hTime
                simp [Written.body, Written.heartbeat?, hAt]
        | provenance t text => rfl
        | trigger t f => rfl
        | event t i raws =>
            rw [Written.body]
            cases d.events i <;> rfl
      rw [List.findSome?_cons, List.findSome?_cons, hHead, hRest]
      cases Written.heartbeat? w <;> rfl

/-- Shifted or not, what follows an opening provenance is as far apart. -/
theorem Elapsed.anchored (h : LastSegment ws before seg) (hLength : recs.length = ws.length)
    (hElapsed : (ws.zip recs).IsChain Elapsed) (ns : Int) :
    (ws.zip (recs.take (before.length + 1) ++
      (recs.drop (before.length + 1)).map (Record.shift ns))).IsChain Elapsed := by
  have hSize := h.length
  obtain ⟨⟨p, rfl, hOpens⟩, -⟩ := h
  have hWs : before ++ p :: seg = (before ++ [p]) ++ seg := by simp
  have hTake : (before ++ [p]).length = (recs.take (before.length + 1)).length := by
    rw [List.length_take, List.length_append, List.length_singleton]
    omega
  rw [← List.take_append_drop (before.length + 1) recs, hWs, List.zip_append hTake,
    List.isChain_append] at hElapsed
  obtain ⟨hFirst, hSecond, -⟩ := hElapsed
  rw [hWs, List.zip_append hTake, List.isChain_append]
  refine ⟨hFirst, ?_, ?_⟩
  · rw [List.zip_map_right, List.isChain_map]
    apply hSecond.imp
    intro a b hStep hNot
    have hSame := hStep hNot
    simp only [Prod.map, id, Record.shift]
    omega
  · intro a ha b _ hNot
    have hLast : (before ++ [p]).getLast? = some a.1 := by
      rw [← List.map_fst_zip hTake.le, List.getLast?_map, ha]
      rfl
    rw [List.getLast?_concat] at hLast
    rw [← Option.some.inj hLast, hOpens] at hNot
    cases hNot

/-- After the loop. -/
theorem Reading.After.loaded (h : Reading.After u d e ws s) (header : Option Header)
    (zephyr : String) (error : Option String) :
    ReadBack u d e ws (s.loaded header zephyr error) := by
  constructor
  · exact h.pos
  · rw [← h.content]
    exact anchor_content s.segStart
  · show (ws.zip (anchor s.segStart s.recs)).IsChain Elapsed
    rcases h.segment with ⟨hNone, -⟩ | ⟨before, seg, hSome, hSegment⟩
    · rw [hNone]
      exact h.elapsed
    · obtain ⟨ns, hAnchor⟩ := anchor_some s.recs (before.length + 1)
      rw [hSome, hAnchor]
      exact Elapsed.anchored hSegment h.length h.elapsed ns
  · intro before seg hSegment ⟨t, up, hHeartbeat, hFrom, hTo⟩
    have hStart : s.segStart = some (before.length + 1) := by
      rcases h.segment with ⟨-, hNot⟩ | ⟨before', seg', hSome, hSegment'⟩
      · obtain ⟨⟨p, rfl, hOpens⟩, -⟩ := hSegment
        exact absurd (hNot p (by simp)) (by simp [hOpens])
      · rw [hSome, hSegment.unique hSegment']
    -- the last segment's own part of the loop
    have hDrop : ∀ p ∈ seg.zip (s.recs.drop (before.length + 1)), p ∈ ws.zip s.recs := by
      intro p hp
      rw [← hSegment.drop, ← zip_drop] at hp
      exact List.mem_of_mem_drop hp
    have hLength : (s.recs.drop (before.length + 1)).length = seg.length := by
      have hSize := hSegment.length
      rw [List.length_drop, h.length]
      omega
    have hElapsed : (seg.zip (s.recs.drop (before.length + 1))).IsChain Elapsed := by
      rw [← hSegment.drop, ← zip_drop]
      exact h.elapsed.drop _
    obtain ⟨c, hTimes⟩ := Elapsed.constant hElapsed hSegment.last
    -- a heartbeat's uptime says how many turns that is
    have hFound := findSome_heartbeat hLength (fun p hp => h.bodies p (hDrop p hp)) hTimes
    rw [hHeartbeat] at hFound
    obtain ⟨k, hTurns⟩ : ∃ k : Int, c = k * 2 ^ 32 := by
      have hSome : seg.zip (s.recs.drop (before.length + 1)) ≠ [] := by
        intro hNil
        rcases List.zip_eq_nil_iff.mp hNil with hNil | hNil
        · rw [hNil] at hHeartbeat
          cases hHeartbeat
        · rw [hNil] at hFound
          cases hFound
      obtain ⟨p, hp⟩ := List.exists_mem_of_ne_nil _ hSome
      obtain ⟨k, hk⟩ := h.turns p (hDrop p hp)
      refine ⟨k, ?_⟩
      have hOff := hTimes p hp
      omega
    have hRound : roundTurns (up.toNat * 1000000 - ((t : Int) - c)) = k :=
      roundTurns_near (by omega) (by omega)
    have hAnchor : anchor s.segStart s.recs = s.recs.take (before.length + 1) ++
        (s.recs.drop (before.length + 1)).map (Record.shift (k * 2 ^ 32)) := by
      rw [hStart, anchor]
      simp only [hFound, Option.map_some, hRound]
    show ∀ p ∈ seg.zip ((anchor s.segStart s.recs).drop (before.length + 1)), _
    have hTake : (s.recs.take (before.length + 1)).length = before.length + 1 := by
      have hSize := hSegment.length
      rw [List.length_take, h.length]
      omega
    rw [hAnchor, List.drop_left' hTake, List.zip_map_right]
    intro p hp
    obtain ⟨q, hq, rfl⟩ := List.mem_map.mp hp
    have hTime := hTimes q hq
    show q.2.tNs + k * 2 ^ 32 = (q.1.time : Int)
    omega

end Anchor

end SafetyIsland.Trace
