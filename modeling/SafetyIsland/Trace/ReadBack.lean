import SafetyIsland.Trace.Written

/-! The records and the times that `load` makes of a stream: a step of its loop,
and the whole loop. -/
namespace SafetyIsland.Trace

open LittleEndian Framing WrappingClock

def Record.content (r : Record) : Nat × Value × Body := (r.off, r.id, r.body)

/-- The records from an offset on, but for their times. -/
def Written.shown (u : Setup) (d : Tsdl) (e : EvId) : Nat → List Written →
    List (Nat × Value × Body)
  | _, [] => []
  | off, w :: ws => (off, (w.body u d).id (w.id e), w.body u d) ::
      shown u d e (off + (w.pack e).length) ws

/-- One record after another, not 2^31 ns away; a new segment may start at any
time. -/
def Written.Paced (ws : List Written) : Prop :=
  ws.IsChain fun w v => w.opens = true ∨
    (w.time : Int) - 2 ^ 31 ≤ v.time ∧ (v.time : Int) < w.time + 2 ^ 31

instance Written.decidablePaced (ws : List Written) : Decidable (Written.Paced ws) :=
  inferInstanceAs (Decidable (ws.IsChain fun w v => w.opens = true ∨
    (w.time : Int) - 2 ^ 31 ≤ v.time ∧ (v.time : Int) < w.time + 2 ^ 31))

/-- Within a segment, times differ by what elapsed. -/
def Elapsed (p q : Written × Record) : Prop :=
  p.1.opens = false → q.2.tNs - p.2.tNs = (q.1.time : Int) - p.1.time

/-- The last segment that has been started. -/
structure LastSegment (ws before seg : List Written) : Prop where
  split : ∃ p, ws = before ++ p :: seg ∧ p.opens = true
  last : ∀ w ∈ seg, w.opens = false

/-- The loop's variables after some records. -/
structure Reading.After (u : Setup) (d : Tsdl) (e : EvId) (ws : List Written) (s : Reading) : Prop where
  pos : s.pos = (Written.stream e ws).length
  content : s.recs.map Record.content = Written.shown u d e 0 ws
  bodies : ∀ p ∈ ws.zip s.recs, p.2.body = p.1.body u d
  elapsed : (ws.zip s.recs).IsChain Elapsed
  /-- A time is the stamp's, but for turns of the clock. -/
  turns : ∀ p ∈ ws.zip s.recs, ∃ k : Int, (p.1.time : Int) = p.2.tNs + k * 2 ^ 32
  last : ∀ p ∈ (ws.zip s.recs).getLast?,
    s.ext = p.2.tNs ∧ s.prevTs = if p.1.opens then none else some (tsAt p.1.time)
  first : ws = [] → s.prevTs = none
  segment : (s.segStart = none ∧ ∀ w ∈ ws, w.opens = false) ∨
    ∃ before seg, s.segStart = some (before.length + 1) ∧ LastSegment ws before seg

section Loop
variable {u : Setup} {d : Tsdl} {e : EvId} {ws before seg : List Written} {w : Written}
  {s : Reading}

/-- One record more. -/
theorem Written.stream_concat :
    Written.stream e (ws ++ [w]) = Written.stream e ws ++ w.pack e := by
  rw [Written.stream, List.flatMap_append, List.flatMap_singleton]
  rfl

/-- Two streams, one behind the other, show one behind the other. -/
theorem Written.shown_append (off : Nat) (vs : List Written) :
    Written.shown u d e off (ws ++ vs) =
      Written.shown u d e off ws ++ Written.shown u d e (off + (Written.stream e ws).length) vs := by
  induction ws generalizing off with
  | nil => rfl
  | cons v ws ih =>
      rw [List.cons_append, Written.shown, Written.shown, ih, List.cons_append, Written.stream,
        Written.stream, List.flatMap_cons, List.length_append, Nat.add_assoc]

theorem Written.length_shown (off : Nat) : (Written.shown u d e off ws).length = ws.length := by
  induction ws generalizing off with
  | nil => rfl
  | cons v ws ih => rw [Written.shown, List.length_cons, List.length_cons, ih]

theorem Reading.After.length (h : Reading.After u d e ws s) : s.recs.length = ws.length := by
  rw [← List.length_map (f := Record.content), h.content, Written.length_shown]

/-- The record shown opens a segment if the one written did. -/
theorem Written.body_opens : (w.body u d).opensSegment = w.opens := by
  cases w with
  | entry p => cases p <;> rfl
  | provenance t text => rfl
  | trigger t f => rfl
  | event t i raws =>
      rw [Written.body]
      cases d.events i <;> rfl

/-- The modular difference of two stamps is what elapsed. -/
theorem Reading.time_next {a b : Nat} (hPrev : s.prevTs = some (tsAt a))
    (hFrom : (a : Int) - 2 ^ 31 ≤ b) (hTo : (b : Int) < a + 2 ^ 31) :
    s.time (tsAt b) = s.ext + (b - a) := by
  have hWord : ((tsAt b - tsAt a).toNat : Int) = ((b : Int) - a) % (2 ^ 32 : Nat) := by
    rw [tsAt, tsAt, stamp_sub, toNat_stamp]
  have hTime : s.time (tsAt b) =
      s.ext + if 0x80000000 ≤ (tsAt b - tsAt a).toNat then
        ((tsAt b - tsAt a).toNat : Int) - 0x100000000 else (tsAt b - tsAt a).toNat := by
    rw [Reading.time, hPrev]
  rw [hTime]
  split_ifs with hTurned <;> omega

/-- The first stamp is taken as it stands. -/
theorem Reading.time_first {b : Nat} (hPrev : s.prevTs = none) :
    (b : Int) = s.time (tsAt b) + (b : Int) / 2 ^ 32 * 2 ^ 32 := by
  have hWord : ((tsAt b).toNat : Int) = (b : Int) % (2 ^ 32 : Nat) := toNat_stamp _
  rw [Reading.time, hPrev]
  dsimp only
  omega

/-- A record that opens no segment belongs to the last one. -/
theorem LastSegment.concat (h : LastSegment ws before seg) (hNot : w.opens = false) :
    LastSegment (ws ++ [w]) before (seg ++ [w]) := by
  obtain ⟨⟨p, rfl, hOpens⟩, hLast⟩ := h
  constructor
  · exact ⟨p, by rw [List.append_assoc, List.cons_append], hOpens⟩
  · intro v hv
    rcases List.mem_append.mp hv with hv | hv
    · exact hLast v hv
    · rw [List.mem_singleton.mp hv]
      exact hNot

/-- The record read last is the last one written. -/
theorem Reading.After.last_written (h : Reading.After u d e ws s) :
    ws.getLast? = (ws.zip s.recs).getLast?.map Prod.fst := by
  rw [← List.getLast?_map, List.map_fst_zip h.length.ge]

/-- The time of the record that comes next. -/
theorem Reading.After.time (h : Reading.After u d e ws s) (hPaced : Written.Paced (ws ++ [w])) :
    (∀ p ∈ (ws.zip s.recs).getLast?, p.1.opens = false →
      s.time (tsAt w.time) - p.2.tNs = (w.time : Int) - p.1.time) ∧
    ∃ k : Int, (w.time : Int) = s.time (tsAt w.time) + k * 2 ^ 32 := by
  obtain ⟨-, -, hNext⟩ := List.isChain_append.mp hPaced
  cases hLast : (ws.zip s.recs).getLast? with
  | none =>
      have hNil : ws = [] := by
        rw [← List.getLast?_eq_none_iff, h.last_written, hLast]
        rfl
      constructor
      · intro p hp
        cases hp
      · exact ⟨_, Reading.time_first (h.first hNil)⟩
  | some p =>
      obtain ⟨hExt, hPrev⟩ := h.last p hLast
      have hWritten : ws.getLast? = some p.1 := by
        rw [h.last_written, hLast]
        rfl
      cases hOpens : p.1.opens with
      | true =>
          rw [hOpens, if_pos rfl] at hPrev
          constructor
          · intro q hq hNot
            cases hq
            rw [hOpens] at hNot
            cases hNot
          · exact ⟨_, Reading.time_first hPrev⟩
      | false =>
          rw [hOpens, if_neg Bool.false_ne_true] at hPrev
          obtain ⟨hFrom, hTo⟩ := (hNext p.1 hWritten w rfl).resolve_left (by rw [hOpens]; decide)
          have hTime := Reading.time_next hPrev hFrom hTo
          obtain ⟨k, hTurns⟩ := h.turns p (List.mem_of_getLast? hLast)
          constructor
          · intro q hq _
            cases hq
            omega
          · refine ⟨k, ?_⟩
            omega

/-- One more record. -/
theorem Reading.After.next (h : Reading.After u d e ws s) (hPaced : Written.Paced (ws ++ [w])) :
    Reading.After u d e (ws ++ [w]) (s.next u d e w) := by
  obtain ⟨hElapsed, hTurns⟩ := h.time hPaced
  have hZip : (ws ++ [w]).zip (s.next u d e w).recs = ws.zip s.recs ++
      [(w, ⟨s.pos, s.time (tsAt w.time), (w.body u d).id (w.id e), w.body u d⟩)] :=
    List.zip_append h.length.symm
  constructor
  · rw [Written.stream_concat, List.length_append, ← h.pos]
    rfl
  · rw [Written.shown_append, ← h.content, Nat.zero_add, ← h.pos]
    exact List.map_append
  · rw [hZip]
    intro p hp
    rcases List.mem_append.mp hp with hp | hp
    · exact h.bodies p hp
    · rw [List.mem_singleton.mp hp]
  · rw [hZip, List.isChain_append]
    refine ⟨h.elapsed, List.isChain_singleton _, ?_⟩
    intro p hp q hq
    cases hq
    exact hElapsed p hp
  · rw [hZip]
    intro p hp
    rcases List.mem_append.mp hp with hp | hp
    · exact h.turns p hp
    · rw [List.mem_singleton.mp hp]
      exact hTurns
  · rw [hZip, List.getLast?_concat]
    intro p hp
    cases hp
    exact ⟨rfl, by rw [← Written.body_opens (u := u) (d := d)]; rfl⟩
  · intro hNil
    exact absurd hNil (by simp)
  · have hStart : (s.next u d e w).segStart =
        if w.opens then some (ws.length + 1) else s.segStart := by
      rw [← Written.body_opens (u := u) (d := d), ← h.length]
      rfl
    rw [hStart]
    cases hOpens : w.opens with
    | true => exact .inr ⟨ws, [], rfl, ⟨w, rfl, hOpens⟩, by simp⟩
    | false =>
        rw [if_neg Bool.false_ne_true]
        rcases h.segment with ⟨hNone, hNot⟩ | ⟨before, seg, hSome, hSegment⟩
        · refine .inl ⟨hNone, ?_⟩
          intro v hv
          rcases List.mem_append.mp hv with hv | hv
          · exact hNot v hv
          · rw [List.mem_singleton.mp hv]
            exact hOpens
        · exact .inr ⟨before, seg ++ [w], hSome, hSegment.concat hOpens⟩

/-- All of them. -/
theorem reading_after (hPaced : Written.Paced ws) :
    Reading.After u d e ws (ws.foldl (Reading.next u d e) {}) := by
  induction ws using List.reverseRecOn with
  | nil =>
      constructor
      · rfl
      · rfl
      · intro p hp
        cases hp
      · exact List.isChain_nil
      · intro p hp
        cases hp
      · intro p hp
        cases hp
      · exact fun _ => rfl
      · exact .inl ⟨rfl, by simp⟩
  | append_singleton ws w ih =>
      rw [List.foldl_concat]
      exact (ih (List.isChain_append.mp hPaced).1).next hPaced

end Loop

end SafetyIsland.Trace
