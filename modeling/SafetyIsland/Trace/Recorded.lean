import SafetyIsland.Trace.LoadAny
import SafetyIsland.Trace.RecordPolicy

/-! From the image to the decoder: in every run of the trace window the stream
is one that `load` reads back, and what it shows is the provenance and, once
the trigger has fired, the last `PRE_MS` before it and everything made since. -/
namespace SafetyIsland.Trace

open LittleEndian WrappingClock HalvedLog Transition Framing

/-- What has been made since the provenance was last written. -/
structure Story where
  /-- When the provenance was stamped. -/
  opened : Nat
  /-- When the last record was stamped. -/
  last : Nat
  /-- When the trigger fired. -/
  fired : Option Nat := none
  /-- The records made since, the trigger's own marker first. -/
  streamed : List Entry := []
  /-- The heartbeats since boot. -/
  beats : Nat := 0

/-- One more record, stamped at `t`; before the trigger it goes into the ring. -/
def Story.made (h : Story) (streams : Bool) (p : Entry) : Story :=
  { h with last := p.time, streamed := if streams then h.streamed ++ [p] else h.streamed }

/-- The observer follows the window's own decisions. -/
def storyNote (b : Build) (h : Story) (s : Option Recording) (e : Window.Event)
    (_ : Option Recording) : Story :=
  match s, e with
  | none, _ => h
  | some o, .marker t up m arg =>
      let w := o.window.judge b (tsAt t) up m arg
      let h := { h with fired := if o.window.fires m arg then some t else h.fired }
      if (w.keep b m arg).1 then h.made w.triggered (.marker t m arg) else h
  | some o, .heartbeat t up none =>
      { h with beats := h.beats + 1 }.made o.window.triggered (.heartbeat t o.window.hbSeq up)
  | some _, .heartbeat t _ (some (t', _)) =>
      { opened := t', last := t, beats := h.beats + 1 }

/-- A record is stamped less than 2^31 ns after the last one made, and a
heartbeat reads its uptime less than that beside its stamp. -/
def Timely (h : Story) : Window.Event → Prop
  | .marker t .. => h.last ≤ t ∧ t < h.last + 2 ^ 31
  | .heartbeat t up _ => (h.last ≤ t ∧ t < h.last + 2 ^ 31) ∧
      (t : Int) - 2 ^ 31 < up.toNat * 1000000 ∧ (up.toNat * 1000000 : Int) < t + 2 ^ 31

instance Timely.decidable (h : Story) : (e : Window.Event) → Decidable (Timely h e)
  | .marker t .. => inferInstanceAs (Decidable (h.last ≤ t ∧ t < h.last + 2 ^ 31))
  | .heartbeat t up _ => inferInstanceAs (Decidable ((h.last ≤ t ∧ t < h.last + 2 ^ 31) ∧
      (t : Int) - 2 ^ 31 < up.toNat * 1000000 ∧ (up.toNat * 1000000 : Int) < t + 2 ^ 31))

/-- What an image has written, given the records the trigger has flushed. -/
def Story.written (b : Build) (h : Story) (kept : List Entry) (f : Trigger) : List Written :=
  .provenance h.opened b.provenance :: match h.fired with
    | none => []
    | some t => kept.map Written.entry ++ .trigger t f :: h.streamed.map Written.entry

/-- A window at its boot, and nothing made. -/
def Recorded.boot (b : Build) (t : Nat) : Observed (Option Recording) Story :=
  { state := some (Recording.boot b t), history := { opened := t, last := t } }

section Marker
variable {b : Build} {o o' : Recording} {held : HalvedLog Entry} {t : Nat} {up : U32} {m : U16}
  {arg : U32}

/-- The four ends of a marker. -/
inductive MarkerEnd (b : Build) (o o' : Recording) (held : HalvedLog Entry) (t : Nat) (up : U32)
    (m : U16) (arg : U32) : Prop where
  | fired (hFires : o.window.fires m arg = true)
      (hKeep : ((o.window.judge b (tsAt t) up m arg).keep b m arg).1 = true)
      (hJudged : (o.window.judge b (tsAt t) up m arg).triggered = true)
      (hTriggered : o'.window.triggered = true) (hRing : o'.window.ring = o.window.ring)
      (hPuts : o'.puts = o.puts)
      (hStream : Close 32 (times o.puts ++ [(t : Int)]) → o'.window.stream =
        o.window.stream ++ packAll b.evId (flushed b t held) ++
          (triggerOf b o.window m (flushed b t held).length).pack b.evId (tsAt t) ++
          packMarker b.evId (tsAt t) m arg)
  | dropped (hFires : o.window.fires m arg = false)
      (hKeep : ((o.window.judge b (tsAt t) up m arg).keep b m arg).1 = false)
      (hTriggered : o'.window.triggered = o.window.triggered)
      (hRing : o'.window.ring = o.window.ring) (hPuts : o'.puts = o.puts)
      (hStream : o'.window.stream = o.window.stream)
  | streamed (hFires : o.window.fires m arg = false)
      (hKeep : ((o.window.judge b (tsAt t) up m arg).keep b m arg).1 = true)
      (hJudged : (o.window.judge b (tsAt t) up m arg).triggered = true)
      (hOpen : o.window.triggered = true) (hTriggered : o'.window.triggered = true)
      (hRing : o'.window.ring = o.window.ring) (hPuts : o'.puts = o.puts)
      (hStream : o'.window.stream = o.window.stream ++ (Entry.marker t m arg).pack b.evId)
  | put (hFires : o.window.fires m arg = false)
      (hKeep : ((o.window.judge b (tsAt t) up m arg).keep b m arg).1 = true)
      (hJudged : (o.window.judge b (tsAt t) up m arg).triggered = false)
      (hOpen : o.window.triggered = false) (hTriggered : o'.window.triggered = false)
      (hPuts : o'.puts = o.puts ++ [.marker t m arg])
      (hStream : o'.window.stream = o.window.stream)

/-- A marker that does not fire the trigger leaves it and the stream alone. -/
theorem Window.judge_quiet (b : Build) {w : Window} (ts up : U32)
    (h : w.fires m arg = false) :
    (w.judge b ts up m arg).triggered = w.triggered ∧
      (w.judge b ts up m arg).stream = w.stream := by
  rw [Window.judge]
  split_ifs with hFirst hOpens
  · rw [Window.fires, hFirst, hOpens] at h
    cases h
  · exact ⟨w.arm_triggered m arg, w.arm_stream m arg⟩
  · exact ⟨rfl, rfl⟩

/-- No marker counts a heartbeat. -/
theorem Window.judge_keep_hbSeq {w : Window} {ts : U32} :
    ((w.judge b ts up m arg).keep b m arg).2.hbSeq = w.hbSeq := by
  have hArm : (w.arm m arg).hbSeq = w.hbSeq := by
    rw [Window.arm]
    split <;> rfl
  have hJudge : (w.judge b ts up m arg).hbSeq = w.hbSeq := by
    rw [Window.judge]
    split_ifs
    · exact hArm
    · exact hArm
    · rfl
  rw [← hJudge]
  generalize w.judge b ts up m arg = judged
  rw [Window.keep]
  split
  · rfl
  · split
    · split <;> rfl
    · rfl
    · rfl
    · rfl

/-- What becomes of a marker. -/
theorem Recording.marker_end (h : o.Holds b held)
    (hNext : Recording.next b (some o) (.marker t up m arg) = some o') :
    o'.window.hbSeq = o.window.hbSeq ∧ MarkerEnd b o o' held t up m arg := by
  have hSeq : o'.window.hbSeq = o.window.hbSeq := by
    obtain ⟨ring, stream, hWindow⟩ := Recording.next_marker hNext
    rw [hWindow, ← Window.judge_keep_hbSeq (b := b) (w := o.window)]
    generalize (o.window.judge b (tsAt t) up m arg).keep b m arg = kept
    obtain ⟨keep, w⟩ := kept
    cases keep <;> rfl
  refine ⟨hSeq, ?_⟩
  have hStep : ((o.window.markerWindowed b t up m arg).map fun s =>
    ({ window := s.1, puts := o.puts ++ s.2 } : Recording)) = some o' := hNext
  cases hFires : o.window.fires m arg with
  | true =>
      have hOpens : (o.window.arm m arg).opens m = true := (Bool.and_eq_true_iff.mp hFires).2
      have hKeep : (o.window.judge b (tsAt t) up m arg).keep b m arg =
          (true, (o.window.arm m arg).fire b (tsAt t) up m) := by
        rw [Window.judge_fires b _ _ hFires, Window.keep_opens b hOpens]
      have hJudged : (o.window.judge b (tsAt t) up m arg).triggered = true := by
        rw [Window.judge_fires b _ _ hFires]
        rfl
      have hSame := hStep
      rw [Window.markerWindowed_streamed hKeep rfl] at hSame
      cases hSame
      apply MarkerEnd.fired hFires (by rw [hKeep]) hJudged rfl (o.window.arm_ring m arg)
        (List.append_nil _)
      intro hClose
      obtain ⟨o'', hNext', hStream⟩ := h.flush up hFires hClose
      rw [hNext] at hNext'
      cases hNext'
      exact hStream
  | false =>
      obtain ⟨hTriggered, hStream⟩ := Window.judge_quiet b (tsAt t) up hFires
      have hFrame := (o.window.judge b (tsAt t) up m arg).keep_frame b m arg
      generalize hKeep : (o.window.judge b (tsAt t) up m arg).keep b m arg = kept at hFrame
      obtain ⟨keep, w⟩ := kept
      obtain ⟨hKeptRing, hKeptTriggered, hKeptStream⟩ := hFrame
      have hRing := hKeptRing.trans (o.window.judge_ring b (tsAt t) up m arg)
      cases keep with
      | false =>
          rw [Window.markerWindowed_dropped hKeep] at hStep
          cases hStep
          exact .dropped hFires (by rw [hKeep]) (hKeptTriggered.trans hTriggered) hRing
            (List.append_nil _) (hKeptStream.trans hStream)
      | true =>
          cases hOpen : o.window.triggered with
          | true =>
              have hNow : w.triggered = true := hKeptTriggered.trans (hTriggered.trans hOpen)
              rw [Window.markerWindowed_streamed hKeep hNow] at hStep
              cases hStep
              apply MarkerEnd.streamed hFires (by rw [hKeep]) (hTriggered.trans hOpen) hOpen hNow
                hRing (List.append_nil _)
              show w.stream ++ _ = _
              rw [hKeptStream.trans hStream]
              rfl
          | false =>
              have hNow : w.triggered = false := hKeptTriggered.trans (hTriggered.trans hOpen)
              rw [Window.markerWindowed_ring hKeep hNow, Option.map_map] at hStep
              obtain ⟨ring, _, rfl⟩ := Option.map_eq_some_iff.mp hStep
              exact .put hFires (by rw [hKeep]) (hTriggered.trans hOpen) hOpen hNow rfl
                (hKeptStream.trans hStream)

/-- The two ends of a heartbeat. -/
theorem Recording.heartbeat_end
    (hNext : Recording.next b (some o) (.heartbeat t up none) = some o') :
    o'.window.hbSeq = o.window.hbSeq + 1 ∧ o'.window.triggered = o.window.triggered ∧
      (o.window.triggered = true → o'.window.ring = o.window.ring ∧ o'.puts = o.puts ∧
        o'.window.stream =
          o.window.stream ++ (Entry.heartbeat t o.window.hbSeq up).pack b.evId) ∧
      (o.window.triggered = false →
        o'.puts = o.puts ++ [.heartbeat t o.window.hbSeq up] ∧
          o'.window.stream = o.window.stream) := by
  have hStep : ((o.window.heartbeat b t up none).map fun s =>
    ({ window := s.1, puts := o.puts ++ s.2 } : Recording)) = some o' := hNext
  rw [Window.heartbeat] at hStep
  dsimp only at hStep
  cases hTriggered : o.window.triggered with
  | true =>
      rw [hTriggered, Bool.not_true, if_neg Bool.false_ne_true] at hStep
      cases hStep
      exact ⟨rfl, rfl, fun _ => ⟨rfl, List.append_nil _, rfl⟩, fun hNot => absurd hNot (by simp)⟩
  | false =>
      rw [hTriggered, Bool.not_false, if_pos rfl, Option.map_map] at hStep
      obtain ⟨ring, _, rfl⟩ := Option.map_eq_some_iff.mp hStep
      exact ⟨rfl, rfl, fun hNot => absurd hNot (by simp), fun _ => ⟨rfl, rfl⟩⟩

/-- A re-armed window begins a stream of its own, and numbers its heartbeats on. -/
theorem Recording.rearm_end {t' : Nat} {up' : U32}
    (hNext : Recording.next b (some o) (.heartbeat t up (some (t', up'))) = some o') :
    o'.window.hbSeq = o.window.hbSeq + 1 ∧ o'.window.triggered = false ∧
      o'.puts = [.heartbeat t o.window.hbSeq up] ∧
      o'.window.stream = packProvenance b.evId (tsAt t') b.provenance := by
  have hStep : ((o.window.heartbeat b t up (some (t', up'))).map fun s =>
    ({ window := s.1, puts := [] ++ s.2 } : Recording)) = some o' := hNext
  rw [Window.heartbeat] at hStep
  split at hStep
  · rw [Option.map_map] at hStep
    obtain ⟨ring, _, rfl⟩ := Option.map_eq_some_iff.mp hStep
    exact ⟨rfl, rfl, rfl, rfl⟩
  · next hTriggered => exact absurd rfl hTriggered

end Marker

def Entry.seq? : Entry → Option U32
  | .heartbeat _ seq _ => some seq
  | .marker .. => none

/-- A heartbeat's uptime is of the clock that stamps it. -/
def Entry.InStep : Entry → Prop
  | .heartbeat t _ up =>
      (t : Int) - 2 ^ 31 < up.toNat * 1000000 ∧ (up.toNat * 1000000 : Int) < t + 2 ^ 31
  | .marker .. => True

/-- Records in the order they were made, up to the last: close together, and
the heartbeats numbered one after the other. -/
structure Made (xs : List Entry) (last beats : Nat) : Prop where
  spaced : (xs.map Entry.time).IsChain fun t u => t ≤ u ∧ u < t + 2 ^ 31
  last : ∀ p ∈ xs.getLast?, p.time = last
  seqs : ∃ start count, start + count = beats ∧
    xs.filterMap Entry.seq? = (List.range' start count).map (BitVec.ofNat 32)
  inStep : ∀ p ∈ xs, p.InStep

section Made
variable {xs : List Entry} {p : Entry} {last beats : Nat}

theorem Made.nil (last beats : Nat) : Made [] last beats where
  spaced := List.isChain_nil
  last := by
    intro p hp
    cases hp
  seqs := ⟨beats, 0, rfl, rfl⟩
  inStep := by
    intro p hp
    cases hp

/-- One more record, close to the last. -/
theorem Made.spaced_concat (h : Made xs last beats)
    (hNear : last ≤ p.time ∧ p.time < last + 2 ^ 31) :
    ((xs ++ [p]).map Entry.time).IsChain fun t u => t ≤ u ∧ u < t + 2 ^ 31 := by
  rw [List.map_append, List.isChain_append]
  refine ⟨h.spaced, List.isChain_singleton _, ?_⟩
  intro t ht u hu
  rw [List.getLast?_map] at ht
  obtain ⟨q, hq, rfl⟩ := Option.map_eq_some_iff.mp ht
  cases hu
  rw [h.last q hq]
  exact hNear

/-- A marker more, in order. -/
theorem Made.marker (h : Made xs last beats) {t : Nat} (m : U16) (arg : U32)
    (hNear : last ≤ t ∧ t < last + 2 ^ 31) : Made (xs ++ [.marker t m arg]) t beats where
  spaced := h.spaced_concat hNear
  last := by
    rw [List.getLast?_concat]
    intro p hp
    cases hp
    rfl
  seqs := by
    rw [List.filterMap_append]
    obtain ⟨start, count, hBeats, hSeqs⟩ := h.seqs
    exact ⟨start, count, hBeats, (List.append_nil _).trans hSeqs⟩
  inStep := by
    intro p hp
    rcases List.mem_append.mp hp with hp | hp
    · exact h.inStep p hp
    · rw [List.mem_singleton.mp hp]
      trivial

/-- A heartbeat more, with the next number. -/
theorem Made.heartbeat (h : Made xs last beats) {t : Nat} {up : U32}
    (hNear : last ≤ t ∧ t < last + 2 ^ 31)
    (hStep : (Entry.heartbeat t (BitVec.ofNat 32 beats) up).InStep) :
    Made (xs ++ [.heartbeat t (BitVec.ofNat 32 beats) up]) t (beats + 1) where
  spaced := h.spaced_concat hNear
  last := by
    rw [List.getLast?_concat]
    intro p hp
    cases hp
    rfl
  seqs := by
    obtain ⟨start, count, hBeats, hSeqs⟩ := h.seqs
    refine ⟨start, count + 1, by omega, ?_⟩
    rw [List.filterMap_append, hSeqs, List.range'_concat, Nat.one_mul, List.map_append, hBeats]
    rfl
  inStep := by
    intro p hp
    rcases List.mem_append.mp hp with hp | hp
    · exact h.inStep p hp
    · rw [List.mem_singleton.mp hp]
      exact hStep

/-- The stamps are close enough for the flush. -/
theorem Made.close (h : Made xs last beats) {t : Nat} (hNear : last ≤ t ∧ t < last + 2 ^ 31) :
    Close 32 (times xs ++ [(t : Int)]) := by
  have hSpaced := h.spaced_concat (p := .marker t 0 0) hNear
  rw [List.map_append] at hSpaced
  have hTimes : times xs ++ [(t : Int)] =
      (xs.map Entry.time ++ [t]).map fun t : Nat => (t : Int) := by
    rw [times, List.map_append, List.map_map]
    rfl
  rw [Close, hTimes, List.isChain_map]
  apply List.IsChain.imp _ hSpaced
  intro t u hStep
  omega

end Made

/-- The stream is what the story says it is. -/
structure Streams (b : Build) (o : Recording) (h : Story) (kept : List Entry) (f : Trigger) :
    Prop where
  triggered : o.window.triggered = h.fired.isSome
  seq : o.window.hbSeq = BitVec.ofNat 32 h.beats
  stream : o.window.stream = Written.stream b.evId (h.written b kept f)
  /-- The trigger has flushed what the ring held that was young enough. -/
  kept : ∀ t, h.fired = some t → ∃ held, o.Holds b held ∧ kept = flushed b t held ∧
    f.preKept.toNat = kept.length
  unfired : h.fired = none → h.streamed = []
  firing : ∀ t, h.fired = some t → ∃ arg rest, h.streamed = .marker t f.marker arg :: rest
  made : Made (o.puts ++ h.streamed) h.last h.beats

section Run
variable {b : Build} {o o' : Recording} {h : Story} {held : HalvedLog Entry} {kept : List Entry}
  {f : Trigger} {t : Nat} {up : U32} {m : U16} {arg : U32}

/-- What the ring holds as long as nothing is put. -/
theorem Recording.Holds.frame (hHolds : o.Holds b held) (hRing : o'.window.ring = o.window.ring)
    (hPuts : o'.puts = o.puts) : o'.Holds b held where
  ring := by
    rw [hRing]
    exact hHolds.ring
  suffix := by
    rw [hPuts]
    exact hHolds.suffix
  count := by
    rw [hRing, hPuts]
    exact hHolds.count

theorem Streams.kept_frame (h' : Streams b o h kept f) (hRing : o'.window.ring = o.window.ring)
    (hPuts : o'.puts = o.puts) : ∀ t, h.fired = some t →
      ∃ held, o'.Holds b held ∧ kept = flushed b t held ∧ f.preKept.toNat = kept.length := by
  intro t ht
  obtain ⟨held, hHolds, hKept⟩ := h'.kept t ht
  exact ⟨held, hHolds.frame hRing hPuts, hKept⟩

/-- The entries' bytes are their stream. -/
theorem packAll_eq {entries : List Entry} {e : EvId} :
    packAll e entries = Written.stream e (entries.map Written.entry) := by
  rw [packAll, Written.stream, List.flatMap_map]
  rfl

/-- A marker keeps the window's stream in step with the story. -/
theorem Streams.marker (h' : Streams b o h kept f) (hHolds : o.Holds b held)
    (hTimely : Timely h (.marker t up m arg))
    (hNext : Recording.next b (some o) (.marker t up m arg) = some o') :
    ∃ kept' f', Streams b o'
      (storyNote b h (some o) (.marker t up m arg) (some o')) kept' f' := by
  obtain ⟨hSeq, hEnd⟩ := Recording.marker_end hHolds hNext
  have hSeqNow : o'.window.hbSeq = BitVec.ofNat 32 h.beats := hSeq.trans h'.seq
  cases hEnd with
  | fired hFires hKeep hJudged hTriggered hRing hPuts hStream =>
      have hClosed : h.fired = none := by
        have hNot : o.window.triggered = false := by
          have hFirst := (Bool.and_eq_true_iff.mp hFires).1
          simpa using hFirst
        rw [h'.triggered] at hNot
        simpa using hNot
      have hNone := h'.unfired hClosed
      have hNote : storyNote b h (some o) (.marker t up m arg) (some o') =
          { h with fired := some t, last := t, streamed := [.marker t m arg] } := by
        simp [storyNote, hFires, hKeep, hJudged, Story.made, hNone, Entry.time]
      have hMade := h'.made
      rw [hNone, List.append_nil] at hMade
      have hBefore : o.window.stream = Written.stream b.evId [.provenance h.opened b.provenance] := by
        rw [h'.stream, Story.written, hClosed]
      rw [hNote]
      refine ⟨flushed b t held, triggerOf b o.window m (flushed b t held).length, ?_⟩
      constructor
      · exact hTriggered
      · exact hSeqNow
      · rw [hStream (hMade.close hTimely), hBefore, packAll_eq]
        simp [Story.written, Written.stream, Written.pack, Entry.pack]
      · intro t' ht'
        cases ht'
        exact ⟨held, hHolds.frame hRing hPuts, rfl, (hHolds.counts t m).1⟩
      · intro hNot
        cases hNot
      · intro t' ht'
        cases ht'
        exact ⟨arg, [], rfl⟩
      · rw [hPuts]
        exact hMade.marker m arg hTimely
  | dropped hFires hKeep hTriggered hRing hPuts hStream =>
      have hNote : storyNote b h (some o) (.marker t up m arg) (some o') = h := by
        simp [storyNote, hFires, hKeep]
      rw [hNote]
      refine ⟨kept, f, ?_⟩
      constructor
      · rw [hTriggered, h'.triggered]
      · exact hSeqNow
      · rw [hStream, h'.stream]
      · exact h'.kept_frame hRing hPuts
      · exact h'.unfired
      · exact h'.firing
      · rw [hPuts]
        exact h'.made
  | streamed hFires hKeep hJudged hOpen hTriggered hRing hPuts hStream =>
      obtain ⟨t₀, hFired⟩ : ∃ t₀, h.fired = some t₀ := by
        rw [h'.triggered] at hOpen
        exact Option.isSome_iff_exists.mp hOpen
      have hNote : storyNote b h (some o) (.marker t up m arg) (some o') =
          { h with last := t, streamed := h.streamed ++ [.marker t m arg] } := by
        simp [storyNote, hFires, hKeep, hJudged, Story.made, Entry.time]
      rw [hNote]
      refine ⟨kept, f, ?_⟩
      constructor
      · rw [hTriggered, hFired]
        rfl
      · exact hSeqNow
      · rw [hStream, h'.stream]
        simp [Story.written, hFired, Written.stream, Written.pack]
      · exact h'.kept_frame hRing hPuts
      · intro hNot
        rw [hFired] at hNot
        cases hNot
      · intro t' ht'
        obtain ⟨arg', rest, hRest⟩ := h'.firing t' ht'
        exact ⟨arg', rest ++ [.marker t m arg], by rw [hRest, List.cons_append]⟩
      · rw [hPuts, ← List.append_assoc]
        exact h'.made.marker m arg hTimely
  | put hFires hKeep hJudged hOpen hTriggered hPuts hStream =>
      have hClosed : h.fired = none := by
        rw [h'.triggered] at hOpen
        simpa using hOpen
      have hNone := h'.unfired hClosed
      have hNote : storyNote b h (some o) (.marker t up m arg) (some o') = { h with last := t } := by
        simp [storyNote, hFires, hKeep, hJudged, Story.made, Entry.time]
      have hMade := h'.made
      rw [hNone, List.append_nil] at hMade
      rw [hNote]
      refine ⟨kept, f, ?_⟩
      constructor
      · rw [hTriggered, hClosed]
        rfl
      · exact hSeqNow
      · rw [hStream, h'.stream]
        rfl
      · intro t' ht'
        rw [hClosed] at ht'
        cases ht'
      · exact h'.unfired
      · exact h'.firing
      · rw [hPuts]
        show Made (o.puts ++ [.marker t m arg] ++ h.streamed) t h.beats
        rw [hNone, List.append_nil]
        exact hMade.marker m arg hTimely

/-- A heartbeat does, too. -/
theorem Streams.heartbeat (h' : Streams b o h kept f)
    (hTimely : Timely h (.heartbeat t up none))
    (hNext : Recording.next b (some o) (.heartbeat t up none) = some o') :
    Streams b o' (storyNote b h (some o) (.heartbeat t up none) (some o')) kept f := by
  obtain ⟨hSeq, hTriggered, hOpen, hClosed⟩ := Recording.heartbeat_end hNext
  have hSeqNow : o'.window.hbSeq = BitVec.ofNat 32 (h.beats + 1) := by
    rw [hSeq, h'.seq, BitVec.ofNat_add]
    rfl
  cases hFired : h.fired with
  | some t₀ =>
      have hNow : o.window.triggered = true := by
        rw [h'.triggered, hFired]
        rfl
      obtain ⟨hRing, hPuts, hStream⟩ := hOpen hNow
      have hNote : storyNote b h (some o) (.heartbeat t up none) (some o') =
          { h with
            last := t, beats := h.beats + 1
            streamed := h.streamed ++ [.heartbeat t o.window.hbSeq up] } := by
        simp [storyNote, Story.made, hNow, Entry.time]
      rw [hNote]
      constructor
      · rw [hTriggered, hNow, hFired]
        rfl
      · exact hSeqNow
      · rw [hStream, h'.stream]
        simp [Story.written, hFired, Written.stream, Written.pack]
      · exact h'.kept_frame hRing hPuts
      · intro hNot
        rw [hFired] at hNot
        cases hNot
      · intro t' ht'
        obtain ⟨arg', rest, hRest⟩ := h'.firing t' ht'
        exact ⟨arg', rest ++ [_], by rw [hRest, List.cons_append]⟩
      · rw [hPuts, ← List.append_assoc, h'.seq]
        exact h'.made.heartbeat hTimely.1 hTimely.2
  | none =>
      have hNow : o.window.triggered = false := by
        rw [h'.triggered, hFired]
        rfl
      have hNone := h'.unfired hFired
      obtain ⟨hPuts, hStream⟩ := hClosed hNow
      have hNote : storyNote b h (some o) (.heartbeat t up none) (some o') =
          { h with last := t, beats := h.beats + 1 } := by
        simp [storyNote, Story.made, hNow, Entry.time]
      have hMade := h'.made
      rw [hNone, List.append_nil] at hMade
      rw [hNote]
      constructor
      · rw [hTriggered, hNow, hFired]
        rfl
      · exact hSeqNow
      · rw [hStream, h'.stream]
        rfl
      · intro t' ht'
        rw [hFired] at ht'
        cases ht'
      · exact h'.unfired
      · exact h'.firing
      · rw [hPuts, h'.seq]
        show Made (o.puts ++ [_] ++ h.streamed) t (h.beats + 1)
        rw [hNone, List.append_nil]
        exact hMade.heartbeat hTimely.1 hTimely.2

/-- And re-arming begins a new one. -/
theorem Streams.rearm {t' : Nat} {up' : U32} (h' : Streams b o h kept f)
    (hTimely : Timely h (.heartbeat t up (some (t', up'))))
    (hNext : Recording.next b (some o) (.heartbeat t up (some (t', up'))) = some o') :
    Streams b o' (storyNote b h (some o) (.heartbeat t up (some (t', up'))) (some o')) [] f := by
  obtain ⟨hSeq, hTriggered, hPuts, hStream⟩ := Recording.rearm_end hNext
  constructor
  · rw [hTriggered]
    rfl
  · rw [hSeq, h'.seq, storyNote, BitVec.ofNat_add]
    rfl
  · rw [hStream]
    exact (List.append_nil _).symm
  · intro t₀ ht₀
    cases ht₀
  · exact fun _ => rfl
  · intro t₀ ht₀
    cases ht₀
  · rw [hPuts, h'.seq]
    exact (Made.nil t h.beats).heartbeat ⟨Nat.le_refl t, by omega⟩ hTimely.2

/-- In every timely run. -/
theorem streams_run {boot : Nat} {w : Observed (Option Recording) Story}
    (run : Reaches (observe (Recording.next b) (storyNote b)) (fun w e => Timely w.history e)
      (Recorded.boot b boot) w) :
    ∃ o held kept f, w.state = some o ∧ o.Holds b held ∧ Streams b o w.history kept f := by
  apply run.invariant (P := fun w : Observed (Option Recording) Story =>
    ∃ o held kept f, w.state = some o ∧ o.Holds b held ∧ Streams b o w.history kept f)
  · refine ⟨_, {}, [], ⟨0, 0, 0, 0, 0, 0⟩, rfl, Recording.boot_holds, ?_⟩
    constructor
    · rfl
    · rfl
    · exact (List.append_nil _).symm
    · intro t ht
      cases ht
    · exact fun _ => rfl
    · intro t ht
      cases ht
    · exact Made.nil boot 0
  · rintro ⟨s, h⟩ e ⟨o, held, kept, f, rfl, hHolds, hStreams⟩ hTimely
    cases e with
    | marker t up m arg =>
        obtain ⟨o', held', hNext, hHolds'⟩ := hHolds.marker t up m arg
        obtain ⟨kept', f', hStreams'⟩ := hStreams.marker hHolds hTimely hNext
        refine ⟨o', held', kept', f', hNext, hHolds', ?_⟩
        rw [← hNext] at hStreams'
        exact hStreams'
    | heartbeat t up rearm =>
        obtain ⟨o', held', hNext, hHolds'⟩ := hHolds.heartbeat t up rearm
        cases rearm with
        | none =>
            have hStreams' := hStreams.heartbeat hTimely hNext
            refine ⟨o', held', kept, f, hNext, hHolds', ?_⟩
            rw [← hNext] at hStreams'
            exact hStreams'
        | some again =>
            have hStreams' := hStreams.rearm hTimely hNext
            refine ⟨o', held', [], f, hNext, hHolds', ?_⟩
            rw [← hNext] at hStreams'
            exact hStreams'

end Run

end SafetyIsland.Trace
