import SafetyIsland.Trace.Flush

/-! The window over a whole run: no write leaves a half, the ring holds the
last records put, and the trigger's record counts all of them, up to the width
of its counters. -/
namespace SafetyIsland.Trace

open LittleEndian WrappingClock HalvedLog Transition

section Frame
variable (b : Build) (w : Window) (now up : U32) (m : U16) (arg : U32)

/-- The filter touches neither the ring nor the stream. -/
theorem Window.keep_frame : (w.keep b m arg).2.ring = w.ring ∧
    (w.keep b m arg).2.triggered = w.triggered ∧ (w.keep b m arg).2.stream = w.stream := by
  unfold keep
  split
  · exact ⟨rfl, rfl, rfl⟩
  · split
    · split
      · exact ⟨rfl, rfl, rfl⟩
      · exact ⟨rfl, rfl, rfl⟩
    · exact ⟨rfl, rfl, rfl⟩
    · exact ⟨rfl, rfl, rfl⟩
    · exact ⟨rfl, rfl, rfl⟩

@[simp] theorem Window.keep_ring : (w.keep b m arg).2.ring = w.ring := (w.keep_frame b m arg).1

@[simp] theorem Window.arm_ring : (w.arm m arg).ring = w.ring := by
  unfold arm
  split <;> rfl

@[simp] theorem Window.arm_triggered : (w.arm m arg).triggered = w.triggered := by
  unfold arm
  split <;> rfl

@[simp] theorem Window.arm_stream : (w.arm m arg).stream = w.stream := by
  unfold arm
  split <;> rfl

@[simp] theorem Window.judge_ring : (w.judge b now up m arg).ring = w.ring := by
  unfold judge
  split
  · split
    · exact w.arm_ring m arg
    · exact w.arm_ring m arg
  · rfl

variable {w m arg}

/-- A marker that fires arms the trigger and fires it. -/
theorem Window.judge_fires (h : w.fires m arg = true) :
    w.judge b now up m arg = (w.arm m arg).fire b now up m := by
  obtain ⟨hFirst, hOpens⟩ := Bool.and_eq_true_iff.mp h
  rw [judge, if_pos hFirst, if_pos hOpens]

/-- A marker that opens the window passes the record policy. -/
theorem Window.keep_opens {w' : Window} (h : w'.opens m = true) :
    w.keep b m arg = (true, w) := by
  have hMarker : m = triggerMarker ∨ m = armMarker ∨ m = BitVec.ofNat 16 nrosViolation := by
    simp only [opens, Bool.or_eq_true, Bool.and_eq_true, beq_iff_eq] at h
    tauto
  rcases hMarker with rfl | rfl | rfl
  · rfl
  · rfl
  · rfl

variable {b} {w' : Window} {t : Nat} {up : U32}

/-- A marker the filter drops is counted, and no more. -/
theorem Window.markerWindowed_dropped
    (h : (w.judge b (tsAt t) up m arg).keep b m arg = (false, w')) :
    w.markerWindowed b t up m arg = some ({ w' with filtered := w'.filtered + 1 }, []) := by
  rw [markerWindowed, h]

/-- Behind the trigger a marker goes to the stream. -/
theorem Window.markerWindowed_streamed
    (h : (w.judge b (tsAt t) up m arg).keep b m arg = (true, w')) (hTriggered : w'.triggered = true) :
    w.markerWindowed b t up m arg =
      some ({ w' with stream := w'.stream ++ packMarker b.evId (tsAt t) m arg }, []) := by
  rw [markerWindowed, h]
  exact if_pos hTriggered

/-- Before it a marker goes to the ring. -/
theorem Window.markerWindowed_ring
    (h : (w.judge b (tsAt t) up m arg).keep b m arg = (true, w')) (hTriggered : w'.triggered = false) :
    w.markerWindowed b t up m arg =
      (w'.ring.prePut b ((Entry.marker t m arg).pack b.evId)).map fun ring =>
        ({ w' with ring := ring }, [.marker t m arg]) := by
  rw [markerWindowed, h]
  exact if_neg (by rw [hTriggered]; exact Bool.false_ne_true)

end Frame

/-- The ring holds the last entries put, and counts all of them. -/
structure Recording.Holds (b : Build) (o : Recording) (held : HalvedLog Entry) : Prop where
  ring : o.window.ring.Holds b held
  suffix : held.entries <:+ o.puts
  count : o.window.ring.n = BitVec.ofNat 32 o.puts.length

section Run
variable {b : Build} {o : Recording} {held : HalvedLog Entry} {boot : Nat}

/-- At boot the ring is empty. -/
theorem Recording.boot_holds : (Recording.boot b boot).Holds b {} where
  ring := Ring.holds_empty (fun _ => List.length_replicate) fun _ => rfl
  suffix := List.suffix_refl []
  count := rfl

/-- One record put into a ring that holds the last of `puts`. -/
theorem Ring.Holds.put {r : Ring} (puts : List Entry) (h : r.Holds b held)
    (hSuffix : held.entries <:+ puts) (hCount : r.n = BitVec.ofNat 32 puts.length) (p : Entry) :
    ∃ r' held', r.prePut b (p.pack b.evId) = some r' ∧ r'.Holds b held' ∧
      held'.entries <:+ puts ++ [p] ∧ r'.n = BitVec.ofNat 32 (puts ++ [p]).length := by
  obtain ⟨r', hPut, hN, hHolds⟩ := h.prePut p
  refine ⟨r', _, hPut, hHolds, ?_, ?_⟩
  · apply push_suffix.trans
    obtain ⟨before, rfl⟩ := hSuffix
    exact ⟨before, (List.append_assoc _ _ _).symm⟩
  · rw [hN, hCount, List.length_append, List.length_singleton, BitVec.ofNat_add]
    rfl

/-- A step that leaves the ring alone puts nothing. -/
theorem Recording.Holds.same {w : Window} (h : o.Holds b held) (hRing : w.ring = o.window.ring) :
    Recording.Holds b { window := w, puts := o.puts ++ [] } held where
  ring := by
    show w.ring.Holds b held
    rw [hRing]
    exact h.ring
  suffix := by
    rw [List.append_nil]
    exact h.suffix
  count := by
    rw [List.append_nil]
    exact (congrArg Ring.n hRing).trans h.count

/-- A marker leaves the ring alone or puts its record into it. -/
theorem Recording.Holds.marker (h : o.Holds b held) (t : Nat) (up : U32) (m : U16) (arg : U32) :
    ∃ o' held', Recording.next b (some o) (.marker t up m arg) = some o' ∧ o'.Holds b held' := by
  obtain ⟨r', held', hPut, hHolds, hSuffix, hCount⟩ := h.ring.put o.puts h.suffix h.count (.marker t m arg)
  have hRing := ((o.window.judge b (tsAt t) up m arg).keep_ring b m arg).trans
    (o.window.judge_ring b (tsAt t) up m arg)
  show ∃ o' held', ((o.window.markerWindowed b t up m arg).map fun s =>
    ({ window := s.1, puts := o.puts ++ s.2 } : Recording)) = some o' ∧ _
  generalize hKeep : (o.window.judge b (tsAt t) up m arg).keep b m arg = kept at hRing
  obtain ⟨keep, w⟩ := kept
  cases keep with
  | false =>
      rw [Window.markerWindowed_dropped hKeep]
      exact ⟨_, held, rfl, h.same hRing⟩
  | true =>
      cases hTriggered : w.triggered with
      | true =>
          rw [Window.markerWindowed_streamed hKeep hTriggered]
          exact ⟨_, held, rfl, h.same hRing⟩
      | false =>
          rw [Window.markerWindowed_ring hKeep hTriggered, show w.ring = _ from hRing, hPut]
          exact ⟨_, held', rfl, hHolds, hSuffix, hCount⟩

/-- A heartbeat puts its record into the ring, or into the stream; a re-arm
before it empties the ring. -/
theorem Recording.Holds.heartbeat (h : o.Holds b held) (t : Nat) (up : U32)
    (rearm : Option (Nat × U32)) :
    ∃ o' held', Recording.next b (some o) (.heartbeat t up rearm) = some o' ∧ o'.Holds b held' := by
  show ∃ o' held', ((o.window.heartbeat b t up rearm).map fun s => ({
    window := s.1, puts := (if (Window.Event.heartbeat t up rearm).rearms then [] else o.puts) ++ s.2 } :
      Recording)) = some o' ∧ _
  have hPack : ∀ seq, packHeartbeat b.evId (tsAt t) seq up =
      (Entry.heartbeat t seq up).pack b.evId := fun _ => rfl
  cases rearm with
  | none =>
      obtain ⟨r', held', hPut, hHolds, hSuffix, hCount⟩ :=
        h.ring.put o.puts h.suffix h.count (.heartbeat t o.window.hbSeq up)
      rw [Window.heartbeat]
      dsimp only
      cases hTriggered : o.window.triggered with
      | true => exact ⟨_, held, rfl, h.same rfl⟩
      | false =>
          refine ⟨{
            window := { o.window with
              hbSeq := o.window.hbSeq + 1, hbLastUptimeMs := up, ring := r', triggered := false }
            puts := o.puts ++ [.heartbeat t o.window.hbSeq up] }, held', ?_, hHolds, hSuffix, hCount⟩
          rw [hPack, hPut]
          rfl
  | some again =>
      obtain ⟨r', held', hPut, hHolds, hSuffix, hCount⟩ := Ring.Holds.put []
        (Ring.holds_empty (r := { o.window.ring with preLen := fun _ => 0, cur := false, n := 0 })
          h.ring.memory fun _ => rfl) (List.suffix_refl []) rfl (.heartbeat t o.window.hbSeq up)
      refine ⟨{
        window := {
          ({ o.window with hbSeq := o.window.hbSeq + 1, hbLastUptimeMs := up } : Window).rearmNow b
            (tsAt again.1) again.2 with ring := r' }
        puts := [.heartbeat t o.window.hbSeq up] }, held', ?_, hHolds, hSuffix, hCount⟩
      show ((Ring.prePut b { o.window.ring with preLen := fun _ => 0, cur := false, n := 0 }
        (packHeartbeat b.evId (tsAt t) o.window.hbSeq up)).map _).map _ = _
      rw [hPack, hPut]
      rfl

/-- In every run the ring holds the last entries put, and no write leaves a
half. -/
theorem Recording.holds {s : Option Recording}
    (run : Reaches (Recording.next b) (fun _ _ => True) (some (Recording.boot b boot)) s) :
    ∃ o held, s = some o ∧ o.Holds b held := by
  apply run.invariant (P := fun s => ∃ o held, s = some o ∧ o.Holds b held)
  · exact ⟨_, {}, rfl, Recording.boot_holds⟩
  · rintro s e ⟨o, held, rfl, hHolds⟩ _
    cases e with
    | marker t up m arg => exact hHolds.marker t up m arg
    | heartbeat t up rearm => exact hHolds.heartbeat t up rearm

/-- What is flushed was put, and its number fits a word. -/
theorem Recording.Holds.length_le (h : o.Holds b held) (now : Nat) :
    (flushed b now held).length ≤ o.puts.length ∧ (flushed b now held).length < 2 ^ 16 := by
  have hFilter : (flushed b now held).length ≤ held.entries.length := List.length_filter_le _ _
  have hOlder := length_le_half h.ring.fits.older
  have hCurrent := length_le_half h.ring.fits.current
  have hSuffix := h.suffix.length_le
  rw [entries, List.length_append] at hFilter hSuffix
  omega

/-- The counts of the TRIGGER record, modulo the width of `pre_lost`. -/
theorem Recording.Holds.counts (h : o.Holds b held) (now : Nat) (m : U16) :
    (triggerOf b o.window m (flushed b now held).length).preKept.toNat =
        (flushed b now held).length ∧
      (triggerOf b o.window m (flushed b now held).length).preLost.toNat =
        (o.puts.length - (flushed b now held).length) % 2 ^ 32 := by
  obtain ⟨hPuts, hWidth⟩ := h.length_le now
  constructor
  · rw [triggerOf, BitVec.toNat_ofNat, Nat.mod_eq_of_lt hWidth]
  · rw [triggerOf, h.count, BitVec.toNat_sub, BitVec.toNat_ofNat, BitVec.toNat_ofNat]
    omega

/-- A marker that fires the trigger flushes the ring; then its own record goes
into the stream. -/
theorem Recording.Holds.flush (h : o.Holds b held) {t : Nat} {m : U16} {arg : U32} (up : U32)
    (hFires : o.window.fires m arg = true)
    (hClose : Close 32 (times o.puts ++ [(t : Int)])) :
    ∃ o', Recording.next b (some o) (.marker t up m arg) = some o' ∧ o'.window.stream =
      o.window.stream ++ packAll b.evId (flushed b t held) ++
        (triggerOf b o.window m (flushed b t held).length).pack b.evId (tsAt t) ++
        packMarker b.evId (tsAt t) m arg := by
  obtain ⟨before, hSplit⟩ := h.suffix
  have hRing : (o.window.arm m arg).ring.Holds b held := by
    rw [Window.arm_ring]
    exact h.ring
  have hHeld : Close 32 (times held.entries ++ [(t : Int)]) := by
    apply hClose.suffix
    rw [← hSplit, times, times, List.map_append, List.append_assoc]
    exact List.suffix_append _ _
  have hFire := hRing.fire up m hHeld
  have hOpens : (o.window.arm m arg).opens m = true := (Bool.and_eq_true_iff.mp hFires).2
  have hKeep : (o.window.judge b (tsAt t) up m arg).keep b m arg =
      (true, (o.window.arm m arg).fire b (tsAt t) up m) := by
    rw [Window.judge_fires b _ _ hFires, Window.keep_opens b hOpens]
  have hSame : triggerOf b (o.window.arm m arg) m = triggerOf b o.window m := by
    funext kept
    rw [Window.arm]
    split <;> rfl
  refine ⟨{
    window := { (o.window.arm m arg).fire b (tsAt t) up m with
      stream := ((o.window.arm m arg).fire b (tsAt t) up m).stream ++ packMarker b.evId (tsAt t) m arg }
    puts := o.puts ++ [] }, ?_, ?_⟩
  · show ((o.window.markerWindowed b t up m arg).map fun s =>
      ({ window := s.1, puts := o.puts ++ s.2 } : Recording)) = some _
    rw [Window.markerWindowed_streamed hKeep rfl]
    rfl
  · show ((o.window.arm m arg).fire b (tsAt t) up m).stream ++ _ = _
    rw [hFire, hSame, Window.arm_stream]

end Run

section Claim
variable {b : Build} {boot : Nat} {s : Option Recording}

/-- At any moment of any run the ring holds whole records, the last of those
put since the re-arm, and no write has run past a half. A marker that fires
the trigger writes exactly the records that are at most `PRE_MS` old, oldest
first, and one TRIGGER record: `pre_kept` is their number, and with `pre_lost`
it adds up to the number of records put, modulo `2 ^ 32`. -/
theorem trigger_flush (run : Reaches (Recording.next b) (fun _ _ => True)
      (some (Recording.boot b boot)) s) :
    ∃ o held, s = some o ∧ o.window.ring.Holds b held ∧ held.entries <:+ o.puts ∧
      ∀ (t : Nat) up m arg, o.window.fires m arg = true → Close 32 (times o.puts ++ [(t : Int)]) →
        ∃ o' record, Recording.next b s (.marker t up m arg) = some o' ∧
          o'.window.stream = o.window.stream ++ packAll b.evId (flushed b t held) ++
            Trigger.pack b.evId (tsAt t) record ++ packMarker b.evId (tsAt t) m arg ∧
          record.marker = m ∧ record.preKept.toNat = (flushed b t held).length ∧
          (record.preKept.toNat + record.preLost.toNat) % 2 ^ 32 = o.puts.length % 2 ^ 32 ∧
          (o.puts.length < 2 ^ 32 →
            record.preKept.toNat + record.preLost.toNat = o.puts.length) := by
  obtain ⟨o, held, rfl, hHolds⟩ := Recording.holds run
  refine ⟨o, held, rfl, hHolds.ring, hHolds.suffix, ?_⟩
  intro t up m arg hFires hClose
  obtain ⟨o', hNext, hStream⟩ := hHolds.flush up hFires hClose
  obtain ⟨hKept, hLost⟩ := hHolds.counts t m
  obtain ⟨hPuts, _⟩ := hHolds.length_le t
  refine ⟨o', _, hNext, hStream, rfl, hKept, ?_, ?_⟩
  · rw [hKept, hLost]
    omega
  · intro hFew
    rw [hKept, hLost]
    omega

/-- The smallest ring, with the other choices' defaults. -/
def Build.smallest (e : EvId) : Build where
  evId := e
  preBytes := 64
  preMs := 1500
  spinKeep := 10
  provenance := []
  preBytes_ge := by decide
  half_lt := by decide

/-- Two heartbeats before a contract violation, in a ring that was never
filled: the first is 1550 ms old and is lost. -/
theorem trigger_flush_two_heartbeats : ∃ o' record,
    Recording.next (Build.smallest .u16)
      (Recording.next (Build.smallest .u16)
        (Recording.next (Build.smallest .u16) (some (Recording.boot (Build.smallest .u16) 0))
          (.heartbeat 100000000 100 none)) (.heartbeat 200000000 200 none))
      (.marker 1650000000 1650 277 0) = some o' ∧
    Trigger.pack .u16 (tsAt 1650000000) record ++ packMarker .u16 (tsAt 1650000000) 277 0 <:+
      o'.window.stream ∧
    record.preKept.toNat + record.preLost.toNat = 2 := by
  have hRun : Reaches (Recording.next (Build.smallest .u16)) (fun _ _ => True)
      (some (Recording.boot (Build.smallest .u16) 0)) (follow (Recording.next (Build.smallest .u16))
        (some (Recording.boot (Build.smallest .u16) 0))
        [.heartbeat 100000000 100 none, .heartbeat 200000000 200 none]) :=
    reaches_follow _ ⟨trivial, trivial, trivial⟩
  obtain ⟨o, held, hSome, _, _, hFlush⟩ := trigger_flush hRun
  have hPuts : o.puts = [.heartbeat 100000000 0 100, .heartbeat 200000000 1 200] := by
    have hMap := congrArg (Option.map Recording.puts) hSome
    exact (Option.some.inj hMap).symm
  have hFires : o.window.fires 277 0 = true := by
    have hMap := congrArg (Option.map fun o => o.window.fires 277 0) hSome
    exact (Option.some.inj hMap).symm
  obtain ⟨o', record, hNext, hStream, _, _, _, hCounts⟩ :=
    hFlush 1650000000 1650 277 0 hFires (by rw [hPuts]; decide)
  refine ⟨o', record, hNext, ?_, ?_⟩
  · rw [hStream, List.append_assoc]
    exact List.suffix_append _ _
  · rw [hCounts (by rw [hPuts]; decide), hPuts]
    rfl

/-- An unwindowed heartbeat goes into the ring. -/
theorem Recording.Holds.beat {o : Recording} {held : HalvedLog Entry} (h : o.Holds b held)
    (hOpen : o.window.triggered = false) (t : Nat) (up : U32) :
    ∃ o', Recording.next b (some o) (.heartbeat t up none) = some o' ∧
      o'.puts = o.puts ++ [.heartbeat t o.window.hbSeq up] ∧ o'.window.triggered = false := by
  obtain ⟨r', hPut, _⟩ := h.ring.prePut (.heartbeat t o.window.hbSeq up)
  refine ⟨{
    window := { o.window with
      hbSeq := o.window.hbSeq + 1, hbLastUptimeMs := up, ring := r' }
    puts := o.puts ++ [.heartbeat t o.window.hbSeq up] }, ?_, rfl, hOpen⟩
  have hPack : packHeartbeat b.evId (tsAt t) o.window.hbSeq up =
      (Entry.heartbeat t o.window.hbSeq up).pack b.evId := rfl
  show ((o.window.heartbeat b t up none).map fun s =>
    ({ window := s.1, puts := o.puts ++ s.2 } : Recording)) = some _
  rw [Window.heartbeat]
  dsimp only
  rw [hPack, hPut, hOpen]
  rfl

/-- As many heartbeats as one likes, all at one instant. -/
theorem Recording.beats (b : Build) (boot n : Nat) : ∃ o : Recording,
    Reaches (Recording.next b) (fun _ _ => True) (some (Recording.boot b boot)) (some o) ∧
      times o.puts = List.replicate n 0 ∧ o.window.triggered = false := by
  induction n with
  | zero => exact ⟨_, .refl, rfl, rfl⟩
  | succ n ih =>
      obtain ⟨o, run, hTimes, hOpen⟩ := ih
      obtain ⟨o₁, held, hSome, hHolds⟩ := Recording.holds run
      cases hSome
      obtain ⟨o', hNext, hPuts, hStill⟩ := hHolds.beat hOpen 0 0
      refine ⟨o', ?_, ?_, hStill⟩
      · rw [← hNext]
        exact run.step trivial
      · rw [hPuts, times, List.map_append, ← times, hTimes, List.replicate_succ']
        rfl

/-- After `2 ^ 33` heartbeats the counts of the TRIGGER record fall short:
neither has the width. -/
theorem not_trigger_flush : ∃ (o o' : Recording) (record : Trigger),
    Reaches (Recording.next (Build.smallest .u16)) (fun _ _ => True)
      (some (Recording.boot (Build.smallest .u16) 0)) (some o) ∧
    o.window.fires 277 0 = true ∧ Close 32 (times o.puts ++ [((0 : Nat) : Int)]) ∧
    Recording.next (Build.smallest .u16) (some o) (.marker 0 0 277 0) = some o' ∧
    Trigger.pack .u16 (tsAt 0) record ++ packMarker .u16 (tsAt 0) 277 0 <:+ o'.window.stream ∧
    o.puts.length = 2 ^ 33 ∧
    record.preKept.toNat + record.preLost.toNat ≠ o.puts.length := by
  obtain ⟨o, run, hTimes, hOpen⟩ := Recording.beats (Build.smallest .u16) 0 (2 ^ 33)
  obtain ⟨o₁, held, hSome, hHolds⟩ := Recording.holds run
  cases hSome
  have hFires : o.window.fires 277 0 = true := by
    rw [Window.fires, hOpen]
    exact Bool.or_true _
  have hClose : Close 32 (times o.puts ++ [((0 : Nat) : Int)]) := by
    have hZeros : times o.puts ++ [((0 : Nat) : Int)] = List.replicate (2 ^ 33 + 1) 0 := by
      rw [hTimes, List.replicate_succ']
      rfl
    rw [hZeros]
    exact List.isChain_replicate_of_rel _ (by decide)
  have hLength : o.puts.length = 2 ^ 33 := by
    have hCount := congrArg List.length hTimes
    rwa [times, List.length_map, List.length_replicate] at hCount
  obtain ⟨o', hNext, hStream⟩ := hHolds.flush 0 hFires hClose
  generalize triggerOf (Build.smallest .u16) o.window 277
    (flushed (Build.smallest .u16) 0 held).length = record at hStream
  refine ⟨o, o', record, run, hFires, hClose, hNext, ?_, hLength, ?_⟩
  · rw [hStream, List.append_assoc]
    exact List.suffix_append _ _
  · have hKept := record.preKept.isLt
    have hLost := record.preLost.isLt
    omega

end Claim

end SafetyIsland.Trace
