import SafetyIsland.Trace.Recorded

/-! `check` of `island_trace.py` over what an image wrote: the heartbeats it
counts and the end of the buffer it asks for. -/
namespace SafetyIsland.Trace

open LittleEndian HalvedLog Transition

/-- `kv`: the parts of a provenance behind the first, where they have a `=`. -/
def provenanceKv (text : String) : List (List Char × List Char) :=
  (((text.toList.splitOn ';').tail).filter fun x => decide ('=' ∈ x)).map fun x =>
    (x.takeWhile (· ≠ '='), (x.dropWhile (· ≠ '=')).tail)

/-- `kv.get("window") == "trigger"`; of two parts of one name the later counts. -/
def windowedText (text : String) : Bool :=
  ((provenanceKv text).reverse.find? fun kv => kv.1 = "window".toList).map Prod.snd =
    some "trigger".toList

def Body.provenance? : Body → Option String
  | .provenance text => some text
  | _ => none

def Body.seq? : Body → Option Nat
  | .heartbeat seq _ => some seq.toNat
  | _ => none

def Loaded.windowed (l : Loaded) : Bool :=
  ((l.records.findSome? fun r => r.body.provenance?).map windowedText).getD false

def Loaded.heartbeats (l : Loaded) : List Nat := l.records.filterMap fun r => r.body.seq?

def gaps (hbs : List Nat) : List (Nat × Nat) :=
  (hbs.zip hbs.tail).filter fun p => decide (p.2 ≠ p.1 + 1)

/-- The heartbeats are contiguous, and from 0 unless the trace is a window's. -/
def Loaded.heartbeatOk (l : Loaded) : Bool :=
  match l.heartbeats with
  | [] => false
  | first :: _ => (first == 0 || l.windowed) && (gaps l.heartbeats).isEmpty

/-- The last heartbeat recorded is the last one emitted. -/
def Loaded.completeOk (l : Loaded) : Bool :=
  match l.header, l.heartbeats.getLast? with
  | some h, some last => last + 1 == h.heartbeatsEmitted
  | _, _ => true

section Window
variable {text : String}

/-- Each part stands in the joined text. -/
theorem part_of_intercalate {sep : Char} {parts : List (List Char)} {part : List Char}
    (h : part ∈ parts) : part <:+: [sep].intercalate parts := by
  induction parts with
  | nil => cases h
  | cons first parts ih =>
      cases parts with
      | nil =>
          rw [List.mem_singleton.mp h, List.intercalate_singleton]
      | cons second parts =>
          rw [List.intercalate_cons_cons]
          rcases List.mem_cons.mp h with rfl | h
          · exact ⟨[], _, by rw [List.nil_append, List.append_assoc]⟩
          · exact (ih h).trans (List.suffix_append _ _).isInfix

/-- A name and its value are found as they stand in the text. -/
theorem windowedText_found (h : windowedText text = true) :
    "window=trigger".toList <:+: text.toList := by
  have hFound := of_decide_eq_true h
  obtain ⟨⟨key, val⟩, hFind, hVal⟩ := Option.map_eq_some_iff.mp hFound
  have hNamed := List.find?_some hFind
  have hKey : key = "window".toList := of_decide_eq_true hNamed
  have hMem : (key, val) ∈ provenanceKv text :=
    List.mem_reverse.mp (List.mem_of_find?_eq_some hFind)
  obtain ⟨part, hPart, hSplit⟩ := List.mem_map.mp hMem
  obtain ⟨hTail, hEquals⟩ := List.mem_filter.mp hPart
  obtain ⟨hTake, hDrop⟩ := Prod.mk.inj hSplit
  have hHead : part.dropWhile (· ≠ '=') = '=' :: (part.dropWhile (· ≠ '=')).tail := by
    have hSome : part.dropWhile (· ≠ '=') ≠ [] := by
      intro hNil
      have hAll := List.dropWhile_eq_nil_iff.mp hNil '=' (of_decide_eq_true hEquals)
      simp at hAll
    have hStop := List.head_dropWhile_not (· ≠ '=') hSome
    rw [← List.cons_head_tail hSome]
    simp only [ne_eq, decide_not, Bool.not_eq_false', decide_eq_true_eq] at hStop
    simp only [ne_eq, decide_not, hStop, List.tail_cons]
  have hWhole : part = "window=trigger".toList := by
    rw [← List.takeWhile_append_dropWhile (p := (· ≠ '=')) (l := part), hTake, hHead, hDrop, hKey,
      show val = "trigger".toList from hVal]
    rfl
  have hParts : [';'].intercalate (text.toList.splitOn ';') = text.toList :=
    List.intercalate_splitOn ';'
  rw [← hParts, ← hWhole]
  exact part_of_intercalate (List.mem_of_mem_tail hTail)

end Window

def Written.seq? : Written → Option U32
  | .entry p => p.seq?
  | _ => none

section Counted
variable {u : Setup} {d : Tsdl} {e : EvId} {ws : List Written} {l : Loaded}

theorem Written.shown_bodies (off : Nat) :
    (Written.shown u d e off ws).map (fun c => c.2.2) = ws.map (Written.body u d) := by
  induction ws generalizing off with
  | nil => rfl
  | cons w ws ih => rw [Written.shown, List.map_cons, List.map_cons, ih]

/-- A heartbeat's record shows its number. -/
theorem Written.body_seq (w : Written) :
    (w.body u d).seq? = w.seq?.map BitVec.toNat := by
  cases w with
  | entry p => cases p <;> rfl
  | provenance t text => rfl
  | trigger t f => rfl
  | event t i raws =>
      rw [Written.body]
      cases d.events i <;> rfl

/-- The header is read beside the records. -/
theorem ReadBack.behind (h : ReadBack u d e ws l) (header : Header) :
    ReadBack u d e ws { l with header := some header } :=
  ⟨h.used, h.content, h.elapsed, h.uptime⟩

/-- What is read back has the contents that were written. -/
theorem ReadBack.bodies (h : ReadBack u d e ws l) :
    l.records.map (fun r => r.body) = ws.map (Written.body u d) := by
  rw [← Written.shown_bodies (e := e) 0, ← h.content, List.map_map]
  rfl

/-- A trace that starts with a window's provenance is a window's. -/
theorem ReadBack.windowed (h : ReadBack u d e ws l) {t : Nat} {text : List Byte}
    {rest : List Written} (hFirst : ws = .provenance t text :: rest)
    (hWindow : windowedText (ascii text) = true) : l.windowed = true := by
  have hBodies := congrArg (List.findSome? Body.provenance?) h.bodies
  rw [List.findSome?_map, hFirst] at hBodies
  have hText : l.records.findSome? (fun r => r.body.provenance?) = some (ascii text) := hBodies
  rw [Loaded.windowed, hText]
  exact hWindow

/-- The heartbeats read are the ones written. -/
theorem ReadBack.heartbeats (h : ReadBack u d e ws l) :
    l.heartbeats = (ws.filterMap Written.seq?).map BitVec.toNat := by
  have hBoth := congrArg (List.filterMap Body.seq?) h.bodies
  rw [List.filterMap_map, List.filterMap_map] at hBoth
  rw [Loaded.heartbeats, List.map_filterMap]
  refine Eq.trans hBoth ?_
  congr 1
  funext w
  exact w.body_seq

/-- Numbers one after the other have no gaps. -/
theorem gaps_range' (start count : Nat) : gaps (List.range' start count) = [] := by
  rw [gaps, List.filter_eq_nil_iff]
  intro p hp
  induction count generalizing start with
  | zero => cases hp
  | succ count ih =>
      cases count with
      | zero => cases hp
      | succ count =>
          rcases List.mem_cons.mp hp with rfl | hp
          · simp
          · exact ih (start + 1) hp

/-- A trace of a window whose heartbeats are numbered one after the other
passes, and is complete exactly if it has the last one emitted. -/
theorem ReadBack.checked (h : ReadBack u d e ws l) {start count emitted : Nat} {header : Header}
    (hSeqs : (ws.filterMap Written.seq?).map BitVec.toNat = List.range' start count)
    (hSome : 0 < count) (hWindow : l.windowed = true) (hHeader : l.header = some header)
    (hEmitted : header.heartbeatsEmitted = emitted) :
    l.heartbeatOk = true ∧ (l.completeOk = true ↔ start + count = emitted) := by
  have hBeats := h.heartbeats
  rw [hSeqs] at hBeats
  obtain ⟨count, rfl⟩ := Nat.exists_eq_add_of_lt hSome
  rw [Nat.zero_add] at hBeats ⊢
  constructor
  · rw [Loaded.heartbeatOk, hBeats, gaps_range', hWindow, List.range'_succ]
    show ((start == 0 || true) && true) = true
    rw [Bool.or_true]
    rfl
  · have hLast : l.heartbeats.getLast? = some (start + count) := by
      rw [hBeats, List.range'_concat, List.getLast?_concat, Nat.one_mul]
    rw [Loaded.completeOk, hHeader, hLast]
    show (start + count + 1 == header.heartbeatsEmitted) = true ↔ _
    rw [beq_iff_eq, hEmitted, Nat.add_assoc]

end Counted

section Run
variable {b : Build} {o : Recording} {h : Story} {kept : List Entry} {f : Trigger} {u : Setup}
  {d : Tsdl} {l : Loaded}

theorem Written.filterMap_entries (xs : List Entry) :
    (xs.map Written.entry).filterMap Written.seq? = xs.filterMap Entry.seq? := by
  rw [List.filterMap_map]
  rfl

/-- What the trigger flushes is the end of what was put. -/
theorem Streams.kept_suffix (hStreams : Streams b o h kept f) {t : Nat} (hFired : h.fired = some t) :
    kept <:+ o.puts := by
  obtain ⟨held, hHolds, rfl, -⟩ := hStreams.kept t hFired
  have hSorted : (times held.entries).Pairwise (· ≤ ·) := by
    have hPuts : (o.puts.map Entry.time).IsChain fun t u => t ≤ u ∧ u < t + 2 ^ 31 := by
      have hSpaced := hStreams.made.spaced
      rw [List.map_append] at hSpaced
      exact (List.isChain_append.mp hSpaced).1
    have hHeld := hPuts.suffix (hHolds.suffix.map Entry.time)
    have hChain : (times held.entries).IsChain (· ≤ ·) := by
      have hTimes : times held.entries = (held.entries.map Entry.time).map fun t : Nat => (t : Int) := by
        rw [times, List.map_map]
        rfl
      rw [hTimes, List.isChain_map]
      apply hHeld.imp
      intro t u hStep
      exact Int.ofNat_le.mpr hStep.1
    exact List.isChain_iff_pairwise.mp hChain
  rw [flushed, ← dropWhile_eq_filter (young_sorted hSorted)]
  exact (List.dropWhile_suffix _).trans hHolds.suffix

/-- The heartbeats of the stream are the last of those emitted. -/
theorem Streams.seqs (hStreams : Streams b o h kept f) (hFired : h.fired.isSome) :
    ∃ start count, start + count = h.beats ∧ (h.written b kept f).filterMap Written.seq? =
      (List.range' start count).map (BitVec.ofNat 32) := by
  obtain ⟨t, hFired⟩ := Option.isSome_iff_exists.mp hFired
  have hSeqs : (h.written b kept f).filterMap Written.seq? =
      (kept ++ h.streamed).filterMap Entry.seq? := by
    rw [Story.written, hFired]
    show (kept.map Written.entry ++ ([Written.trigger t f] ++ h.streamed.map Written.entry)).filterMap
      Written.seq? = _
    rw [List.filterMap_append, List.filterMap_append, Written.filterMap_entries,
      Written.filterMap_entries, List.filterMap_append]
    rfl
  have hSuffix : (kept ++ h.streamed).filterMap Entry.seq? <:+
      (o.puts ++ h.streamed).filterMap Entry.seq? := by
    apply List.IsSuffix.filterMap
    obtain ⟨before, hBefore⟩ := hStreams.kept_suffix hFired
    exact ⟨before, by rw [← List.append_assoc, hBefore]⟩
  obtain ⟨start, count, hBeats, hMade⟩ := hStreams.made.seqs
  rw [hMade, List.suffix_iff_eq_drop, ← List.map_drop, List.drop_range', List.length_map,
    List.length_range', Nat.mul_one] at hSuffix
  have hFew : ((kept ++ h.streamed).filterMap Entry.seq?).length ≤ count := by
    rw [hSuffix, List.length_map, List.length_range']
    omega
  refine ⟨_, _, ?_, hSeqs.trans hSuffix⟩
  omega

/-- The first of some numbers that go on one after the other. -/
theorem numbers_left {first rest : List U32} {start count : Nat}
    (hNumbers : first ++ rest = (List.range' start count).map (BitVec.ofNat 32))
    (hFew : start + count ≤ 2 ^ 32) :
    first.length + rest.length = count ∧
      first.map BitVec.toNat = List.range' start first.length := by
  have hLength := congrArg List.length hNumbers
  rw [List.length_append, List.length_map, List.length_range'] at hLength
  have hFirst : first = (List.range' start first.length).map (BitVec.ofNat 32) := by
    have hTake : (first ++ rest).take first.length = first := List.take_left
    rw [hNumbers, ← List.map_take, List.take_range'_of_length_ge (by omega)] at hTake
    exact hTake.symm
  refine ⟨hLength, ?_⟩
  conv_lhs => rw [hFirst, List.map_map]
  conv_rhs => rw [← List.map_id (List.range' start first.length)]
  apply List.map_congr_left
  intro i hi
  have hBound := (List.mem_range'_1.mp hi).2
  show (BitVec.ofNat 32 i).toNat = i
  rw [BitVec.toNat_ofNat]
  exact Nat.mod_eq_of_lt (by omega)

/-- The first records of the stream have the heartbeats but for those of the
rest. -/
theorem Streams.seqs_take (hStreams : Streams b o h kept f) (hFired : h.fired.isSome)
    (hBeats : h.beats < 2 ^ 32) (k : Nat) : ∃ start,
    start + (((h.written b kept f).take k).filterMap Written.seq?).length +
        (((h.written b kept f).drop k).filterMap Written.seq?).length = h.beats ∧
      (((h.written b kept f).take k).filterMap Written.seq?).map BitVec.toNat =
        List.range' start (((h.written b kept f).take k).filterMap Written.seq?).length := by
  obtain ⟨start, count, hTotal, hSeqs⟩ := hStreams.seqs hFired
  rw [← List.take_append_drop k (h.written b kept f), List.filterMap_append] at hSeqs
  obtain ⟨hLength, hFirst⟩ := numbers_left hSeqs (by omega)
  exact ⟨start, by omega, hFirst⟩

/-- The records behind the provenance. -/
theorem Streams.behind (hStreams : Streams b o h kept f) :
    ∃ rest, h.written b kept f = .provenance h.opened b.provenance :: rest ∧
      (∀ w ∈ rest, w.opens = false ∧ ∀ d e, w.Fits d e ∧ (w.pack e).length ≤ 22) ∧
      (rest.map Written.time).IsChain fun t u => t ≤ u ∧ u < t + 2 ^ 31 := by
  refine ⟨_, rfl, ?_⟩
  cases hFired : h.fired with
  | none =>
      constructor
      · intro w hw
        cases hw
      · exact List.isChain_nil
  | some t =>
      obtain ⟨arg, rest, hRest⟩ := hStreams.firing t hFired
      have hEntry : ∀ p : Entry, (Written.entry p).opens = false ∧
          ∀ d e, (Written.entry p).Fits d e ∧ ((Written.entry p).pack e).length ≤ 22 := by
        intro p
        refine ⟨rfl, fun d e => ⟨trivial, ?_⟩⟩
        have hSize := p.size_le (e := e)
        rw [Written.pack, Entry.length_pack]
        omega
      constructor
      · intro w hw
        rcases List.mem_append.mp hw with hw | hw
        · obtain ⟨p, -, rfl⟩ := List.mem_map.mp hw
          exact hEntry p
        · rcases List.mem_cons.mp hw with rfl | hw
          · refine ⟨rfl, fun d e => ⟨trivial, ?_⟩⟩
            cases e <;> simp [Written.pack, Trigger.pack, length_header, EvId.size]
          · obtain ⟨p, -, rfl⟩ := List.mem_map.mp hw
            exact hEntry p
      · have hSpaced : ((kept ++ h.streamed).map Entry.time).IsChain
            fun t u => t ≤ u ∧ u < t + 2 ^ 31 := by
          apply hStreams.made.spaced.suffix
          apply List.IsSuffix.map
          obtain ⟨before, hBefore⟩ := hStreams.kept_suffix hFired
          exact ⟨before, by rw [← List.append_assoc, hBefore]⟩
        have hTimes : ∀ xs : List Entry,
            (xs.map Written.entry).map Written.time = xs.map Entry.time := by
          intro xs
          rw [List.map_map]
          rfl
        rw [List.map_append, List.isChain_append] at hSpaced
        obtain ⟨hKept, hStreamed, hNext⟩ := hSpaced
        rw [List.map_append, List.map_cons, hTimes, hTimes, List.isChain_append]
        refine ⟨hKept, ?_, ?_⟩
        · rw [hRest] at hStreamed ⊢
          exact List.isChain_cons_cons.mpr
            ⟨⟨Nat.le_refl t, show t < t + 2 ^ 31 by omega⟩, hStreamed⟩
        · intro x hx y hy
          cases hy
          exact hNext x hx t (by rw [hRest]; rfl)

/-- Records less than half a turn apart are paced. -/
theorem Written.paced_of_near {ws : List Written}
    (hNear : (ws.map Written.time).IsChain fun t u => t ≤ u ∧ u < t + 2 ^ 31) :
    Written.Paced ws := by
  rw [List.isChain_map] at hNear
  apply hNear.imp
  intro w v hStep
  right
  omega

/-- A window's stream is paced. -/
theorem Streams.paced (hStreams : Streams b o h kept f)
    (hWindow : windowedText (ascii b.provenance) = true) : Written.Paced (h.written b kept f) := by
  obtain ⟨rest, hWritten, -, hNear⟩ := hStreams.behind
  have hOpens : (Written.provenance h.opened b.provenance).opens = true :=
    decide_eq_true (windowedText_found hWindow)
  rw [hWritten]
  cases rest with
  | nil => exact List.isChain_singleton _
  | cons w rest => exact List.isChain_cons_cons.mpr ⟨.inl hOpens, Written.paced_of_near hNear⟩

/-- And every record of it fits the metadata. -/
theorem Streams.fits (hStreams : Streams b o h kept f) (hText : b.provenance.length < 2 ^ 16)
    (d : Tsdl) (e : EvId) : ∀ w ∈ h.written b kept f, w.Fits d e := by
  obtain ⟨rest, hWritten, hRest, -⟩ := hStreams.behind
  rw [hWritten]
  intro w hw
  rcases List.mem_cons.mp hw with rfl | hw
  · exact hText
  · exact ((hRest w hw).2 d e).1

/-- The window's segment, anchored once there is a heartbeat in it. -/
theorem Streams.segment (hStreams : Streams b o h kept f)
    (hWindow : windowedText (ascii b.provenance) = true) :
    LastSegment (h.written b kept f) [] (h.written b kept f).tail := by
  obtain ⟨rest, hWritten, hRest, -⟩ := hStreams.behind
  rw [hWritten]
  exact ⟨⟨_, rfl, decide_eq_true (windowedText_found hWindow)⟩, fun w hw => (hRest w hw).1⟩

/-- A stream with a heartbeat behind its provenance is anchored by it. -/
theorem Streams.anchored (hStreams : Streams b o h kept f) {t : Nat} (hFired : h.fired = some t)
    (hBeat : ∃ p ∈ kept ++ h.streamed, p.seq?.isSome) :
    Written.Anchored (h.written b kept f).tail := by
  have hTail : (h.written b kept f).tail =
      kept.map Written.entry ++ .trigger t f :: h.streamed.map Written.entry := by
    rw [Story.written, hFired]
    rfl
  have hMade : ∀ p ∈ kept ++ h.streamed, p ∈ o.puts ++ h.streamed := by
    intro p hp
    rcases List.mem_append.mp hp with hp | hp
    · exact List.mem_append_left _ ((hStreams.kept_suffix hFired).subset hp)
    · exact List.mem_append_right _ hp
  -- there is one, and the first there is is in step
  obtain ⟨p, hp, hSeq⟩ := hBeat
  have hFound : ((h.written b kept f).tail.findSome? Written.heartbeat?).isSome := by
    rw [List.findSome?_isSome_iff]
    refine ⟨.entry p, ?_, ?_⟩
    · rw [hTail]
      rcases List.mem_append.mp hp with hp | hp
      · exact List.mem_append_left _ (List.mem_map_of_mem hp)
      · exact List.mem_append_right _ (List.mem_cons_of_mem _ (List.mem_map_of_mem hp))
    · cases p with
      | marker => cases hSeq
      | heartbeat => rfl
  obtain ⟨⟨t', up⟩, hFirst⟩ := Option.isSome_iff_exists.mp hFound
  obtain ⟨w, hw, hBeats⟩ := List.exists_of_findSome?_eq_some hFirst
  refine ⟨t', up, hFirst, ?_⟩
  rw [hTail] at hw
  have hEntry : ∀ q ∈ kept ++ h.streamed, Written.heartbeat? (.entry q) = some (t', up) →
      (t' : Int) - 2 ^ 31 < up.toNat * 1000000 ∧ (up.toNat * 1000000 : Int) < t' + 2 ^ 31 := by
    intro q hq hIs
    have hStep := hStreams.made.inStep q (hMade q hq)
    cases q with
    | marker => cases hIs
    | heartbeat =>
        cases hIs
        exact hStep
  rcases List.mem_append.mp hw with hw | hw
  · obtain ⟨q, hq, rfl⟩ := List.mem_map.mp hw
    exact hEntry q (List.mem_append_left _ hq) hBeats
  · rcases List.mem_cons.mp hw with rfl | hw
    · cases hBeats
    · obtain ⟨q, hq, rfl⟩ := List.mem_map.mp hw
      exact hEntry q (List.mem_append_right _ hq) hBeats

/-- The stream is read back at the instants it was made, once there is a
heartbeat behind the trigger. -/
theorem Streams.load (hStreams : Streams b o h kept f) {zephyr : String} (hZephyr : zephyr ≠ "")
    (hd : (u.tsdl (u.tsdlPath zephyr)).Fits b.evId) (hText : b.provenance.length < 2 ^ 16)
    (hWindow : windowedText (ascii b.provenance) = true) (n : Nat) :
    ∃ l, u.load (o.window.stream ++ List.replicate n 0) zephyr = .ok l ∧ l.error = none ∧
      ReadBack u (u.tsdl (u.tsdlPath zephyr)) b.evId (h.written b kept f) l ∧
      ∀ t, h.fired = some t → (∃ p ∈ kept ++ h.streamed, p.seq?.isSome) →
        ∀ p ∈ (h.written b kept f).tail.zip (l.records.drop 1), p.2.tNs = p.1.time := by
  obtain ⟨rest, hWritten, -, -⟩ := hStreams.behind
  obtain ⟨l, hLoad, hError, hBack⟩ := load_stream hZephyr hd (hStreams.fits hText _ _)
    (hStreams.paced hWindow) ⟨_, _, _, hWritten⟩ n
  refine ⟨l, ?_, hError, hBack, fun t hFired hBeat => ?_⟩
  · rw [hStreams.stream]
    exact hLoad
  · exact hBack.uptime [] _ (hStreams.segment hWindow) (hStreams.anchored hFired hBeat)

/-- A record has a byte that is not zero, its id's, so the zero bytes behind a
stream are all of its last record. -/
theorem zerosBehind_pack {d : Tsdl} {e : EvId} {w : Written} (hw : w.Fits d e) (data : List Byte) :
    zerosBehind (data ++ w.pack e) ≤ (w.pack e).length := by
  rw [zerosBehind, List.rtakeWhile, List.reverse_append, List.takeWhile_append]
  split_ifs with hAll
  · exfalso
    have hZeros : w.pack e = List.replicate (w.pack e).length 0 := by
      apply List.eq_replicate_of_mem
      intro b hb
      have hTake : (w.pack e).reverse.takeWhile (· == 0) = (w.pack e).reverse :=
        (List.takeWhile_prefix _).eq_of_length hAll
      have hMem : b ∈ (w.pack e).reverse.takeWhile (· == 0) := by
        rw [hTake]
        exact List.mem_reverse.mpr hb
      exact eq_of_beq (List.mem_takeWhile_imp (p := (· == 0)) hMem)
    have hId : word e.size 4 (w.pack e) = w.id e := by
      rw [Written.pack_eq, word_header_id hw.id_lt]
    rw [hZeros, word_zeros] at hId
    exact hw.id_pos hId.symm
  · rw [List.length_reverse]
    exact ((List.takeWhile_prefix _).length_le).trans (List.length_reverse ..).le

/-- The buffer may have filled up and hold the first records only. With a
heartbeat among them, what is wrapped beside the image's own counter passes
`check`'s heartbeats, and it is complete exactly if no heartbeat is lost. -/
theorem check_recording {boot : Nat} {w : Observed (Option Recording) Story} {zephyr : String}
    (run : Reaches (observe (Recording.next b) (storyNote b)) (fun w e => Timely w.history e)
      (Recorded.boot b boot) w)
    (hFired : w.history.fired.isSome) (hBeats : w.history.beats < 2 ^ 32) {major minor : Nat}
    (hMajor : major < 2 ^ 16) (hMinor : minor < 2 ^ 8)
    (hZephyr : zephyr = toString major ++ "." ++ toString minor)
    (hd : (u.tsdl (u.tsdlPath zephyr)).Fits b.evId) (hText : b.provenance.length < 2 ^ 16)
    (hWindow : windowedText (ascii b.provenance) = true) :
    ∃ o kept f, w.state = some o ∧
      o.window.stream = Written.stream b.evId (w.history.written b kept f) ∧
      ∀ k n, ((w.history.written b kept f).take k).filterMap Written.seq? ≠ [] →
        (Written.stream b.evId ((w.history.written b kept f).take k)).length + n < 2 ^ 32 →
        ∃ file l,
          wrap (Written.stream b.evId ((w.history.written b kept f).take k) ++
            List.replicate n 0) major minor o.window.hbSeq.toNat o.window.hbLastUptimeMs.toNat 100 =
              .ok file ∧
          u.load file "" = .ok l ∧ l.error = none ∧ l.heartbeatOk = true ∧
          (l.completeOk = true ↔
            ((w.history.written b kept f).drop k).filterMap Written.seq? = []) := by
  obtain ⟨o, -, kept, f, hState, -, hStreams⟩ := streams_run run
  refine ⟨o, kept, f, hState, hStreams.stream, ?_⟩
  intro k n hSome hLength
  obtain ⟨rest, hWritten, hRest, -⟩ := hStreams.behind
  -- what is in the buffer starts with the provenance and has a record behind it
  obtain ⟨k, rfl⟩ : ∃ k', k = k' + 1 := by
    apply Nat.exists_eq_succ_of_ne_zero
    rintro rfl
    exact hSome rfl
  have hTake : (w.history.written b kept f).take (k + 1) =
      .provenance w.history.opened b.provenance :: rest.take k := by
    rw [hWritten, List.take_succ_cons]
  have hFits : ∀ v ∈ (w.history.written b kept f).take (k + 1),
      v.Fits (u.tsdl (u.tsdlPath zephyr)) b.evId := by
    intro v hv
    exact hStreams.fits hText _ _ v (List.mem_of_mem_take hv)
  have hTail : zerosBehind (Written.stream b.evId ((w.history.written b kept f).take (k + 1))) ≤
      64 := by
    have hBehind : rest.take k ≠ [] := by
      intro hNil
      rw [hTake, hNil] at hSome
      exact hSome rfl
    have hLast := List.getLast_mem hBehind
    obtain ⟨hFit, hSize⟩ := (hRest _ (List.mem_of_mem_take hLast)).2
      (u.tsdl (u.tsdlPath zephyr)) b.evId
    rw [hTake, ← List.dropLast_append_getLast hBehind, ← List.cons_append, Written.stream_concat]
    exact (zerosBehind_pack hFit _).trans (hSize.trans (by decide))
  obtain ⟨file, l, hWrap, hRaw, hFile⟩ := load_wrapped (u := u) (e := b.evId) hMajor hMinor
    o.window.hbSeq.isLt (by decide : 100 < 2 ^ 32) o.window.hbLastUptimeMs.isLt hZephyr hd hFits
    ⟨_, _, _, hTake⟩ hTail hLength
  have hPaced : Written.Paced ((w.history.written b kept f).take (k + 1)) :=
    (hStreams.paced hWindow).take _
  have hBack := (reading_after (u := u) (d := u.tsdl (u.tsdlPath zephyr)) (e := b.evId)
    hPaced).loaded none zephyr none
  have hGiven : zephyr ≠ "" := by
    rw [hZephyr]
    intro hNone
    have hChars := congrArg String.toList hNone
    simp at hChars
  have hSame := (load_raw hGiven hd hFits ⟨_, _, _, hTake⟩ n).symm.trans hRaw
  obtain ⟨start, hTotal, hNumbers⟩ := hStreams.seqs_take hFired hBeats (k + 1)
  have hEmitted : o.window.hbSeq.toNat = w.history.beats := by
    rw [hStreams.seq, BitVec.toNat_ofNat, Nat.mod_eq_of_lt hBeats]
  obtain rfl := Except.ok.inj hSame
  refine ⟨file, _, hWrap, hFile, rfl, ?_⟩
  have hBackFile := hBack.behind (Header.of ((major <<< 16) ||| (minor <<< 8))
    ((Written.stream b.evId ((w.history.written b kept f).take (k + 1))).length + n)
    o.window.hbSeq.toNat 100 o.window.hbLastUptimeMs.toNat
    (trimmed (Written.stream b.evId ((w.history.written b kept f).take (k + 1)))).length)
  obtain ⟨hBeat, hComplete⟩ := hBackFile.checked hNumbers (List.length_pos_iff.mpr hSome)
    (hBackFile.windowed hTake hWindow) rfl hEmitted
  refine ⟨hBeat, hComplete.trans ?_⟩
  rw [← List.length_eq_zero_iff]
  omega

/-- A window's build, with the smallest ring. -/
def Build.windowed : Build :=
  { Build.smallest .u16 with
    provenance := "island-trace/1;window=trigger".toList.map fun c => BitVec.ofNat 8 c.toNat }

/-- A heartbeat, a contract violation, and a heartbeat. -/
def violated : Observed (Option Recording) Story :=
  follow (observe (Recording.next Build.windowed) (storyNote Build.windowed))
    (Recorded.boot Build.windowed 0)
    [.heartbeat 100000000 100 none, .marker 150000000 150 277 5, .heartbeat 200000000 200 none]

theorem reaches_violated : Reaches (observe (Recording.next Build.windowed)
    (storyNote Build.windowed)) (fun w e => Timely w.history e) (Recorded.boot Build.windowed 0)
    violated :=
  reaches_follow _ (by decide +kernel)

theorem check_recording_violated : ∃ o file l, violated.state = some o ∧
    wrap (o.window.stream ++ List.replicate 50 0) 4 4 2 200 100 = .ok file ∧
      sampleSetup.load file "" = .ok l ∧ l.heartbeatOk = true ∧ l.completeOk = true := by
  obtain ⟨o, kept, f, hState, hStream, hCheck⟩ := @check_recording Build.windowed sampleSetup 0
    violated "4.4" reaches_violated rfl (by decide +kernel) 4 4 (by decide) (by decide) (by decide)
    sampleTsdl_fits (by decide +kernel) (by decide +kernel)
  have hStreamed : Entry.heartbeat 200000000 1 200 ∈ violated.history.streamed := by
    decide +kernel
  have hSome : ((violated.history.written Build.windowed kept f).take
      (violated.history.written Build.windowed kept f).length).filterMap Written.seq? ≠ [] := by
    intro hNone
    rw [List.take_length, List.filterMap_eq_nil_iff] at hNone
    have hBeat := hNone (.entry (.heartbeat 200000000 1 200)) (by
      rw [Story.written]
      exact List.mem_cons_of_mem _ (List.mem_append_right _
        (List.mem_cons_of_mem _ (List.mem_map_of_mem hStreamed))))
    cases hBeat
  have hCounters : o.window.hbSeq = 2 ∧ o.window.hbLastUptimeMs = 200 ∧
      o.window.stream.length < 1000 := by
    have hWindow : (violated.state.map fun o => decide (o.window.hbSeq = 2 ∧
        o.window.hbLastUptimeMs = 200 ∧ o.window.stream.length < 1000)) = some true := by
      decide +kernel
    rw [hState] at hWindow
    exact of_decide_eq_true (Option.some.inj hWindow)
  obtain ⟨file, l, hWrap, hLoad, -, hBeats, hComplete⟩ := hCheck _ 50 hSome (by
    rw [List.take_length, ← hStream]
    omega)
  rw [List.take_length, ← hStream, hCounters.1, hCounters.2.1] at hWrap
  refine ⟨o, file, l, hState, hWrap, hLoad, hBeats, hComplete.mpr ?_⟩
  rw [List.drop_length]
  rfl

end Run

end SafetyIsland.Trace
