import SafetyIsland.SpinDiag.Image
import SafetyIsland.SpinDiag.Run

/-! The recorder read back: what `parse` returns of a whole run, against the
intervals its threads have closed. -/
namespace SafetyIsland.SpinDiag
open Transition

def Rec.isLate (c : Rec) : Bool := decide (SpinDiag.lateUs ≤ c.lateUs)

/-- The ring holds the latest of some records. -/
def RingHolds (r : Recorder) (recs : List Rec) : Prop :=
  RingLog.Holds (2 ^ 32) r.ring r.ringNext.toNat recs

section Ring
variable {hz : Nat} {id arg : U32} {env : Env} {i : LevelNo} {r : Recorder} {recs : List Rec}
  {t : Thread}

/-- Only the end of an interval touches the ring: a late record is written. -/
theorem file_ring (h : RingHolds r recs) (hJudged : (r.lv i).haveBound = false →
    (r.lv i).cur.isLate = false) :
    RingHolds (r.file i) (recs ++ [(r.lv i).cur].filter Rec.isLate) := by
  rw [Recorder.file]
  by_cases hLate : (r.lv i).haveBound = true ∧ SpinDiag.lateUs ≤ (r.lv i).cur.lateUs
  · have hKept : [(r.lv i).cur].filter Rec.isLate = [(r.lv i).cur] :=
      List.filter_cons_of_pos (decide_eq_true hLate.2)
    have hNext : (r.ringNext + 1).toNat = (r.ringNext.toNat + 1) % 2 ^ 32 := BitVec.toNat_add _ _
    rw [if_pos hLate, hKept, RingHolds]
    show RingLog.Holds (2 ^ 32) _ (r.ringNext + 1).toNat _
    rw [hNext]
    exact h.write _
  · have hDropped : [(r.lv i).cur].filter Rec.isLate = [] := by
      apply List.filter_cons_of_neg
      intro hIs
      cases hBound : (r.lv i).haveBound with
      | false => exact Bool.false_ne_true ((hJudged hBound).symm.trans hIs)
      | true => exact hLate ⟨hBound, of_decide_eq_true hIs⟩
    rw [if_neg hLate, hDropped, List.append_nil]
    exact h

/-- A late record goes into the ring. -/
theorem closeInterval_ring (h : RingHolds r recs) : RingHolds (r.closeInterval hz env i)
    (recs ++ [((r.fill hz env i).lv i).cur].filter Rec.isLate) := by
  obtain ⟨-, -, hRing, hNext⟩ := fill_tables hz env i r
  obtain ⟨-, -, hBound, -, hOutline⟩ := fill_own hz env i r
  apply file_ring
  · rw [RingHolds, hRing, hNext]
    exact h
  · intro hNone
    rw [hBound] at hNone
    have hLateUs : ((r.fill hz env i).lv i).cur.lateUs = 0 := by
      have hSame := congrArg Outline.lateUs hOutline
      rw [hNone] at hSame
      exact hSame
    rw [Rec.isLate, hLateUs]
    rfl

/-- A level's call puts into the ring what it closes, if that is late. -/
theorem dispatch_ring (h : RingHolds r recs) : RingHolds (r.dispatch hz id arg env i)
    (recs ++ (if r.Closes i id arg then [r.record hz env i] else []).filter Rec.isLate) := by
  rw [Recorder.dispatch]
  by_cases hPhase : id = 40
  · rw [if_pos hPhase, Recorder.phase]
    by_cases hEntry : arg &&& 0xFF = 0
    · rw [if_pos hEntry]
      by_cases hPrev : (r.lv i).havePrev = true
      · have hCloses : r.Closes i id arg := ⟨hPhase, hEntry, hPrev⟩
        rw [if_pos hPrev, if_pos hCloses]
        exact closeInterval_ring (r := r.onWork i (Work.measure hz env 4)) h
      · have hNot : ¬ r.Closes i id arg := fun hAll => hPrev hAll.2.2
        rw [if_neg hPrev, if_neg hNot, List.filter_nil, List.append_nil]
        exact h
    · have hNot : ¬ r.Closes i id arg := fun hAll => hEntry hAll.2.1
      rw [if_neg hEntry, if_neg hNot, List.filter_nil, List.append_nil]
      split_ifs
      · exact h
      · exact h
  · have hNot : ¬ r.Closes i id arg := fun hAll => hPhase hAll.1
    rw [if_neg hPhase, if_neg hNot, List.filter_nil, List.append_nil]
    split_ifs
    · exact h
    · exact h
    · exact h
    · exact h

/-- A lock's wait puts nothing there. -/
theorem lockWait_ring (h : RingHolds r recs) (m cycles ra : U32) :
    RingHolds (r.lockWait hz t m cycles ra) recs := by
  rw [Recorder.lockWait]
  cases r.workOf t.addr with
  | some i => exact h
  | none => exact h

/-- Nor does a registration. -/
theorem register_ring (h : RingHolds r recs) : RingHolds (r.register t).1 recs := by
  have hSame : (r.register t).1.ring = r.ring ∧ (r.register t).1.ringNext = r.ringNext := by
    by_cases hMagic : r.magic = magic
    · by_cases hRoom : r.nlev < 4
      · simp [Recorder.register, hMagic, hRoom]
      · simp [Recorder.register, hMagic, hRoom]
    · by_cases hRoom : r.nlev < 4
      · simp [Recorder.register, hMagic, hRoom]
      · simp [Recorder.register, hMagic, hRoom]
  rw [RingHolds, hSame.1, hSame.2]
  exact h

end Ring

def Recorder.head (r : Recorder) : U32 × U32 × U32 × U32 :=
  (r.magic, r.recWords, r.levWords, r.dims)

section Head
variable {hz : Nat} {id arg : U32} {env : Env} {i : LevelNo} {r r' : Recorder} {t : Thread}

theorem Recorder.Headed.congr (h : r.Headed) (hHead : r'.head = r.head) : r'.Headed where
  magic := (congrArg Prod.fst hHead).trans h.magic
  recWords := (congrArg (fun head => head.2.1) hHead).trans h.recWords
  levWords := (congrArg (fun head => head.2.2.1) hHead).trans h.levWords
  dims := (congrArg (fun head => head.2.2.2) hHead).trans h.dims

theorem fill_head : (r.fill hz env i).head = r.head :=
  (congrArg Recorder.head (countThreads_lessThreads i env.threads r) :)

theorem file_head : (r.file i).head = r.head := by
  rw [Recorder.file]
  split_ifs
  · rfl
  · rfl

/-- No call of a level writes the header's constants. -/
theorem dispatch_head : (r.dispatch hz id arg env i).head = r.head := by
  rw [Recorder.dispatch, Recorder.phase]
  split_ifs
  · exact file_head.trans fill_head
  all_goals rfl

/-- A lock's wait does not either. -/
theorem lockWait_head (m cycles ra : U32) : (r.lockWait hz t m cycles ra).head = r.head := by
  rw [Recorder.lockWait]
  cases r.workOf t.addr with
  | some i => rfl
  | none => rfl

/-- A registration leaves the header written, full or not. -/
theorem register_headed (h : r.magic = magic → r.Headed) : (r.register t).1.Headed := by
  by_cases hMagic : r.magic = magic
  · have hHead : (r.register t).1.head = r.head := by
      by_cases hRoom : r.nlev < 4
      · simp [Recorder.register, Recorder.head, hMagic, hRoom]
      · simp [Recorder.register, Recorder.head, hMagic, hRoom]
    exact (h hMagic).congr hHead
  · have hHead : (r.register t).1.head = (magic, 47, 105, dims) := by
      by_cases hRoom : r.nlev < 4
      · simp [Recorder.register, Recorder.head, hMagic, hRoom]
      · simp [Recorder.register, Recorder.head, hMagic, hRoom]
    constructor
    · exact congrArg Prod.fst hHead
    · exact congrArg (fun head => head.2.1) hHead
    · exact congrArg (fun head => head.2.2.1) hHead
    · exact congrArg (fun head => head.2.2.2) hHead

end Head

/-- The shared part of the recorder: the ring of the late records filed, and
the header once a thread has spun. -/
structure Shared (r : Recorder) (recs : List Rec) (events : List Event) : Prop where
  ring : RingHolds r (recs.filter Rec.isLate)
  magic : r.magic = SpinDiag.magic → r.Headed
  begun : spinners events ≠ [] → r.magic = SpinDiag.magic

section Run
variable {hz : Nat} {r r' : Recorder} {recs more : List Rec} {events : List Event} {e : Event}

/-- A step that keeps the header and enters no new spinner. -/
theorem Shared.keep (h : Shared r recs events) (hHead : r'.head = r.head)
    (hRing : RingHolds r' ((recs ++ more).filter Rec.isLate))
    (hSpinners : spinners (events ++ [e]) ≠ [] → spinners events ≠ []) :
    Shared r' (recs ++ more) (events ++ [e]) where
  ring := hRing
  magic hMagic := (h.magic ((congrArg Prod.fst hHead).symm.trans hMagic)).congr hHead
  begun hSome := (congrArg Prod.fst hHead).trans (h.begun (hSpinners hSome))

/-- A registration writes it. -/
theorem Shared.register (h : Shared r recs events) {t : Thread}
    (hHead : r'.head = (r.register t).1.head)
    (hRing : RingHolds r' ((recs ++ more).filter Rec.isLate)) :
    Shared r' (recs ++ more) (events ++ [e]) := by
  have hHeaded : r'.Headed := (register_headed h.magic).congr hHead
  exact ⟨hRing, fun _ => hHeaded, fun _ => hHeaded.magic⟩

theorem noteSpinner_ne_nil {seen : List Nat} (hOther : e.isEntry = false)
    (hSome : noteSpinner seen e ≠ []) : seen ≠ [] := by
  rw [noteSpinner, if_neg fun hNew => Bool.false_ne_true (hOther.symm.trans hNew.1)] at hSome
  exact hSome

/-- One event keeps what the levels share. -/
theorem Shared.step (h : Shared r recs events) (hLevels : Registered hz r recs events)
    (hStep : Step hz r e r' more) : Shared r' (recs ++ more) (events ++ [e]) := by
  cases hStep with
  | lockWait t m cycles ra =>
      apply h.keep (lockWait_head m cycles ra)
      · rw [List.append_nil]
        exact lockWait_ring h.ring m cycles ra
      · rw [spinners_concat]
        exact noteSpinner_ne_nil rfl
  | @call t _ _ _ j hWork =>
      apply h.keep dispatch_head
      · rw [List.filter_append]
        exact dispatch_ring h.ring
      · intro _
        obtain ⟨hIn, hThread⟩ := workOf_some hWork
        rw [hLevels.thread j hIn] at hThread
        exact List.ne_nil_of_mem (List.mem_of_getElem? hThread)
  | ignored hWork hOther =>
      apply h.keep rfl
      · rw [List.append_nil]
        exact h.ring
      · rw [spinners_concat]
        exact noteSpinner_ne_nil hOther
  | @newcomer t id arg env hWork hEntry hRoom =>
      apply h.register dispatch_head
      have hNot : ¬ (r.register t).1.Closes ⟨r.nlev, hRoom⟩ id arg := by
        intro hCloses
        have hPrev : ((r.register t).1.lv ⟨r.nlev, hRoom⟩).havePrev = false :=
          congrArg Lane.havePrev (hLevels.born hRoom).lane
        exact Bool.false_ne_true (hPrev.symm.trans hCloses.2.2)
      have hRing : RingHolds ((r.register t).1.dispatch hz id arg env ⟨r.nlev, hRoom⟩) _ :=
        dispatch_ring (register_ring h.ring)
      rw [if_neg hNot, List.filter_nil, List.append_nil] at hRing
      rw [List.append_nil]
      exact hRing
  | dropped hWork hEntry hFull =>
      apply h.register rfl
      rw [List.append_nil]
      exact register_ring h.ring

/-- And so does a run. -/
theorem shared (hz : Nat) (events : List Event) :
    Shared (run hz events) (filed hz events) events := by
  induction events using List.reverseRecOn with
  | nil =>
      refine ⟨.empty, fun hMagic => ?_, fun hSome => absurd rfl hSome⟩
      have hZero : (0 : U32) = magic := hMagic
      exact absurd hZero (by decide)
  | append_singleton events e ih =>
      rw [run_concat, filed_concat]
      exact ih.step (registered hz events) (step hz _ e)

end Run

def ownEvents (addr : Nat) (events : List Event) : List Event :=
  events.filter fun e => e.thread.addr == addr

section Own
variable {hz addr : Nat} {events : List Event}

/-- A thread's marks are those of its own events. -/
theorem marksOf_ownEvents : marksOf addr (ownEvents addr events) = marksOf addr events := by
  induction events with
  | nil => rfl
  | cons e rest ih =>
      by_cases hOwn : e.thread.addr = addr
      · have hKept : ownEvents addr (e :: rest) = e :: ownEvents addr rest :=
          List.filter_cons_of_pos (beq_iff_eq.mpr hOwn)
        rw [hKept, marksOf, marksOf, List.filterMap_cons, List.filterMap_cons, ← marksOf, ← marksOf,
          ih]
      · have hDropped : ownEvents addr (e :: rest) = ownEvents addr rest :=
          List.filter_cons_of_neg fun hSame => hOwn (beq_iff_eq.mp hSame)
        have hNone : e.mark? addr = none := by
          obtain ⟨t, call⟩ := e
          cases call with
          | lockWait => rfl
          | event => exact mark?_event.trans (if_neg hOwn)
        rw [hDropped, ih, marksOf, marksOf, List.filterMap_cons_none hNone]

/-- Alone, a thread that spins is the only spinner. -/
theorem spinners_ownEvents :
    spinners (ownEvents addr events) = if addr ∈ spinners events then [addr] else [] := by
  induction events using List.reverseRecOn with
  | nil => rfl
  | append_singleton events e ih =>
      by_cases hOwn : e.thread.addr = addr
      · have hKept : ownEvents addr (events ++ [e]) = ownEvents addr events ++ [e] := by
          simp [ownEvents, hOwn]
        rw [hKept, spinners_concat, spinners_concat, ih, noteSpinner, noteSpinner, hOwn]
        by_cases hMem : addr ∈ spinners events
        · simp [hMem]
        · by_cases hEntry : e.isEntry = true
          · simp [hMem, hEntry]
          · simp [hMem, hEntry]
      · have hDropped : ownEvents addr (events ++ [e]) = ownEvents addr events := by
          simp [ownEvents, hOwn]
        have hMem : addr ∈ spinners (events ++ [e]) ↔ addr ∈ spinners events := by
          rw [spinners_concat]
          rcases noteSpinner_cases (spinners events) e with hSame | ⟨-, hMore⟩
          · rw [hSame]
          · rw [hMore, List.mem_append, List.mem_singleton]
            exact or_iff_left (Ne.symm hOwn)
        rw [hDropped, ih, if_congr hMem rfl rfl]

end Own

/-- A level is its thread's own: its numbers are those of the thread's events
alone, and the records that carry it are the thread's intervals. -/
structure Alone (hz : Nat) (events : List Event) (i : LevelNo) (addr : Nat) : Prop where
  used : i.val < (run hz events).nlev
  thread : ((run hz events).lv i).thread = some addr
  isolated : ((run hz events).lev i).totals = ((run hz (ownEvents addr events)).lev 0).totals
  totals : ((run hz events).lev i).totals = totals hz (own hz (marksOf addr events)).closed
  sum : ((run hz events).lev i).spins =
    ((run hz events).lev i).nobound + ∑ bin, ((run hz events).lev i).hist bin
  records : ((filed hz events).filter fun c => c.level == BitVec.ofNat 32 i.val).map Rec.outline =
    (own hz (marksOf addr events)).closed.map (Interval.outline hz)

/-- What the reader returns of the ring: `count` of the late records filed,
the latest, oldest first. -/
def ReadBack (hz : Nat) (events : List Event) (count : Nat) : Prop :=
  ∃ d, parse (run hz events).image = some (.inr d) ∧
    d.ring.map Prod.snd = (((filed hz events).filter Rec.isLate).rtake count).map Rec.dict

/-- Each of the first four threads to spin has its own level, whose numbers
are those of its own events alone; every record filed carries such a level;
and the reader returns the latest late records, up to 48 of as many as the
counter's word has counted. -/
theorem levels_alone (hz : Nat) (events : List Event) :
    (∀ (i : LevelNo) addr, (spinners events)[i.val]? = some addr → Alone hz events i addr) ∧
    (∀ c ∈ filed hz events, ∃ i : LevelNo, i.val < (spinners events).length ∧
      c.level = BitVec.ofNat 32 i.val) ∧
    (spinners events ≠ [] → ReadBack hz events
      (min (((filed hz events).filter Rec.isLate).length % 2 ^ 32) 48)) := by
  have hRun := registered hz events
  have hShared := shared hz events
  refine ⟨?_, ?_, ?_⟩
  · intro i addr hAddr
    have hFollows := hRun.follows i addr hAddr
    have hIn := hRun.lt_nlev hAddr
    have hOwn := registered hz (ownEvents addr events)
    have hFirst : (spinners (ownEvents addr events))[(0 : LevelNo).val]? = some addr := by
      rw [spinners_ownEvents, if_pos (List.mem_of_getElem? hAddr)]
      rfl
    have hIsolated := (hOwn.follows 0 addr hFirst).totals
    rw [marksOf_ownEvents] at hIsolated
    have hSum : ((run hz events).lev i).totals.spins = ((run hz events).lev i).totals.nobound +
        ∑ bin, ((run hz events).lev i).totals.hist bin := by
      rw [hFollows.totals]
      exact spins_eq_sum
    exact {
      used := hIn
      thread := (hRun.thread i hIn).trans hAddr
      isolated := hFollows.totals.trans hIsolated.symm
      totals := hFollows.totals
      sum := hSum
      records := hFollows.filed }
  · intro c hMem
    obtain ⟨i, hIn, hLevel⟩ := hRun.level c hMem
    rw [hRun.count] at hIn
    exact ⟨i, lt_of_lt_of_le hIn (min_le_left _ _), hLevel⟩
  · intro hSpun
    have hHeaded := hShared.magic (hShared.begun hSpun)
    refine ⟨_, parse_image hHeaded, ?_⟩
    rw [parsed_ring, hShared.ring.entries_eq, hShared.ring.count]

/-- Two threads, their intervals open at once. -/
def twoLevels : List Event :=
  [phaseAt 10 0 0 0, phaseAt 10 1 30000 100, phaseAt 11 0 0 1000, phaseAt 11 1 85000 1100,
    phaseAt 10 4 0 30900, phaseAt 10 0 0 33000]

theorem levels_alone_twoLevels : Alone 1000000 twoLevels 1 11 ∧ ReadBack 1000000 twoLevels
    (min (((filed 1000000 twoLevels).filter Rec.isLate).length % 2 ^ 32) 48) :=
  ⟨(levels_alone 1000000 twoLevels).1 1 11 (by decide),
    (levels_alone 1000000 twoLevels).2.2 (by decide)⟩

/-- A thread whose every interval, but the one under way, is 2 ms late. -/
def lateRun : Nat → List Event
  | 0 => [phaseAt 7 0 0 0, phaseAt 7 1 0 0]
  | n + 1 => lateRun n ++ [phaseAt 7 0 0 (2000 * (n + 1)), phaseAt 7 1 0 (2000 * (n + 1))]

/-- A spin entered at a time, with a bound of 0. -/
theorem own_spin {events : List Event} {cycles : Nat} :
    own 1000000 (marksOf 7 (events ++ [phaseAt 7 0 0 cycles, phaseAt 7 1 0 cycles])) =
      ((own 1000000 (marksOf 7 events)).enter 1000000 cycles).pass 1000000 1 0 cycles {} := by
  have hMarks : marksOf 7 (events ++ [phaseAt 7 0 0 cycles, phaseAt 7 1 0 cycles]) =
      marksOf 7 events ++ [{ phase := 0, value := 0, cycles := cycles },
        { phase := 1, value := 0, cycles := cycles }] := by
    rw [marksOf, List.filterMap_append]
    rfl
  rw [hMarks, own, List.foldl_append]
  rfl

/-- After `n` of them, `n` intervals are 2 ms late. -/
theorem own_lateRun (n : Nat) : ∃ spin, (own 1000000 (marksOf 7 (lateRun n))).spin = some spin ∧
    spin.bound = some 0 ∧ (own 1000000 (marksOf 7 (lateRun n))).stamps 0 = 2000 * n ∧
    (own 1000000 (marksOf 7 (lateRun n))).closed.countP
      (fun iv => lateUs ≤ iv.lateUs 1000000) = n := by
  induction n with
  | zero => exact ⟨_, rfl, rfl, rfl, rfl⟩
  | succ n ih =>
      obtain ⟨spin, hSpin, hBound, hStamp, hCount⟩ := ih
      have hRun : lateRun (n + 1) =
          lateRun n ++ [phaseAt 7 0 0 (2000 * (n + 1)), phaseAt 7 1 0 (2000 * (n + 1))] := rfl
      rw [hRun, own_spin]
      refine ⟨_, rfl, rfl, rfl, ?_⟩
      have hClosed : ((own 1000000 (marksOf 7 (lateRun n))).enter 1000000 (2000 * (n + 1))).closed =
          (own 1000000 (marksOf 7 (lateRun n))).closed ++
            [(own 1000000 (marksOf 7 (lateRun n))).close 1000000 (2000 * (n + 1)) spin] := by
        rw [Own.enter, hSpin]
        rfl
      have hCycles : cycleGet32 (2000 * (n + 1)) - cycleGet32 (2000 * n) = 2000 := by
        rw [cycleGet32, cycleGet32, Nat.mul_succ, BitVec.ofNat_add, BitVec.add_comm,
          BitVec.add_sub_cancel]
        rfl
      have hLength : ((own 1000000 (marksOf 7 (lateRun n))).close 1000000 (2000 * (n + 1))
          spin).lengthUs 1000000 = 2000 := by
        rw [Interval.lengthUs, Own.close, hStamp, hCycles]
        decide
      have hLate : ((own 1000000 (marksOf 7 (lateRun n))).close 1000000 (2000 * (n + 1))
          spin).lateUs 1000000 = 2000 := by
        have hBoundIs : ((own 1000000 (marksOf 7 (lateRun n))).close 1000000 (2000 * (n + 1))
            spin).bound = some 0 := hBound
        rw [Interval.lateUs, hBoundIs, hLength]
        decide
      show (((own 1000000 (marksOf 7 (lateRun n))).enter 1000000
        (2000 * (n + 1))).closed).countP _ = n + 1
      rw [hClosed, List.countP_append, hCount, List.countP_singleton, hLate]
      rfl

/-- As many late records as there are late intervals. -/
theorem length_late_eq (hz : Nat) {addr : Nat} {events : List Event} (hOnly : spinners events = [addr]) :
    ((filed hz events).filter Rec.isLate).length =
      (own hz (marksOf addr events)).closed.countP fun iv => lateUs ≤ iv.lateUs hz := by
  have hRun := registered hz events
  have hFirst : (spinners events)[(0 : LevelNo).val]? = some addr := by
    rw [hOnly]
    rfl
  have hLevel : (filed hz events).filter (fun c => c.level == BitVec.ofNat 32 (0 : LevelNo).val) =
      filed hz events := by
    apply List.filter_eq_self.mpr
    intro c hMem
    obtain ⟨i, hIn, hWord⟩ := hRun.level c hMem
    rw [hRun.count, hOnly] at hIn
    have hZero : i = 0 := by
      apply Fin.ext
      show i.val = 0
      have hOne : min [addr].length 4 = 1 := rfl
      omega
    rw [hWord, hZero]
    exact beq_self_eq_true _
  have hRecords := (hRun.follows 0 addr hFirst).filed
  rw [hLevel] at hRecords
  have hCount : ((filed hz events).map Rec.outline).countP (fun o => decide (lateUs ≤ o.lateUs)) =
      ((own hz (marksOf addr events)).closed.map (Interval.outline hz)).countP
        (fun o => decide (lateUs ≤ o.lateUs)) := by rw [hRecords]
  rw [List.countP_map, List.countP_map] at hCount
  rw [← List.countP_eq_length_filter]
  exact hCount

theorem spinners_lateRun (n : Nat) : spinners (lateRun n) = [7] := by
  induction n with
  | zero => rfl
  | succ n ih =>
      have hRun : lateRun (n + 1) =
          lateRun n ++ [phaseAt 7 0 0 (2000 * (n + 1)), phaseAt 7 1 0 (2000 * (n + 1))] := rfl
      rw [hRun, spinners, List.foldl_append, ← spinners, ih]
      rfl

/-- When 2^32 late records have been filed, the counter reads 0 and the reader
returns none of them. -/
theorem not_levels_alone : ¬ ∀ hz events, spinners events ≠ [] → ReadBack hz events 48 := by
  intro hAll
  have hSpinners := spinners_lateRun (2 ^ 32)
  have hSome : spinners (lateRun (2 ^ 32)) ≠ [] := by
    rw [hSpinners]
    exact List.cons_ne_nil _ _
  have hLength : ((filed 1000000 (lateRun (2 ^ 32))).filter Rec.isLate).length = 2 ^ 32 := by
    obtain ⟨spin, -, -, -, hCount⟩ := own_lateRun (2 ^ 32)
    rw [length_late_eq _ hSpinners, hCount]
  have hShared := shared 1000000 (lateRun (2 ^ 32))
  obtain ⟨d, hParse, hRing⟩ := hAll 1000000 (lateRun (2 ^ 32)) hSome
  rw [parse_image (hShared.magic (hShared.begun hSome))] at hParse
  obtain rfl := Sum.inr.inj (Option.some.inj hParse)
  rw [parsed_ring, hShared.ring.entries_eq, hShared.ring.count, hLength, Nat.mod_self] at hRing
  have hLengths := congrArg List.length hRing
  rw [List.length_map, List.length_map, List.rtake, List.rtake, List.length_drop, List.length_drop,
    hLength] at hLengths
  exact absurd hLengths (by decide)

end SafetyIsland.SpinDiag
