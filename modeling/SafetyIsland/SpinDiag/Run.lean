import SafetyIsland.SpinDiag.Levels

/-! Over a whole run: the first four threads to emit a phase 0 have the four
levels, and each level is what its own thread's marks give. -/
namespace SafetyIsland.SpinDiag
open Transition

section Concat
variable {hz addr : Nat} {events : List Event} {e : Event}

/-- One event more. -/
theorem run_concat : run hz (events ++ [e]) = next hz (run hz events) e := follow_append ..

theorem filed_concat : filed hz (events ++ [e]) = filed hz events ++ files hz (run hz events) e :=
  emitAlong_append ..

theorem spinners_concat : spinners (events ++ [e]) = noteSpinner (spinners events) e := by
  rw [spinners, List.foldl_append]
  rfl

theorem marksOf_concat :
    marksOf addr (events ++ [e]) = marksOf addr events ++ (e.mark? addr).toList := by
  rw [marksOf, List.filterMap_append]
  cases hMark : e.mark? addr with
  | none => rw [List.filterMap_cons_none hMark, List.filterMap_nil, Option.toList_none]; rfl
  | some m => rw [List.filterMap_cons_some hMark, List.filterMap_nil, Option.toList_some]; rfl

theorem own_concat : own hz (marksOf addr (events ++ [e])) =
    (e.mark? addr).elim (own hz (marksOf addr events)) ((own hz (marksOf addr events)).mark hz) := by
  rw [marksOf_concat, own, List.foldl_append]
  cases e.mark? addr with
  | none => rfl
  | some m => rfl

theorem mark?_event {t : Thread} {id arg : U32} {env : Env} :
    Event.mark? addr ⟨t, .event id arg env⟩ = if t.addr = addr then markOf id arg env else none := by
  rw [markOf, ← ite_and]
  rfl

end Concat

section Spinners
variable {hz addr : Nat} {events : List Event} {e : Event}

/-- A thread's first ENTRY puts it at the end of those that have spun. -/
theorem noteSpinner_cases (seen : List Nat) (e : Event) :
    noteSpinner seen e = seen ∨
      e.thread.addr ∉ seen ∧ noteSpinner seen e = seen ++ [e.thread.addr] := by
  rw [noteSpinner]
  split_ifs with hNew
  · exact .inr ⟨hNew.2, rfl⟩
  · exact .inl rfl

/-- No thread is noted twice. -/
theorem spinners_nodup : (spinners events).Nodup := by
  induction events using List.reverseRecOn with
  | nil => exact List.nodup_nil
  | append_singleton events e ih =>
      rw [spinners_concat]
      rcases noteSpinner_cases (spinners events) e with hSame | ⟨hNew, hMore⟩
      · rwa [hSame]
      · rw [hMore]
        exact List.nodup_append'.mpr ⟨ih, List.nodup_singleton _,
          List.disjoint_singleton.mpr hNew⟩

/-- The marks of a thread that has not entered its spin come to nothing. -/
theorem own_of_not_mem (hOut : addr ∉ spinners events) : own hz (marksOf addr events) = {} := by
  induction events using List.reverseRecOn with
  | nil => rfl
  | append_singleton events e ih =>
      rw [spinners_concat] at hOut
      have hBefore : addr ∉ spinners events := by
        intro hMem
        rcases noteSpinner_cases (spinners events) e with hSame | ⟨-, hMore⟩
        · rw [hSame] at hOut
          exact hOut hMem
        · rw [hMore] at hOut
          exact hOut (List.mem_append_left _ hMem)
      rw [own_concat, ih hBefore]
      obtain ⟨t, call⟩ := e
      cases call with
      | lockWait => rfl
      | event id arg env =>
          rw [mark?_event, markOf]
          split_ifs with hAddr hPhase
          · -- not a phase 0, which would have made it a spinner
            have hEntry : ¬ arg &&& 0xFF = 0 := by
              intro hZero
              apply hOut
              have hNew : noteSpinner (spinners events) ⟨t, .event id arg env⟩ =
                  spinners events ++ [t.addr] := by
                rw [noteSpinner, if_pos]
                refine ⟨?_, hAddr ▸ hBefore⟩
                show (id == 40 && arg &&& 0xFF == 0) = true
                rw [hPhase, hZero]
                rfl
              rw [hNew, hAddr]
              exact List.mem_append_right _ List.mem_cons_self
            rw [Option.elim_some, Own.mark, if_neg hEntry]
            split_ifs
            · rfl
            · rfl
          · rfl
          · rfl

end Spinners

section Tables
variable {addr : Nat} {i : LevelNo} {r : Recorder} {t : Thread}

/-- The level found is the thread's own. -/
theorem workOf_some (h : r.workOf addr = some i) :
    i.val < r.nlev ∧ (r.lv i).thread = some addr := by
  have hFound := List.find?_some h
  rw [Bool.and_eq_true, decide_eq_true_eq, beq_iff_eq] at hFound
  exact hFound

/-- None found, no level is. -/
theorem workOf_none (h : r.workOf addr = none) (hIn : i.val < r.nlev) :
    (r.lv i).thread ≠ some addr := by
  intro hThread
  have hNot := List.find?_eq_none.mp h i (List.mem_finRange i)
  rw [Bool.and_eq_true, decide_eq_true_eq, beq_iff_eq] at hNot
  exact hNot ⟨hIn, hThread⟩

/-- The table is full: only the drop is counted. -/
theorem register_full (h : ¬ r.nlev < 4) : (r.register t).2 = none ∧
    (r.register t).1.nlev = r.nlev ∧ (r.register t).1.lv = r.lv ∧ (r.register t).1.lev = r.lev := by
  by_cases hMagic : r.magic = magic
  · simp [Recorder.register, hMagic, h]
  · simp [Recorder.register, hMagic, h]

/-- A new level is the next one, its numbers at nothing. -/
theorem register_new (h : r.nlev < 4) : (r.register t).2 = some ⟨r.nlev, h⟩ ∧
    (r.register t).1.nlev = r.nlev + 1 ∧
    (r.register t).1.lv =
      Function.update r.lv ⟨r.nlev, h⟩ { r.lv ⟨r.nlev, h⟩ with thread := some t.addr } ∧
    (r.register t).1.lev = Function.update r.lev ⟨r.nlev, h⟩
      { r.lev ⟨r.nlev, h⟩ with
        tid := t.tid, prio := t.priority, name := copyName t.name, boundMinUs := noBound } := by
  by_cases hMagic : r.magic = magic
  · simp [Recorder.register, hMagic, h]
  · simp [Recorder.register, hMagic, h]

end Tables

/-- Everything an event can do, and the records it files. -/
inductive Step (hz : Nat) (r : Recorder) : Event → Recorder → List Rec → Prop where
  | lockWait (t : Thread) (m cycles ra : U32) :
      Step hz r ⟨t, .lockWait m cycles ra⟩ (r.lockWait hz t m cycles ra) []
  | call {t : Thread} {id arg : U32} {env : Env} {j : LevelNo} (hWork : r.workOf t.addr = some j) :
      Step hz r ⟨t, .event id arg env⟩ (r.dispatch hz id arg env j)
        (if r.Closes j id arg then [r.record hz env j] else [])
  | ignored {t : Thread} {id arg : U32} {env : Env} (hWork : r.workOf t.addr = none)
      (hOther : Event.isEntry ⟨t, .event id arg env⟩ = false) :
      Step hz r ⟨t, .event id arg env⟩ r []
  | newcomer {t : Thread} {id arg : U32} {env : Env} (hWork : r.workOf t.addr = none)
      (hEntry : Event.isEntry ⟨t, .event id arg env⟩ = true) (hRoom : r.nlev < 4) :
      Step hz r ⟨t, .event id arg env⟩
        ((r.register t).1.dispatch hz id arg env ⟨r.nlev, hRoom⟩) []
  | dropped {t : Thread} {id arg : U32} {env : Env} (hWork : r.workOf t.addr = none)
      (hEntry : Event.isEntry ⟨t, .event id arg env⟩ = true) (hFull : ¬ r.nlev < 4) :
      Step hz r ⟨t, .event id arg env⟩ (r.register t).1 []

/-- What one event does is one of these. -/
theorem step (hz : Nat) (r : Recorder) (e : Event) : Step hz r e (next hz r e) (files hz r e) := by
  obtain ⟨t, call⟩ := e
  cases call with
  | lockWait m cycles ra => exact .lockWait t m cycles ra
  | event id arg env =>
      cases hWork : r.workOf t.addr with
      | some j =>
          have hNext : next hz r ⟨t, .event id arg env⟩ = r.dispatch hz id arg env j := by
            show r.event hz t id arg env = _
            rw [Recorder.event, hWork]
          have hFiles : files hz r ⟨t, .event id arg env⟩ =
              if r.Closes j id arg then [r.record hz env j] else [] := by
            rw [files]
            simp only [hWork]
          rw [hNext, hFiles]
          exact .call hWork
      | none =>
          have hFiles : files hz r ⟨t, .event id arg env⟩ = [] := by
            rw [files]
            simp only [hWork]
          have hIs : Event.isEntry ⟨t, .event id arg env⟩ = (id == 40 && arg &&& 0xFF == 0) := rfl
          rw [hFiles]
          by_cases hOther : id ≠ 40 ∨ arg &&& 0xFF ≠ 0
          · have hNext : next hz r ⟨t, .event id arg env⟩ = r := by
              show r.event hz t id arg env = _
              simp only [Recorder.event, hWork, if_pos hOther]
            rw [hNext]
            apply Step.ignored hWork
            rw [hIs, Bool.and_eq_false_iff, beq_eq_false_iff_ne, beq_eq_false_iff_ne]
            exact hOther
          · have hEntry : Event.isEntry ⟨t, .event id arg env⟩ = true := by
              rw [not_or, not_not, not_not] at hOther
              rw [hIs, Bool.and_eq_true, beq_iff_eq, beq_iff_eq]
              exact hOther
            by_cases hRoom : r.nlev < 4
            · have hPair : r.register t = ((r.register t).1, some ⟨r.nlev, hRoom⟩) :=
                Prod.ext rfl (register_new hRoom).1
              have hNext : next hz r ⟨t, .event id arg env⟩ =
                  (r.register t).1.dispatch hz id arg env ⟨r.nlev, hRoom⟩ := by
                show r.event hz t id arg env = _
                simp only [Recorder.event, hWork, if_neg hOther]
                rw [hPair]
              rw [hNext]
              exact .newcomer hWork hEntry hRoom
            · have hPair : r.register t = ((r.register t).1, none) :=
                Prod.ext rfl (register_full hRoom).1
              have hNext : next hz r ⟨t, .event id arg env⟩ = (r.register t).1 := by
                show r.event hz t id arg env = _
                simp only [Recorder.event, hWork, if_neg hOther]
                rw [hPair]
              rw [hNext]
              exact .dropped hWork hEntry hRoom

/-- The level of a record, as its word gives it. -/
theorem levelWord_injective {i j : LevelNo} (hSame : BitVec.ofNat 32 i.val = BitVec.ofNat 32 j.val) :
    i = j := by
  have hAll : ∀ i j : LevelNo, BitVec.ofNat 32 i.val = BitVec.ofNat 32 j.val → i = j := by decide
  exact hAll i j hSame

/-- The levels in use are the first threads to have entered their spin, each
what its own marks give; the others are as at boot. -/
structure Registered (hz : Nat) (r : Recorder) (recs : List Rec) (events : List Event) : Prop where
  count : r.nlev = min (spinners events).length 4
  thread : ∀ i : LevelNo, i.val < r.nlev → (r.lv i).thread = (spinners events)[i.val]?
  unborn : ∀ i : LevelNo, r.nlev ≤ i.val → r.lev i = {} ∧ (r.lv i).lane = ({} : Own).lane
  level : ∀ c ∈ recs, ∃ i : LevelNo, i.val < r.nlev ∧ c.level = BitVec.ofNat 32 i.val
  follows : ∀ (i : LevelNo) addr, (spinners events)[i.val]? = some addr →
    Follows hz i r recs (own hz (marksOf addr events))

section Step
variable {hz : Nat} {r r' : Recorder} {recs : List Rec} {events : List Event} {i : LevelNo}
  {t : Thread} {id arg : U32} {env : Env} {addr : Nat}

/-- A thread that has spun has its level among those in use. -/
theorem Registered.lt_nlev (h : Registered hz r recs events)
    (hAddr : (spinners events)[i.val]? = some addr) : i.val < r.nlev := by
  obtain ⟨hLength, -⟩ := List.getElem?_eq_some_iff.mp hAddr
  have hFour := i.isLt
  rw [h.count]
  omega

/-- No two levels have one thread. -/
theorem Registered.other (h : Registered hz r recs events) {j : LevelNo}
    (hThread : (r.lv j).thread = some t.addr) (hIn : j.val < r.nlev)
    (hAddr : (spinners events)[i.val]? = some addr) (hOther : i ≠ j) : t.addr ≠ addr := by
  intro hSame
  rw [h.thread j hIn, hSame] at hThread
  obtain ⟨hI, hGetI⟩ := List.getElem?_eq_some_iff.mp hAddr
  obtain ⟨hJ, hGetJ⟩ := List.getElem?_eq_some_iff.mp hThread
  exact hOther (Fin.ext ((List.Nodup.getElem_inj_iff spinners_nodup).mp (hGetI.trans hGetJ.symm)))

/-- What changes no level's lane, and none of their numbers. -/
structure Recorder.Still (r r' : Recorder) : Prop where
  nlev : r'.nlev = r.nlev
  thread : ∀ l, (r'.lv l).thread = (r.lv l).thread
  lane : ∀ l, (r'.lv l).lane = (r.lv l).lane
  lev : r'.lev = r.lev

/-- An event that marks nothing, on a recorder it leaves still, where it may
add a spinner only past the levels. -/
theorem Registered.still (h : Registered hz r recs events) (hStill : r.Still r') {e : Event}
    (hSpinners : ∀ i : LevelNo, (spinners (events ++ [e]))[i.val]? = (spinners events)[i.val]?)
    (hCount : r.nlev = min (spinners (events ++ [e])).length 4)
    (hMark : ∀ (i : LevelNo) addr, (spinners events)[i.val]? = some addr → e.mark? addr = none) :
    Registered hz r' recs (events ++ [e]) where
  count := hStill.nlev.trans hCount
  thread i hIn := by
    rw [hStill.nlev] at hIn
    rw [hStill.thread, hSpinners]
    exact h.thread i hIn
  unborn i hOut := by
    rw [hStill.nlev] at hOut
    rw [hStill.lev, hStill.lane]
    exact h.unborn i hOut
  level c hMem := by
    rw [hStill.nlev]
    exact h.level c hMem
  follows i addr hAddr := by
    rw [hSpinners] at hAddr
    rw [own_concat, hMark i addr hAddr, Option.elim_none]
    have hQuiet : Follows hz i r' (recs ++ []) (own hz (marksOf addr events)) :=
      (h.follows i addr hAddr).quiet (hStill.lane i) (congrFun hStill.lev i)
        fun c hMem => absurd hMem List.not_mem_nil
    rwa [List.append_nil] at hQuiet

/-- A call of a level's thread. -/
theorem Registered.call (h : Registered hz r recs events) {j : LevelNo}
    (hWork : r.workOf t.addr = some j) :
    Registered hz (r.dispatch hz id arg env j)
      (recs ++ if r.Closes j id arg then [r.record hz env j] else [])
      (events ++ [⟨t, .event id arg env⟩]) := by
  obtain ⟨hIn, hThread⟩ := workOf_some hWork
  have hSpares : r.Spares j (r.dispatch hz id arg env j) := dispatch_spares
  have hMem : t.addr ∈ spinners events := by
    rw [h.thread j hIn] at hThread
    exact List.mem_of_getElem? hThread
  have hSpinners : spinners (events ++ [⟨t, .event id arg env⟩]) = spinners events := by
    rw [spinners_concat, noteSpinner, if_neg fun hNew => hNew.2 hMem]
  -- the record, where one is filed, is the caller's level's
  have hLevel : ∀ c ∈ (if r.Closes j id arg then [r.record hz env j] else []),
      c.level = BitVec.ofNat 32 j.val := by
    intro c hc
    split_ifs at hc
    · rw [List.mem_singleton.mp hc]
      exact (fill_own ..).2.2.2.1
    · exact absurd hc List.not_mem_nil
  constructor
  · rw [hSpares.nlev, hSpinners]
    exact h.count
  · intro i hi
    rw [hSpares.nlev] at hi
    rw [hSpares.thread, hSpinners]
    exact h.thread i hi
  · intro i hi
    rw [hSpares.nlev] at hi
    have hOther : i ≠ j := by
      rintro rfl
      omega
    rw [hSpares.lev i hOther, hSpares.lane i hOther]
    exact h.unborn i hi
  · intro c hc
    rw [hSpares.nlev]
    rcases List.mem_append.mp hc with hOld | hNew
    · exact h.level c hOld
    · exact ⟨j, hIn, hLevel c hNew⟩
  · intro i addr hAddr
    rw [hSpinners] at hAddr
    rw [own_concat, mark?_event]
    by_cases hOwn : i = j
    · subst hOwn
      have hSame : t.addr = addr := by
        rw [h.thread i hIn, hAddr] at hThread
        exact (Option.some.inj hThread).symm
      rw [if_pos hSame]
      exact (h.follows i addr hAddr).dispatch id arg env
    · rw [if_neg (h.other hThread hIn hAddr hOwn)]
      apply (h.follows i addr hAddr).quiet (hSpares.lane i hOwn) (hSpares.lev i hOwn)
      intro c hc hSame
      exact hOwn (levelWord_injective (hSame.symm.trans (hLevel c hc)))

/-- A call of a thread that is no level and does not become one. -/
theorem Registered.outsider (h : Registered hz r recs events) (hWork : r.workOf t.addr = none)
    (hStill : r.Still r') (hFull : Event.isEntry ⟨t, .event id arg env⟩ = true → ¬ r.nlev < 4) :
    Registered hz r' recs (events ++ [⟨t, .event id arg env⟩]) := by
  have hOut : ∀ (i : LevelNo) addr, (spinners events)[i.val]? = some addr → t.addr ≠ addr := by
    intro i addr hAddr hSame
    have hIn := h.lt_nlev hAddr
    exact workOf_none hWork hIn ((h.thread i hIn).trans (hSame ▸ hAddr))
  have hSpinners : spinners (events ++ [⟨t, .event id arg env⟩]) =
      noteSpinner (spinners events) ⟨t, .event id arg env⟩ := spinners_concat
  rw [noteSpinner] at hSpinners
  by_cases hNew : Event.isEntry ⟨t, .event id arg env⟩ = true ∧ t.addr ∉ spinners events
  · -- a fifth thread: the spinners go on past the levels
    rw [if_pos hNew] at hSpinners
    have hFour := hFull hNew.1
    have hCount := h.count
    apply h.still hStill
    · intro i
      have hi := i.isLt
      rw [hSpinners, List.getElem?_append_left (by omega)]
    · rw [hSpinners, List.length_append]
      omega
    · intro i addr hAddr
      rw [mark?_event, if_neg (hOut i addr hAddr)]
  · rw [if_neg hNew] at hSpinners
    apply h.still hStill
    · intro i
      rw [hSpinners]
    · rw [hSpinners]
      exact h.count
    · intro i addr hAddr
      rw [mark?_event, if_neg (hOut i addr hAddr)]

/-- A level just registered is as its thread's marks so far: at nothing. -/
theorem Registered.born (h : Registered hz r recs events) (hRoom : r.nlev < 4) :
    Follows hz ⟨r.nlev, hRoom⟩ (r.register t).1 recs {} := by
  obtain ⟨hLev, hLane⟩ := h.unborn ⟨r.nlev, hRoom⟩ le_rfl
  obtain ⟨-, -, hLvNew, hLevNew⟩ := register_new (t := t) hRoom
  constructor
  · rw [hLvNew, Function.update_self]
    exact hLane
  · rw [hLevNew, Function.update_self, hLev]
    rfl
  · have hNone : recs.filter (fun c => c.level == BitVec.ofNat 32 r.nlev) = [] := by
      apply List.filter_eq_nil_iff.mpr
      intro c hMem hSame
      obtain ⟨i, hIn, hLevel⟩ := h.level c hMem
      have hWord : BitVec.ofNat 32 i.val = BitVec.ofNat 32 r.nlev :=
        hLevel.symm.trans (beq_iff_eq.mp hSame)
      have hSelf : i = ⟨r.nlev, hRoom⟩ := levelWord_injective hWord
      rw [hSelf] at hIn
      exact Nat.lt_irrefl _ hIn
    rw [hNone]
    rfl

/-- The first phase 0 of a thread that becomes a level. -/
theorem Registered.newcomer (h : Registered hz r recs events) (hWork : r.workOf t.addr = none)
    (hEntry : Event.isEntry ⟨t, .event id arg env⟩ = true) (hRoom : r.nlev < 4) :
    Registered hz ((r.register t).1.dispatch hz id arg env ⟨r.nlev, hRoom⟩) recs
      (events ++ [⟨t, .event id arg env⟩]) := by
  obtain ⟨-, hNlev, hLv, hLev⟩ := register_new (t := t) hRoom
  have hSpares : (r.register t).1.Spares ⟨r.nlev, hRoom⟩
      ((r.register t).1.dispatch hz id arg env ⟨r.nlev, hRoom⟩) := dispatch_spares
  have hCount := h.count
  have hLength : (spinners events).length = r.nlev := by omega
  have hFresh : t.addr ∉ spinners events := by
    intro hMem
    obtain ⟨k, hk, hGet⟩ := List.mem_iff_getElem.mp hMem
    have hIn : (⟨k, by omega⟩ : LevelNo).val < r.nlev := hLength ▸ hk
    exact workOf_none hWork hIn ((h.thread _ hIn).trans (List.getElem?_eq_some_iff.mpr ⟨hk, hGet⟩))
  have hSpinners : spinners (events ++ [⟨t, .event id arg env⟩]) = spinners events ++ [t.addr] := by
    rw [spinners_concat, noteSpinner, if_pos ⟨hEntry, hFresh⟩]
  have hOld : ∀ i : LevelNo, i.val ≠ r.nlev →
      (r.register t).1.lv i = r.lv i ∧ (r.register t).1.lev i = r.lev i := by
    intro i hi
    have hOther : i ≠ ⟨r.nlev, hRoom⟩ := fun hSame => hi (congrArg Fin.val hSame)
    rw [hLv, hLev]
    exact ⟨Function.update_of_ne hOther .., Function.update_of_ne hOther ..⟩
  constructor
  · rw [hSpares.nlev, hNlev, hSpinners, List.length_append, List.length_singleton, hLength]
    omega
  · intro i hi
    rw [hSpares.nlev, hNlev] at hi
    rw [hSpares.thread, hSpinners]
    by_cases hNew : i.val = r.nlev
    · have hSame : i = ⟨r.nlev, hRoom⟩ := Fin.ext hNew
      rw [hSame, hLv, Function.update_self, List.getElem?_append_right (le_of_eq hLength), hLength,
        Nat.sub_self, List.getElem?_cons_zero]
    · rw [(hOld i hNew).1, List.getElem?_append_left (by omega)]
      exact h.thread i (by omega)
  · intro i hi
    rw [hSpares.nlev, hNlev] at hi
    have hOther : i ≠ ⟨r.nlev, hRoom⟩ := by
      intro hSame
      have hVal : i.val = r.nlev := congrArg Fin.val hSame
      omega
    rw [hSpares.lev i hOther, hSpares.lane i hOther, (hOld i (by omega)).1, (hOld i (by omega)).2]
    exact h.unborn i (by omega)
  · intro c hMem
    obtain ⟨i, hIn, hLevel⟩ := h.level c hMem
    exact ⟨i, by rw [hSpares.nlev, hNlev]; omega, hLevel⟩
  · intro i addr hAddr
    rw [hSpinners] at hAddr
    rw [own_concat, mark?_event]
    by_cases hNew : i.val = r.nlev
    · obtain rfl : i = ⟨r.nlev, hRoom⟩ := Fin.ext hNew
      rw [List.getElem?_append_right (by omega), hLength, Nat.sub_self,
        List.getElem?_cons_zero] at hAddr
      obtain rfl := Option.some.inj hAddr
      have hBorn := (h.born (t := t) hRoom).dispatch id arg env
      have hNot : ¬ (r.register t).1.Closes ⟨r.nlev, hRoom⟩ id arg := by
        intro hCloses
        have hPrev : ((r.register t).1.lv ⟨r.nlev, hRoom⟩).havePrev = false :=
          congrArg Lane.havePrev (h.born hRoom).lane
        exact Bool.false_ne_true (hPrev.symm.trans hCloses.2.2)
      rw [if_neg hNot, List.append_nil] at hBorn
      rw [if_pos rfl, own_of_not_mem hFresh]
      exact hBorn
    · have hIn : i.val < (spinners events).length := by
        obtain ⟨hIndex, -⟩ := List.getElem?_eq_some_iff.mp hAddr
        rw [List.length_append, List.length_singleton] at hIndex
        omega
      rw [List.getElem?_append_left hIn] at hAddr
      have hOther : t.addr ≠ addr := by
        intro hSame
        exact hFresh (hSame ▸ List.mem_of_getElem? hAddr)
      have hSlot : i ≠ ⟨r.nlev, hRoom⟩ := fun hSame => hNew (congrArg Fin.val hSame)
      rw [if_neg hOther]
      have hQuiet : Follows hz i ((r.register t).1.dispatch hz id arg env ⟨r.nlev, hRoom⟩)
          (recs ++ []) (own hz (marksOf addr events)) :=
        (h.follows i addr hAddr).quiet
          ((hSpares.lane i hSlot).trans (congrArg Work.lane (hOld i hNew).1))
          ((hSpares.lev i hSlot).trans (hOld i hNew).2)
          fun c hMem => absurd hMem List.not_mem_nil
      rwa [List.append_nil] at hQuiet

end Step

section Run
variable {hz : Nat} {r : Recorder} {recs : List Rec} {events : List Event}

/-- Work that leaves a level's lane leaves its account. -/
theorem onWork_still {i : LevelNo} {f : Work → Work}
    (hThread : (f (r.lv i)).thread = (r.lv i).thread) (hLane : (f (r.lv i)).lane = (r.lv i).lane) :
    r.Still (r.onWork i f) where
  nlev := rfl
  thread := (onWork_spares hThread).thread
  lane l := by
    by_cases hl : l = i
    · subst hl
      exact (congrArg Work.lane (Function.update_self ..)).trans hLane
    · exact (onWork_spares hThread).lane l hl
  lev := rfl

/-- A lock wait is charged to records, not to intervals. -/
theorem lockWait_still (hz : Nat) (r : Recorder) (t : Thread) (m cycles ra : U32) :
    r.Still (r.lockWait hz t m cycles ra) := by
  rw [Recorder.lockWait]
  cases r.workOf t.addr with
  | some i => exact onWork_still rfl ownWait_lane
  | none =>
      refine ⟨rfl, fun l => ?_, fun l => ?_, rfl⟩
      · show (if l.val < r.nlev then _ else r.lv l : Work).thread = _
        split_ifs
        · rfl
        · rfl
      · show (if l.val < r.nlev then _ else r.lv l : Work).lane = _
        split_ifs
        · exact otherWait_lane
        · rfl

/-- One event of any thread. -/
theorem Registered.step (h : Registered hz r recs events) {e : Event} {r' : Recorder}
    {more : List Rec} (hStep : Step hz r e r' more) :
    Registered hz r' (recs ++ more) (events ++ [e]) := by
  cases hStep with
  | lockWait t m cycles ra =>
      have hSpinners : spinners (events ++ [⟨t, .lockWait m cycles ra⟩]) = spinners events := by
        rw [spinners_concat, noteSpinner, if_neg fun hNew => Bool.false_ne_true hNew.1]
      rw [List.append_nil]
      apply h.still (lockWait_still hz _ t m cycles ra)
      · intro i
        rw [hSpinners]
      · rw [hSpinners]
        exact h.count
      · exact fun _ _ _ => rfl
  | call hWork => exact h.call hWork
  | ignored hWork hOther =>
      rw [List.append_nil]
      apply h.outsider hWork ⟨rfl, fun _ => rfl, fun _ => rfl, rfl⟩
      intro hEntry
      exact absurd (hEntry.symm.trans hOther) (Ne.symm Bool.false_ne_true)
  | newcomer hWork hEntry hRoom =>
      rw [List.append_nil]
      exact h.newcomer hWork hEntry hRoom
  | @dropped t _ _ _ hWork _ hFull =>
      obtain ⟨-, hNlev, hLv, hLev⟩ := register_full (t := t) hFull
      rw [List.append_nil]
      apply h.outsider hWork _ fun _ => hFull
      exact ⟨hNlev, fun l => congrArg (fun lv => (lv l).thread) hLv,
        fun l => congrArg (fun lv => (lv l).lane) hLv, hLev⟩

/-- After any run the levels in use are the first threads', each with its own
account. -/
theorem registered (hz : Nat) (events : List Event) :
    Registered hz (run hz events) (filed hz events) events := by
  induction events using List.reverseRecOn with
  | nil =>
      refine ⟨rfl, fun i hi => absurd hi (Nat.not_lt_zero _), fun _ _ => ⟨rfl, rfl⟩, ?_, ?_⟩
      · intro c hMem
        exact absurd hMem List.not_mem_nil
      · intro i addr hAddr
        exact absurd hAddr (by simp [spinners])
  | append_singleton events e ih =>
      rw [run_concat, filed_concat]
      exact ih.step (step hz _ e)

end Run

end SafetyIsland.SpinDiag
