import SafetyIsland.SpinDiag.Decoded

/-! `segment` of `tools/board/spin_diag.py`: a table of what the recorder has
closed between two reads of one boot. And the part of a run between them: what
it adds to each level and to the ring. -/
namespace SafetyIsland.SpinDiag
open Transition LittleEndian

/-- A level's numbers in the earlier read. -/
structure Base where
  spins : Nat
  nobound : Nat
  late : Nat
  maxLateUs : Nat
  hist : List Nat

/-- The column of the worst lateness. -/
inductive Worst where
  | exact (us : Nat)
  | below (ms : Nat)
  | unknown
  deriving DecidableEq, Repr

def Worst.text : Worst → String
  | exact us => toString us ++ "us"
  | below ms => "<" ++ toString ms ++ "ms"
  | unknown => "-"

/-- A row of the table. What it prints of the level itself is the level's. -/
structure SegmentRow where
  level : LevelRow
  spins : Int
  judged : Int
  atLeast1 : Int
  late : Int
  worst : Worst
  hist : List Int

structure SegmentTable where
  lateThr : Nat
  rows : List SegmentRow
  wrapped : Option (Int × Nat)

/-- `pre.get(x["tid"], ..)`: of two levels with one thread the later counts,
and a level that was not there is all zeros. -/
def baseOf (levels : List LevelRow) (x : LevelRow) : Base :=
  match levels.reverse.find? fun q => q.tid == x.tid with
  | some q =>
      { spins := q.spins
        nobound := q.nobound
        late := q.late
        maxLateUs := q.maxLateUs
        hist := q.hist }
  | none =>
      { spins := 0
        nobound := 0
        late := 0
        maxLateUs := 0
        hist := List.replicate x.hist.length 0 }

/-- `r[name]`, of a record that has every name. -/
def field (r : Dict) (name : String) : Nat := (r.lookup name).getD 0

/-- `ring.get(index)`: the lateness of the level's records among the newest. -/
def heldOf (ring : List (Nat × Dict)) (new : Int) (index : Nat) : List Nat :=
  (ring.drop (max 0 (ring.length - new)).toNat).filterMap fun e =>
    if field e.2 "level" = index then some (field e.2 "late_us") else none

def highestBin (h : List Int) : Option Nat :=
  ((List.range h.length).filter fun b => h.getD b 0 ≠ 0).max?

def Worst.ofBin : Option Nat → Worst
  | none => .unknown
  | some b => .below (b + 1)

def worstOfRow (before now : Nat) (held : List Nat) (new : Int) (ringN : Nat) (h : List Int) :
    Worst :=
  -- the boot maximum moved
  if before < now then .exact now
  else if held ≠ [] ∧ new ≤ ringN then .exact (held.foldl max 0)
  else .ofBin (highestBin h)

/-- One turn of the loop over the levels of the later read. -/
def rowOf (levels : List LevelRow) (new : Int) (a : Parsed) (x : LevelRow) : SegmentRow :=
  let q := baseOf levels x
  let h := List.zipWith (fun c c₀ : Nat => (c : Int) - c₀) x.hist q.hist
  let spins : Int := x.spins - q.spins
  { level := x
    spins := spins
    judged := spins - (x.nobound - q.nobound)
    atLeast1 := h.tail.sum
    late := x.late - q.late
    worst := worstOfRow q.maxLateUs x.maxLateUs (heldOf a.ring new x.index) new a.ringN h
    hist := h }

/-- The levels and the ring's counter of the earlier read. One that is refused
was taken before the first spin. -/
def earlierOf : Refusal ⊕ Parsed → List LevelRow × Nat
  | .inl _ => ([], 0)
  | .inr p => (p.levels, p.ringNext)

def segment (preBlob actBlob : List Byte) : Option (Refusal ⊕ SegmentTable) :=
  (parse actBlob).bind fun act =>
    match act with
    | .inl refusal => some (.inl refusal)
    | .inr a => (parse preBlob).map fun pre =>
        let p := earlierOf pre
        let new : Int := a.ringNext - p.2
        .inr
          { lateThr := a.lateThr
            rows := a.levels.map (rowOf p.1 new a)
            wrapped := if a.ringN < new then some (new, a.ringN) else none }

section Between
variable (hz addr : Nat) (pre post : List Event)

/-- What has closed stays closed. -/
theorem closed_prefix : (own hz (marksOf addr pre)).closed <+:
    (own hz (marksOf addr (pre ++ post))).closed := by
  induction post using List.reverseRecOn with
  | nil => rw [List.append_nil]
  | append_singleton post e ih =>
      rw [← List.append_assoc, own_concat]
      cases e.mark? addr with
      | none => exact ih
      | some m =>
          apply ih.trans
          rw [Option.elim_some, Own.mark]
          split_ifs
          · exact List.prefix_append _ _
          · split
            · exact List.prefix_refl _
            · exact List.prefix_refl _
          · exact List.prefix_refl _

/-- What has been filed stays filed. -/
theorem filed_begins : filed hz pre <+: filed hz (pre ++ post) := by
  induction post using List.reverseRecOn with
  | nil => rw [List.append_nil]
  | append_singleton post e ih =>
      rw [← List.append_assoc, filed_concat]
      exact ih.trans (List.prefix_append _ _)

/-- Who has spun stays in its place. -/
theorem spinners_prefix : spinners pre <+: spinners (pre ++ post) := by
  induction post using List.reverseRecOn with
  | nil => rw [List.append_nil]
  | append_singleton post e ih =>
      rw [← List.append_assoc, spinners_concat]
      rcases noteSpinner_cases (spinners (pre ++ post)) e with hSame | ⟨-, hMore⟩
      · rw [hSame]
        exact ih
      · rw [hMore]
        exact ih.trans (List.prefix_append _ _)

/-- The intervals a thread closes between the reads. -/
def actOf : List Interval :=
  (own hz (marksOf addr (pre ++ post))).closed.drop (own hz (marksOf addr pre)).closed.length

/-- What closes during the act is what it adds. -/
theorem closed_append : (own hz (marksOf addr (pre ++ post))).closed =
    (own hz (marksOf addr pre)).closed ++ actOf hz addr pre post := by
  obtain ⟨rest, hRest⟩ := closed_prefix hz addr pre post
  rw [actOf, ← hRest, List.drop_left]

def filedBetween : List Rec := (filed hz (pre ++ post)).drop (filed hz pre).length

/-- So is what is filed. -/
theorem filed_append : filed hz (pre ++ post) = filed hz pre ++ filedBetween hz pre post := by
  obtain ⟨rest, hRest⟩ := filed_begins hz pre post
  rw [filedBetween, ← hRest, List.drop_left]

def lateBetween : Nat := (filedBetween hz pre post).countP Rec.isLate

/-- A level's records between the reads are its thread's intervals. -/
theorem outlines_between (hz : Nat) {pre post : List Event} {i : LevelNo} {addr : Nat}
    (hAddr : (spinners (pre ++ post))[i.val]? = some addr) :
    ((filedBetween hz pre post).filter fun c => c.level == BitVec.ofNat 32 i.val).map Rec.outline =
      (actOf hz addr pre post).map (Interval.outline hz) := by
  have hAll := ((registered hz (pre ++ post)).follows i addr hAddr).filed
  have hBefore : ((filed hz pre).filter fun c => c.level == BitVec.ofNat 32 i.val).map Rec.outline =
      (own hz (marksOf addr pre)).closed.map (Interval.outline hz) := by
    by_cases hOld : i.val < (spinners pre).length
    · have hSame : (spinners pre)[i.val]? = some addr := by
        rw [← hAddr]
        obtain ⟨rest, hRest⟩ := spinners_prefix pre post
        rw [← hRest, List.getElem?_append_left hOld]
      exact ((registered hz pre).follows i addr hSame).filed
    · -- the level is not there yet, and its thread has not entered its spin
      have hOut : addr ∉ spinners pre := by
        intro hMem
        obtain ⟨j, hj, hGet⟩ := List.getElem_of_mem hMem
        obtain ⟨rest, hRest⟩ := spinners_prefix pre post
        have hNodup : (spinners (pre ++ post)).Nodup := spinners_nodup
        obtain ⟨hi, hGetI⟩ := List.getElem?_eq_some_iff.mp hAddr
        have hj' : j < (spinners (pre ++ post)).length := by
          rw [← hRest, List.length_append]
          omega
        have hGetJ : (spinners (pre ++ post))[j] = addr := by
          simp only [← hRest, List.getElem_append_left hj, hGet]
        have hEq : i.val = j := (List.Nodup.getElem_inj_iff hNodup).mp (hGetI.trans hGetJ.symm)
        omega
      have hNone : (filed hz pre).filter (fun c => c.level == BitVec.ofNat 32 i.val) = [] := by
        apply List.filter_eq_nil_iff.mpr
        intro c hMem hLevel
        obtain ⟨j, hj, hWord⟩ := (registered hz pre).level c hMem
        have hSame : i = j := levelWord_injective ((beq_iff_eq.mp hLevel).symm.trans hWord)
        rw [(registered hz pre).count, ← hSame] at hj
        omega
      rw [hNone, own_of_not_mem hOut]
      rfl
  rw [filed_append, closed_append, List.filter_append, List.map_append, List.map_append,
    hBefore] at hAll
  exact List.append_cancel_left hAll

end Between

/-- Every level carries its thread's address, as a word. -/
def Named (r : Recorder) : Prop :=
  ∀ i addr, (r.lv i).thread = some addr → (r.lev i).tid = BitVec.ofNat 32 addr

section Named
variable {hz : Nat} {id arg : U32} {env : Env} {i l : LevelNo} {r r' : Recorder} {t : Thread}

theorem account_tid (haveBound : Bool) (c : Rec) (l : Level) :
    (l.account haveBound c).tid = l.tid := by
  cases haveBound with
  | false => rfl
  | true =>
      by_cases hMore : l.maxLateUs < c.lateUs
      · simp [Level.account, hMore]
      · simp [Level.account, hMore]

/-- Closing an interval renames no level. -/
theorem closeInterval_tid : ((r.closeInterval hz env i).lev l).tid = (r.lev l).tid := by
  obtain ⟨-, hLev, -, -⟩ := fill_tables hz env i r
  have hFile : ((r.fill hz env i).file i).lev = Function.update (r.fill hz env i).lev i
      (((r.fill hz env i).lev i).account ((r.fill hz env i).lv i).haveBound
        ((r.fill hz env i).lv i).cur) := by
    rw [Recorder.file]
    split_ifs
    · rfl
    · rfl
  rw [Recorder.closeInterval, hFile, hLev]
  by_cases hOwn : l = i
  · subst hOwn
    rw [Function.update_self, account_tid]
  · rw [Function.update_of_ne hOwn]

/-- Nor does any call of a level. -/
theorem dispatch_tid : ((r.dispatch hz id arg env i).lev l).tid = (r.lev l).tid := by
  rw [Recorder.dispatch]
  split_ifs
  · rw [Recorder.phase]
    split_ifs
    · exact closeInterval_tid (r := r.onWork i (Work.measure hz env 4))
    · rfl
    · rfl
    · rfl
  · rfl
  · rfl
  · rfl
  · rfl

theorem Named.same (h : Named r) (hThread : ∀ l, (r'.lv l).thread = (r.lv l).thread)
    (hTid : ∀ l, (r'.lev l).tid = (r.lev l).tid) : Named r' := by
  intro l addr hAddr
  rw [hThread] at hAddr
  rw [hTid]
  exact h l addr hAddr

/-- A thread that registers gives its level its name. -/
theorem Named.register (h : Named r) (hRoom : r.nlev < 4) : Named (r.register t).1 := by
  obtain ⟨-, -, hLv, hLev⟩ := register_new (t := t) hRoom
  intro l addr hAddr
  rw [hLv] at hAddr
  rw [hLev]
  by_cases hNew : l = ⟨r.nlev, hRoom⟩
  · subst hNew
    rw [Function.update_self] at hAddr
    obtain rfl := Option.some.inj hAddr
    rw [Function.update_self]
    rfl
  · rw [Function.update_of_ne hNew] at hAddr ⊢
    exact h l addr hAddr

/-- Every level bears its thread's name. -/
theorem named_run (hz : Nat) (events : List Event) : Named (run hz events) := by
  induction events using List.reverseRecOn with
  | nil =>
      intro l addr hAddr
      cases hAddr
  | append_singleton events e ih =>
      rw [run_concat]
      have hStep := step hz (run hz events) e
      generalize next hz (run hz events) e = r' at hStep
      generalize files hz (run hz events) e = more at hStep
      cases hStep with
      | lockWait t m cycles ra =>
          have hStill := lockWait_still hz (run hz events) t m cycles ra
          exact ih.same hStill.thread fun l => by rw [hStill.lev]
      | call hWork => exact ih.same dispatch_spares.thread fun _ => dispatch_tid
      | ignored hWork hOther => exact ih
      | newcomer hWork hEntry hRoom =>
          exact (ih.register hRoom).same dispatch_spares.thread fun _ => dispatch_tid
      | dropped hWork hEntry hFull =>
          obtain ⟨-, -, hLv, hLev⟩ := register_full hFull
          exact ih.same (fun l => by rw [hLv]) fun l => by rw [hLev]

theorem tid_eq {events : List Event} {addr : Nat} (hAddr : (spinners events)[i.val]? = some addr) :
    ((run hz events).lev i).tid = BitVec.ofNat 32 addr := by
  have hRun := registered hz events
  apply named_run
  rw [hRun.thread i (hRun.lt_nlev hAddr), hAddr]

/-- Nothing is written before the first spin. -/
theorem magic_of_not_begun (hz : Nat) {events : List Event} (hNone : spinners events = []) :
    (run hz events).magic = 0 := by
  induction events using List.reverseRecOn with
  | nil => rfl
  | append_singleton events e ih =>
      have hBefore : spinners events = [] := by
        have hPrefix := spinners_prefix events [e]
        rw [hNone] at hPrefix
        exact List.prefix_nil.mp hPrefix
      have hNoLevel : (run hz events).nlev = 0 := by
        rw [(registered hz events).count, hBefore]
        rfl
      rw [spinners_concat, hBefore] at hNone
      have hMagic := ih hBefore
      rw [run_concat]
      have hStep := step hz (run hz events) e
      have hEntry (hIs : e.isEntry = true) : False := by
        rw [noteSpinner, if_pos ⟨hIs, List.not_mem_nil⟩] at hNone
        cases hNone
      generalize next hz (run hz events) e = r' at hStep
      generalize files hz (run hz events) e = more at hStep
      cases hStep with
      | lockWait t m cycles ra => exact (congrArg Prod.fst (lockWait_head m cycles ra)).trans hMagic
      | call hWork =>
          have hIn := (workOf_some hWork).1
          omega
      | ignored hWork hOther => exact hMagic
      | newcomer hWork hIs hRoom => exact (hEntry hIs).elim
      | dropped hWork hIs hFull => exact (hEntry hIs).elim

end Named

end SafetyIsland.SpinDiag
