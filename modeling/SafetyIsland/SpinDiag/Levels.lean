import SafetyIsland.General.Reaches
import SafetyIsland.SpinDiag.Account

/-! Every level follows its own thread's marks: what the calls of one level
leave of another, and what a run of any threads leaves of each. -/
namespace SafetyIsland.SpinDiag
open Transition

inductive Call where
  | event (id arg : U32) (env : Env)
  | lockWait (m cycles ra : U32)

/-- A call, and the thread that makes it. -/
structure Event where
  thread : Thread
  call : Call

def next (hz : Nat) (r : Recorder) (e : Event) : Recorder :=
  match e.call with
  | .event id arg env => r.event hz e.thread id arg env
  | .lockWait m cycles ra => r.lockWait hz e.thread m cycles ra

def Recorder.Closes (r : Recorder) (i : LevelNo) (id arg : U32) : Prop :=
  id = 40 ∧ arg &&& 0xFF = 0 ∧ (r.lv i).havePrev = true

instance (r : Recorder) (i : LevelNo) (id arg : U32) : Decidable (r.Closes i id arg) :=
  inferInstanceAs (Decidable (_ ∧ _ ∧ _))

def Recorder.record (hz : Nat) (env : Env) (i : LevelNo) (r : Recorder) : Rec :=
  (((r.onWork i (Work.measure hz env 4)).fill hz env i).lv i).cur

def files (hz : Nat) (r : Recorder) (e : Event) : List Rec :=
  match e.call with
  | .event id arg env =>
      match r.workOf e.thread.addr with
      | some i => if r.Closes i id arg then [r.record hz env i] else []
      | none => []
  | .lockWait .. => []

/-- The recorder after some events, and the records they have filed. -/
def run (hz : Nat) (events : List Event) : Recorder := follow (next hz) {} events
def filed (hz : Nat) (events : List Event) : List Rec := emitAlong (next hz) (files hz) {} events

/-- The event is a phase of the thread at the address. -/
def Event.mark? (addr : Nat) (e : Event) : Option Mark :=
  match e.call with
  | .event id arg env =>
      if e.thread.addr = addr ∧ id = 40 then
        some { phase := arg &&& 0xFF, value := arg >>> 8, cycles := env.cycles }
      else none
  | .lockWait .. => none

def phaseAt (addr : Nat) (phase value : U32) (cycles : Nat) : Event :=
  { thread := { addr := addr }
    call := .event 40 (phase ||| value <<< 8) { cycles := cycles } }

def marksOf (addr : Nat) (events : List Event) : List Mark := events.filterMap (Event.mark? addr)

def Event.isEntry (e : Event) : Bool :=
  match e.call with
  | .event id arg _ => id == 40 && arg &&& 0xFF == 0
  | .lockWait .. => false

/-- The threads that have emitted a phase 0, in the order of their first. -/
def noteSpinner (seen : List Nat) (e : Event) : List Nat :=
  if e.isEntry ∧ e.thread.addr ∉ seen then seen ++ [e.thread.addr] else seen

def spinners (events : List Event) : List Nat := events.foldl noteSpinner []

/-- What of a level's work its marks read and write. -/
@[ext] structure Lane where
  phCyc : Fin 5 → U32
  havePrev : Bool
  haveBound : Bool
  segWall : Seg → U32
  parkBoundUs : U32

def Work.lane (w : Work) : Lane where
  phCyc := w.phCyc
  havePrev := w.havePrev
  haveBound := w.haveBound
  segWall := w.cur.segWall
  parkBoundUs := w.cur.parkBoundUs

/-- The same, of the thread's marks alone. -/
def Own.lane (o : Own) : Lane where
  phCyc := fun p => cycleGet32 (o.stamps p)
  havePrev := o.spin.isSome
  haveBound := (o.spin.bind Spin.bound).isSome
  segWall := o.spin.elim (fun _ => 0) Spin.walls
  parkBoundUs := (o.spin.bind Spin.bound).getD 0

section Own
variable {hz : Nat} {o : Own} {w : Work} {env : Env} {p : Fin 5} {value : U32} {spin : Spin}

/-- A spin that begins, in the recorder and on its own. -/
theorem enter_lane (hStamps : w.phCyc = fun p => cycleGet32 (o.stamps p)) :
    (w.enter env).lane = (o.enter hz env.cycles).lane := by
  apply Lane.ext
  · funext q
    show Function.update w.phCyc 0 (cycleGet32 env.cycles) q =
      cycleGet32 (Function.update o.stamps 0 env.cycles q)
    rw [hStamps]
    exact (Function.apply_update (fun _ => cycleGet32) o.stamps 0 env.cycles q).symm
  · rfl
  · rfl
  · rfl
  · rfl

/-- A segment's wall time is the one its thread's stamps give. -/
theorem us_eq_wall (hLane : w.lane = o.lane) (s : Seg) :
    us hz (cycleGet32 env.cycles - w.phCyc s) = o.wall hz s env.cycles := by
  have hStamps : w.phCyc s = cycleGet32 (o.stamps s) := congrArg (fun l => l.phCyc s) hLane
  rw [hStamps]
  rfl

/-- A phase, in the recorder and on its own. -/
theorem pass_lane (hLane : w.lane = o.lane) (hSpin : o.spin = some spin) :
    (((w.measure hz env (p - 1)).stamp env p).carry p value).lane =
      (o.pass hz p value env.cycles spin).lane := by
  have hStamps : w.phCyc = fun q => cycleGet32 (o.stamps q) := congrArg Lane.phCyc hLane
  have hPrev : w.havePrev = o.spin.isSome := congrArg Lane.havePrev hLane
  have hBound : w.haveBound = (o.spin.bind Spin.bound).isSome := congrArg Lane.haveBound hLane
  have hWalls : w.cur.segWall = o.spin.elim (fun _ => 0) Spin.walls := congrArg Lane.segWall hLane
  have hPark : w.cur.parkBoundUs = (o.spin.bind Spin.bound).getD 0 := congrArg Lane.parkBoundUs hLane
  rw [hSpin] at hPrev hBound hWalls hPark
  have hUpdated : Function.update w.phCyc p (cycleGet32 env.cycles) =
      fun q => cycleGet32 (Function.update o.stamps p env.cycles q) := by
    funext q
    rw [hStamps]
    exact (Function.apply_update (fun _ => cycleGet32) o.stamps p env.cycles q).symm
  have hMeasured : Function.update w.cur.segWall (p - 1)
      (us hz (cycleGet32 env.cycles - w.phCyc (p - 1))) =
        Function.update spin.walls (p - 1) (o.wall hz (p - 1) env.cycles) := by
    rw [us_eq_wall hLane, hWalls]
    rfl
  by_cases hPark1 : p = 1
  · subst hPark1
    exact Lane.ext hUpdated hPrev rfl hMeasured rfl
  · have hCarry : (((w.measure hz env (p - 1)).stamp env p).carry p value).lane =
        ((w.measure hz env (p - 1)).stamp env p).lane := by
      rw [Work.carry, if_neg hPark1]
      split_ifs
      · rfl
      · rfl
    rw [hCarry]
    apply Lane.ext hUpdated hPrev _ hMeasured _
    · show w.haveBound = (if p = 1 then some value else spin.bound).isSome
      rw [if_neg hPark1]
      exact hBound
    · show w.cur.parkBoundUs = (if p = 1 then some value else spin.bound).getD 0
      rw [if_neg hPark1]
      exact hPark

end Own

section Quiet
variable {hz : Nat} {env : Env} {w : Work} {arg m time ra : U32}

@[simp] theorem callbackStart_lane : (w.callbackStart arg env).lane = w.lane := rfl

@[simp] theorem callbackEnd_lane : (w.callbackEnd hz env).lane = w.lane := by
  rw [Work.callbackEnd]
  split_ifs
  · rfl
  · rfl

/-- The rest of the open record is no part of the lane. -/
theorem lane_with_cur {c : Rec} (hWalls : c.segWall = w.cur.segWall)
    (hPark : c.parkBoundUs = w.cur.parkBoundUs) : ({ w with cur := c } : Work).lane = w.lane :=
  Lane.ext rfl rfl rfl hWalls hPark

theorem ownWait_lane : ({ w with cur := w.cur.ownWait m time ra } : Work).lane = w.lane := by
  apply lane_with_cur
  · rw [Rec.ownWait]
    split_ifs
    · rfl
    · rfl
  · rw [Rec.ownWait]
    split_ifs
    · rfl
    · rfl

theorem otherWait_lane : ({ w with cur := w.cur.otherWait time ra } : Work).lane = w.lane := by
  apply lane_with_cur
  · rw [Rec.otherWait]
    split_ifs
    · rfl
    · rfl
  · rw [Rec.otherWait]
    split_ifs
    · rfl
    · rfl

end Quiet

/-- The recorder less its thread table, and what the levels have seen of it. -/
def Recorder.lessThreads (r : Recorder) : Recorder :=
  { r with
    nthr := 0
    thr := fun _ => {}
    thrNow := fun _ => 0
    lv := fun l => { r.lv l with thrPrev := fun _ => 0 } }

/-- The thread table is no level's. -/
theorem threadCb_lessThreads (r : Recorder) (t : Thread) :
    (r.threadCb t).lessThreads = r.lessThreads := by
  rw [Recorder.threadCb]
  cases r.thrIndex t.tid with
  | some k => rfl
  | none =>
      by_cases h : r.nthr < 16
      · simp only [h, dite_true]
        rfl
      · simp only [h, dite_false]

theorem countThreads_lessThreads (i : LevelNo) (threads : List Thread) (r : Recorder) :
    (r.countThreads i threads).lessThreads = r.lessThreads := by
  rw [Recorder.countThreads]
  have hFold : ∀ s : Recorder, (threads.foldl Recorder.threadCb s).lessThreads = s.lessThreads := by
    induction threads with
    | nil => exact fun _ => rfl
    | cons t rest ih => exact fun s => (ih (s.threadCb t)).trans (threadCb_lessThreads s t)
  exact hFold _

/-- A level's work less what is charged to other threads. -/
def Work.lessThreads (w : Work) : Work :=
  { w with
    thrPrev := fun _ => 0
    cur := { w.cur with topTid := fun _ => 0, topUs := fun _ => 0 } }

theorem chargeTop_lessThreads (tid d : U32) (w : Work) :
    ({ w with cur := w.cur.chargeTop tid d } : Work).lessThreads = w.lessThreads := by
  have hTop : ({ w.cur.chargeTop tid d with topTid := fun _ => 0, topUs := fun _ => 0 } : Rec) =
      { w.cur with topTid := fun _ => 0, topUs := fun _ => 0 } := by
    rw [Rec.chargeTop]
    cases (List.finRange 3).find? fun k => decide (w.cur.topUs k < d) with
    | none => rfl
    | some k => rfl
  exact congrArg (fun c => { w with thrPrev := fun _ => 0, cur := c }) hTop

theorem chargeThread_lessThreads (hz : Nat) (spinTid : U32) (r : Recorder) (w : Work)
    (k : ThreadNo) : (r.chargeThread hz spinTid w k).lessThreads = w.lessThreads := by
  rw [Recorder.chargeThread]
  split_ifs
  · rfl
  · exact chargeTop_lessThreads _ _ _

/-- Charging the threads' time touches no other word. -/
theorem chargeThreads_lessThreads (hz : Nat) (spinTid : U32) (r : Recorder) (ks : List ThreadNo)
    (w : Work) : (ks.foldl (r.chargeThread hz spinTid) w).lessThreads = w.lessThreads := by
  induction ks generalizing w with
  | nil => rfl
  | cons k rest ih => exact (ih _).trans (chargeThread_lessThreads hz spinTid r w k)

section Fill
variable {hz : Nat} {env : Env} {i l : LevelNo} {r : Recorder} {o : Own} {spin : Spin}

/-- Filling a level's record leaves the tables and the other levels. -/
theorem fill_other (hOther : l ≠ i) :
    ((r.fill hz env i).lv l).lane = (r.lv l).lane ∧
      ((r.fill hz env i).lv l).thread = (r.lv l).thread := by
  have hCount := countThreads_lessThreads i env.threads r
  have hSame : (r.fill hz env i).lv l = (r.countThreads i env.threads).lv l :=
    Function.update_of_ne hOther _ _
  rw [hSame]
  exact ⟨congrArg (fun s => (s.lv l).lane) hCount, congrArg (fun s => (s.lv l).thread) hCount⟩

/-- Filling the open record touches no table. -/
theorem fill_tables (hz : Nat) (env : Env) (i : LevelNo) (r : Recorder) :
    (r.fill hz env i).nlev = r.nlev ∧ (r.fill hz env i).lev = r.lev ∧
      (r.fill hz env i).ring = r.ring ∧ (r.fill hz env i).ringNext = r.ringNext := by
  have hCount := countThreads_lessThreads i env.threads r
  exact ⟨(congrArg Recorder.nlev hCount :), (congrArg Recorder.lev hCount :),
    (congrArg Recorder.ring hCount :), (congrArg Recorder.ringNext hCount :)⟩

/-- What judging a record leaves of it. -/
theorem judge_outline (haveBound : Bool) (c : Rec) : (c.judge haveBound).outline =
    { intervalUs := c.intervalUs
      parkBoundUs := if haveBound then c.parkBoundUs else noBound
      lateUs := if haveBound then lateness c.intervalUs c.parkBoundUs else 0
      segWall := c.segWall } := by
  cases haveBound with
  | false => rfl
  | true => rfl

/-- The record a level fills: its own interval, whatever the other threads. -/
theorem fill_own (hz : Nat) (env : Env) (i : LevelNo) (r : Recorder) :
    ((r.fill hz env i).lv i).thread = (r.lv i).thread ∧
    ((r.fill hz env i).lv i).phCyc = (r.lv i).phCyc ∧
    ((r.fill hz env i).lv i).haveBound = (r.lv i).haveBound ∧
    ((r.fill hz env i).lv i).cur.level = BitVec.ofNat 32 i.val ∧
    ((r.fill hz env i).lv i).cur.outline =
      { intervalUs := us hz (cycleGet32 env.cycles - (r.lv i).phCyc 0)
        parkBoundUs := if (r.lv i).haveBound then (r.lv i).cur.parkBoundUs else noBound
        lateUs := if (r.lv i).haveBound then
            lateness (us hz (cycleGet32 env.cycles - (r.lv i).phCyc 0)) (r.lv i).cur.parkBoundUs
          else 0
        segWall := (r.lv i).cur.segWall } := by
  have hCount : ((r.countThreads i env.threads).lv i).lessThreads = (r.lv i).lessThreads :=
    congrArg (fun s => (s.lv i).lessThreads) (countThreads_lessThreads i env.threads r)
  -- the loop over the threads, from the record as it is set before it
  obtain ⟨w, hFill, hLoop⟩ : ∃ w : Work,
      (r.fill hz env i).lv i = { w with cur := w.cur.judge w.haveBound } ∧
      w.lessThreads = ({ (r.countThreads i env.threads).lv i with
        cur := { ((r.countThreads i env.threads).lv i).cur with
          level := BitVec.ofNat 32 i.val
          intervalUs := us hz (cycleGet32 env.cycles - (r.lv i).phCyc 0)
          uptimeMs := env.uptimeMs
          isrUs := us hz (env.isrCycles - ((r.countThreads i env.threads).lv i).isrC0)
          isrN := env.isrCount - ((r.countThreads i env.threads).lv i).isrN0 } } : Work).lessThreads :=
    ⟨_, Function.update_self _ _ _, chargeThreads_lessThreads _ _ _ _ _⟩
  have hThread : w.thread = (r.lv i).thread :=
    (congrArg Work.thread hLoop :).trans (congrArg Work.thread hCount :)
  have hPhCyc : w.phCyc = (r.lv i).phCyc :=
    (congrArg Work.phCyc hLoop :).trans (congrArg Work.phCyc hCount :)
  have hBound : w.haveBound = (r.lv i).haveBound :=
    (congrArg Work.haveBound hLoop :).trans (congrArg Work.haveBound hCount :)
  have hLevel : w.cur.level = BitVec.ofNat 32 i.val := congrArg (fun w => w.cur.level) hLoop
  have hInterval : w.cur.intervalUs = us hz (cycleGet32 env.cycles - (r.lv i).phCyc 0) :=
    congrArg (fun w => w.cur.intervalUs) hLoop
  have hPark : w.cur.parkBoundUs = (r.lv i).cur.parkBoundUs :=
    (congrArg (fun w => w.cur.parkBoundUs) hLoop).trans
      (congrArg (fun w => w.cur.parkBoundUs) hCount)
  have hWalls : w.cur.segWall = (r.lv i).cur.segWall :=
    (congrArg (fun w => w.cur.segWall) hLoop).trans (congrArg (fun w => w.cur.segWall) hCount)
  rw [hFill]
  refine ⟨hThread, hPhCyc, hBound, ?_, ?_⟩
  · show (w.cur.judge w.haveBound).level = _
    rw [← hLevel, Rec.judge]
    split_ifs
    · rfl
    · rfl
  · show (w.cur.judge w.haveBound).outline = _
    rw [judge_outline, hBound, hInterval, hPark, hWalls]

/-- The record that closes a level's interval is that of its thread's marks. -/
theorem record_outline (env : Env) (hLane : (r.lv i).lane = o.lane) (hSpin : o.spin = some spin) :
    (r.record hz env i).outline = (o.close hz env.cycles spin).outline hz ∧
      (r.record hz env i).level = BitVec.ofNat 32 i.val := by
  obtain ⟨-, -, -, hLevel, hOutline⟩ :=
    fill_own hz env i (r.onWork i (Work.measure hz env 4))
  have hMeasured : (r.onWork i (Work.measure hz env 4)).lv i = (r.lv i).measure hz env 4 :=
    Function.update_self _ _ _
  have hBound : (r.lv i).haveBound = spin.bound.isSome := by
    have hSame : (r.lv i).haveBound = (o.spin.bind Spin.bound).isSome := congrArg Lane.haveBound hLane
    rw [hSame, hSpin]
    rfl
  have hPark : (r.lv i).cur.parkBoundUs = spin.bound.getD 0 := by
    have hSame : (r.lv i).cur.parkBoundUs = (o.spin.bind Spin.bound).getD 0 :=
      congrArg Lane.parkBoundUs hLane
    rw [hSame, hSpin]
    rfl
  have hWalls : (r.lv i).cur.segWall = spin.walls := by
    have hSame : (r.lv i).cur.segWall = o.spin.elim (fun _ => 0) Spin.walls :=
      congrArg Lane.segWall hLane
    rw [hSame, hSpin]
    rfl
  refine ⟨?_, hLevel⟩
  rw [Recorder.record, hOutline, hMeasured]
  apply Outline.ext
  · exact us_eq_wall hLane 0
  · show (if (r.lv i).haveBound then (r.lv i).cur.parkBoundUs else noBound) = spin.bound.getD noBound
    rw [hBound, hPark]
    cases spin.bound with
    | none => rfl
    | some bound => rfl
  · show (if (r.lv i).haveBound then
        lateness (us hz (cycleGet32 env.cycles - (r.lv i).phCyc 0)) (r.lv i).cur.parkBoundUs
      else 0) = (o.close hz env.cycles spin).lateUs hz
    have hLength : us hz (cycleGet32 env.cycles - (r.lv i).phCyc 0) =
        (o.close hz env.cycles spin).lengthUs hz := us_eq_wall hLane 0
    have hClosed : (o.close hz env.cycles spin).bound = spin.bound := rfl
    rw [hBound, hPark, hLength, Interval.lateUs, hClosed]
    cases spin.bound with
    | none => rfl
    | some bound => rw [Option.isSome_some, if_pos rfl, Option.getD_some]
  · show Function.update (r.lv i).cur.segWall 4 (us hz (cycleGet32 env.cycles - (r.lv i).phCyc 4)) =
      Function.update spin.walls 4 (o.wall hz 4 env.cycles)
    rw [hWalls, us_eq_wall hLane]

end Fill

/-- A step that leaves every level but one, in what its marks and its numbers
are. -/
structure Recorder.Spares (i : LevelNo) (r r' : Recorder) : Prop where
  nlev : r'.nlev = r.nlev
  thread : ∀ l, (r'.lv l).thread = (r.lv l).thread
  lane : ∀ l, l ≠ i → (r'.lv l).lane = (r.lv l).lane
  lev : ∀ l, l ≠ i → r'.lev l = r.lev l

section Dispatch
variable {hz : Nat} {id arg : U32} {env : Env} {i : LevelNo} {r r' r'' : Recorder}

theorem Recorder.Spares.refl : r.Spares i r := ⟨rfl, fun _ => rfl, fun _ _ => rfl, fun _ _ => rfl⟩

/-- What two steps spare, both together do. -/
theorem Recorder.Spares.trans (first : r.Spares i r') (second : r'.Spares i r'') :
    r.Spares i r'' where
  nlev := second.nlev.trans first.nlev
  thread l := (second.thread l).trans (first.thread l)
  lane l hOther := (second.lane l hOther).trans (first.lane l hOther)
  lev l hOther := (second.lev l hOther).trans (first.lev l hOther)

/-- A level's own work spares the others. -/
theorem onWork_spares {f : Work → Work} (hThread : (f (r.lv i)).thread = (r.lv i).thread) :
    r.Spares i (r.onWork i f) where
  nlev := rfl
  thread l := by
    by_cases hl : l = i
    · subst hl
      exact (congrArg Work.thread (Function.update_self ..)).trans hThread
    · exact congrArg Work.thread (Function.update_of_ne hl ..)
  lane l hl := congrArg Work.lane (Function.update_of_ne hl ..)
  lev _ _ := rfl

/-- Filling a level's record spares the others. -/
theorem fill_spares : r.Spares i (r.fill hz env i) where
  nlev := (fill_tables ..).1
  thread l := by
    by_cases hl : l = i
    · subst hl
      exact (fill_own ..).1
    · exact (fill_other hl).2
  lane l hl := (fill_other hl).1
  lev l _ := congrFun (fill_tables ..).2.1 l

/-- A record filed is accounted to its own level. -/
theorem file_frame : (r.file i).nlev = r.nlev ∧ (r.file i).lv = r.lv ∧
    (r.file i).lev =
      Function.update r.lev i ((r.lev i).account (r.lv i).haveBound (r.lv i).cur) := by
  rw [Recorder.file]
  split_ifs
  · exact ⟨rfl, rfl, rfl⟩
  · exact ⟨rfl, rfl, rfl⟩

/-- And spares the others. -/
theorem file_spares : r.Spares i (r.file i) where
  nlev := file_frame.1
  thread l := congrArg (fun lv => (lv l).thread) file_frame.2.1
  lane l _ := congrArg (fun lv => (lv l).lane) file_frame.2.1
  lev l hl := by
    rw [file_frame.2.2]
    exact Function.update_of_ne hl ..

theorem carry_thread (p : Fin 5) (value : U32) (w : Work) : (w.carry p value).thread = w.thread := by
  rw [Work.carry]
  split_ifs
  · rfl
  · rfl
  · rfl

theorem callbackEnd_thread (w : Work) : (w.callbackEnd hz env).thread = w.thread := by
  rw [Work.callbackEnd]
  split_ifs
  · rfl
  · rfl

/-- A phase of a level spares the others. -/
theorem phase_spares {phase value : U32} : r.Spares i (r.phase hz phase value env i) := by
  rw [Recorder.phase]
  split_ifs with hEntry hPrev hPass
  · exact (((onWork_spares rfl).trans fill_spares).trans file_spares).trans (onWork_spares rfl)
  · exact onWork_spares rfl
  · exact onWork_spares (carry_thread ..)
  · exact .refl

/-- A level's call leaves the other levels alone. -/
theorem dispatch_spares : r.Spares i (r.dispatch hz id arg env i) := by
  rw [Recorder.dispatch]
  split_ifs
  · exact phase_spares
  · exact onWork_spares rfl
  · exact onWork_spares (callbackEnd_thread _)
  · exact onWork_spares rfl
  · exact .refl

end Dispatch

/-- A level and the records filed on it, as its thread's marks alone give
them. -/
structure Follows (hz : Nat) (i : LevelNo) (r : Recorder) (recs : List Rec) (o : Own) : Prop where
  lane : (r.lv i).lane = o.lane
  totals : (r.lev i).totals = totals hz o.closed
  filed : (recs.filter fun c => c.level == BitVec.ofNat 32 i.val).map Rec.outline =
    o.closed.map (Interval.outline hz)

section Own
variable {hz : Nat} {id arg : U32} {env : Env} {i : LevelNo} {r r' : Recorder} {recs : List Rec}
  {o : Own}

/-- A step that leaves a level's lane and its numbers, and files nothing of
it. -/
theorem Follows.quiet (h : Follows hz i r recs o) (hLane : (r'.lv i).lane = (r.lv i).lane)
    (hLev : r'.lev i = r.lev i) {more : List Rec}
    (hMore : ∀ c ∈ more, c.level ≠ BitVec.ofNat 32 i.val) : Follows hz i r' (recs ++ more) o where
  lane := hLane.trans h.lane
  totals := by
    rw [hLev]
    exact h.totals
  filed := by
    have hNone : more.filter (fun c => c.level == BitVec.ofNat 32 i.val) = [] := by
      apply List.filter_eq_nil_iff.mpr
      intro c hMem
      simpa using hMore c hMem
    rw [List.filter_append, hNone, List.append_nil]
    exact h.filed

/-- The mark of a level's call, where it is one. -/
def markOf (id arg : U32) (env : Env) : Option Mark :=
  if id = 40 then some { phase := arg &&& 0xFF, value := arg >>> 8, cycles := env.cycles } else none

/-- An entry of a level's thread. -/
theorem Follows.entry (h : Follows hz i r recs o) {value : U32} :
    Follows hz i (r.phase hz 0 value env i)
      (recs ++ if (r.lv i).havePrev then [r.record hz env i] else []) (o.enter hz env.cycles) := by
  have hStamps : (r.lv i).phCyc = fun p => cycleGet32 (o.stamps p) := congrArg Lane.phCyc h.lane
  have hPrev : (r.lv i).havePrev = o.spin.isSome := congrArg Lane.havePrev h.lane
  cases hSpin : o.spin with
  | none =>
      rw [hSpin, Option.isSome_none] at hPrev
      have hPhase : r.phase hz 0 value env i = r.onWork i (Work.enter env) := by
        rw [Recorder.phase, if_pos rfl, hPrev]
        rfl
      have hClosed : (o.enter hz env.cycles).closed = o.closed := by
        rw [Own.enter, hSpin]
        exact List.append_nil _
      rw [hPhase, hPrev, if_neg Bool.false_ne_true, List.append_nil]
      constructor
      · exact (congrArg Work.lane (Function.update_self ..)).trans (enter_lane hStamps)
      · rw [hClosed]
        exact h.totals
      · rw [hClosed]
        exact h.filed
  | some spin =>
      rw [hSpin, Option.isSome_some] at hPrev
      obtain ⟨hOutline, hLevel⟩ := record_outline env h.lane hSpin
      obtain ⟨-, hPhCyc, hBound, -⟩ :=
        fill_own hz env i (r.onWork i (Work.measure hz env 4))
      have hMeasured : (r.onWork i (Work.measure hz env 4)).lv i = (r.lv i).measure hz env 4 :=
        Function.update_self _ _ _
      have hPhase : r.phase hz 0 value env i =
          ((r.onWork i (Work.measure hz env 4)).closeInterval hz env i).onWork i
            (Work.enter env) := by
        rw [Recorder.phase, if_pos rfl, hPrev]
        rfl
      have hClosed : (o.enter hz env.cycles).closed =
          o.closed ++ [o.close hz env.cycles spin] := by
        rw [Own.enter, hSpin]
        rfl
      rw [hPhase, hPrev, if_pos rfl]
      constructor
      · refine (congrArg Work.lane (Function.update_self ..)).trans (enter_lane ?_)
        rw [Recorder.closeInterval, file_frame.2.1, hPhCyc, hMeasured]
        exact hStamps
      · have hLev : (((r.onWork i (Work.measure hz env 4)).closeInterval hz env i).onWork i
            (Work.enter env)).lev i =
              (r.lev i).account (r.lv i).haveBound (r.record hz env i) := by
          show ((r.onWork i (Work.measure hz env 4)).closeInterval hz env i).lev i = _
          rw [Recorder.closeInterval, file_frame.2.2, Function.update_self, (fill_tables ..).2.1, hBound,
            hMeasured]
          rfl
        have hSame : (r.lv i).haveBound = (o.close hz env.cycles spin).bound.isSome := by
          have hLane : (r.lv i).haveBound = (o.spin.bind Spin.bound).isSome :=
            congrArg Lane.haveBound h.lane
          rw [hLane, hSpin]
          rfl
        rw [hLev, hClosed, hSame]
        exact totals_account h.totals hOutline
      · rw [hClosed, List.filter_append, List.map_append, List.map_append, h.filed,
          List.filter_cons_of_pos (by rw [hLevel]; exact beq_self_eq_true _), List.filter_nil,
          List.map_singleton, List.map_singleton, hOutline]

/-- A later phase of it. -/
theorem Follows.phase (h : Follows hz i r recs o) {phase value : U32} (hPhase : phase ≠ 0) :
    Follows hz i (r.phase hz phase value env i) recs
      (o.mark hz { phase := phase, value := value, cycles := env.cycles }) := by
  have hPrev : (r.lv i).havePrev = o.spin.isSome := congrArg Lane.havePrev h.lane
  rw [Recorder.phase, if_neg hPhase, Own.mark, if_neg hPhase]
  by_cases hLate : phase.toNat ≤ 4
  · rw [dif_pos hLate]
    cases hSpin : o.spin with
    | none =>
        rw [hSpin, Option.isSome_none] at hPrev
        rw [dif_neg (by rw [hPrev]; exact fun hBoth => Bool.false_ne_true hBoth.2)]
        exact h
    | some spin =>
        rw [hSpin, Option.isSome_some] at hPrev
        rw [dif_pos ⟨hLate, hPrev⟩]
        constructor
        · exact (congrArg Work.lane (Function.update_self ..)).trans (pass_lane h.lane hSpin)
        · exact h.totals
        · exact h.filed
  · rw [dif_neg hLate, dif_neg fun hBoth => hLate hBoth.1]
    exact h

/-- A level's call does to the level what its mark does to the thread's marks
alone. -/
theorem Follows.dispatch (h : Follows hz i r recs o) (id arg : U32) (env : Env) :
    Follows hz i (r.dispatch hz id arg env i)
      (recs ++ if r.Closes i id arg then [r.record hz env i] else [])
      ((markOf id arg env).elim o (o.mark hz)) := by
  rw [Recorder.dispatch, markOf]
  by_cases hPhase : id = 40
  · rw [if_pos hPhase, if_pos hPhase]
    by_cases hEntry : arg &&& 0xFF = 0
    · have hCloses : r.Closes i id arg ↔ (r.lv i).havePrev = true :=
        ⟨fun hAll => hAll.2.2, fun hPrev => ⟨hPhase, hEntry, hPrev⟩⟩
      have hMark : o.mark hz { phase := arg &&& 0xFF, value := arg >>> 8, cycles := env.cycles } =
          o.enter hz env.cycles := if_pos hEntry
      rw [Option.elim_some, hMark, hEntry, if_congr hCloses rfl rfl]
      exact h.entry
    · have hNot : ¬ r.Closes i id arg := fun hAll => hEntry hAll.2.1
      rw [if_neg hNot, List.append_nil]
      exact h.phase hEntry
  · have hNot : ¬ r.Closes i id arg := fun hAll => hPhase hAll.1
    have hOnWork : ∀ f : Work → Work, (f (r.lv i)).lane = (r.lv i).lane →
        Follows hz i (r.onWork i f) recs o := fun f hLane =>
      ⟨(congrArg Work.lane (Function.update_self ..)).trans (hLane.trans h.lane), h.totals, h.filed⟩
    rw [if_neg hPhase, if_neg hPhase, if_neg hNot, List.append_nil]
    split_ifs
    · exact hOnWork _ callbackStart_lane
    · exact hOnWork _ callbackEnd_lane
    · exact hOnWork _ rfl
    · exact h

end Own

end SafetyIsland.SpinDiag
