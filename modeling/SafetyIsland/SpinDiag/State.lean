import Mathlib.Data.Fintype.Basic
import Mathlib.Data.List.FinRange
import SafetyIsland.General.LittleEndian

/-! The spin latency recorder (`island_spin_diag.h`): every interval between
two entries of an executor thread's spin, against its own park bound. An event
is a thread's call with what the kernel shows it. -/
namespace SafetyIsland.SpinDiag

open LittleEndian

abbrev U32 := BitVec 32
abbrev U64 := BitVec 64

def magic : U32 := 0x32474453
def lateUs : U32 := 2000
def noBound : U32 := 0xFFFFFFFF

/-- `SD_LEVELS`, `SD_BINS`, `SD_RING` and `SD_THREADS` in one word, for the
reader. -/
def dims : U32 := 4#32 ||| 40#32 <<< 8 ||| 48#32 <<< 16 ||| 16#32 <<< 24

/-- `SD_LEVELS`, `SD_SEGS`, `SD_THREADS`, `SD_BINS` and `SD_RING`, as what they
number. A segment ends with the phase after its own number, the last one with
the next phase 0. -/
abbrev LevelNo := Fin 4
abbrev Seg := Fin 5
abbrev ThreadNo := Fin 16
abbrev Bin := Fin 40
abbrev RingNo := Fin 48

-- the literals of `Seg`
instance segs_neZero : NeZero (5 : Nat) := ⟨Nat.succ_ne_zero 4⟩

structure Rec where
  uptimeMs : U32 := 0
  intervalUs : U32 := 0
  segWall : Seg → U32 := fun _ => 0
  segMain : Seg → U32 := fun _ => 0
  segIdle : Seg → U32 := fun _ => 0
  parkBoundUs : U32 := 0
  idlePath : U32 := 0
  ncb : U32 := 0
  ntake : U32 := 0
  cbSlot : U32 := 0
  cbWallUs : U32 := 0
  cbMainUs : U32 := 0
  cbIdleUs : U32 := 0
  cbOffUs : U32 := 0
  lkMainN : U32 := 0
  lkMainUs : U32 := 0
  lkMainMaxUs : U32 := 0
  lkMainMaxRa : U32 := 0
  lkMainMaxM : U32 := 0
  lkOthN : U32 := 0
  lkOthUs : U32 := 0
  lkOthMaxUs : U32 := 0
  lkOthMaxRa : U32 := 0
  isrUs : U32 := 0
  isrN : U32 := 0
  topTid : Fin 3 → U32 := fun _ => 0
  topUs : Fin 3 → U32 := fun _ => 0
  cbIsrUs : U32 := 0
  cbIsrN : U32 := 0
  level : U32 := 0
  lateUs : U32 := 0

abbrev Name := Fin 16 → Byte

structure Thr where
  tid : U32 := 0
  prio : U32 := 0
  name : Name := fun _ => 0

structure Level where
  tid : U32 := 0
  prio : U32 := 0
  name : Name := fun _ => 0
  spins : U32 := 0
  nobound : U32 := 0
  late : U32 := 0
  maxLateUs : U32 := 0
  boundMinUs : U32 := 0
  boundMaxUs : U32 := 0
  intervalMaxUs : U32 := 0
  hist : Bin → U32 := fun _ => 0
  segMaxWall : Seg → U32 := fun _ => 0
  worst : Rec := {}

/-- `struct sd_work`, less the sixth cell of its phase arrays, which is never
used. -/
structure Work where
  thread : Option Nat := none
  phCyc : Fin 5 → U32 := fun _ => 0
  phMain : Fin 5 → U64 := fun _ => 0
  phIdle : Fin 5 → U64 := fun _ => 0
  havePrev : Bool := false
  haveBound : Bool := false
  cur : Rec := {}
  thrPrev : ThreadNo → U64 := fun _ => 0
  cbT0 : U32 := 0
  cbSlot : U32 := 0
  cbMain0 : U64 := 0
  cbIdle0 : U64 := 0
  isrC0 : U32 := 0
  isrN0 : U32 := 0
  cbIsrC0 : U32 := 0
  cbIsrN0 : U32 := 0

/-- `island_spin_diag`, then `sd_lv` and `sd_thr_now`. The two table lengths
never pass their tables'. -/
structure Recorder where
  magic : U32 := 0
  recWords : U32 := 0
  levWords : U32 := 0
  dims : U32 := 0
  lateUs : U32 := 0
  nlev : Nat := 0
  levDropped : U32 := 0
  ringNext : U32 := 0
  nthr : Nat := 0
  lev : LevelNo → Level := fun _ => {}
  thr : ThreadNo → Thr := fun _ => {}
  ring : RingNo → Rec := fun _ => {}
  lv : LevelNo → Work := fun _ => {}
  thrNow : ThreadNo → U64 := fun _ => 0

/-- A thread: where its `k_thread` is, and what the kernel's getters give. -/
structure Thread where
  addr : Nat
  priority : U32 := 0
  name : Option (List Byte) := none
  executionCycles : U64 := 0

def Thread.tid (t : Thread) : U32 := BitVec.ofNat 32 t.addr

/-- What an event reads. The serial interrupt's counters are read a second
time where the next interval starts. -/
structure Env where
  /-- The cycle counter, of which `k_cycle_get_32` gives the low half. -/
  cycles : Nat := 0
  mainCyc : U64 := 0
  idleCyc : U64 := 0
  isrCycles : U32 := 0
  isrCount : U32 := 0
  isrCyclesNext : U32 := 0
  isrCountNext : U32 := 0
  uptimeMs : U32 := 0
  threads : List Thread := []

def cycleGet32 (cycles : Nat) : U32 := BitVec.ofNat 32 cycles

/-- `sd_us` and `sd_us64`, at `hz` cycles a second. -/
def us (hz : Nat) (cyc : U32) : U32 := BitVec.ofNat 32 (cyc.toNat * 1000000 / hz)
def us64 (hz : Nat) (cyc : U64) : U32 :=
  BitVec.ofNat 32 ((cyc * 1000000#64).toNat / hz)

/-- `sd_copy_name`, of a string without its terminator. -/
def copyName (nm : Option (List Byte)) : Name := fun j =>
  match nm with
  | none => 0
  | some nm => if j.val < 15 then nm.getD j.val 0 else 0

namespace Recorder

def workOf (r : Recorder) (addr : Nat) : Option LevelNo :=
  (List.finRange 4).find? fun i => decide (i.val < r.nlev) && (r.lv i).thread == some addr

def register (t : Thread) (r : Recorder) : Recorder × Option LevelNo :=
  let r := if r.magic = SpinDiag.magic then r else
    { r with
      recWords := 47
      levWords := 105
      dims := SpinDiag.dims
      lateUs := SpinDiag.lateUs
      magic := SpinDiag.magic }
  if h : r.nlev < 4 then
    let i : LevelNo := ⟨r.nlev, h⟩
    ({ r with
        lv := Function.update r.lv i { r.lv i with thread := some t.addr }
        lev := Function.update r.lev i
          { r.lev i with
            tid := t.tid
            prio := t.priority
            name := copyName t.name
            boundMinUs := noBound }
        nlev := r.nlev + 1 }, some i)
  else ({ r with levDropped := r.levDropped + 1 }, none)

def thrIndex (r : Recorder) (tid : U32) : Option ThreadNo :=
  (List.finRange 16).find? fun k => decide (k.val < r.nthr) && (r.thr k).tid == tid

def threadCb (r : Recorder) (t : Thread) : Recorder :=
  match r.thrIndex t.tid with
  | some k => { r with thrNow := Function.update r.thrNow k t.executionCycles }
  | none =>
      if h : r.nthr < 16 then
        let k : ThreadNo := ⟨r.nthr, h⟩
        { r with
          thr := Function.update r.thr k
            { tid := t.tid, prio := t.priority, name := copyName t.name }
          nthr := r.nthr + 1
          -- a thread first seen now starts every level's delta from here
          lv := fun l => { r.lv l with
            thrPrev := Function.update (r.lv l).thrPrev k t.executionCycles }
          thrNow := Function.update r.thrNow k t.executionCycles }
      else r

end Recorder

/-- The insertion among the three threads that ran longest. -/
def Rec.chargeTop (tid d : U32) (c : Rec) : Rec :=
  match (List.finRange 3).find? fun k => decide (c.topUs k < d) with
  | none => c
  | some k =>
      { c with
        topUs := fun m => if m < k then c.topUs m else if m = k then d else c.topUs (m - 1)
        topTid := fun m => if m < k then c.topTid m else if m = k then tid else c.topTid (m - 1) }

/-- The lateness of an interval against its park bound. -/
def lateness (intervalUs bound : U32) : U32 :=
  if bound < intervalUs then intervalUs - bound else 0

def binOf (late : U32) : Bin :=
  if h : late.toNat / 1000 < 40 then ⟨late.toNat / 1000, h⟩ else 39

/-- What `sd_close_interval` writes of the bound into the record. -/
def Rec.judge (haveBound : Bool) (c : Rec) : Rec :=
  if haveBound then { c with lateUs := lateness c.intervalUs c.parkBoundUs }
  else { c with parkBoundUs := noBound, lateUs := 0 }

/-- What `sd_close_interval` adds of a record to its level. -/
def Level.account (haveBound : Bool) (c : Rec) (l : Level) : Level :=
  let l := { l with
    spins := l.spins + 1
    intervalMaxUs := if l.intervalMaxUs < c.intervalUs then c.intervalUs else l.intervalMaxUs
    segMaxWall := fun s =>
      if l.segMaxWall s < c.segWall s then c.segWall s else l.segMaxWall s }
  if haveBound then
    let l := { l with
      boundMinUs := if c.parkBoundUs < l.boundMinUs then c.parkBoundUs else l.boundMinUs
      boundMaxUs := if l.boundMaxUs < c.parkBoundUs then c.parkBoundUs else l.boundMaxUs
      hist := Function.update l.hist (binOf c.lateUs) (l.hist (binOf c.lateUs) + 1)
      late := if lateUs ≤ c.lateUs then l.late + 1 else l.late }
    if l.maxLateUs < c.lateUs then { l with maxLateUs := c.lateUs, worst := c } else l
  else { l with nobound := l.nobound + 1 }

namespace Recorder

/-- A level's thread calls an operation on its own work. -/
def onWork (i : LevelNo) (f : Work → Work) (r : Recorder) : Recorder :=
  { r with lv := Function.update r.lv i (f (r.lv i)) }

/-- The threads' times of an interval: `sd_thr_now` from what the level last
saw, then from the kernel. -/
def countThreads (i : LevelNo) (threads : List Thread) (r : Recorder) : Recorder :=
  threads.foldl threadCb { r with thrNow := (r.lv i).thrPrev }

/-- One turn of the loop of `sd_close_interval` over the threads. -/
def chargeThread (hz : Nat) (spinTid : U32) (r : Recorder) (w : Work) (k : ThreadNo) : Work :=
  let tid := (r.thr k).tid
  let d := us64 hz (r.thrNow k - w.thrPrev k)
  let w := { w with thrPrev := Function.update w.thrPrev k (r.thrNow k) }
  if tid = spinTid then w else { w with cur := w.cur.chargeTop tid d }

/-- The record of `sd_close_interval`, in the level's work. -/
def fill (hz : Nat) (env : Env) (i : LevelNo) (r : Recorder) : Recorder :=
  let intervalUs := us hz (cycleGet32 env.cycles - (r.lv i).phCyc 0)
  let r := r.countThreads i env.threads
  r.onWork i fun w =>
    let w := { w with
      cur := { w.cur with
        level := BitVec.ofNat 32 i.val
        intervalUs := intervalUs
        uptimeMs := env.uptimeMs
        isrUs := us hz (env.isrCycles - w.isrC0)
        isrN := env.isrCount - w.isrN0
        topTid := fun _ => 0
        topUs := fun _ => 0 } }
    let spinTid := BitVec.ofNat 32 (w.thread.getD 0)
    let w := ((List.finRange 16).filter fun k => k.val < r.nthr).foldl
      (r.chargeThread hz spinTid) w
    { w with cur := w.cur.judge w.haveBound }

/-- The end of `sd_close_interval`: the record goes into the level's numbers
and, when late, into the ring. -/
def file (i : LevelNo) (r : Recorder) : Recorder :=
  let w := r.lv i
  let r := { r with lev := Function.update r.lev i ((r.lev i).account w.haveBound w.cur) }
  if w.haveBound = true ∧ SpinDiag.lateUs ≤ w.cur.lateUs then
    { r with
      ring := Function.update r.ring
        ⟨r.ringNext.toNat % 48, Nat.mod_lt _ (by decide)⟩ w.cur
      ringNext := r.ringNext + 1 }
  else r

def closeInterval (hz : Nat) (env : Env) (i : LevelNo) (r : Recorder) : Recorder :=
  (r.fill hz env i).file i

end Recorder

/-- A segment's three times, where its end is reached. -/
def Work.measure (hz : Nat) (env : Env) (s : Seg) (w : Work) : Work :=
  { w with
    cur := { w.cur with
      segWall := Function.update w.cur.segWall s (us hz (cycleGet32 env.cycles - w.phCyc s))
      segMain := Function.update w.cur.segMain s (us64 hz (env.mainCyc - w.phMain s))
      segIdle := Function.update w.cur.segIdle s (us64 hz (env.idleCyc - w.phIdle s)) } }

def Work.stamp (env : Env) (phase : Fin 5) (w : Work) : Work :=
  { w with
    phCyc := Function.update w.phCyc phase (cycleGet32 env.cycles)
    phMain := Function.update w.phMain phase env.mainCyc
    phIdle := Function.update w.phIdle phase env.idleCyc }

/-- The start of an interval, in `sd_phase`. -/
def Work.enter (env : Env) (w : Work) : Work :=
  { w.stamp env 0 with
    cur := {}
    haveBound := false
    isrC0 := env.isrCyclesNext
    isrN0 := env.isrCountNext
    havePrev := true }

def Work.carry (phase : Fin 5) (value : U32) (w : Work) : Work :=
  if phase = 1 then { w with cur := { w.cur with parkBoundUs := value }, haveBound := true }
  else if phase = 3 then { w with cur := { w.cur with idlePath := value } }
  else w

/-- The start of a callback: event 18. -/
def Work.callbackStart (arg : U32) (env : Env) (w : Work) : Work :=
  { w with
    cbT0 := cycleGet32 env.cycles
    cbSlot := arg
    cbMain0 := env.mainCyc
    cbIdle0 := env.idleCyc
    cbIsrC0 := env.isrCycles
    cbIsrN0 := env.isrCount }

/-- The end of a callback: event 19. -/
def Work.callbackEnd (hz : Nat) (env : Env) (w : Work) : Work :=
  let us' := us hz (cycleGet32 env.cycles - w.cbT0)
  let w := { w with cur := { w.cur with ncb := w.cur.ncb + 1 } }
  if w.cur.cbWallUs ≤ us' then
    { w with
      cur := { w.cur with
        cbWallUs := us'
        cbSlot := w.cbSlot
        cbMainUs := us64 hz (env.mainCyc - w.cbMain0)
        cbIdleUs := us64 hz (env.idleCyc - w.cbIdle0)
        cbOffUs := us hz (w.cbT0 - w.phCyc 0)
        cbIsrUs := us hz (env.isrCycles - w.cbIsrC0)
        cbIsrN := env.isrCount - w.cbIsrN0 } }
  else w

/-- A contended lock wait of the level's own thread. -/
def Rec.ownWait (m us ra : U32) (c : Rec) : Rec :=
  let c := { c with lkMainN := c.lkMainN + 1, lkMainUs := c.lkMainUs + us }
  if c.lkMainMaxUs ≤ us then { c with lkMainMaxUs := us, lkMainMaxRa := ra, lkMainMaxM := m }
  else c

def Rec.otherWait (us ra : U32) (c : Rec) : Rec :=
  let c := { c with lkOthN := c.lkOthN + 1, lkOthUs := c.lkOthUs + us }
  if c.lkOthMaxUs ≤ us then { c with lkOthMaxUs := us, lkOthMaxRa := ra } else c

namespace Recorder

def phase (hz : Nat) (phase value : U32) (env : Env) (i : LevelNo) (r : Recorder) : Recorder :=
  if phase = 0 then
    let r := if (r.lv i).havePrev then
        (r.onWork i (Work.measure hz env 4)).closeInterval hz env i
      else r
    r.onWork i (Work.enter env)
  else if h : phase.toNat ≤ 4 ∧ (r.lv i).havePrev = true then
    let p : Fin 5 := ⟨phase.toNat, Nat.lt_succ_of_le h.1⟩
    r.onWork i fun w => ((w.measure hz env (p - 1)).stamp env p).carry p value
  else r

def dispatch (hz : Nat) (id arg : U32) (env : Env) (i : LevelNo) (r : Recorder) : Recorder :=
  if id = 40 then r.phase hz (arg &&& 0xFF) (arg >>> 8) env i
  else if id = 18 then r.onWork i (Work.callbackStart arg env)
  else if id = 19 then r.onWork i (Work.callbackEnd hz env)
  else if id = 25 then r.onWork i fun w => { w with cur := { w.cur with ntake := w.cur.ntake + 1 } }
  else r

def event (hz : Nat) (t : Thread) (id arg : U32) (env : Env) (r : Recorder) : Recorder :=
  match r.workOf t.addr with
  | some i => r.dispatch hz id arg env i
  | none =>
      -- a thread becomes a level by its first phase 0
      if id ≠ 40 ∨ arg &&& 0xFF ≠ 0 then r
      else match r.register t with
        | (r, none) => r
        | (r, some i) => r.dispatch hz id arg env i

def lockWait (hz : Nat) (t : Thread) (m cycles ra : U32) (r : Recorder) : Recorder :=
  let us := us hz cycles
  match r.workOf t.addr with
  | some i => r.onWork i fun w => { w with cur := w.cur.ownWait m us ra }
  | none =>
      -- charged to every level's interval under way
      { r with lv := fun l =>
          if l.val < r.nlev then { r.lv l with cur := (r.lv l).cur.otherWait us ra } else r.lv l }

end Recorder
end SafetyIsland.SpinDiag
