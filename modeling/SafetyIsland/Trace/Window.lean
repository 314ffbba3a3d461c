import SafetyIsland.Trace.Record

/-! The trace window of `island_trace.h`: the record policy, the pre-trigger
ring in two halves, the trigger that flushes it, and the re-arm. Every function
runs under the interrupt lock. -/
namespace SafetyIsland.Trace

open LittleEndian

/-- The build's choices. -/
structure Build where
  evId : EvId
  /-- `CONFIG_ISLAND_TRACE_PRE_BYTES` -/
  preBytes : Nat
  /-- `CONFIG_ISLAND_TRACE_PRE_MS` -/
  preMs : U16
  /-- `CONFIG_ISLAND_TRACE_SPIN_KEEP` -/
  spinKeep : U16
  /-- `island_trace_provenance`, less its final NUL. -/
  provenance : List Byte
  /-- The header's `#error`. -/
  preBytes_ge : 64 ≤ preBytes
  /-- The lengths of the halves fit `uint16_t`. -/
  half_lt : preBytes / 2 < 2 ^ 16

def Build.half (b : Build) : Nat := b.preBytes / 2

def markerCount : Nat := 40

/-- `ISLAND_TRACE_TRIGGER_MARKER`, the handler's call of an MRM. -/
def triggerMarker : U16 := 7

/-- `ISLAND_TRACE_ARM_MARKER`, a take of the guarded input. -/
def armMarker : U16 := 15

/-- `ISLAND_TRACE_REC_EVERY` and the others. -/
inductive Policy where
  | every | change | spinEntry | spinExit
  deriving DecidableEq, Repr

def policyTable : List Policy :=
  [.every, .spinEntry, .spinExit, .every, .every, .spinEntry, .spinExit, .every, .every, .every,
   .every, .spinEntry, .spinExit, .every, .change, .every, .every, .every, .every, .every, .every,
   .every, .change, .change, .change, .change, .change, .change, .change, .change, .every, .every,
   .every, .every, .every, .every, .every, .every, .every, .every, .every]

def policy (m : U16) : Policy := policyTable.getD m.toNat .every

/-- `island_trace_pre` and its bookkeeping; `false` is the first half. -/
structure Ring where
  pre : Bool → List Byte
  preLen : Bool → U16 := fun _ => 0
  cur : Bool := false
  /-- `island_trace_pre_n` -/
  n : U32 := 0

/-- A copy into an array at an offset; one past its end is none. -/
def memcpy (dst : List Byte) (off : Nat) (src : List Byte) : Option (List Byte) :=
  if off + src.length ≤ dst.length then
    some (dst.take off ++ src ++ dst.drop (off + src.length))
  else none

def Ring.prePut (b : Build) (r : Ring) (rec : List Byte) : Option Ring :=
  let full := b.half < (r.preLen r.cur).toNat + rec.length
  let c := if full then !r.cur else r.cur
  let preLen := if full then Function.update r.preLen c 0 else r.preLen
  (memcpy (r.pre c) (preLen c).toNat rec).map fun half =>
    { pre := Function.update r.pre c half
      preLen := Function.update preLen c (BitVec.ofNat 16 ((preLen c).toNat + rec.length))
      cur := c
      n := r.n + 1 }

/-- The bytes a half has in use. -/
def Ring.used (r : Ring) (c : Bool) : List Byte := (r.pre c).take (r.preLen c).toNat

structure Window where
  ring : Ring
  lastArg : U16 → U32 := fun _ => 0
  seen : U16 → Bool := fun _ => false
  skip : U16 → Bool := fun _ => false
  spins : U16 → U16 := fun _ => 0
  armed : Bool := false
  reopen : Bool := false
  triggered : Bool := false
  triggerUptimeMs : U32 := 0
  filtered : U32 := 0
  preLost : U32 := 0
  rearms : U32 := 0
  rearmUptimeMs : U32 := 0
  /-- `island_trace_hb_seq` -/
  hbSeq : U32 := 0
  hbLastUptimeMs : U32 := 0
  /-- What the RAM backend has been given since its init. -/
  stream : List Byte

/-- `island_trace_keep`: whether the record policy keeps the marker. -/
def Window.keep (b : Build) (w : Window) (m : U16) (arg : U32) : Bool × Window :=
  if m = 0 ∨ markerCount < m.toNat then (true, w)
  else match policy m with
    | .change =>
        if w.seen m ∧ w.lastArg m = arg then (false, w)
        else (true, { w with
          seen := Function.update w.seen m true, lastArg := Function.update w.lastArg m arg })
    | .spinEntry =>
        let keep := !w.seen m || w.lastArg m != arg ||
          b.spinKeep.toNat ≤ (w.spins m).toNat + 1
        (keep, { w with
          seen := Function.update w.seen m true
          lastArg := Function.update w.lastArg m arg
          spins := Function.update w.spins m (if keep then 0 else w.spins m + 1)
          skip := Function.update w.skip m !keep })
    | .spinExit => (!w.skip (m - 1), w)
    | .every => (true, w)

def recLen (e : EvId) (rec : List Byte) : Nat :=
  if word e.size 4 rec = e.heartbeat then e.hbLen else e.mkLen

/-- The records a loop over a half visits from an offset on: their offsets and
stamps. A record is at least a byte, so a half's length is fuel enough. -/
def walk (e : EvId) (seg : List Byte) (segLen : U16) : Nat → U16 → List (U16 × U32)
  | 0, _ => []
  | fuel + 1, off =>
      if off < segLen then
        (off, BitVec.ofNat 32 (word 4 off.toNat seg)) ::
          walk e seg segLen fuel (off + BitVec.ofNat 16 (recLen e (seg.drop off.toNat)))
      else []

/-- The time since the oldest record, summed along the stamps: `rel`, `prev`
and `have` of `island_trace_fire`. -/
structure Age where
  rel : U64 := 0
  prev : U32 := 0
  known : Bool := false

def Age.next (a : Age) (ts : U32) : Age :=
  { rel := a.rel + if a.known then (ts - a.prev).setWidth 64 else 0
    prev := ts
    known := true }

/-- The second pass: the age, where the flushed part of the half starts, and
the records flushed. -/
structure Cut where
  age : Age
  start : U16 := 0
  kept : U32 := 0

def Cut.next (nowRel preNs : U64) (segLen : U16) (c : Cut) (at_ : U16 × U32) : Cut :=
  let age := c.age.next at_.2
  let start := if c.start = segLen ∧ nowRel - age.rel ≤ preNs then at_.1 else c.start
  { age := age, start := start, kept := if start ≠ segLen then c.kept + 1 else c.kept }

/-- The second pass over one half, and the bytes it writes. -/
def Cut.half (e : EvId) (nowRel preNs : U64) (c : Cut) (seg : List Byte) (segLen : U16) :
    Cut × List Byte :=
  let c := (walk e seg segLen segLen.toNat 0).foldl (Cut.next nowRel preNs segLen)
    { c with start := segLen }
  (c, if c.start < segLen then (seg.drop c.start.toNat).take (segLen - c.start).toNat else [])

def Window.fire (b : Build) (w : Window) (now up : U32) (m : U16) : Window :=
  let r := w.ring
  let old := !r.cur
  -- pass 1
  let stamps := (walk b.evId (r.pre old) (r.preLen old) (r.preLen old).toNat 0 ++
    walk b.evId (r.pre r.cur) (r.preLen r.cur) (r.preLen r.cur).toNat 0).map Prod.snd
  let age := stamps.foldl Age.next {}
  let nowRel := if age.known then age.rel + (now - age.prev).setWidth 64 else 0
  let preNs := b.preMs.setWidth 64 * 1000000
  -- pass 2
  let first := Cut.half b.evId nowRel preNs { age := { age with rel := 0, known := false } }
    (r.pre old) (r.preLen old)
  let second := Cut.half b.evId nowRel preNs first.1 (r.pre r.cur) (r.preLen r.cur)
  let preLost := r.n - second.1.kept
  let record : Trigger :=
    { marker := m, preMs := b.preMs, preKept := second.1.kept.setWidth 16, spinKeep := b.spinKeep,
      preLost := preLost, filtered := w.filtered }
  { w with
    preLost := preLost
    stream := w.stream ++ first.2 ++ second.2 ++ record.pack b.evId now
    seen := fun _ => false
    spins := fun _ => 0
    triggerUptimeMs := up
    triggered := true }

/-- A take of the guarded input arms the window. -/
def Window.arm (w : Window) (m : U16) (arg : U32) : Window :=
  if m = armMarker ∧ arg ≠ 0 then { w with armed := true } else w

def Window.opens (w : Window) (m : U16) : Bool :=
  (w.armed && m == triggerMarker) || (w.reopen && m == armMarker) ||
    m == BitVec.ofNat 16 nrosViolation

def Window.fires (w : Window) (m : U16) (arg : U32) : Bool := !w.triggered && (w.arm m arg).opens m

def Window.judge (b : Build) (w : Window) (ts up : U32) (m : U16) (arg : U32) : Window :=
  if !w.triggered then
    if (w.arm m arg).opens m then (w.arm m arg).fire b ts up m else w.arm m arg
  else w

/-- `island_trace_marker_windowed`, with what it puts into the ring. -/
def Window.markerWindowed (b : Build) (w : Window) (t : Nat) (up : U32) (m : U16) (arg : U32) :
    Option (Window × List Entry) :=
  let ts := tsAt t
  match (w.judge b ts up m arg).keep b m arg with
  | (false, w) => some ({ w with filtered := w.filtered + 1 }, [])
  | (true, w) =>
      if w.triggered then
        some ({ w with stream := w.stream ++ packMarker b.evId ts m arg }, [])
      else
        (w.ring.prePut b (packMarker b.evId ts m arg)).map fun ring =>
          ({ w with ring := ring }, [.marker t m arg])

/-- `island_trace_rearm_now`: the RAM backend's own init empties it. -/
def Window.rearmNow (b : Build) (w : Window) (ts up : U32) : Window :=
  { w with
    stream := packProvenance b.evId ts b.provenance
    ring := { w.ring with preLen := fun _ => 0, cur := false, n := 0 }
    seen := fun _ => false
    spins := fun _ => 0
    skip := fun _ => false
    armed := false
    reopen := true
    preLost := 0
    filtered := 0
    triggerUptimeMs := 0
    rearms := w.rearms + 1
    rearmUptimeMs := up
    triggered := false }

/-- `island_trace_heartbeat`, with what it puts into the ring. `rearm` is given
when a debugger has written `island_trace_rearm`: the instant and the uptime
that the re-arm reads for itself. -/
def Window.heartbeat (b : Build) (w : Window) (t : Nat) (up : U32) (rearm : Option (Nat × U32)) :
    Option (Window × List Entry) :=
  let ts := tsAt t
  let seq := w.hbSeq
  let w := { w with hbSeq := seq + 1, hbLastUptimeMs := up }
  let w := match rearm with
    | some (t', up') => w.rearmNow b (tsAt t') up'
    | none => w
  if !w.triggered then
    (w.ring.prePut b (packHeartbeat b.evId ts seq up)).map fun ring =>
      ({ w with ring := ring }, [.heartbeat t seq up])
  else
    some ({ w with stream := w.stream ++ packHeartbeat b.evId ts seq up }, [])

def Window.boot (b : Build) (t : Nat) : Window :=
  { ring := { pre := fun _ => List.replicate b.half 0 }
    stream := packProvenance b.evId (tsAt t) b.provenance }

/-- A marker or a heartbeat, at the instant its stamp is read. -/
inductive Window.Event where
  | marker (t : Nat) (up : U32) (m : U16) (arg : U32)
  | heartbeat (t : Nat) (up : U32) (rearm : Option (Nat × U32))

def Window.step (b : Build) (w : Window) : Window.Event → Option (Window × List Entry)
  | .marker t up m arg => w.markerWindowed b t up m arg
  | .heartbeat t up rearm => w.heartbeat b t up rearm

/-- The event re-arms the window before anything else. -/
def Window.Event.rearms : Window.Event → Bool
  | .heartbeat _ _ rearm => rearm.isSome
  | .marker .. => false

/-- The window, and the entries put into the ring since the last re-arm. -/
structure Recording where
  window : Window
  puts : List Entry := []

/-- One event; none when a write runs past a half. -/
def Recording.next (b : Build) (o : Option Recording) (e : Window.Event) : Option Recording :=
  o.bind fun o => (o.window.step b e).map fun s =>
    { window := s.1, puts := (if e.rearms then [] else o.puts) ++ s.2 }

def Recording.boot (b : Build) (t : Nat) : Recording := { window := Window.boot b t }

end SafetyIsland.Trace
