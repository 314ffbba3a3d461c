import SafetyIsland.Readout.Record

/-! The reader of the supervisor's record in `violations.py`: it counts the offsets
of every group itself and takes a group only where the record reaches that far.
What would raise is `none`. -/
namespace SafetyIsland.Readout
open LittleEndian StructImage

/-- A `dict` of words as it was filled: of two entries under one name the later
one is read. -/
abbrev Dict := List (String × Int)

def Dict.get (d : Dict) (name : String) : Option Int := d.reverse.lookup name

def supHeader : List String :=
  ["magic", "latched", "latch_cause", "latch_uptime_us", "wakes", "timer_expiries",
   "swt_started", "swt_timeout_ms", "swt_fires", "swt_fire_uptime_us", "swt_errors",
   "spins", "spin_gap_max_us", "spin_gap_max_at_ms", "gpio_errors", "routes", "hook_calls",
   "hook_last_rule"]

def supRoute : List String :=
  ["armed", "due_ms", "arms", "dones", "fired", "fire_due_ms", "fire_verdict_us"]

def supDirect : List String :=
  ["registered", "calls", "first_uptime_us", "handover", "handover_uptime_ms"]

def supDirectSlots : Nat := 2

def supTail : List String := ["standstill_met", "speed_mm_s", "speed_at_ms"]

def supPrio : List String :=
  ["prio_taken", "prio_plan_transport_lo", "prio_plan_transport_hi", "prio_plan_app_lo",
   "prio_plan_app_hi", "prio_plan_sched_task", "prio_plan_reaction", "prio_spin", "prio_reaction",
   "prio_threads"]

def supPrioThreads : Nat := 12

def supLate : List String :=
  ["watch_ok", "answered_at_expiry", "answered_first_due_ms", "answered_first_us",
   "later_take_at_expiry"]

def supLevels : List String :=
  ["levels", "level_count", "level_overflow", "checkin_mask", "feeds", "route_owner",
   "route_nros_level", "nros_level_count"]

def supLevel : List String := ["spins", "gap_max_us", "gap_max_at_ms", "prio", "route_foreign"]

def supLevelBytes : Nat := supLevel.length * 4 + 16 + 4

def supFloor : List String :=
  ["floor_stage", "floor_met", "floor_latches", "vehicle_fault", "vehicle_fault_uptime_ms",
   "vehicle_fault_speed_mm_s", "stale_at_due"]

def supFloorUnseen : List String := ["floor_unseen"]

def supResume : List String :=
  ["resume_periods"] ++
    (["resumed", "resume_uptime_ms", "resume_silent_ms", "alive_after_resume"].flatMap fun k =>
      (List.range supDirectSlots).map fun i => k ++ "_" ++ toString i) ++
    ["floor_waits", "brake_since_ms"]

def supResponse : List String :=
  ["response_within_ms", "response_drop_mm_s", "response_ref_mm_s", "response_met",
   "response_latches", "response_waits", "response_unref", "response_last_shed_mm_s",
   "vehicle_fault_route"]

structure LevelDict where
  words : Dict
  name : String
  nrosLevel : Int
  deriving DecidableEq

/-- The dictionary returned: its words, and the rows under `route`, `direct`,
`threads` and `level`. -/
structure Decoded where
  words : Dict
  route : List Dict := []
  direct : List Dict := []
  threads : Option (List (String × Int)) := none
  level : Option (List LevelDict) := none
  deriving DecidableEq

def signed (w : Nat) : Int := (BitVec.ofNat 32 w).toInt

/-- `decode("ascii", "replace")` of the bytes before the first NUL. -/
def asciiText (name : List Byte) : String :=
  String.ofList ((name.takeWhile (· ≠ 0)).map fun b =>
    if b < 128 then Char.ofNat b.toNat else Char.ofNat 0xFFFD)

variable (blob : List Byte)

/-- `n`, the whole words there are. -/
def wordCount : Nat := blob.length / 4

def dictAt (names : List String) (o : Nat) : Dict :=
  names.zip ((wordsAt blob o names.length).map Int.ofNat)

/-- Rows of words behind each other, each taken if it fits. -/
def rowDicts (names : List String) (off count : Nat) : List Dict :=
  ((List.range count).filter fun i =>
    off + i * names.length + names.length ≤ wordCount blob).map fun i =>
      dictAt blob names (off + i * names.length)

/-- Entry `i` of a table of bytes. -/
def entry (b size i : Nat) : List Byte := (blob.drop (b + i * size)).take size

def threadRow (e : List Byte) : String × Int := (asciiText (e.take 16), signed (word 4 16 e))

def levelRow (e : List Byte) : LevelDict where
  words := supLevel.zip
    [Int.ofNat (word 4 0 e), Int.ofNat (word 4 4 e), Int.ofNat (word 4 8 e), signed (word 4 12 e),
     Int.ofNat (word 4 16 e)]
  name := asciiText ((e.drop 20).take 16)
  nrosLevel := Int.ofNat (word 4 36 e)

/-- The loop over a table's entries, left at the first short one. -/
def entryRows {α : Type} (row : List Byte → α) (b size count : Nat) : List α :=
  ((List.range count).takeWhile fun i => ¬ (entry blob b size i).length < size).map fun i =>
    row (entry blob b size i)

namespace Decoded
variable (d : Decoded)

/-- A group of words, taken if it fits. -/
def update (names : List String) (o : Nat) : Decoded :=
  if o + names.length ≤ wordCount blob then { d with words := d.words ++ dictAt blob names o }
  else d

def decodeResponse (o8 : Nat) : Decoded :=
  if o8 + supRoute.length + supResponse.length ≤ wordCount blob then
    { d with
      route := d.route ++ [dictAt blob supRoute o8]
      words := d.words ++ dictAt blob supResponse (o8 + supRoute.length) }
  else d

def decodeFloor (o4 : Nat) : Decoded :=
  if o4 + supRoute.length + supFloor.length ≤ wordCount blob then
    let o5 := o4 + supRoute.length
    let o6 := o5 + supFloor.length
    let o7 := o6 + supFloorUnseen.length
    let o8 := o7 + supResume.length
    let floor : Decoded :=
      { d with
        route := d.route ++ [dictAt blob supRoute o4]
        words := d.words ++ dictAt blob supFloor o5 }
    ((floor.update blob supFloorUnseen o6).update blob supResume o7).decodeResponse blob o8
  else d

def decodeLevels (o3 : Nat) : Option Decoded :=
  if o3 + supLevels.length ≤ wordCount blob then do
    let words := d.words ++ dictAt blob supLevels o3
    let count ← Dict.get words "level_count"
    let levels ← Dict.get words "levels"
    let b := (o3 + supLevels.length) * 4
    let rows := entryRows blob levelRow b supLevelBytes (min count levels).toNat
    let o4 := o3 + supLevels.length + levels.toNat * supLevelBytes / 4
    return decodeFloor blob { d with words := words, level := some rows } o4
  else some d

/-- From the priority words on, which are signed. -/
def decodePrio (o : Nat) : Option Decoded :=
  if o + supPrio.length ≤ wordCount blob then do
    let words := d.words ++ supPrio.zip ((wordsAt blob o supPrio.length).map signed)
    let count ← Dict.get words "prio_threads"
    let b := (o + supPrio.length) * 4
    let rows := entryRows blob threadRow b 20 (min (max count 0) supPrioThreads).toNat
    let o2 := o + supPrio.length + supPrioThreads * 5
    let threads : Decoded := { d with words := words, threads := some rows }
    (threads.update blob supLate o2).decodeLevels blob (o2 + supLate.length)
  else some d

end Decoded

def supervisorDecode : Option Decoded :=
  let hdr := dictAt blob supHeader 0
  let routes := ((Dict.get hdr "routes").getD 0).toNat
  let off := supHeader.length + routes * supRoute.length
  let o := off + supDirectSlots * supDirect.length
  let head : Decoded :=
    { words := hdr
      route := rowDicts blob supRoute supHeader.length routes
      direct := rowDicts blob supDirect off supDirectSlots }
  (head.update blob supTail o).decodePrio blob (o + supTail.length)

def supervisorLayoutBytes (routes levels : Nat) : Nat :=
  (supHeader.length + routes * supRoute.length + supDirectSlots * supDirect.length +
    supTail.length + supPrio.length + supPrioThreads * 5 + supLate.length + supLevels.length +
    levels * supLevelBytes / 4 + supRoute.length + supFloor.length + supFloorUnseen.length +
    supResume.length + supRoute.length + supResponse.length) * 4

end SafetyIsland.Readout
