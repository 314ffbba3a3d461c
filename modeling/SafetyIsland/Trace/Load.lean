import Mathlib.Data.List.DropRight
import Mathlib.Data.List.Infix
import SafetyIsland.General.Framing
import SafetyIsland.Readout.Decoder
import SafetyIsland.Trace.Joins
import SafetyIsland.Trace.Record

/-! `load` of `island_trace.py`: a trace read back, from a raw buffer or behind
the header that `wrap` or the native_sim dump puts before it. -/
namespace SafetyIsland.Trace

open LittleEndian Framing

/-- A field of a CTF event: its name, its type, its array's length and the
bytes of an element. -/
structure Field where
  name : String
  type : String
  arr : Option Nat
  size : Nat
  deriving DecidableEq, Repr

def Field.length (f : Field) : Nat :=
  f.size * match f.arr with
    | some (n + 1) => n + 1
    | _ => 1

/-- What the metadata says of an event of the kernel. `load` puts a record's
fields beside its own entries: no field takes the place of another, nor of the
entries `off`, `t_ns` and `kind`, and no event is named as the island's own
records are. A field `id` takes the place of the entry. -/
structure Layout where
  name : String
  fields : List Field
  named : name ∉ ["marker", "heartbeat", "provenance", "trigger"]
  distinct : ("off" :: "t_ns" :: "kind" :: fields.map Field.name).Nodup

/-- What `parse_tsdl` returns. -/
structure Tsdl where
  idSize : Nat
  events : Nat → Option Layout

def Tsdl.base (d : Tsdl) : Nat := if d.idSize = 2 then 0x1E0 else 0xE0

/-- What `load` takes from outside the file: the names of `markers.json`, the
directory of the Zephyr trees, and the metadata at a path. -/
structure Setup where
  names : Nat → Option String
  store : String
  tsdl : String → Tsdl

def Setup.tsdlPath (u : Setup) (version : String) : String :=
  u.store ++ "/" ++ version ++ "/zephyr/subsys/tracing/ctf/tsdl/metadata"

inductive Value where
  | text (s : String)
  | int (v : Int)
  deriving DecidableEq, Repr

def ascii (raw : List Byte) : String :=
  String.ofList (raw.map fun b => if b < 128 then Char.ofNat b.toNat else Char.ofNat 0xFFFD)

def signedValue (raw : List Byte) : Int :=
  if 2 * value raw < 256 ^ raw.length then value raw else (value raw : Int) - 256 ^ raw.length

def fieldValue (type : String) (raw : List Byte) : Value :=
  if type = "ctf_bounded_string_t" then .text (ascii (raw.takeWhile (· ≠ 0)))
  else .int (if "int".toList.isPrefixOf type.toList then signedValue raw else value raw)

/-- What a record says besides its offset, its time and its id. -/
inductive Body where
  | marker (marker : U16) (name : String) (arg : U32)
  | heartbeat (seq uptimeMs : U32)
  | provenance (text : String)
  | trigger (name : String) (fields : Trigger)
  | event (name : String) (fields : List (String × Value))
  deriving DecidableEq, Repr

namespace Body

def kind : Body → String
  | marker .. => "marker"
  | heartbeat .. => "heartbeat"
  | provenance .. => "provenance"
  | trigger .. => "trigger"
  | event name _ => name

/-- A trace window's provenance: what follows it starts a new segment. -/
def opensSegment : Body → Bool
  | provenance text => decide ("window=trigger".toList <:+: text.toList)
  | _ => false

end Body

/-- A record's `id`, where its header has `eid`. -/
def Body.id (eid : Nat) : Body → Value
  | event _ fields => (fields.lookup "id").getD (.int eid)
  | _ => .int eid

/-- One of `tr.records`. -/
structure Record where
  off : Nat
  tNs : Int
  id : Value
  body : Body
  deriving DecidableEq, Repr

def Setup.nameOf (u : Setup) (mk : U16) : String :=
  (u.names mk.toNat).getD ("UNKNOWN_" ++ toString mk.toNat)

/-- The fields of an event, each from the bytes that are left for it. -/
def readFields : List Field → List Byte → List (String × Value)
  | [], _ => []
  | f :: fields, data =>
      (f.name, fieldValue f.type (data.take f.length)) :: readFields fields (data.drop f.length)

def fieldsLength : List Field → Nat
  | [] => 0
  | f :: fields => f.length + fieldsLength fields

/-- How a record's body reads: `struct.error`, an id in no table, or the body
and its length. -/
inductive BodyRead where
  | short
  | unknown
  | read (body : Body) (length : Nat)

/-- The body of a record of some id, from the bytes behind its header. -/
def readBody (u : Setup) (d : Tsdl) (id : Nat) (data : List Byte) : BodyRead :=
  if id = d.base then
    if data.length < 6 then .short
    else
      let mk := BitVec.ofNat 16 (word 2 0 data)
      .read (.marker mk (u.nameOf mk) (BitVec.ofNat 32 (word 4 2 data))) 6
  else if id = d.base + 1 then
    if data.length < 8 then .short
    else .read (.heartbeat (BitVec.ofNat 32 (word 4 0 data)) (BitVec.ofNat 32 (word 4 4 data))) 8
  else if id = d.base + 2 then
    if data.length < 2 then .short
    else .read (.provenance (ascii ((data.drop 2).take (word 2 0 data)))) (2 + word 2 0 data)
  else if id = d.base + 3 then
    if data.length < 16 then .short
    else
      let mk := BitVec.ofNat 16 (word 2 0 data)
      .read (.trigger (u.nameOf mk)
        { marker := mk, preMs := BitVec.ofNat 16 (word 2 2 data)
          preKept := BitVec.ofNat 16 (word 2 4 data), spinKeep := BitVec.ofNat 16 (word 2 6 data)
          preLost := BitVec.ofNat 32 (word 4 8 data)
          filtered := BitVec.ofNat 32 (word 4 12 data) }) 16
  else match d.events id with
    | some layout =>
        .read (.event layout.name (readFields layout.fields data)) (fieldsLength layout.fields)
    | none => .unknown

/-- The variables of the loop. -/
structure Reading where
  pos : Nat := 0
  prevTs : Option U32 := none
  ext : Int := 0
  segStart : Option Nat := none
  recs : List Record := []
  /-- A `Counter`. -/
  sizes : String → Nat := fun _ => 0

/-- A record's time: the signed modular difference to the stamp before it. -/
def Reading.time (s : Reading) (ts : U32) : Int :=
  match s.prevTs with
  | none => ts.toNat
  | some prev =>
      let d := (ts - prev).toNat
      s.ext + if 0x80000000 ≤ d then (d : Int) - 0x100000000 else d

/-- A record read, of `size` bytes. -/
def Reading.push (s : Reading) (ts : U32) (id : Nat) (body : Body) (size : Nat) : Reading where
  pos := s.pos + size
  prevTs := if body.opensSegment then none else some ts
  ext := s.time ts
  segStart := if body.opensSegment then some (s.recs.length + 1) else s.segStart
  recs := s.recs ++ [{ off := s.pos, tNs := s.time ts, id := body.id id, body := body }]
  sizes := Function.update s.sizes body.kind (s.sizes body.kind + size)

/-- What ends the loop but the end of the records. -/
inductive Fault where
  /-- A `struct.error`. -/
  | short
  /-- `tr.error` -/
  | unknown (text : String)
  deriving DecidableEq, Repr

def hex (n : Nat) : String := "0x" ++ String.ofList (Nat.toDigits 16 n)

def unknownId (id pos count : Nat) : String :=
  "unknown event id " ++ hex id ++ " at buffer offset " ++ toString pos ++ " (after " ++
    toString count ++ " records)"

/-- One turn of the loop; `data` is the buffer from `pos` on. -/
def Reading.front (u : Setup) (d : Tsdl) (s : Reading) (data : List Byte) : Front Reading Fault :=
  let ts := BitVec.ofNat 32 (word 4 0 data)
  let id := word d.idSize 4 data
  if data.length < 4 + d.idSize then .stop
  else if id = 0 then .stop
  else match readBody u d id (data.drop (4 + d.idSize)) with
    | .short => .fault .short
    | .unknown => .fault (.unknown (unknownId id s.pos s.recs.length))
    | .read body length =>
        .item (s.push ts id body (4 + d.idSize + length)) (4 + d.idSize + length)

/-- `round(n / 2**32)`: to the nearest, of two to the even one. -/
def roundTurns (n : Int) : Int :=
  let q := n / 2 ^ 32
  let r := n % 2 ^ 32
  if r < 2 ^ 31 ∨ r = 2 ^ 31 ∧ q % 2 = 0 then q else q + 1

def Record.heartbeat? (r : Record) : Option (Int × U32) :=
  match r.body with
  | .heartbeat _ up => some (r.tNs, up)
  | _ => none

def Record.shift (ns : Int) (r : Record) : Record := { r with tNs := r.tNs + ns }

/-- The last segment, anchored on the uptime of its first heartbeat. -/
def anchor (segStart : Option Nat) (recs : List Record) : List Record :=
  match segStart with
  | none => recs
  | some start =>
      match (recs.drop start).findSome? Record.heartbeat? with
      | none => recs
      | some (t, up) =>
          recs.take start ++
            (recs.drop start).map (Record.shift (roundTurns (up.toNat * 1000000 - t) * 2 ^ 32))

/-- A record as the joins read it. -/
def Record.toRec (r : Record) : Rec Int :=
  match r.body with
  | .marker m _ arg => .marker r.tNs m.toNat arg
  | _ => .other r.tNs

structure Header where
  zephyrVersion : Nat
  bufferSize : Nat
  heartbeatsEmitted : Nat
  heartbeatMs : Nat
  lastHeartbeatUptimeMs : Nat
  dumpedLen : Nat
  deriving DecidableEq, Repr

/-- A `Trace`. -/
structure Loaded where
  header : Option Header
  zephyr : String
  error : Option String
  records : List Record
  bytesByKind : String → Nat
  used : Nat
  violations : List (ViolationRow Int)
  takes : List (TakeRow Int)

/-- Why there is no trace: `sys.exit`, or a `struct.error`. -/
inductive Failure where
  | exit (message : String)
  | structError
  deriving DecidableEq, Repr

def magic : List Byte := [0x49, 0x53, 0x4C, 0x54, 0x52, 0x43, 0x30, 0x31]

/-- `f"{v >> 16}.{(v >> 8) & 0xff}"` -/
def versionText (v : Nat) : String := toString (v >>> 16) ++ "." ++ toString ((v >>> 8) &&& 0xFF)

/-- The seven words behind the header's length; the last is not used. -/
def headerAt (data : List Byte) : Header where
  zephyrVersion := word 4 12 data
  bufferSize := word 4 16 data
  heartbeatsEmitted := word 4 20 data
  heartbeatMs := word 4 24 data
  lastHeartbeatUptimeMs := word 4 28 data
  dumpedLen := word 4 32 data

/-- The header, the version and the buffer; an empty `zephyr` is none given. -/
def splitFile (data : List Byte) (zephyr : String) :
    Except Failure (Option Header × String × List Byte) :=
  if data.take 8 = magic then
    if data.length < 40 then .error .structError
    else
      let h := headerAt data
      .ok (some h, if zephyr = "" then versionText h.zephyrVersion else zephyr,
        (data.drop (word 4 8 data)).take h.dumpedLen)
  else if zephyr = "" then
    .error (.exit "island_trace: a raw buffer needs --zephyr <major.minor> (the board is 4.4)")
  else .ok (none, zephyr, data)

/-- The ids of the island's records that the metadata has as well. -/
def Tsdl.collisions (d : Tsdl) : List Nat :=
  [d.base, d.base + 1, d.base + 2, d.base + 3].filter fun e => (d.events e).isSome

/-- The zero bytes a dump trims may be a record's own. -/
def padding : List Byte := List.replicate 64 0

/-- The trace that the loop's variables come to. -/
def Reading.loaded (s : Reading) (header : Option Header) (zephyr : String)
    (error : Option String) : Loaded :=
  let recs := anchor s.segStart s.recs
  { header := header
    zephyr := zephyr
    error := error
    records := recs
    bytesByKind := s.sizes
    used := s.pos
    violations := joinViolations (recs.map Record.toRec)
    takes := joinTakes (recs.map Record.toRec) }

def loadBuffer (u : Setup) (d : Tsdl) (header : Option Header) (zephyr : String)
    (buf : List Byte) : Except Failure Loaded :=
  match Framing.read (Reading.front u d) {} (buf ++ padding) with
  | (_, some .short) => .error .structError
  | (s, some (.unknown text)) => .ok (s.loaded header zephyr (some text))
  | (s, none) => .ok (s.loaded header zephyr none)

def Setup.load (u : Setup) (data : List Byte) (zephyr : String) : Except Failure Loaded := do
  let (header, zephyr, buf) ← splitFile data zephyr
  let path := u.tsdlPath zephyr
  match (u.tsdl path).collisions with
  | e :: _ => .error (.exit ("island_trace: id " ++ hex e ++
      " collides with a Zephyr CTF event in " ++ path))
  | [] => loadBuffer u (u.tsdl path) header zephyr buf

/-- A buffer behind the header of nine words. -/
def fileOf (version size emitted hbMs uptimeMs : Nat) (kept : List Byte) : List Byte :=
  magic ++ [36, version, size, emitted, hbMs, uptimeMs, kept.length].flatMap (bytes 4) ++ kept

/-- A buffer up to its last byte that is not zero. -/
def trimmed (data : List Byte) : List Byte := data.rdropWhile (· == 0)

/-- `wrap`: a raw read, with what the debugger read beside it. A word that does
not fit its four bytes is a `struct.error`. -/
def wrap (data : List Byte) (major minor hbEmitted hbLastUptimeMs hbMs : Nat) :
    Except Failure (List Byte) :=
  let version := (major <<< 16) ||| (minor <<< 8)
  if [version, data.length, hbEmitted, hbMs, hbLastUptimeMs, (trimmed data).length].all
      (· < 2 ^ 32) then
    .ok (fileOf version data.length hbEmitted hbMs hbLastUptimeMs (trimmed data))
  else .error .structError

def dump (kernelVersion : U32) (ramTracing : List Byte) (hbSeq hbLastUptimeMs : U32) : List Byte :=
  fileOf kernelVersion.toNat ramTracing.length hbSeq.toNat 100 hbLastUptimeMs.toNat
    (trimmed ramTracing)

end SafetyIsland.Trace
