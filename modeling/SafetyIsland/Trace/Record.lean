import SafetyIsland.General.LittleEndian
import SafetyIsland.General.WrappingClock
import SafetyIsland.Trace.Sink

/-! The island's own records of the stream, byte by byte, for both widths of
the event id in Zephyr's CTF records. -/
namespace SafetyIsland.Trace

open LittleEndian WrappingClock

abbrev U16 := BitVec 16
abbrev U64 := BitVec 64

/-- `island_trace_evid_t`: one byte up to Zephyr 3, two from Zephyr 4 on. -/
inductive EvId where
  | u8 | u16
  deriving DecidableEq, Repr

namespace EvId

def size : EvId → Nat
  | u8 => 1
  | u16 => 2

def base : EvId → Nat
  | u8 => 0xE0
  | u16 => 0x1E0

def marker (e : EvId) : Nat := e.base
def heartbeat (e : EvId) : Nat := e.base + 1
def provenance (e : EvId) : Nat := e.base + 2
def trigger (e : EvId) : Nat := e.base + 3

def mkLen (e : EvId) : Nat := 4 + e.size + 2 + 4

def hbLen (e : EvId) : Nat := 4 + e.size + 2 * 4

/-- The island's four ids fit every build's event id. -/
theorem base_lt (e : EvId) : e.base + 3 < 256 ^ e.size := by
  cases e <;> decide

end EvId

/-- A CTF record starts with its stamp and its event id. -/
def header (e : EvId) (ts : U32) (id : Nat) : List Byte := bytes 4 ts.toNat ++ bytes e.size id

def packMarker (e : EvId) (ts : U32) (marker : U16) (arg : U32) : List Byte :=
  header e ts e.marker ++ bytes 2 marker.toNat ++ bytes 4 arg.toNat

/-- What `island_trace_put_heartbeat` writes and the heartbeat packs. -/
def packHeartbeat (e : EvId) (ts seq up : U32) : List Byte :=
  header e ts e.heartbeat ++ bytes 4 seq.toNat ++ bytes 4 up.toNat

def packProvenance (e : EvId) (ts : U32) (text : List Byte) : List Byte :=
  header e ts e.provenance ++ bytes 2 (BitVec.ofNat 16 text.length).toNat ++
    text.take (BitVec.ofNat 16 text.length).toNat

/-- The fields of a TRIGGER record. -/
structure Trigger where
  marker : U16
  preMs : U16
  preKept : U16
  spinKeep : U16
  preLost : U32
  filtered : U32
  deriving DecidableEq, Repr

def Trigger.pack (e : EvId) (now : U32) (f : Trigger) : List Byte :=
  header e now e.trigger ++
    (bytes 2 f.marker.toNat ++ bytes 2 f.preMs.toNat ++ bytes 2 f.preKept.toNat ++
      bytes 2 f.spinKeep.toNat) ++
    (bytes 4 f.preLost.toNat ++ bytes 4 f.filtered.toNat)

/-- The stamp of a record made at an instant in ns, `island_trace_ts`. -/
def tsAt (t : Nat) : U32 := stamp 32 t

/-- A record put into the ring, with the instant it is stamped at. -/
inductive Entry where
  | marker (t : Nat) (marker : U16) (arg : U32)
  | heartbeat (t : Nat) (seq up : U32)
  deriving DecidableEq, Repr

namespace Entry

def time : Entry → Nat
  | marker t .. => t
  | heartbeat t .. => t

def pack (e : EvId) : Entry → List Byte
  | marker t m arg => packMarker e (tsAt t) m arg
  | heartbeat t seq up => packHeartbeat e (tsAt t) seq up

def size (e : EvId) : Entry → Nat
  | marker .. => e.mkLen
  | heartbeat .. => e.hbLen

def id (e : EvId) : Entry → Nat
  | marker .. => e.marker
  | heartbeat .. => e.heartbeat

variable {e : EvId} {p : Entry}

@[simp] theorem length_pack : (p.pack e).length = p.size e := by
  cases p <;> simp [pack, size, packMarker, packHeartbeat, header, EvId.mkLen, EvId.hbLen] <;> omega

theorem size_ge : 11 ≤ p.size e := by
  cases p <;> cases e <;> simp [size, EvId.mkLen, EvId.hbLen, EvId.size]

theorem size_le : p.size e ≤ 14 := by
  cases p <;> cases e <;> simp [size, EvId.mkLen, EvId.hbLen, EvId.size]

/-- Every entry starts with its header. -/
theorem pack_header : ∃ fields, p.pack e = header e (tsAt p.time) (p.id e) ++ fields := by
  cases p with
  | marker => exact ⟨_, List.append_assoc _ _ _⟩
  | heartbeat => exact ⟨_, List.append_assoc _ _ _⟩

/-- An id fits its width. -/
theorem id_lt : p.id e < 256 ^ e.size := by
  have hBase := e.base_lt
  cases p with
  | marker =>
      show e.base < _
      omega
  | heartbeat =>
      show e.base + 1 < _
      omega

end Entry

section Header
variable {e : EvId} {ts : U32} {i : Nat} {rest : List Byte}

/-- The header's stamp is read back. -/
theorem word_header_ts : word 4 0 (header e ts i ++ rest) = ts.toNat := by
  rw [header, List.append_assoc, word_bytes_of_lt ts.isLt]

/-- And so is its id. -/
theorem word_header_id (h : i < 256 ^ e.size) : word e.size 4 (header e ts i ++ rest) = i := by
  rw [header, List.append_assoc, word_append (by rw [length_bytes]), length_bytes, Nat.sub_self,
    word_bytes_of_lt h]

end Header

end SafetyIsland.Trace
