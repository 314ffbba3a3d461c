import Mathlib.Logic.Function.Basic
import SafetyIsland.General.Preemption

/-! The trace sink of `island_trace.h` and what nano-ros calls it for: a take's
events, the callback's `island_trace_take_bind` and a violation's four events,
statement by statement, since the executor's levels preempt each other in
between. -/
namespace SafetyIsland.Trace

abbrev U8 := BitVec 8
abbrev U32 := BitVec 32

def nrosBase : Nat := 256

def nrosViolation : Nat := nrosBase + 21
def nrosViolationFqn : Nat := nrosBase + 22
def nrosViolationMeasured : Nat := nrosBase + 23
def nrosViolationDeclared : Nat := nrosBase + 24
def nrosTake : Nat := 281
def nrosTakeStampSec : Nat := 282
def nrosTakeStampNsec : Nat := 283

def joined (marker : Nat) : Bool :=
  nrosViolation ≤ marker && marker ≤ nrosTakeStampNsec

def takeInputs : U8 := 3

/-- A marker of the island's own, which the joins do not read. -/
structure OwnMarker where
  id : Nat
  arg : U32
  unread : joined id = false
  deriving DecidableEq, Repr

/-- One record of the stream, with what it carries beside its fields: its time,
or, where the model asks whose record it is, its writer. -/
inductive Rec (τ : Type*) where
  | marker (t : τ) (id : Nat) (arg : U32)
  /-- A heartbeat, provenance or trigger record, or an event of the kernel. -/
  | other (t : τ)
  deriving DecidableEq, Repr

/-- A sample that a subscription takes: nano-ros's argument (slot handle and
take sequence number) and its source stamp. -/
structure Sample where
  arg : U32
  sec : U32
  nsec : U32
  deriving DecidableEq, Repr

def Sample.slot (t : Sample) : U8 := (t.arg >>> 24).setWidth 8

/-- A stored contract violation: its four events' arguments, and the level
whose thread reports it. -/
structure Violation where
  level : Nat
  head : U32
  fqn : U32
  measured : U32
  declared : U32
  deriving DecidableEq, Repr

/-- How the island's subscriptions are registered: each slot is one
subscription, on one level, and each input's callback is one slot's. -/
structure Executor where
  /-- Slots in use; 0xFF is the sink's own mark for none. -/
  slots : Nat
  slots_lt : slots ≤ 255
  level : U8 → Nat
  /-- The input that the slot's callback binds, by `ISLAND_TRACE_TAKE_BIND`. -/
  input : U8 → Option U8
  input_lt : ∀ {slot i}, input slot = some i → i < takeInputs
  input_inj : ∀ {slot slot' i}, input slot = some i → input slot' = some i → slot = slot'
  /-- `ISLAND_TRACE_TAKE_KEEP_##input` -/
  keep : U8 → U8

/-- The next statement of a take. -/
inductive TakeAt where
  /-- `island_trace_last_take = slot` -/
  | lastTake
  /-- `island_trace_take_cur = 0xFF` -/
  | clearCur
  /-- `take_slot[i] != slot + 1` -/
  | seek (i : U8)
  /-- `take_n[i] = take_n[i] + 1` -/
  | count (i : U8)
  /-- `take_n[i] >= take_keep[i]` -/
  | due (i : U8)
  /-- `take_n[i] = 0` -/
  | restart (i : U8)
  /-- `island_trace_take_cur = i` -/
  | setCur (i : U8)
  /-- `ISLAND_TRACE(ISLAND_MK_NROS_TAKE, ..)` -/
  | putTake (i : U8)
  /-- nano-ros goes on with the stamp's two events, if the slot's is on. -/
  | stamped
  /-- `take_cur < TAKE_INPUTS`, of the second's event -/
  | secCur
  /-- `take_sec[take_cur] != arg` -/
  | secDiffers
  /-- `take_sec[take_cur] = arg` -/
  | secStore
  /-- `ISLAND_TRACE(ISLAND_MK_NROS_TAKE_STAMP_SEC, arg)` -/
  | putSec
  /-- `take_cur < TAKE_INPUTS`, of the nanosecond's event -/
  | nsecCur
  /-- `ISLAND_TRACE(ISLAND_MK_NROS_TAKE_STAMP_NSEC, arg)` -/
  | putNsec
  /-- `island_trace_take_cur = 0xFF` -/
  | clearStamped
  /-- `take_slot[input] != 0`, the callback's first call -/
  | bind
  /-- `last_take == 0xFF` -/
  | bindSeen
  /-- `take_keep[input] = keep ? keep : 1` -/
  | bindKeep
  /-- `take_n[input] = take_keep[input] - 1` -/
  | bindN
  /-- `take_sec[input] = 0xFFFFFFFF` -/
  | bindSec
  /-- `rclc_trace_set_take(last_take, true, ..)` -/
  | setTake
  /-- `take_slot[input] = last_take + 1` -/
  | bindSlot
  /-- The rest of the callback. -/
  | body
  deriving DecidableEq, Repr

/-- The next event of a violation. -/
inductive ViolationAt where
  | head | fqn | measured | declared
  deriving DecidableEq, Repr

/-- A thread at work for nano-ros, on a take or a violation, or on one record of
another kind: a marker of the island's own, or none. -/
inductive Frame where
  | take (t : Sample) (pos : TakeAt)
  | violation (v : Violation) (pos : ViolationAt)
  | other (level : Nat) (marker : Option OwnMarker)
  deriving DecidableEq, Repr

/-- Whose record it is. -/
inductive Writer where
  | take (t : Sample)
  | violation (v : Violation)
  | other
  deriving DecidableEq, Repr

/-- The sink's words. Arrays are indexed by the code's `uint8_t`; only the
first `takeInputs` entries are the code's own. -/
structure Sink where
  /-- `island_trace_take_slot`: the slot + 1, 0 while not bound. -/
  takeSlot : U8 → U8 := fun _ => 0
  takeKeep : U8 → U8 := fun _ => 0
  takeN : U8 → U8 := fun _ => 0
  takeSec : U8 → U32 := fun _ => 0
  /-- The slot of the last take. -/
  lastTake : U8 := 0xFF
  /-- The input whose stamp follows. -/
  takeCur : U8 := 0xFF
  /-- nano-ros: the slots whose takes carry their stamp. -/
  stampOn : U8 → Bool := fun _ => false

/-- `((uint32_t)i << 24) | (arg & 0x00FFFFFF)` -/
def takeArg (i : U8) (t : Sample) : U32 :=
  i.setWidth 32 <<< 24 ||| t.arg &&& 0x00FFFFFF

/-- The input's index in such an argument. -/
def inputOf (arg : U32) : U8 := (arg >>> 24).setWidth 8

/-- One `ISLAND_TRACE` call. It writes under the interrupt lock. -/
def put (writer : Writer) (marker : Nat) (arg : U32) : List (Rec Writer) :=
  [.marker writer marker arg]

variable (ex : Executor)

def execTake (s : Sink) (t : Sample) : TakeAt → Sink × List (Rec Writer) × Option TakeAt
  | .lastTake => ({ s with lastTake := t.slot }, [], some .clearCur)
  | .clearCur => ({ s with takeCur := 0xFF }, [], some (.seek 0))
  | .seek i =>
      if i < takeInputs then
        if s.takeSlot i ≠ t.slot + 1 then (s, [], some (.seek (i + 1))) else (s, [], some (.count i))
      else (s, [], some .stamped)
  | .count i =>
      ({ s with takeN := Function.update s.takeN i (s.takeN i + 1) }, [], some (.due i))
  | .due i => (s, [], some (if s.takeKeep i ≤ s.takeN i then .restart i else .stamped))
  | .restart i => ({ s with takeN := Function.update s.takeN i 0 }, [], some (.setCur i))
  | .setCur i => ({ s with takeCur := i }, [], some (.putTake i))
  | .putTake i => (s, put (.take t) nrosTake (takeArg i t), some .stamped)
  | .stamped => (s, [], some (if s.stampOn t.slot then .secCur else .bind))
  | .secCur => (s, [], some (if s.takeCur < takeInputs then .secDiffers else .nsecCur))
  | .secDiffers => (s, [], some (if s.takeSec s.takeCur ≠ t.sec then .secStore else .nsecCur))
  | .secStore =>
      ({ s with takeSec := Function.update s.takeSec s.takeCur t.sec }, [], some .putSec)
  | .putSec => (s, put (.take t) nrosTakeStampSec t.sec, some .nsecCur)
  | .nsecCur => (s, [], some (if s.takeCur < takeInputs then .putNsec else .clearStamped))
  | .putNsec => (s, put (.take t) nrosTakeStampNsec t.nsec, some .clearStamped)
  | .clearStamped => ({ s with takeCur := 0xFF }, [], some .bind)
  | .bind =>
      match ex.input t.slot with
      | none => (s, [], some .body)
      | some i => (s, [], some (if s.takeSlot i ≠ 0 then .body else .bindSeen))
  | .bindSeen => (s, [], some (if s.lastTake = 0xFF then .body else .bindKeep))
  | .bindKeep =>
      match ex.input t.slot with
      | none => (s, [], some .body)
      | some i =>
          let keep := if ex.keep i ≠ 0 then ex.keep i else 1
          ({ s with takeKeep := Function.update s.takeKeep i keep }, [], some .bindN)
  | .bindN =>
      match ex.input t.slot with
      | none => (s, [], some .body)
      | some i =>
          ({ s with takeN := Function.update s.takeN i (s.takeKeep i - 1) }, [], some .bindSec)
  | .bindSec =>
      match ex.input t.slot with
      | none => (s, [], some .body)
      | some i =>
          ({ s with takeSec := Function.update s.takeSec i 0xFFFFFFFF }, [], some .setTake)
  | .setTake =>
      ({ s with stampOn := Function.update s.stampOn s.lastTake true }, [], some .bindSlot)
  | .bindSlot =>
      match ex.input t.slot with
      | none => (s, [], some .body)
      | some i =>
          ({ s with takeSlot := Function.update s.takeSlot i (s.lastTake + 1) }, [], some .body)
  | .body => (s, [], none)

def execViolation (v : Violation) : ViolationAt → List (Rec Writer) × Option ViolationAt
  | .head => (put (.violation v) nrosViolation v.head, some .fqn)
  | .fqn => (put (.violation v) nrosViolationFqn v.fqn, some .measured)
  | .measured => (put (.violation v) nrosViolationMeasured v.measured, some .declared)
  | .declared => (put (.violation v) nrosViolationDeclared v.declared, none)

def otherRec : Option OwnMarker → Rec Writer
  | some m => .marker .other m.id m.arg
  | none => .other .other

def Frame.level : Frame → Nat
  | .take t _ => ex.level t.slot
  | .violation v _ => v.level
  | .other level _ => level

def exec (s : Sink) : Frame → Sink × List (Rec Writer) × Option Frame
  | .take t pos =>
      ((execTake ex s t pos).1, (execTake ex s t pos).2.1,
        (execTake ex s t pos).2.2.map (Frame.take t))
  | .violation v pos => (s, (execViolation v pos).1, (execViolation v pos).2.map (Frame.violation v))
  | .other _ m => (s, [otherRec m], none)

def levels : Preemption.Machine Sink Frame (Rec Writer) where
  level := Frame.level ex
  exec := exec ex
  exec_level s f f' h := by
    cases f with
    | take t pos =>
        obtain ⟨pos', -, rfl⟩ := Option.map_eq_some_iff.mp h
        rfl
    | violation v pos =>
        obtain ⟨pos', -, rfl⟩ := Option.map_eq_some_iff.mp h
        rfl
    | other level r => exact absurd h (by simp [exec])

abbrev World := Preemption.World Sink Frame (Rec Writer)
abbrev Event := Preemption.Event Frame

def World.boot : World := { shared := {} }

def World.step (w : World) (e : Event) : World := (levels ex).next w e

/-- A thread begins at its first event, a take with that of a registered
slot. -/
def Frame.Begins : Frame → Prop
  | .take t pos => pos = .lastTake ∧ t.slot.toNat < ex.slots
  | .violation _ pos => pos = .head
  | .other .. => True

instance (f : Frame) : Decidable (f.Begins ex) :=
  match f with
  | .take .. | .violation .. => by
      unfold Frame.Begins
      infer_instance
  | .other .. => isTrue trivial

section Writes
variable {ex} {s : Sink} {t : Sample} {pos : TakeAt}

/-- Only the bind's last statement binds an input. -/
theorem execTake_takeSlot (hPos : pos ≠ .bindSlot) :
    (execTake ex s t pos).1.takeSlot = s.takeSlot := by
  cases pos with
  | bindSlot => exact absurd rfl hPos
  | seek i =>
      simp only [execTake]
      split_ifs <;> rfl
  | bind | bindKeep | bindN | bindSec =>
      simp only [execTake]
      split <;> rfl
  | _ => rfl

/-- Only a take's first notes its slot. -/
theorem execTake_lastTake (hPos : pos ≠ .lastTake) :
    (execTake ex s t pos).1.lastTake = s.lastTake := by
  cases pos with
  | lastTake => exact absurd rfl hPos
  | seek i =>
      simp only [execTake]
      split_ifs <;> rfl
  | bind | bindKeep | bindN | bindSec | bindSlot =>
      simp only [execTake]
      split <;> rfl
  | _ => rfl

/-- Only the bind turns a stamp on. -/
theorem execTake_stampOn (hPos : pos ≠ .setTake) :
    (execTake ex s t pos).1.stampOn = s.stampOn := by
  cases pos with
  | setTake => exact absurd rfl hPos
  | seek i =>
      simp only [execTake]
      split_ifs <;> rfl
  | bind | bindKeep | bindN | bindSec | bindSlot =>
      simp only [execTake]
      split <;> rfl
  | _ => rfl

/-- Only two statements write the second kept. -/
theorem execTake_takeSec (hStore : pos ≠ .secStore) (hBind : pos ≠ .bindSec) :
    (execTake ex s t pos).1.takeSec = s.takeSec := by
  cases pos with
  | secStore => exact absurd rfl hStore
  | bindSec => exact absurd rfl hBind
  | seek i =>
      simp only [execTake]
      split_ifs <;> rfl
  | bind | bindKeep | bindN | bindSlot =>
      simp only [execTake]
      split <;> rfl
  | _ => rfl

def TakeAt.puts : TakeAt → Bool
  | .putTake _ | .putSec | .putNsec => true
  | _ => false

/-- The others write no record. -/
theorem execTake_silent (hPos : pos.puts = false) : (execTake ex s t pos).2.1 = [] := by
  cases pos with
  | putTake | putSec | putNsec => exact absurd hPos (by simp [TakeAt.puts])
  | seek i =>
      simp only [execTake]
      split_ifs <;> rfl
  | bind | bindKeep | bindN | bindSec | bindSlot =>
      simp only [execTake]
      split <;> rfl
  | _ => rfl

/-- A stamp once on stays on. -/
theorem execTake_stampOn_mono {slot : U8} (hOn : s.stampOn slot = true) :
    (execTake ex s t pos).1.stampOn slot = true := by
  by_cases hPos : pos = .setTake
  · subst hPos
    show Function.update s.stampOn s.lastTake true slot = true
    by_cases hSame : slot = s.lastTake
    · rw [hSame, Function.update_self]
    · rw [Function.update_of_ne hSame, hOn]
  · rw [execTake_stampOn hPos, hOn]

/-- Which statement may follow which. -/
inductive Follows : TakeAt → TakeAt → Prop where
  | lastTake : Follows .lastTake .clearCur
  | clearCur : Follows .clearCur (.seek 0)
  | seekOn (i : U8) : Follows (.seek i) (.seek (i + 1))
  | found (i : U8) : Follows (.seek i) (.count i)
  | unbound (i : U8) : Follows (.seek i) .stamped
  | count (i : U8) : Follows (.count i) (.due i)
  | due (i : U8) : Follows (.due i) (.restart i)
  | thinned (i : U8) : Follows (.due i) .stamped
  | restart (i : U8) : Follows (.restart i) (.setCur i)
  | setCur (i : U8) : Follows (.setCur i) (.putTake i)
  | putTake (i : U8) : Follows (.putTake i) .stamped
  | stamped : Follows .stamped .secCur
  | unstamped : Follows .stamped .bind
  | secCur : Follows .secCur .secDiffers
  | noSec : Follows .secCur .nsecCur
  | secDiffers : Follows .secDiffers .secStore
  | secSame : Follows .secDiffers .nsecCur
  | secStore : Follows .secStore .putSec
  | putSec : Follows .putSec .nsecCur
  | nsecCur : Follows .nsecCur .putNsec
  | noNsec : Follows .nsecCur .clearStamped
  | putNsec : Follows .putNsec .clearStamped
  | clearStamped : Follows .clearStamped .bind
  | bind : Follows .bind .bindSeen
  | bound : Follows .bind .body
  | bindSeen : Follows .bindSeen .bindKeep
  | unseen : Follows .bindSeen .body
  | bindKeep : Follows .bindKeep .bindN
  | bindN : Follows .bindN .bindSec
  | bindSec : Follows .bindSec .setTake
  | setTake : Follows .setTake .bindSlot
  | bindSlot : Follows .bindSlot .body
  | noKeep : Follows .bindKeep .body
  | noN : Follows .bindN .body
  | noStamp : Follows .bindSec .body

/-- Which statement is next. -/
theorem execTake_follows {pos' : TakeAt} (hNext : (execTake ex s t pos).2.2 = some pos') :
    Follows pos pos' := by
  cases pos with
  | seek i =>
      simp only [execTake] at hNext
      split_ifs at hNext <;> obtain rfl := Option.some.inj hNext <;> constructor
  | bind =>
      simp only [execTake] at hNext
      split at hNext <;> obtain rfl := Option.some.inj hNext
      · constructor
      · split_ifs <;> constructor
  | bindKeep | bindN | bindSec | bindSlot =>
      simp only [execTake] at hNext
      split at hNext <;> obtain rfl := Option.some.inj hNext <;> constructor
  | due | stamped | secCur | secDiffers | nsecCur | bindSeen =>
      obtain rfl := Option.some.inj hNext
      split_ifs <;> constructor
  | body => exact absurd hNext (by simp [execTake])
  | _ =>
      obtain rfl := Option.some.inj hNext
      constructor

theorem execTake_bindSlot {i : U8} (hInput : ex.input t.slot = some i) :
    (execTake ex s t .bindSlot).1 =
      { s with takeSlot := Function.update s.takeSlot i (s.lastTake + 1) } := by
  simp [execTake, hInput]

end Writes

end SafetyIsland.Trace
