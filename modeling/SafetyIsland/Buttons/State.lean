import SafetyIsland.General.Reaches
import SafetyIsland.General.RingLog
import SafetyIsland.General.Debounce

/-! The visitor's buttons (`island_buttons.c`): the record a debugger reads,
and the update the handler's tick makes to it. An event is a tick with what it
finds, or the debugger's write. -/
namespace SafetyIsland.Buttons

abbrev U32 := BitVec 32

def magic : U32 := 0x534e5442

abbrev RingNo := Fin 8

def mrmNormal : U32 := 1

def bit (n : Nat) : U32 := 1#32 <<< n

inductive Button where
  | sw1
  | sw2
  deriving DecidableEq, Repr

/-- The button's number in the words of the record. -/
def Button.no : Button → Nat
  | .sw1 => 0
  | .sw2 => 1

/-- `WHY_*`: why a press was ignored. -/
inductive Why where
  | accepted
  | notRunning
  | noTakeover
  | notNormal
  deriving DecidableEq, Repr

def Why.code : Why → U32
  | .accepted => 0
  | .notRunning => 1
  | .noTakeover => 2
  | .notNormal => 3

structure Press where
  uptimeMs : U32 := 0
  code : U32 := 0
  deriving DecidableEq, Repr

structure Record where
  magic : U32 := 0
  ticks : U32 := 0
  level : U32 := 0
  debounced : U32 := 0
  presses : U32 := 0
  accepted : Button → U32 := fun _ => 0
  ignored : Button → U32 := fun _ => 0
  inject : Button → U32 := fun _ => 0
  gpioErrors : U32 := 0
  ring : RingNo → Press := fun _ => {}

/-- The record and `last_sample`. -/
structure State where
  record : Record := {}
  lastSample : U32 := 0

/-- `struct gpio_dt_spec`, as far as `pin_read` reads it. -/
structure Pin where
  pin : Nat
  activeLow : Bool
  deriving DecidableEq, Repr

/-- A call of `island_buttons_update`: its arguments, what the driver reads of
each button's port (`none` when the read fails) and the uptime a press of the
button is noted at. -/
structure Tick where
  run : U32
  state : U32
  behavior : U32
  takeover : U32
  port : Button → Option U32
  uptimeMs : Button → U32

/-- `pin_read`. A failed read is a released button. -/
def pinRead (spec : Pin) : Option U32 → Bool
  | none => false
  | some v =>
      let high := v &&& bit spec.pin != 0
      if spec.activeLow then !high else high

/-- What the loop over the pins keeps. -/
structure Sampling where
  record : Record
  level : U32 := 0
  sample : U32 := 0

/-- `pin_read`'s count of a failed read. -/
def Record.noteRead (port : Option U32) (r : Record) : Record :=
  if port.isNone then { r with gpioErrors := r.gpioErrors + 1 } else r

/-- The injected ticks of a button, one fewer. -/
def Record.countDown (b : Button) (r : Record) : Record :=
  if r.inject b ≠ 0 then { r with inject := Function.update r.inject b (r.inject b - 1) } else r

/-- One turn of the loop over the pins. -/
def sampleButton (btn : Button → Pin) (t : Tick) (x : Sampling) (b : Button) : Sampling :=
  let inj := x.record.inject b
  let pin := pinRead (btn b) (t.port b)
  let level := if inj ≠ 0 then x.level ||| bit (16 + b.no) else x.level
  { record := (x.record.noteRead (t.port b)).countDown b
    level := if pin then level ||| bit (8 + b.no) else level
    sample := if pin || inj != 0 then x.sample ||| bit b.no else x.sample }

def sampleBoth (btn : Button → Pin) (t : Tick) (s : State) : Sampling :=
  sampleButton btn t (sampleButton btn t { record := s.record } .sw1) .sw2

/-- Where two ticks agree the level is theirs, elsewhere it stays. -/
def debounce (last prev sample : U32) : U32 :=
  let stable := ~~~(sample ^^^ last) &&& 3
  (prev &&& ~~~stable) ||| (sample &&& stable)

/-- The tick counted, and its levels put in the record. -/
def Sampling.settle (now : U32) (x : Sampling) : Record :=
  { x.record with
    ticks := x.record.ticks + 1
    level := x.level ||| x.sample
    debounced := now }

/-- What becomes of a press of the button at this tick. -/
def Tick.why (t : Tick) (b : Button) : Why :=
  if t.run = 0 then .notRunning
  else
    match b with
    | .sw1 => if t.takeover ≠ 0 then .accepted else .noTakeover
    | .sw2 => if t.state = mrmNormal then .accepted else .notNormal

/-- The entry of a press of the button at this tick. -/
def Tick.press (t : Tick) (b : Button) : Press where
  uptimeMs := t.uptimeMs b
  code := BitVec.ofNat 32 (b.no + 1) <<< 24 ||| (t.why b).code <<< 16 |||
    (t.state &&& 0xff) <<< 8 ||| (t.behavior &&& 0xff)

/-- A press goes to the ring, to its count and last to the number of presses. -/
def Record.notePress (t : Tick) (b : Button) (r : Record) : Record :=
  let n := r.presses
  let r := { r with ring := Function.update r.ring (RingLog.slot 8 n.toNat) (t.press b) }
  let r :=
    if t.why b = .accepted then
      { r with accepted := Function.update r.accepted b (r.accepted b + 1) }
    else { r with ignored := Function.update r.ignored b (r.ignored b + 1) }
  { r with presses := n + 1 }

/-- A press the record notes: the button, and the tick that saw it. -/
structure Noted where
  button : Button
  tick : Tick

def Noted.press (e : Noted) : Press := e.tick.press e.button

/-- One turn of the loop over the edges. -/
def noteEdge (t : Tick) (prev now : U32) (x : Record × List Noted) (b : Button) :
    Record × List Noted :=
  if now &&& ~~~prev &&& bit b.no = 0 then x else (x.1.notePress t b, x.2 ++ [⟨b, t⟩])

/-- `island_buttons_update`, and the presses it notes. -/
def update (btn : Button → Pin) (t : Tick) (s : State) : State × List Noted :=
  if s.record.magic ≠ magic then (s, [])
  else
    let x := sampleBoth btn t s
    let prev := x.record.debounced
    let now := debounce s.lastSample prev x.sample
    let y := noteEdge t prev now (noteEdge t prev now (x.settle now, []) .sw1) .sw2
    ({ record := y.1, lastSample := x.sample }, y.2)

/-- `island_buttons_init`, from what each pin's configuration came to. -/
def init (ready : Button → Bool) : State where
  record :=
    { magic := magic
      gpioErrors := BitVec.ofNat 32 ((!ready .sw1).toNat + (!ready .sw2).toNat) }

inductive Event where
  /-- The handler's tick. -/
  | tick (t : Tick)
  /-- A debugger writes `inject[b]`. -/
  | inject (b : Button) (ticks : U32)

section Machine
variable (btn : Button → Pin)

def next (s : State) : Event → State
  | .tick t => (update btn t s).1
  | .inject b ticks =>
      { s with record := { s.record with inject := Function.update s.record.inject b ticks } }

def noted (s : State) : Event → List Noted
  | .tick t => (update btn t s).2
  | .inject .. => []

/-- The level a tick samples of a button: its pin, or its injection. -/
def sampled (t : Tick) (s : State) (b : Button) : Bool :=
  pinRead (btn b) (t.port b) || s.record.inject b != 0

/-- The level an event samples of a button, if it samples. -/
def reading (b : Button) (s : State) : Event → List Bool
  | .tick t => [sampled btn t s b]
  | .inject .. => []

variable (ready : Button → Bool)

def run (events : List Event) : State := Transition.follow (next btn) (init ready) events

/-- Every press a run has noted, oldest first. -/
def recorded (events : List Event) : List Noted :=
  Transition.emitAlong (next btn) (noted btn) (init ready) events

/-- What a run has sampled of a button. -/
def readings (b : Button) (events : List Event) : List Bool :=
  Transition.emitAlong (next btn) (reading btn b) (init ready) events

end Machine

end SafetyIsland.Buttons
