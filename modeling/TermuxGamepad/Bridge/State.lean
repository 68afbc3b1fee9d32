/-
  File:      TermuxGamepad/Bridge/State.lean
  Subject:   The bridge's static data (lorie_evdev_bridge.c) and what it does to the outside.

  `Bridge` holds the file's static variables under their names. Three things are added to them:

  * what the environment answers to system calls, consumed in call order: the outcomes of
    `send` (`sends`), the advance of CLOCK_MONOTONIC between readings (`ticks`) and the readings
    that stamp event records (`stamps`);
  * the history `log` of everything the process did that another process can see, with the
    marks the statements need (a message put into an output buffer, a call of `update_rumble`);
  * in each client record, the history of the connection that occupies it (`sent`,
    `queued`, `commands`).

  No branch of the code reads the histories. An accepted connection is named by a number that is
  never reused, where the kernel reuses descriptor numbers; `fd < 0` is `none`.
-/
import TermuxGamepad.Protocol
import TermuxGamepad.Lib.Frames
import TermuxGamepad.Lib.Slots

namespace TermuxGamepad

open Wire

/-- An accepted connection. -/
abbrev Conn := Nat

def maxClients : Nat := 16
def clientBufferSize : Nat := 16384

/-- `sizeof(client->control)`. -/
def controlBufferSize : Nat := 256

abbrev Slot := Fin maxClients

/-! ## 1. Clients -/

inductive ClientKind where
  | uninitialized
  | events
  | monitor
  deriving DecidableEq, Repr

/-- A message that goes into an output buffer as one unit. -/
inductive Message where
  | events (evs : List InputEvent)
  | descriptor (d : DeviceDescriptor)
  | hotplug (m : HotplugMessage)
  deriving DecidableEq

def Message.bytes : Message → List UInt8
  | .events evs => inputEventCodec.encAll evs
  | .descriptor d => deviceDescriptorCodec.enc d
  | .hotplug m => hotplugMessageCodec.enc m

/-- The socket side of a client record: `output[0..used)` and `control[0..control_used)` are the
    lists themselves. -/
structure Link where
  fd : Option Conn
  output : List UInt8
  control : List UInt8
  kind : ClientKind
  /-- The bytes `send` accepted on this connection. -/
  sent : List UInt8
  /-- The messages queued on this connection. -/
  queued : List Message
  /-- The commands handled on this connection, each with the descriptor of that moment. -/
  commands : List (ControlMessage × DeviceDescriptor)

/-- The rumble a client asks for. -/
structure Rumble where
  rumbleLow : UInt16
  rumbleHigh : UInt16
  rumbleExpiresMs : Nat
  deriving DecidableEq, Repr

structure Client extends Link, Rumble

/-- The socket side of a record after `close_client`. -/
def Link.free : Link :=
  { fd := none, output := [], control := [], kind := .uninitialized, sent := [], queued := [],
    commands := [] }

def Rumble.off : Rumble := { rumbleLow := 0, rumbleHigh := 0, rumbleExpiresMs := 0 }

/-- `rumble_low || rumble_high`. -/
def Rumble.on (r : Rumble) : Bool := r.rumbleLow != 0 || r.rumbleHigh != 0

/-- A record nobody occupies: after start-up and after `close_client`. -/
def Client.free : Client := { toLink := Link.free, toRumble := Rumble.off }

/-! ## 2. The controller state -/

structure GamepadState where
  axes : Fin 6 → Int
  buttons : BitVec 32
  hatX : Int
  hatY : Int

/-- After `memset(&state, 0, sizeof(state))`. -/
def GamepadState.zero : GamepadState := { axes := fun _ => 0, buttons := 0, hatX := 0, hatY := 0 }

/-! ## 3. The outside -/

/-- A LORIE-CONTROLLER request. -/
inductive LorieRequest where
  | queryVersion
  | queryCapabilities (deviceId : UInt16)
  | rumble (deviceId low high : UInt16) (durationMs : UInt32)
  | stopRumble (deviceId : UInt16)
  deriving DecidableEq, Repr

/-- One outcome of `send`: `sent n` accepts `n + 1` bytes, or all that is offered if that is
    less; `again` is EAGAIN or EWOULDBLOCK; `failed` is every other error (and a result of 0). -/
inductive SendResult where
  | sent (n : Nat)
  | intr
  | again
  | failed
  deriving DecidableEq, Repr

/-- What the bridge does, as seen from outside, and the marks. -/
inductive Out where
  | connected (c : Conn)
  | turnedAway (c : Conn)
  | queued (c : Conn) (m : Message)
  | overflow (c : Conn)
  | sent (c : Conn) (bs : List UInt8)
  | sendFailed (c : Conn)
  | recvEnded (c : Conn)
  | invalid (c : Conn)
  | hungUp (c : Conn)
  | closed (c : Conn)
  | request (time : Nat) (r : LorieRequest)
  | rumbleUpdated (time : Nat) (held : List Rumble)
  | added (deviceId : Int)
  | removed (deviceId : Int)
  deriving DecidableEq

structure Bridge where
  clients : Slot → Client
  state : GamepadState
  lorieControllerOpcode : Int
  lorieDeviceId : Int
  lorieCapabilities : UInt16
  activeRumbleLow : UInt16
  activeRumbleHigh : UInt16
  deviceDescriptor : DeviceDescriptor
  /-- The last reading of CLOCK_MONOTONIC, in milliseconds. -/
  now : Nat
  ticks : List Nat
  stamps : List Timeval
  sends : List SendResult
  /-- The connections `accept` has handed out so far. -/
  seen : List Conn
  log : List Out

/-- Start-up, with the opcode the negotiation left (-1 for a refused version). -/
def Bridge.init (opcode : Int) : Bridge :=
  { clients := fun _ => Client.free
    state := GamepadState.zero
    lorieControllerOpcode := opcode
    lorieDeviceId := -1
    lorieCapabilities := 0
    activeRumbleLow := 0
    activeRumbleHigh := 0
    deviceDescriptor :=
      { magic := deviceMagic, version := controlVersion, present := 0, capabilities := 0,
        inputMode := 0, vendorId := 0, productId := 0, deviceId := -1, name := nameField [] }
    now := 0
    ticks := []
    stamps := []
    sends := []
    seen := []
    log := [] }

namespace Bridge

def emit (b : Bridge) (o : Out) : Bridge := { b with log := b.log ++ [o] }

/-- Write the client record of a slot. -/
def setClient (b : Bridge) (i : Slot) (c : Client) : Bridge :=
  { b with clients := Function.update b.clients i c }

@[simp] theorem emit_log (b : Bridge) (o : Out) : (b.emit o).log = b.log ++ [o] := rfl

@[simp] theorem emit_clients (b : Bridge) (o : Out) : (b.emit o).clients = b.clients := rfl

@[simp] theorem setClient_log (b : Bridge) (i : Slot) (c : Client) :
    (b.setClient i c).log = b.log := rfl

@[simp] theorem setClient_self (b : Bridge) (i : Slot) (c : Client) :
    (b.setClient i c).clients i = c := Function.update_self ..

@[simp] theorem setClient_ne (b : Bridge) {i j : Slot} (h : j ≠ i) (c : Client) :
    (b.setClient i c).clients j = b.clients j := Function.update_of_ne h ..

/-- `monotonic_ms`. -/
def monotonicMs (b : Bridge) : Nat × Bridge :=
  let now := b.now + b.ticks.headD 0
  (now, { b with now := now, ticks := b.ticks.tail })

/-- `timestamp_event`: the reading it stores. -/
def timestamp (b : Bridge) : Timeval × Bridge :=
  (b.stamps.headD ⟨0, 0⟩, { b with stamps := b.stamps.tail })

end Bridge

end TermuxGamepad
