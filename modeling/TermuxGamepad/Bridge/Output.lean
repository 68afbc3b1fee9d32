/-
  File:      TermuxGamepad/Bridge/Output.lean
  Subject:   What the bridge sends: rumble requests to the X server, bytes to its clients
             (lorie_evdev_bridge.c, lines 105-175 and 239-342).

  `updateRumble` comes first: `closeClient` re-arbitrates when the closed client held rumble,
  and every failed queueing closes. Results are Booleans, `true` for 0 and `false` for -1.
-/
import TermuxGamepad.Bridge.State

namespace TermuxGamepad

open Wire

/-- `LORIE_CONTROLLER_CAP_RUMBLE`. -/
def lorieCapRumble : UInt16 := 1

/-- `(CARD16)`. -/
def card16 (i : Int) : UInt16 := UInt16.ofNat (i % 65536).toNat

namespace Bridge

/-! ## 1. Rumble -/

/-- The guard of `send_lorie_rumble`: `x_display` is set in the whole main loop. -/
def canRumble (b : Bridge) : Bool :=
  !(decide (b.lorieControllerOpcode < 0) || decide (b.lorieDeviceId < 0) ||
    b.lorieCapabilities &&& lorieCapRumble == 0)

/-- `send_lorie_rumble`. Every caller ignores its result. -/
def sendLorieRumble (b : Bridge) (low high : UInt16) (durationMs : UInt32) : Bridge :=
  if !b.canRumble then b
  else if low == 0 && high == 0 then
    b.emit (.request b.now (.stopRumble (card16 b.lorieDeviceId)))
  else
    b.emit (.request b.now (.rumble (card16 b.lorieDeviceId) low high durationMs))

/-- The locals of `update_rumble`'s loop, with the table it clears expired rumble in. -/
structure RumbleScan where
  clients : Slot → Client
  low : UInt16
  high : UInt16
  longestRemaining : Nat

/-- The loop body of `update_rumble`. -/
def scanRumble (now : Nat) (s : RumbleScan) (i : Slot) : RumbleScan :=
  let c := s.clients i
  if c.fd.isNone || !c.toRumble.on then s
  else if c.rumbleExpiresMs ≤ now then
    { s with clients := Function.update s.clients i { c with toRumble := Rumble.off } }
  else
    let remaining := c.rumbleExpiresMs - now
    { s with
      low := if c.rumbleLow > s.low then c.rumbleLow else s.low
      high := if c.rumbleHigh > s.high then c.rumbleHigh else s.high
      longestRemaining := if remaining > s.longestRemaining then remaining else s.longestRemaining }

/-- The rumble the connected clients hold: what a call of `update_rumble` looks at. -/
def held (b : Bridge) : List Rumble :=
  (List.finRange maxClients).filterMap fun i =>
    if (b.clients i).fd.isNone then none else some (b.clients i).toRumble

/-- The duration `update_rumble` passes on: at least 1, cut to 32 bits. -/
def rumbleDuration (longestRemaining : Nat) : UInt32 :=
  let duration := if longestRemaining > 0xffffffff then 0xffffffff else longestRemaining
  if duration = 0 then 1 else UInt32.ofNat duration

/-- The loop of `update_rumble`. -/
def scanClients (b : Bridge) (now : Nat) : RumbleScan :=
  sweep maxClients (scanRumble now)
    { clients := b.clients, low := 0, high := 0, longestRemaining := 0 }

/-- The decision of `update_rumble`: stop, request, or leave the motors as they are. -/
def decideRumble (b : Bridge) (s : RumbleScan) (force : Bool) : Bridge :=
  if s.low == 0 && s.high == 0 then
    if b.activeRumbleLow != 0 || b.activeRumbleHigh != 0 then b.sendLorieRumble 0 0 0 else b
  else if force || s.low != b.activeRumbleLow || s.high != b.activeRumbleHigh then
    b.sendLorieRumble s.low s.high (rumbleDuration s.longestRemaining)
  else b

/-- `update_rumble`. -/
def updateRumble (b : Bridge) (force : Bool) : Bridge :=
  let now := b.monotonicMs.1
  let b := b.monotonicMs.2
  let s := b.scanClients now
  let decided := { b with clients := s.clients }.decideRumble s force
  { decided with activeRumbleLow := s.low, activeRumbleHigh := s.high }.emit
    (.rumbleUpdated now b.held)

/-! ## 2. Closing, flushing, queueing -/

/-- An observable event of the connection in a slot. -/
def emitFor (b : Bridge) (i : Slot) (o : Conn → Out) : Bridge :=
  match (b.clients i).fd with
  | some c => b.emit (o c)
  | none => b

/-- `close_client`. -/
def closeClient (b : Bridge) (i : Slot) : Bridge :=
  let hadRumble := (b.clients i).toRumble.on
  let b := (b.emitFor i .closed).setClient i Client.free
  if hadRumble then b.updateRumble true else b

/-- How the send loop of `flush_client` ended: the bytes left, the bytes accepted, the outcomes
    not yet used, and the result. -/
structure Flushed where
  output : List UInt8
  accepted : List UInt8
  sends : List SendResult
  ok : Bool

/-- The send loop of `flush_client`. Where the list of outcomes ends, `send` would block. -/
def flushLoop : List SendResult → List UInt8 → List UInt8 → Flushed
  | sends, [], acc => ⟨[], acc, sends, true⟩
  | [], output, acc => ⟨output, acc, [], true⟩
  | .sent n :: sends, output, acc => flushLoop sends (output.drop (n + 1)) (acc ++ output.take (n + 1))
  | .intr :: sends, output, acc => flushLoop sends output acc
  | .again :: sends, output, acc => ⟨output, acc, sends, true⟩
  | .failed :: sends, output, acc => ⟨output, acc, sends, false⟩

/-- `flush_client`. On a free record `used` is 0 and nothing is sent. -/
def flushClient (b : Bridge) (i : Slot) : Bridge × Bool :=
  let c := b.clients i
  match c.fd with
  | none => (b, true)
  | some conn =>
    let r := flushLoop b.sends c.output []
    let b := { b with sends := r.sends }
    let b := b.setClient i { c with output := r.output, sent := c.sent ++ r.accepted }
    let b := b.emit (.sent conn r.accepted)
    if r.ok then (b, true) else (b.emit (.sendFailed conn), false)

/-- `queue_bytes`. Called for connected clients only. -/
def queueBytes (b : Bridge) (i : Slot) (m : Message) : Bridge × Bool :=
  let c := b.clients i
  match c.fd with
  | none => (b, false)
  | some conn =>
    if m.bytes.length > clientBufferSize - c.output.length then
      -- a stalled consumer must not add latency for the other clients
      (b.emit (.overflow conn), false)
    else
      let b := b.setClient i { c with output := c.output ++ m.bytes, queued := c.queued ++ [m] }
      (b.emit (.queued conn m)).flushClient i

/-- Queue a message for a client, which is closed if that fails. -/
def queueOrClose (b : Bridge) (i : Slot) (m : Message) : Bridge :=
  let r := b.queueBytes i m
  if r.2 then r.1 else r.1.closeClient i

/-! ## 3. Broadcasts -/

/-- The two broadcast loops: the message goes to every connected client of a kind. -/
def broadcast (b : Bridge) (kind : ClientKind) (m : Message) : Bridge :=
  sweep maxClients (fun b i =>
    if (b.clients i).fd.isSome && (b.clients i).kind == kind then b.queueOrClose i m else b) b

/-- `broadcast_events`. -/
def broadcastEvents (b : Bridge) (events : List InputEvent) : Bridge :=
  b.broadcast .events (.events events)

/-- The message `broadcast_hotplug` builds. -/
def hotplugMessage (b : Bridge) (action : UInt8) : HotplugMessage :=
  { magic := hotplugMagic, version := controlVersion, action := action,
    descriptor := b.deviceDescriptor }

/-- `broadcast_hotplug`. -/
def broadcastHotplug (b : Bridge) (action : UInt8) : Bridge :=
  b.broadcast .monitor (.hotplug (b.hotplugMessage action))

end Bridge

end TermuxGamepad
