/-
  File:      TermuxGamepad/Bridge/Loop.lean
  Subject:   Commands from clients, new connections and the main loop
             (lorie_evdev_bridge.c, lines 433-541, 717-738 and 831-895).

  `step` is one thing the bridge can do between two looks at its sockets, with what the
  environment answers while it does it; a run is any sequence of steps. `iteration` is the body
  of the `while (running)` loop, in the order of the source: `iteration_is_run` says it is such
  a sequence, so what holds of every run holds of the process.
-/
import TermuxGamepad.Bridge.Input

namespace TermuxGamepad

open Wire

/-- One outcome of `recv` on a client: `data []` is the end of the stream, `again` stands for
    EAGAIN, EWOULDBLOCK and EINTR. -/
inductive RecvResult where
  | data (bs : List UInt8)
  | again
  | failed
  deriving DecidableEq, Repr

/-- One outcome of `accept`, until it would block: a connection (with the result of
    `set_nonblocking`), or EINTR. -/
inductive AcceptResult where
  | conn (c : Conn) (nonblocking : Bool)
  | intr
  deriving DecidableEq, Repr

namespace Bridge

/-! ## 1. Commands -/

def setRumble (b : Bridge) (i : Slot) (r : Rumble) : Bridge :=
  b.setClient i { b.clients i with toRumble := r }

def setKind (b : Bridge) (i : Slot) (kind : ClientKind) : Bridge :=
  b.setClient i { b.clients i with kind := kind }

/-- The duration of a RUMBLE command; 0 asks for the default. -/
def commandDuration (m : ControlMessage) : Nat :=
  if m.durationMs != 0 then m.durationMs.toNat else 2500

/-- The commands of `receive_control_messages`; the result is `false` where it returns -1. -/
def handleCommand (b : Bridge) (i : Slot) (m : ControlMessage) : Bridge × Bool :=
  if m.command == controlRumble then
    let r := b.monotonicMs
    let b := r.2.setRumble i
      { rumbleLow := m.lowFrequency, rumbleHigh := m.highFrequency,
        rumbleExpiresMs := r.1 + commandDuration m }
    (b.updateRumble true, true)
  else if m.command == controlStopRumble then
    ((b.setRumble i Rumble.off).updateRumble true, true)
  else if m.command == controlQueryDescriptor then
    let r := (b.setKind i .events).queueBytes i (.descriptor b.deviceDescriptor)
    if !r.2 then (r.1, false)
    else if r.1.deviceDescriptor.present != 0 then (r.1.sendSnapshot i, true)
    else (r.1, true)
  else if m.command == controlMonitor then
    let action := if b.deviceDescriptor.present != 0 then hotplugAdd else hotplugRemove
    (b.setKind i .monitor).queueBytes i (.hotplug (b.hotplugMessage action))
  else (b.emitFor i .invalid, false)

/-- The record once a message is taken off `control`. -/
def takeMessage (c : Client) (m : ControlMessage) (d : DeviceDescriptor) : Client :=
  { c with control := c.control.drop 16, commands := c.commands ++ [(m, d)] }

/-- The message loop of `receive_control_messages`; every round takes 16 bytes off `control`, so
    the length of `control` is fuel enough. -/
def messageLoop : Nat → Bridge → Slot → Bridge × Bool
  | 0, b, _ => (b, true)
  | fuel + 1, b, i =>
    let c := b.clients i
    if c.control.length < 16 then (b, true)
    else
      let m := controlMessageCodec.dec c.control
      if m.magic != controlMagic || m.version != controlVersion then (b.emitFor i .invalid, false)
      else
        let r := (b.setClient i (takeMessage c m b.deviceDescriptor)).handleCommand i m
        if r.2 then messageLoop fuel r.1 i else r

/-- `receive_control_messages`. -/
def receiveControlMessages (b : Bridge) (i : Slot) (r : RecvResult) : Bridge × Bool :=
  let c := b.clients i
  if c.control.length = controlBufferSize then (b, false)
  else
    match r with
    | .data [] => (b.emitFor i .recvEnded, false)
    | .again => (b, true)
    | .failed => (b.emitFor i .recvEnded, false)
    | .data (x :: bs) =>
      let control := c.control ++ (x :: bs).take (controlBufferSize - c.control.length)
      messageLoop control.length (b.setClient i { c with control := control }) i

/-! ## 2. New connections -/

/-- The first free slot of the table. -/
def freeSlot (b : Bridge) : Option Slot :=
  (List.finRange maxClients).find? fun i => (b.clients i).fd.isNone

/-- The record of a connection just accepted. -/
def acceptedClient (c : Conn) : Client := { Client.free with fd := some c }

/-- The body of the loop of `accept_clients`. The kernel hands out no connection twice: a
    repeated one is no input. -/
def acceptClient (b : Bridge) (r : AcceptResult) : Bridge :=
  match r with
  | .intr => b
  | .conn c nonblocking =>
    if c ∈ b.seen then b
    else
      let b := { b with seen := c :: b.seen }
      if !nonblocking then b.emit (.turnedAway c)
      else
        match b.freeSlot with
        | some i => (b.setClient i (acceptedClient c)).emit (.connected c)
        | none => b.emit (.turnedAway c)

/-- `accept_clients`. -/
def acceptClients (b : Bridge) (rs : List AcceptResult) : Bridge := rs.foldl acceptClient b

/-! ## 3. X events -/

/-- An XI2 event as `pump_x_events` dispatches it. -/
inductive XEvent where
  | hierarchyChanged (answer : DeviceAnswer)
  | device (event : XIDeviceEvent)
  deriving DecidableEq, Repr

/-- The dispatch of `pump_x_events`; events of other types reach neither branch. -/
def dispatchXEvent (b : Bridge) (e : XEvent) : Bridge :=
  match e with
  | .hierarchyChanged answer => b.refreshLorieDevice answer
  | .device event => b.processXiEvent event b.lorieDeviceId

/-- `pump_x_events`. -/
def pumpXEvents (b : Bridge) (es : List XEvent) : Bridge := es.foldl dispatchXEvent b

/-! ## 4. Steps -/

/-- The poll-out branch of the main loop. -/
def serveWritable (b : Bridge) (i : Slot) : Bridge :=
  let r := b.flushClient i
  if r.2 then r.1 else r.1.closeClient i

/-- The poll-in branch of the main loop. -/
def serveReadable (b : Bridge) (i : Slot) (r : RecvResult) : Bridge :=
  let r := b.receiveControlMessages i r
  if r.2 then r.1 else r.1.closeClient i

/-- The close after POLLERR, POLLHUP or POLLNVAL. -/
def hangUp (b : Bridge) (i : Slot) : Bridge := (b.emitFor i .hungUp).closeClient i

inductive Action where
  | xEvent (e : XEvent)
  | accept (r : AcceptResult)
  | writable (i : Slot)
  | readable (i : Slot) (r : RecvResult)
  | hangup (i : Slot)
  | tick

/-- An action, with what the environment answers while it is carried out. -/
structure Input where
  action : Action
  sends : List SendResult
  ticks : List Nat
  stamps : List Timeval

/-- Client branches are taken for connected clients only. -/
def act (b : Bridge) : Action → Bridge
  | .xEvent e => b.dispatchXEvent e
  | .accept r => b.acceptClient r
  | .writable i => if (b.clients i).fd.isSome then b.serveWritable i else b
  | .readable i r => if (b.clients i).fd.isSome then b.serveReadable i r else b
  | .hangup i => if (b.clients i).fd.isSome then b.hangUp i else b
  | .tick => b.updateRumble false

def step (b : Bridge) (inp : Input) : Bridge :=
  { b with sends := inp.sends, ticks := inp.ticks, stamps := inp.stamps }.act inp.action

/-! ## 5. The main loop -/

/-- `revents` of one client: POLLIN, POLLOUT, and POLLERR, POLLHUP or POLLNVAL. -/
structure Revents where
  pollIn : Bool
  pollOut : Bool
  pollErr : Bool
  deriving DecidableEq, Repr

def Revents.none : Revents := ⟨false, false, false⟩

/-- What one round of the main loop meets: the poll results, the X events pending at both calls
    of `pump_x_events`, the connections waiting, and what `recv` would return on each slot. -/
structure Round where
  displayReady : Bool
  serverReady : Bool
  revents : Slot → Revents
  firstEvents : List XEvent
  accepts : List AcceptResult
  received : Slot → RecvResult
  lastEvents : List XEvent
  sends : List SendResult
  ticks : List Nat
  stamps : List Timeval

/-- What `poll` reports for a slot: nothing where the descriptor is negative, POLLOUT only where
    it was asked for. -/
def pollResult (b : Bridge) (r : Round) (i : Slot) : Revents :=
  if (b.clients i).fd.isNone then Revents.none
  else { r.revents i with pollOut := (r.revents i).pollOut && !(b.clients i).output.isEmpty }

/-- The flush at the head of the branch for one client. -/
def served (b : Bridge) (i : Slot) (revents : Revents) : Bridge × Bool :=
  if revents.pollOut then b.flushClient i else (b, true)

/-- The branch for one client after `poll`. -/
def serveClient (b : Bridge) (i : Slot) (revents : Revents) (received : RecvResult) : Bridge :=
  if (b.clients i).fd.isNone then b
  else
    let f := b.served i revents
    if !f.2 then f.1.closeClient i
    else if revents.pollErr then f.1.hangUp i
    else if revents.pollIn then f.1.serveReadable i received
    else f.1

/-- The state in which the clients are served: after the first pump and `accept_clients`. -/
def beforeService (b : Bridge) (r : Round) : Bridge :=
  let b := { b with sends := r.sends, ticks := r.ticks, stamps := r.stamps }
  let b := if r.displayReady then b.pumpXEvents r.firstEvents else b
  if r.serverReady then b.acceptClients r.accepts else b

/-- One round of the main loop, for a poll that succeeded. -/
def iteration (b : Bridge) (r : Round) : Bridge :=
  let served := sweep maxClients
    (fun s i => s.serveClient i (b.pollResult r i) (r.received i)) (b.beforeService r)
  (served.pumpXEvents r.lastEvents).updateRumble false

/-- The sequence after the loop: a direct stop, then every client is closed. -/
def shutdown (b : Bridge) (ticks : List Nat) : Bridge :=
  sweep maxClients (fun b i => b.closeClient i) ({ b with ticks := ticks }.sendLorieRumble 0 0 0)

/-- Start-up: the opcode the negotiation left, and the first look at the device. -/
def boot (opcode : Int) (answer : DeviceAnswer) : Bridge :=
  if opcode ≥ 0 then (Bridge.init opcode).refreshLorieDevice answer else Bridge.init opcode

/-- The bridge with fresh answers of the environment. -/
def withEnv (b : Bridge) (sends : List SendResult) (ticks : List Nat) (stamps : List Timeval) :
    Bridge :=
  { b with sends := sends, ticks := ticks, stamps := stamps }

/-- **The rule for runs**: what start-up has and every action keeps, whatever the environment
    answers, every run has. -/
theorem run_boot_inv {P : Bridge → Prop} (hinit : ∀ opcode, P (Bridge.init opcode))
    (henv : ∀ b sends ticks stamps, P b → P (b.withEnv sends ticks stamps))
    (hact : ∀ b a, P b → P (b.act a)) (opcode : Int) (answer : DeviceAnswer)
    (inputs : List Input) : P (run step (boot opcode answer) inputs) := by
  have hboot : P (boot opcode answer) := by
    unfold boot
    split
    · exact hact _ (.xEvent (.hierarchyChanged answer)) (hinit opcode)
    · exact hinit opcode
  exact run_inv (P := P) (fun b inp h => hact _ inp.action (henv b inp.sends inp.ticks inp.stamps h))
    hboot inputs

/-! ## 6. The branches of one client -/

/-- What a relation needs to hold over the branches for the client in slot `i`: it holds over what
    they are made of, and is reflexive and transitive. -/
structure Spans (R : Bridge → Bridge → Prop) (i : Slot) : Prop where
  refl : ∀ b, R b b
  trans : ∀ {b b' b''}, R b b' → R b' b'' → R b b''
  flush : ∀ b, R b (b.flushClient i).1
  mark : ∀ b e, e = Out.invalid ∨ e = Out.recvEnded → R b (b.emitFor i e)
  record : ∀ b control commands,
    R b (b.setClient i { b.clients i with control := control, commands := commands })
  command : ∀ b m, R b (b.handleCommand i m).1
  close : ∀ b, R b (b.closeClient i)

variable {R : Bridge → Bridge → Prop} {i : Slot}

theorem Spans.messageLoop (h : Spans R i) (fuel : Nat) (b : Bridge) :
    R b (messageLoop fuel b i).1 := by
  induction fuel generalizing b with
  | zero => exact h.refl b
  | succ fuel ih =>
    unfold Bridge.messageLoop
    dsimp only
    split
    · exact h.refl b
    split
    · exact h.mark b _ (Or.inl rfl)
    · have hcmd := h.trans (h.record b _ _) (h.command (b.setClient i (takeMessage (b.clients i)
        (controlMessageCodec.dec (b.clients i).control) b.deviceDescriptor))
        (controlMessageCodec.dec (b.clients i).control))
      split
      · exact h.trans hcmd (ih _)
      · exact hcmd

theorem Spans.receiveControlMessages (h : Spans R i) (b : Bridge) (r : RecvResult) :
    R b (b.receiveControlMessages i r).1 := by
  unfold Bridge.receiveControlMessages
  dsimp only
  split
  · exact h.refl b
  split
  · exact h.mark b _ (Or.inr rfl)
  · exact h.refl b
  · exact h.mark b _ (Or.inr rfl)
  · exact h.trans (h.record b _ _) (h.messageLoop _ _)

/-- **The rule for the poll-in branch.** -/
theorem Spans.serveReadable (h : Spans R i) (b : Bridge) (r : RecvResult) :
    R b (b.serveReadable i r) := by
  have hrecv := h.receiveControlMessages b r
  unfold Bridge.serveReadable
  dsimp only
  split
  · exact hrecv
  · exact h.trans hrecv (h.close _)

/-- **The rule for the poll-out branch.** -/
theorem Spans.serveWritable (h : Spans R i) (b : Bridge) : R b (b.serveWritable i) := by
  unfold Bridge.serveWritable
  dsimp only
  split
  · exact h.flush b
  · exact h.trans (h.flush b) (h.close _)

end Bridge

end TermuxGamepad
