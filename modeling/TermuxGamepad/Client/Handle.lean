/-
  File:      TermuxGamepad/Client/Handle.lean
  Subject:   A libtermux-gamepad handle as a machine over its system calls (termux_gamepad.c,
             lines 36-120, 153-231, 307-424 and 449-465).

  The library blocks in the middle of its functions (`receive_all` waits for the bridge), so a
  call is not one step: `pc` says at which system call the handle is, inside which functions,
  and `answer` is one result of that call together with all that the code does up to the next.
  What the code looks at after a return is in the continuation the position carries: who runs
  the refresh, whether a message of this drain changed something, where a stream is opened from.

  `refreshes` is the history of the refreshes, those that `termux_gamepad_update` runs included,
  `updates` and `controls` those of the results of the updates and of the rumble calls, and
  `entered` the descriptor the running refresh started from. No branch reads them.
-/
import TermuxGamepad.Client.State
import TermuxGamepad.Lib.Frames

namespace TermuxGamepad

open Wire

/-! ## 1. System calls -/

/-- A value of `errno` after a failure. -/
abbrev Errno := { n : Nat // 0 < n }

def Errno.result (e : Errno) : Int := -e.val

def eagain : Errno := ⟨11, by decide⟩
def epipe : Errno := ⟨32, by decide⟩
def enodev : Errno := ⟨19, by decide⟩
def eproto : Errno := ⟨71, by decide⟩
def econnreset : Errno := ⟨104, by decide⟩

/-- One result of a system call of the handle. -/
inductive SysAnswer where
  /-- `socket` and `connect` succeed. -/
  | connected (fd : Nat)
  /-- `recv` returns bytes. -/
  | bytes (bs : List UInt8)
  /-- `send` takes `n + 1` bytes, or all that is offered. -/
  | accepted (n : Nat)
  /-- `recv` or `send` returns 0. -/
  | ended
  /-- `fcntl` succeeds, or `poll` finds room to send. -/
  | done
  | intr
  | again
  | failed (e : Errno)
  deriving DecidableEq

/-! ## 2. The handle -/

/-- Who runs a refresh. -/
inductive Caller where
  | create
  | application
  | update
  deriving DecidableEq, Repr

/-- Where `apply_hotplug` is called: in `open_monitor`, or in the loop of a refresh. -/
inductive HotplugSite where
  | monitor (caller : Caller)
  | drain (caller : Caller) (changed : Bool)
  deriving DecidableEq, Repr

/-- Where `open_event_stream` is called: in `apply_hotplug`, or in `termux_gamepad_update` after
    its refresh. -/
inductive StreamSite where
  | hotplug (site : HotplugSite)
  | update (refreshed : Int)
  deriving DecidableEq, Repr

/-- What a connection is opened for: `open_monitor` or `open_event_stream`. -/
inductive Task where
  | monitor (caller : Caller)
  | stream (site : StreamSite)
  deriving DecidableEq, Repr

/-- Whom `send_command` is called for: a connection that is opened, or a rumble call. -/
inductive SendSite where
  | opening (t : Task) (fd : Nat)
  | control
  deriving DecidableEq, Repr

/-- The system call the handle is in. -/
inductive Pc where
  | idle
  | connect (t : Task)
  | send (site : SendSite) (unsent : List UInt8)
  | poll (site : SendSite) (unsent : List UInt8)
  | receive (t : Task) (fd : Nat) (got : List UInt8)
  | setNonblock (t : Task) (fd : Nat) (got : List UInt8)
  | refreshRecv (caller : Caller) (changed : Bool)
  | eventRecv (reports : Nat)
  deriving DecidableEq, Repr

/-- A refresh that returned, or the `open_monitor` of `termux_gamepad_create`. -/
structure Refreshed where
  caller : Caller
  result : Int
  before : LibraryDescriptor
  after : LibraryDescriptor
  deriving DecidableEq

structure Handle where
  monitorFd : Option Nat
  eventFd : Option Nat
  descriptor : LibraryDescriptor
  state : LibraryState
  /-- `monitor_buffer[0..monitor_used)`. -/
  monitorBuffer : List UInt8
  /-- `event_buffer[0..event_used)`. -/
  eventBuffer : List UInt8
  pc : Pc
  entered : LibraryDescriptor
  refreshes : List Refreshed
  updates : List Int
  controls : List Int

namespace Handle

/-- `termux_gamepad_create`, up to the first system call of `open_monitor`. -/
def create : Handle :=
  { monitorFd := none
    eventFd := none
    descriptor := LibraryDescriptor.initial
    state := LibraryState.reset
    monitorBuffer := []
    eventBuffer := []
    pc := .connect (.monitor .create)
    entered := LibraryDescriptor.initial
    refreshes := []
    updates := []
    controls := [] }

/-- `close_event_stream`. -/
def closeEventStream (h : Handle) : Handle :=
  { h with eventFd := none, eventBuffer := [], state := LibraryState.reset }

/-! ## 3. Returning from calls -/

/-- `termux_gamepad_update` returns. -/
def updateReturns (h : Handle) (result : Int) : Handle :=
  { h with updates := h.updates ++ [result], pc := .idle }

/-- `termux_gamepad_rumble` or `termux_gamepad_stop_rumble` returns. -/
def controlReturns (h : Handle) (result : Int) : Handle :=
  { h with controls := h.controls ++ [result], pc := .idle }

/-- `termux_gamepad_update` between its own `open_event_stream` and its loop. -/
def afterStream (h : Handle) (refreshed : Int) : Handle :=
  if h.eventFd.isNone then h.updateReturns (if refreshed < 0 then refreshed else 0)
  else { h with pc := .eventRecv 0 }

/-- A refresh (or the `open_monitor` of `termux_gamepad_create`) returns. -/
def afterRefresh (h : Handle) (caller : Caller) (result : Int) : Handle :=
  let done : Refreshed := ⟨caller, result, h.entered, h.descriptor⟩
  let h : Handle := { h with refreshes := h.refreshes ++ [done] }
  match caller with
  | .create => { h with pc := .idle }
  | .application => { h with pc := .idle }
  | .update =>
    if h.eventFd.isNone ∧ h.descriptor.present ≠ 0 then
      { h with pc := .connect (.stream (.update result)) }
    else h.afterStream result

/-- `apply_hotplug` returns. -/
def applied (h : Handle) (site : HotplugSite) (result : Int) : Handle :=
  match site with
  | .monitor caller => h.afterRefresh caller result
  | .drain caller changed =>
    if result < 0 then h.afterRefresh caller result
    else { h with pc := .refreshRecv caller (changed || decide (result > 0)) }

/-- `open_event_stream` returns. No caller looks at the result. -/
def streamReturned (h : Handle) (site : StreamSite) : Handle :=
  match site with
  | .hotplug site => h.applied site 1
  | .update refreshed => h.afterStream refreshed

/-- The magic and version `apply_hotplug` asks for. -/
def wellFormed (m : HotplugMessage) : Bool :=
  m.magic == hotplugMagic && m.version == controlVersion

/-- `apply_hotplug`, up to its return or to the first system call of `open_event_stream`. -/
def applyHotplug (h : Handle) (m : HotplugMessage) (site : HotplugSite) : Handle :=
  if !wellFormed m then h.applied site eproto.result
  else
    let descriptor := copyDescriptor m.descriptor
    if descriptorEqual h.descriptor descriptor then h.applied site 0
    else
      let h := { h with descriptor := descriptor }.closeEventStream
      if descriptor.present ≠ 0 then { h with pc := .connect (.stream (.hotplug site)) }
      else h.applied site 1

/-! ## 4. Opening a connection -/

/-- The message `send_command` builds. -/
def commandMessage (command low high : UInt16) (durationMs : UInt32) : ControlMessage :=
  { magic := controlMagic, version := controlVersion, command := command, lowFrequency := low,
    highFrequency := high, durationMs := durationMs }

/-- The command a connection is opened with. -/
def command (t : Task) : ControlMessage :=
  match t with
  | .monitor _ => commandMessage controlMonitor 0 0 0
  | .stream _ => commandMessage controlQueryDescriptor 0 0 0

/-- The size of the reply `receive_all` waits for. -/
def replySize (t : Task) : Nat :=
  match t with
  | .monitor _ => hotplugMessageCodec.size
  | .stream _ => deviceDescriptorCodec.size

/-- `open_monitor` or `open_event_stream` returns an error. -/
def openFailed (h : Handle) (t : Task) (e : Errno) : Handle :=
  match t with
  | .monitor caller => h.afterRefresh caller e.result
  | .stream site => h.streamReturned site

/-- `connect_socket`. -/
def connectAnswer (h : Handle) (t : Task) (a : SysAnswer) : Handle :=
  match a with
  | .connected fd => { h with pc := .send (.opening t fd) (controlMessageCodec.enc (command t)) }
  | .failed e => h.openFailed t e
  | _ => h

/-- `send_all` returns 0. -/
def sendDone (h : Handle) (site : SendSite) : Handle :=
  match site with
  | .opening t fd => { h with pc := .receive t fd [] }
  | .control => h.controlReturns 0

/-- `send_all` returns an error. -/
def sendFailed (h : Handle) (site : SendSite) (e : Errno) : Handle :=
  match site with
  | .opening t _ => h.openFailed t e
  | .control => h.controlReturns e.result

/-- The loop of `send_all`. -/
def sendAnswer (h : Handle) (site : SendSite) (unsent : List UInt8) (a : SysAnswer) : Handle :=
  match a with
  | .accepted n =>
    if (unsent.drop (n + 1)).isEmpty then h.sendDone site
    else { h with pc := .send site (unsent.drop (n + 1)) }
  | .again => { h with pc := .poll site unsent }
  | .ended => h.sendFailed site epipe
  | .failed e => h.sendFailed site e
  | _ => h

/-- The `poll` in `send_all`; `again` is its timeout. -/
def pollAnswer (h : Handle) (site : SendSite) (unsent : List UInt8) (a : SysAnswer) : Handle :=
  match a with
  | .done => { h with pc := .send site unsent }
  | .again => h.sendFailed site eagain
  | .failed e => h.sendFailed site e
  | _ => h

/-- The test of `open_event_stream` on the descriptor it received. -/
def usable (d : DeviceDescriptor) : Bool :=
  d.magic == deviceMagic && d.version == controlVersion && d.present != 0

/-- A whole reply has arrived. -/
def received (h : Handle) (t : Task) (fd : Nat) (got : List UInt8) : Handle :=
  match t with
  | .monitor _ => { h with pc := .setNonblock t fd got }
  | .stream _ =>
    if usable (deviceDescriptorCodec.dec got) then { h with pc := .setNonblock t fd got }
    else h.openFailed t enodev

/-- The loop of `receive_all`. -/
def receiveAnswer (h : Handle) (t : Task) (fd : Nat) (got : List UInt8) (a : SysAnswer) : Handle :=
  match a with
  | .bytes bs =>
    let got := got ++ bs.take (replySize t - got.length)
    if got.length = replySize t then h.received t fd got else { h with pc := .receive t fd got }
  | .ended => h.openFailed t econnreset
  | .again => h.openFailed t eagain
  | .failed e => h.openFailed t e
  | _ => h

/-- The connection is open. -/
def opened (h : Handle) (t : Task) (fd : Nat) (got : List UInt8) : Handle :=
  match t with
  | .monitor caller =>
    { h with monitorFd := some fd, monitorBuffer := [] }.applyHotplug
      (hotplugMessageCodec.dec got) (.monitor caller)
  | .stream site => { h.closeEventStream with eventFd := some fd }.streamReturned site

/-- `set_nonblocking`. -/
def setNonblockAnswer (h : Handle) (t : Task) (fd : Nat) (got : List UInt8) (a : SysAnswer) :
    Handle :=
  match a with
  | .done => h.opened t fd got
  | .failed e => h.openFailed t e
  | _ => h

/-! ## 5. Draining -/

/-- The monitor connection is gone. -/
def monitorLost (h : Handle) (caller : Caller) (result : Int) : Handle :=
  let h := { h with monitorFd := none, monitorBuffer := [] }
  if h.descriptor.present ≠ 0 then
    { h with
      descriptor := { h.descriptor with present := 0, deviceId := -1 } }.closeEventStream.afterRefresh
        caller 1
  else h.afterRefresh caller result

/-- The loop of `termux_gamepad_refresh`. -/
def refreshAnswer (h : Handle) (caller : Caller) (changed : Bool) (a : SysAnswer) : Handle :=
  match a with
  | .bytes bs =>
    let buffer := h.monitorBuffer ++ bs.take (hotplugMessageCodec.size - h.monitorBuffer.length)
    if buffer.length = hotplugMessageCodec.size then
      { h with monitorBuffer := [] }.applyHotplug (hotplugMessageCodec.dec buffer)
        (.drain caller changed)
    else { h with monitorBuffer := buffer }
  | .again => h.afterRefresh caller changed.toInt
  | .ended => h.monitorLost caller changed.toInt
  | .failed e => h.monitorLost caller e.result
  | _ => h

/-- The loop of `termux_gamepad_update`. -/
def eventAnswer (h : Handle) (reports : Nat) (a : SysAnswer) : Handle :=
  match a with
  | .bytes bs =>
    let buffer := h.eventBuffer ++ bs.take (inputEventCodec.size - h.eventBuffer.length)
    if buffer.length = inputEventCodec.size then
      let r := h.state.processEvent reports (inputEventCodec.dec buffer)
      { h with state := r.1, eventBuffer := [], pc := .eventRecv r.2 }
    else { h with eventBuffer := buffer }
  | .again => h.updateReturns reports
  | .ended => h.closeEventStream.updateReturns reports
  | .failed e => h.closeEventStream.updateReturns e.result
  | _ => h

/-! ## 6. Steps -/

/-- One result of the system call the handle is in. -/
def answer (h : Handle) (a : SysAnswer) : Handle :=
  match h.pc with
  | .idle => h
  | .connect t => h.connectAnswer t a
  | .send site unsent => h.sendAnswer site unsent a
  | .poll site unsent => h.pollAnswer site unsent a
  | .receive t fd got => h.receiveAnswer t fd got a
  | .setNonblock t fd got => h.setNonblockAnswer t fd got a
  | .refreshRecv caller changed => h.refreshAnswer caller changed a
  | .eventRecv reports => h.eventAnswer reports a

/-- A refresh begins, up to its first system call. -/
def refresh (h : Handle) (caller : Caller) : Handle :=
  let h := { h with entered := h.descriptor }
  if h.monitorFd.isNone then { h with pc := .connect (.monitor caller) }
  else { h with pc := .refreshRecv caller false }

/-- `send_command` on the event stream, up to its first system call. -/
def sendControl (h : Handle) (command low high : UInt16) (durationMs : UInt32) : Handle :=
  if h.eventFd.isNone then h.controlReturns enodev.result
  else
    { h with
      pc := .send .control (controlMessageCodec.enc (commandMessage command low high durationMs)) }

/-- `termux_gamepad_stop_rumble`, up to its first system call. -/
def stopRumble (h : Handle) : Handle := h.sendControl controlStopRumble 0 0 0

/-- `termux_gamepad_rumble`, up to its first system call. -/
def rumble (h : Handle) (low high : UInt16) (durationMs : UInt32) : Handle :=
  if low = 0 ∧ high = 0 then h.stopRumble else h.sendControl controlRumble low high durationMs

/-- What can happen to a handle: the application calls it while no call is running, or the
    system call it is in returns. -/
inductive Input where
  | refresh
  | update
  | rumble (low high : UInt16) (durationMs : UInt32)
  | stopRumble
  | answer (a : SysAnswer)
  deriving DecidableEq

def step (h : Handle) (inp : Input) : Handle :=
  match inp with
  | .refresh => if h.pc = .idle then h.refresh .application else h
  | .update => if h.pc = .idle then h.refresh .update else h
  | .rumble low high durationMs => if h.pc = .idle then h.rumble low high durationMs else h
  | .stopRumble => if h.pc = .idle then h.stopRumble else h
  | .answer a => h.answer a

end Handle

end TermuxGamepad
