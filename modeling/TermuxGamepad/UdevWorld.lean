/-
  File:      TermuxGamepad/UdevWorld.lean
  Subject:   The fake libudev and the bridge, over their sockets.

  `UdevWorld` runs the library of one process and the bridge in any order. The library has one
  monitor connection, and each scan opens a connection of its own and waits on it; while it waits,
  the bridge goes on. So what a scan brings may be older than what the monitor has told by then, or
  newer. `Settled` says that all that was told on the monitor has been received: then the library
  knows the device the bridge has, whatever scans came in between (`udev_replica`). All of it is
  about runs without a signal inside a receive (`uncut`): the library drops part of a message.
-/
import TermuxGamepad.Bridge.Opening
import TermuxGamepad.Bridge.Replies
import TermuxGamepad.Udev.Monitor

namespace TermuxGamepad

open Wire

/-- The message `connect_bridge` sends. -/
def Udev.bridgeCommand (command : UInt16) : ControlMessage :=
  { magic := controlMagic, version := controlVersion, command := command, lowFrequency := 0,
    highFrequency := 0, durationMs := 0 }

/-! ## 1. Both machines -/

/-- The bridge and the library. `scan` is the connection `refresh_descriptor` waits on, with the
    answers its calls got so far; `monitor` is the connection behind `g_monitor.pipefd[0]`, and
    `told` has `g_event_dev.action` for each device it handed out. `asked`, `taken` and `got` are
    the command given on each connection of the library, what the bridge took of it, and what the
    library received. -/
structure UdevWorld where
  bridge : Bridge
  lib : Udev
  scan : Option (Conn × ConnectAnswer)
  monitor : Option Conn
  told : List Nat
  asked : Conn → Option ControlMessage
  taken : Conn → List UInt8
  got : Conn → List UInt8

namespace UdevWorld

/-- The bridge is up, and the library loaded. -/
def start (opcode : Int) (answer : DeviceAnswer) : UdevWorld :=
  { bridge := Bridge.boot opcode answer, lib := Udev.loaded, scan := none, monitor := none,
    told := [], asked := fun _ => none, taken := fun _ => [], got := fun _ => [] }

/-- A step of the bridge, or a call of the application. `scanned` is the return of the scan that
    waits, `enumerate` a call that reaches no socket. -/
inductive Input where
  | bridge (inp : Bridge.Input)
  | monitorNew (answer : ConnectAnswer)
  | monitorReceive (received : List UInt8)
  | monitorUnref
  | scan (answer : ConnectAnswer)
  | scanned (received : List UInt8)
  | enumerate (call : UdevCall)

/-- The connection a successful `connect_bridge` made. -/
def opened (env : Env) (answer : ConnectAnswer) : Option Conn :=
  (Udev.connectBridge env answer).map Int.toNat

/-- The calls on an enumerator that only note a filter. -/
def filters : UdevCall → Bool
  | .enumerateNew | .enumerateAddMatchSubsystem _ | .enumerateAddMatchProperty _ _ => true
  | _ => false

/-- A connection is in the table of the bridge. -/
def Connected (w : UdevWorld) (c : Conn) : Prop := ∃ i, (w.bridge.clients i).fd = some c

instance (w : UdevWorld) (c : Conn) : Decidable (w.Connected c) := Nat.decidableExistsFin _

/-- What the sockets allow. A connection is one nobody has accepted, it brings what was given, and
    what is received on it is what was sent next, up to the size of the buffer. -/
def enabled (env : Env) (w : UdevWorld) : Input → Bool
  | .bridge inp =>
    match inp.action with
    | .readable i _ =>
      match (w.bridge.clients i).fd with
      | some c =>
        (w.asked c).all fun m =>
          decide (w.taken c ++ w.bridge.takes inp.action c <+: controlMessageCodec.enc m)
      | none => true
    | _ => true
  | .monitorNew answer | .scan answer =>
    w.scan.isNone && (opened env answer).all fun c =>
      decide (c ∉ w.bridge.seen) && (w.asked c).isNone
  | .monitorReceive received =>
    w.scan.isNone && w.monitor.all fun c =>
      decide (w.got c ++ received <+: sentOn c w.bridge.log) &&
        decide (received.length ≤ hotplugMessageCodec.size)
  | .monitorUnref => w.scan.isNone
  | .scanned received =>
    w.scan.any fun s =>
      decide (w.got s.1 ++ received <+: sentOn s.1 w.bridge.log) &&
        decide (received.length ≤ deviceDescriptorCodec.size)
  | .enumerate call => w.scan.isNone && filters call

/-- A receive on a monitor that stands brings a message whole or not at all. MSG_WAITALL promises
    no more: `recv` may return less where a signal is caught, and the library drops what it got. -/
def uncut (w : UdevWorld) : Input → Bool
  | .monitorReceive received =>
    w.monitor.all fun c =>
      decide (received = []) || decide (received.length = hotplugMessageCodec.size) ||
        !decide (w.Connected c)
  | _ => true

/-- A call of the library, on a connection it made if it made one. -/
def calls (env : Env) (w : UdevWorld) (call : UdevCall) : UdevWorld :=
  { w with lib := w.lib.step (env, call) }

/-- The step that is allowed. -/
def goes (env : Env) (w : UdevWorld) : Input → UdevWorld
  | .bridge inp =>
    { w with
      bridge := w.bridge.step inp
      taken := fun c => w.taken c ++ w.bridge.takes inp.action c }
  | .monitorNew answer =>
    match opened env answer with
    | none => { w.calls env (.monitorNewFromNetlink answer) with monitor := none }
    | some c =>
      { w.calls env (.monitorNewFromNetlink answer) with
        monitor := some c
        told := []
        asked := Function.update w.asked c (some (Udev.bridgeCommand controlMonitor)) }
  | .monitorReceive received =>
    match w.monitor with
    | none => w
    | some c =>
      { w.calls env (.monitorReceiveDevice received) with
        told := w.told ++ if (w.lib.receiveDevice env received).2 then
          [(w.lib.receiveDevice env received).1.eventAction] else []
        got := Function.update w.got c (w.got c ++ received) }
  | .monitorUnref => { w.calls env .monitorUnref with monitor := none }
  | .scan answer =>
    match opened env answer with
    | none => w.calls env (.enumerateScanDevices answer)
    | some c =>
      { w with
        scan := some (c, answer)
        asked := Function.update w.asked c (some (Udev.bridgeCommand controlQueryDescriptor)) }
  | .scanned received =>
    match w.scan with
    | none => w
    | some (c, answer) =>
      { w.calls env (.enumerateScanDevices { answer with received := received }) with
        scan := none
        got := Function.update w.got c (w.got c ++ received) }
  | .enumerate call => w.calls env call

def step (env : Env) (w : UdevWorld) (inp : Input) : UdevWorld :=
  if w.enabled env inp then w.goes env inp else w

/-! ## 2. At rest -/

/-- All that was told on the monitor has been received. -/
def Settled (w : UdevWorld) (c : Conn) : Prop :=
  ∃ j, (w.bridge.clients j).fd = some c ∧ (w.bridge.clients j).kind = .monitor ∧
    (hotplugs (w.bridge.clients j).queued).length =
      (hotplugMessageCodec.records (w.got c)).length

/-- **At rest**: the monitor is open at both ends, and no byte is in flight or buffered on it. -/
structure AtRest (w : UdevWorld) (c : Conn) : Prop where
  monitor : w.monitor = some c
  slot : ∃ j, (w.bridge.clients j).fd = some c ∧ (w.bridge.clients j).output = [] ∧
    (w.bridge.clients j).control = []
  down : w.got c = sentOn c w.bridge.log
  up : some (w.taken c) = (w.asked c).map controlMessageCodec.enc

/-! ## 3. The invariant -/

/-- Both machines, and what was received of what was sent. -/
structure Joined (env : Env) (w : UdevWorld) : Prop where
  reached : ∃ opcode answer inputs,
    w.bridge = run Bridge.step (Bridge.boot opcode answer) inputs
  serves : ∀ c m, w.asked c = some m → w.bridge.ServesOn c m (w.taken c)
  commands : ∀ c m, w.asked c = some m →
    m.command = controlQueryDescriptor ∨ m.command = controlMonitor
  fits : ∀ c m, w.asked c = some m → w.taken c <+: controlMessageCodec.enc m
  unseen : ∀ c, c ∉ w.bridge.seen → w.taken c = []
  got : ∀ c, w.got c <+: sentOn c w.bridge.log
  monitor : ∀ c, w.monitor = some c → w.asked c = some (Udev.bridgeCommand controlMonitor) ∧
    env.backendEnabled = true ∧ 0 ≤ w.lib.monitorFd
  scan : ∀ c answer, w.scan = some (c, answer) →
    w.asked c = some (Udev.bridgeCommand controlQueryDescriptor) ∧
      (Udev.connectBridge env answer).isSome ∧ w.got c = []
  cached : w.lib.Cached

/-- The action of a device the monitor handed out. -/
def handedOut (m : HotplugMessage) : Nat := if m.action = hotplugRemove then 2 else 1

/-- **The invariant**: as long as the monitor stands, it was received message by message; and once
    all of it has been received, the library knows the device, and so does the scan that waits. -/
structure Linked (env : Env) (w : UdevWorld) : Prop extends Joined env w where
  whole : ∀ c, w.monitor = some c → w.Connected c ∨ c ∉ w.bridge.seen →
    hotplugMessageCodec.remainder (w.got c) = [] ∧
      w.told = (hotplugMessageCodec.records (w.got c)).map handedOut
  known : ∀ c, w.monitor = some c → w.Settled c → w.lib.descriptor = w.bridge.deviceDescriptor
  waiting : ∀ c answer c', w.scan = some (c, answer) → w.monitor = some c' → w.Settled c' →
    ∀ d rest, queuedOn c w.bridge.log = .descriptor d :: rest → d = w.bridge.deviceDescriptor

variable {env : Env} {w w' : UdevWorld} {c : Conn} {j : Slot}

namespace Joined

theorem sound (h : w.Joined env) : Bridge.Sound w.bridge := by
  obtain ⟨opcode, answer, inputs, hb⟩ := h.reached
  rw [hb]
  exact Bridge.run_sound opcode answer inputs

theorem opened (h : w.Joined env) : Bridge.Opened w.bridge := by
  obtain ⟨opcode, answer, inputs, hb⟩ := h.reached
  rw [hb]
  exact Bridge.run_opened opcode answer inputs

/-- What was received was sent from the slot, and that was queued. -/
theorem got_queued (h : w.Joined env) (hj : (w.bridge.clients j).fd = some c) :
    w.got c <+: (w.bridge.clients j).queued.flatMap Message.bytes := by
  have hwhole : (w.bridge.clients j).sent ++ (w.bridge.clients j).output =
      (w.bridge.clients j).queued.flatMap Message.bytes := by
    obtain ⟨opcode, answer, inputs, hb⟩ := h.reached
    rw [hb]
    exact Bridge.run_whole opcode answer inputs j
  have hgot := h.got c
  rw [h.sound.tracked.sent_eq hj] at hgot
  rw [← hwhole]
  exact hgot.trans (List.prefix_append _ _)

end Joined

/-- The slot of a monitor: what was received are the first messages of a chronicle. -/
structure MonitorSlot (w : UdevWorld) (c : Conn) (j : Slot) (ms : List HotplugMessage) : Prop where
  queued : (w.bridge.clients j).queued = ms.map .hotplug
  received : hotplugMessageCodec.records (w.got c) <+: ms
  chronicle : ∃ d, Chronicle d w.bridge.deviceDescriptor ms

/-- A connection that gave MONITOR is a monitor, or its command has not arrived. -/
theorem Joined.monitor_slot (h : w.Joined env)
    (hasked : w.asked c = some (Udev.bridgeCommand controlMonitor))
    (hj : (w.bridge.clients j).fd = some c) :
    ((w.bridge.clients j).kind = .uninitialized ∧ (w.bridge.clients j).queued = []) ∨
      ((w.bridge.clients j).kind = .monitor ∧ ∃ ms, w.MonitorSlot c j ms) := by
  cases (h.serves c _ hasked).slot j hj with
  | waiting hcommands hcontrol hkind hqueued => exact Or.inl ⟨hkind, hqueued⟩
  | stream d batches hm => exact absurd hm (by decide)
  | monitor d ms hm htaken hcommands hcontrol hkind hqueued =>
    have hannounced : Bridge.Announced w.bridge := by
      obtain ⟨opcode, answer, inputs, hb⟩ := h.reached
      rw [hb]
      exact Bridge.run_announced opcode answer inputs
    refine Or.inr ⟨hkind, ms, hqueued, ?_, d, ?_⟩
    · have hgot := h.got_queued hj
      rw [show (w.bridge.clients j).queued = _ from hqueued, flatMap_hotplugs] at hgot
      have hrecords := hotplugMessageCodec.records_prefix (by decide) hgot
      rwa [hotplugMessageCodec.records_encAll (by decide)] at hrecords
    · rcases hannounced.monitors j with hfree | hok
      · rw [congrArg Link.fd hfree] at hj
        cases hj
      · have hlist := (hok.asked d ⟨[], _, [], hcommands, hm, nofun, nofun⟩).2
        rw [show (w.bridge.clients j).toLink.queued = _ from hqueued, Bridge.hotplugs_map] at hlist
        exact hlist

theorem MonitorSlot.settled {ms : List HotplugMessage} (h : w.MonitorSlot c j ms)
    (hlen : ms.length = (hotplugMessageCodec.records (w.got c)).length) :
    hotplugMessageCodec.records (w.got c) = ms := h.received.eq_of_length hlen.symm

/-- The last message received on a settled monitor is about the device there is. -/
theorem Joined.settled_last (h : w.Joined env)
    (hasked : w.asked c = some (Udev.bridgeCommand controlMonitor)) (hs : w.Settled c) :
    (hotplugMessageCodec.records (w.got c)).getLast?.map HotplugMessage.descriptor =
      some w.bridge.deviceDescriptor := by
  obtain ⟨j, hj, hkind, hlen⟩ := hs
  rcases h.monitor_slot hasked hj with ⟨hnone, -⟩ | ⟨-, ms, hslot⟩
  · rw [hkind] at hnone
    cases hnone
  · rw [hslot.queued, Bridge.hotplugs_map] at hlen
    obtain ⟨d, hd⟩ := hslot.chronicle
    rw [hslot.settled hlen]
    exact hd.last

/-! ## 4. A step of the bridge -/

/-- What the bridge takes off a connection of the library was given. -/
theorem Joined.takes (h : w.Joined env) {inp : Bridge.Input} (he : w.enabled env (.bridge inp) = true)
    {m : ControlMessage} (hm : w.asked c = some m) :
    w.taken c ++ w.bridge.takes inp.action c <+: controlMessageCodec.enc m := by
  have hnothing : w.bridge.takes inp.action c = [] →
      w.taken c ++ w.bridge.takes inp.action c <+: controlMessageCodec.enc m := by
    intro hnil
    rw [hnil, List.append_nil]
    exact h.fits c m hm
  unfold enabled at he
  dsimp only at he
  cases ha : inp.action with
  | readable i r =>
    by_cases hfd : (w.bridge.clients i).fd = some c
    · rw [ha] at he
      dsimp only at he
      rw [hfd] at he
      simpa [hm] using he
    · rw [ha] at hnothing
      exact hnothing (if_neg hfd)
  | _ =>
    rw [ha] at hnothing
    exact hnothing rfl

theorem bridge_joined (h : w.Joined env) {inp : Bridge.Input}
    (he : w.enabled env (.bridge inp) = true) : (w.goes env (.bridge inp)).Joined env := by
  have ht : Bridge.Tracked (w.bridge.withEnv inp.sends inp.ticks inp.stamps) :=
    (h.sound.env inp.sends inp.ticks inp.stamps).tracked
  refine ⟨?_, fun c m hm => ?_, h.commands, fun c m hm => h.takes he hm, fun c hc => ?_,
    fun c => ?_, h.monitor, h.scan, h.cached⟩
  · obtain ⟨opcode, answer, inputs, heq⟩ := h.reached
    refine ⟨opcode, answer, inputs ++ [inp], ?_⟩
    rw [run_concat, ← heq]
    rfl
  · have hserves : (w.bridge.withEnv inp.sends inp.ticks inp.stamps).ServesOn c m (w.taken c) :=
      ⟨(h.serves c m hm).slot, (h.serves c m hm).unseen⟩
    exact hserves.act ht (h.commands c m hm) (h.takes he hm)
  · have hc' : c ∉ w.bridge.seen := fun hs =>
      hc (Bridge.act_seen (w.bridge.withEnv inp.sends inp.ticks inp.stamps) inp.action hs)
    show w.taken c ++ w.bridge.takes inp.action c = []
    rw [h.unseen c hc', List.nil_append]
    exact Bridge.takes_unseen ht inp.action hc'
  · obtain ⟨l, hl⟩ := Bridge.act_log (w.bridge.withEnv inp.sends inp.ticks inp.stamps) inp.action
    have hlog : (w.bridge.step inp).log = w.bridge.log ++ l := hl
    show w.got c <+: sentOn c (w.bridge.step inp).log
    rw [hlog, sentOn_append]
    exact (h.got c).trans (List.prefix_append _ _)

/-- Who is in the table after a step of the bridge, and was told something, was there before. -/
theorem stayed (h : w.Joined env) {inp : Bridge.Input}
    (hj : (((w.goes env (.bridge inp)).bridge.clients j).fd) = some c)
    (hkind : ((w.goes env (.bridge inp)).bridge.clients j).kind ≠ .uninitialized) :
    (w.bridge.clients j).fd = some c ∧
      ∃ ms, ((w.goes env (.bridge inp)).bridge.clients j).queued =
        (w.bridge.clients j).queued ++ ms := by
  have hseen : c ∈ w.bridge.seen := by
    by_contra hno
    have hold : ((w.bridge.withEnv inp.sends inp.ticks inp.stamps).clients j).fd ≠ some c :=
      fun hfd => hno (h.sound.tracked.isSeen j c hfd)
    exact hkind (congrArg Link.kind (Bridge.act_takes hj hold).2.2)
  have hseen' : c ∈ (w.bridge.withEnv inp.sends inp.ticks inp.stamps).seen := hseen
  exact Bridge.act_stayed hj hseen'

/-- **A step of the bridge that leaves the monitor settled** found it settled, and did not touch
    the device. -/
theorem bridge_settled (h : w.Joined env) {inp : Bridge.Input}
    (he : w.enabled env (.bridge inp) = true)
    (hasked : w.asked c = some (Udev.bridgeCommand controlMonitor))
    (hs : (w.goes env (.bridge inp)).Settled c) :
    w.Settled c ∧ (w.goes env (.bridge inp)).bridge.deviceDescriptor = w.bridge.deviceDescriptor := by
  have hjoined := bridge_joined h he
  have hlast := hjoined.settled_last hasked hs
  have hold : w.Settled c := by
    obtain ⟨j, hj, hkind, hlen⟩ := hs
    obtain ⟨hfd, more, hmore⟩ := stayed h hj (by rw [hkind]; exact ClientKind.noConfusion)
    rcases hjoined.monitor_slot hasked hj with ⟨hnone, -⟩ | ⟨-, ms', hslot'⟩
    · rw [hkind] at hnone
      cases hnone
    rw [hslot'.queued, Bridge.hotplugs_map] at hlen
    have hrecords : hotplugMessageCodec.records (w.got c) = ms' := hslot'.settled hlen
    rcases h.monitor_slot hasked hfd with ⟨-, hempty⟩ | ⟨hkind', ms, hslot⟩
    · -- nothing was queued, so nothing was received; but a chronicle is not empty
      have hgot := h.got_queued hfd
      rw [hempty] at hgot
      have hnil : w.got c = [] := List.prefix_nil.mp hgot
      rw [hnil, (@Codec.records_of_lt _ hotplugMessageCodec [] (by decide)).1] at hrecords
      obtain ⟨d, hd⟩ := hslot'.chronicle
      have hfirst := hd.first
      rw [← hrecords] at hfirst
      cases hfirst
    · refine ⟨j, hfd, hkind', ?_⟩
      rw [hslot.queued, Bridge.hotplugs_map, hrecords]
      have hle := hslot.received.length_le
      rw [hrecords] at hle
      have hall : (ms'.map Message.hotplug).length = ((ms.map Message.hotplug) ++ more).length := by
        rw [← hslot'.queued, ← hslot.queued, hmore]
      rw [List.length_map, List.length_append, List.length_map] at hall
      omega
  refine ⟨hold, ?_⟩
  have hlast' := h.settled_last hasked hold
  exact Option.some.inj (hlast.symm.trans hlast')

/-- **A step of the bridge.** -/
theorem bridge_linked (h : w.Linked env) {inp : Bridge.Input}
    (he : w.enabled env (.bridge inp) = true) : (w.goes env (.bridge inp)).Linked env := by
  refine ⟨bridge_joined h.toJoined he, fun c hc hin => ?_, fun c hc hs => ?_,
    fun c answer c' hscan hc' hs d rest hq => ?_⟩
  · refine h.whole c hc ?_
    by_cases hseen : c ∈ w.bridge.seen
    · rcases hin with ⟨j, hj⟩ | hnew
      · have hseen' : c ∈ (w.bridge.withEnv inp.sends inp.ticks inp.stamps).seen := hseen
        exact Or.inl ⟨j, (Bridge.act_stayed hj hseen').1⟩
      · exact absurd (Bridge.act_seen (w.bridge.withEnv inp.sends inp.ticks inp.stamps) inp.action
          hseen) hnew
    · exact Or.inr hseen
  · obtain ⟨hold, hsame⟩ := bridge_settled h.toJoined he (h.monitor c hc).1 hs
    rw [hsame]
    exact h.known c hc hold
  · obtain ⟨hold, hsame⟩ := bridge_settled h.toJoined he (h.monitor c' hc').1 hs
    rw [hsame]
    obtain ⟨ms, hadds, hms⟩ := Bridge.step_adds h.toJoined.opened inp c
    have hqueued : queuedOn c (w.bridge.step inp).log = queuedOn c w.bridge.log ++ ms := hadds
    rw [show queuedOn c (w.goes env (.bridge inp)).bridge.log = _ from hqueued] at hq
    cases hbefore : queuedOn c w.bridge.log with
    | nil =>
      rw [hbefore, List.nil_append] at hq
      rcases hms with hnil | ⟨-, hreplies⟩
      · rw [hnil] at hq
        cases hq
      · have hr := hreplies hbefore
        rw [hq] at hr
        cases hr <;> rfl
    | cons m before =>
      rw [hbefore, List.cons_append] at hq
      obtain ⟨rfl, -⟩ := List.cons.inj hq
      exact h.waiting c answer c' hscan hc' hold d before hbefore

/-! ## 5. Calls of the library -/

theorem scan_monitorFd (env : Env) (u : Udev) (answer : ConnectAnswer) :
    (u.step (env, .enumerateScanDevices answer)).monitorFd = u.monitorFd := by
  simp only [Udev.step, Udev.refreshDescriptor_fst]
  split
  · rfl
  · split
    · rfl
    · unfold Udev.updateDescriptor
      split <;> rfl

/-- A call that leaves the descriptors of the process alone. -/
theorem Linked.lib (h : w.Linked env) {lib : Udev} (hcached : lib.Cached)
    (hfd : lib.monitorFd = w.lib.monitorFd)
    (hknown : ∀ c, w.monitor = some c → w.Settled c → lib.descriptor = w.bridge.deviceDescriptor) :
    { w with lib := lib }.Linked env where
  toJoined := { h.toJoined with
    monitor := fun c hc => by
      show _ ∧ _ ∧ 0 ≤ lib.monitorFd
      rw [hfd]
      exact h.monitor c hc
    cached := hcached }
  whole := h.whole
  known := hknown
  waiting := h.waiting

theorem enumerate_linked (h : w.Linked env) {call : UdevCall} (hcall : filters call = true) :
    (w.calls env call).Linked env := by
  have hsame : (w.lib.step (env, call)).descriptor = w.lib.descriptor ∧
      (w.lib.step (env, call)).monitorFd = w.lib.monitorFd := by
    cases call with
    | enumerateNew => exact ⟨rfl, rfl⟩
    | enumerateAddMatchSubsystem subsystem => exact ⟨rfl, rfl⟩
    | enumerateAddMatchProperty key value =>
      simp only [Udev.step]
      split <;> exact ⟨rfl, rfl⟩
    | _ => cases hcall
  refine h.lib (Udev.step_cached _ _ h.cached) hsame.2 fun c hc hs => ?_
  rw [hsame.1]
  exact h.known c hc hs

/-- Nothing has happened on a connection nobody has accepted. -/
theorem Joined.fresh (h : w.Joined env) (hc : c ∉ w.bridge.seen) :
    w.taken c = [] ∧ w.got c = [] ∧ queuedOn c w.bridge.log = [] ∧ ¬w.Connected c := by
  refine ⟨h.unseen c hc, ?_, h.sound.tracked.unseen_queued hc, ?_⟩
  · have hgot := h.got c
    rw [h.sound.tracked.unseen_sent hc] at hgot
    exact List.prefix_nil.mp hgot
  · rintro ⟨j, hj⟩
    exact hc (h.sound.tracked.isSeen j c hj)

/-- The library makes a connection for a command. -/
theorem Joined.asks (h : w.Joined env) (hc : c ∉ w.bridge.seen) (hnone : w.asked c = none)
    {command : UInt16} (hcommand : command = controlQueryDescriptor ∨ command = controlMonitor) :
    { w with asked := Function.update w.asked c (some (Udev.bridgeCommand command)) }.Joined env := by
  have hat : ∀ {c' m}, Function.update w.asked c (some (Udev.bridgeCommand command)) c' = some m →
      c' = c ∧ m = Udev.bridgeCommand command ∨ w.asked c' = some m := by
    intro c' m hm
    by_cases hcc : c' = c
    · subst hcc
      rw [Function.update_self] at hm
      exact Or.inl ⟨rfl, (Option.some.inj hm).symm⟩
    · rw [Function.update_of_ne hcc] at hm
      exact Or.inr hm
  have hkeeps : ∀ {c' m}, w.asked c' = some m →
      Function.update w.asked c (some (Udev.bridgeCommand command)) c' = some m := by
    intro c' m hm
    have hcc : c' ≠ c := by
      rintro rfl
      rw [hnone] at hm
      cases hm
    rw [Function.update_of_ne hcc]
    exact hm
  obtain ⟨htaken, -, -, hout⟩ := h.fresh hc
  refine ⟨h.reached, fun c' m hm => ?_, fun c' m hm => ?_, fun c' m hm => ?_, h.unseen, h.got,
    fun c' hm => ?_, fun c' answer hs => ?_, h.cached⟩
  · rcases hat hm with ⟨rfl, rfl⟩ | hm
    · exact ⟨fun i hi => absurd ⟨i, hi⟩ hout, fun _ => htaken⟩
    · exact h.serves c' m hm
  · rcases hat hm with ⟨rfl, rfl⟩ | hm
    · exact hcommand
    · exact h.commands c' m hm
  · rcases hat hm with ⟨rfl, rfl⟩ | hm
    · rw [show w.taken c' = [] from htaken]
      exact List.nil_prefix
    · exact h.fits c' m hm
  · exact ⟨hkeeps (h.monitor c' hm).1, (h.monitor c' hm).2⟩
  · exact ⟨hkeeps (h.scan c' answer hs).1, (h.scan c' answer hs).2⟩

/-- What is enabled, of a call that makes a connection. -/
theorem fresh_of_enabled {answer : ConnectAnswer} (hc : opened env answer = some c)
    (he : (w.scan.isNone && (opened env answer).all fun c =>
      decide (c ∉ w.bridge.seen) && (w.asked c).isNone) = true) :
    w.scan = none ∧ c ∉ w.bridge.seen ∧ w.asked c = none := by
  rw [hc] at he
  simpa [Option.isNone_iff_eq_none] using he

theorem backend_of_opened {answer : ConnectAnswer} {fd : Int}
    (h : Udev.connectBridge env answer = some fd) : env.backendEnabled = true := by
  by_contra hb
  rw [Udev.connectBridge, if_pos (by simpa using hb)] at h
  cases h

theorem monitorNew_linked (h : w.Linked env) {answer : ConnectAnswer}
    (he : w.enabled env (.monitorNew answer) = true) :
    (w.goes env (.monitorNew answer)).Linked env := by
  have hcached := Udev.step_cached w.lib (env, .monitorNewFromNetlink answer) h.cached
  unfold goes
  dsimp only
  cases hc : opened env answer with
  | none =>
    exact ⟨{ h.toJoined with monitor := nofun, cached := hcached }, nofun, nofun, nofun⟩
  | some c =>
    obtain ⟨hscan, hnew, hnone⟩ := fresh_of_enabled hc he
    obtain ⟨-, hgot, -, hout⟩ := h.toJoined.fresh hnew
    have hjoined := h.toJoined.asks hnew hnone (Or.inr rfl)
    have hrecords := @Codec.records_of_lt _ hotplugMessageCodec [] (by decide)
    refine ⟨{ hjoined with
      monitor := fun c' hc' => ?_
      scan := fun c' a hs => ?_
      cached := hcached }, fun c' hc' _ => ?_, fun c' hc' hs => ?_, fun c' a c'' hs => ?_⟩
    · obtain rfl := Option.some.inj hc'
      unfold opened at hc
      obtain ⟨fd, hfd, rfl⟩ := Option.map_eq_some_iff.mp hc
      have hb := backend_of_opened hfd
      refine ⟨Function.update_self .., hb, ?_⟩
      show 0 ≤ (w.lib.step (env, .monitorNewFromNetlink answer)).monitorFd
      simp only [Udev.step, hb, hfd]
      exact UdevMonitor.connectBridge_nonneg hfd
    · rw [show w.scan = some (c', a) from hs] at hscan
      cases hscan
    · obtain rfl := Option.some.inj hc'
      show hotplugMessageCodec.remainder (w.got c) = [] ∧
        [] = (hotplugMessageCodec.records (w.got c)).map handedOut
      rw [hgot, hrecords.1, hrecords.2]
      exact ⟨rfl, rfl⟩
    · obtain rfl := Option.some.inj hc'
      obtain ⟨j, hj, -⟩ := hs
      exact absurd ⟨j, hj⟩ hout
    · rw [show w.scan = some (c', a) from hs] at hscan
      cases hscan

theorem scan_linked (h : w.Linked env) {answer : ConnectAnswer}
    (he : w.enabled env (.scan answer) = true) : (w.goes env (.scan answer)).Linked env := by
  unfold goes
  dsimp only
  cases hc : opened env answer with
  | none =>
    refine h.lib (Udev.step_cached _ _ h.cached) (scan_monitorFd env w.lib answer)
      fun c' hc' hs => ?_
    -- the backend is enabled where there is a monitor, so the scan failed
    have hnone : Udev.answered env answer = none := by
      unfold Udev.answered
      refine if_pos (.inl ?_)
      rw [Option.isNone_iff_eq_none]
      exact Option.map_eq_none_iff.mp hc
    rw [Udev.scan_unanswered (h.monitor c' hc').2.1 hnone]
    exact h.known c' hc' hs
  | some c =>
    obtain ⟨-, hnew, hnone⟩ := fresh_of_enabled hc he
    obtain ⟨-, hgot, hqueued, -⟩ := h.toJoined.fresh hnew
    have hjoined := h.toJoined.asks hnew hnone (Or.inl rfl)
    refine ⟨{ hjoined with scan := fun c' a hs => ?_ }, h.whole, h.known,
      fun c' a c'' hs _ _ d rest hq => ?_⟩
    · cases hs
      refine ⟨Function.update_self .., ?_, hgot⟩
      unfold opened at hc
      obtain ⟨fd, hfd, -⟩ := Option.map_eq_some_iff.mp hc
      rw [hfd]
      rfl
    · cases hs
      rw [show queuedOn c w.bridge.log = [] from hqueued] at hq
      cases hq

theorem unref_linked (h : w.Linked env) : (w.goes env .monitorUnref).Linked env :=
  ⟨{ h.toJoined with monitor := nofun, cached := Udev.step_cached w.lib (env, .monitorUnref) h.cached },
    nofun, nofun, nofun⟩

/-! ## 6. What the library receives -/

/-- The next bytes on a connection of the library. -/
theorem Joined.gets (h : w.Joined env) {received : List UInt8}
    (hsent : w.got c ++ received <+: sentOn c w.bridge.log)
    (hscan : ∀ c' answer, w.scan = some (c', answer) → c' ≠ c) :
    { w with got := Function.update w.got c (w.got c ++ received) }.Joined env := by
  refine { h with got := fun c' => ?_, scan := fun c' answer hs => ?_ }
  · show Function.update w.got c _ c' <+: _
    by_cases hcc : c' = c
    · subst hcc
      rw [Function.update_self]
      exact hsent
    · rw [Function.update_of_ne hcc]
      exact h.got c'
  · obtain ⟨hasked, hopen, hgot⟩ := h.scan c' answer hs
    refine ⟨hasked, hopen, ?_⟩
    show Function.update w.got c _ c' = []
    rw [Function.update_of_ne (hscan c' answer hs)]
    exact hgot

/-- **What a scan is answered** on a connection: the descriptor that was queued first. -/
theorem Joined.reply (h : w.Joined env) {received : List UInt8}
    (hsent : received <+: sentOn c w.bridge.log)
    (hlen : received.length = deviceDescriptorCodec.size)
    (hmagic : (deviceDescriptorCodec.dec received).magic = deviceMagic) :
    ∃ rest, queuedOn c w.bridge.log =
      .descriptor (deviceDescriptorCodec.dec received) :: rest := by
  obtain ⟨opcode, answer, inputs, hb⟩ := h.reached
  rw [hb] at hsent ⊢
  obtain ⟨t, ht⟩ := hsent.trans (Bridge.sentOn_prefix opcode answer inputs c)
  have hreads : ∀ {d rest}, queuedOn c (run Bridge.step (Bridge.boot opcode answer) inputs).log =
      .descriptor d :: rest → deviceDescriptorCodec.dec received = d := by
    intro d rest hq
    rw [hq] at ht
    have hdec := congrArg deviceDescriptorCodec.dec ht
    rw [deviceDescriptorCodec.dec_append received t (Nat.le_of_eq hlen.symm)] at hdec
    exact hdec.trans (deviceDescriptorCodec.dec_enc_append d _)
  rcases Bridge.run_opening opcode answer inputs c with hnone | ⟨pre, ms, rest, ho⟩
  · rw [hnone] at ht
    have hnil : received = [] := (List.append_eq_nil_iff.mp ht).1
    rw [hnil] at hlen
    exact absurd hlen (by decide)
  have hq := ho.queued
  cases ho.replies with
  | nil => exact absurd rfl ho.some
  | absent _ _ =>
    rw [hreads hq]
    exact ⟨_, hq⟩
  | cut =>
    rw [hreads hq]
    exact ⟨_, hq⟩
  | snapshot _ _ =>
    rw [hreads hq]
    exact ⟨_, hq⟩
  | monitor _ =>
    -- a hotplug message has another magic
    rw [hq] at ht
    have hword := congrArg Codec.u32.dec ht
    rw [Codec.u32.dec_append received t (by rw [hlen]; decide)] at hword
    have hhotplug := hmagic.symm.trans (hword.trans (congrArg HotplugMessage.magic
      (hotplugMessageCodec.dec_enc_append (monitorReply _) _)))
    exact absurd (show deviceMagic = hotplugMagic from hhotplug) (by decide)

theorem scanned_linked (h : w.Linked env) {received : List UInt8}
    (he : w.enabled env (.scanned received) = true) :
    (w.goes env (.scanned received)).Linked env := by
  unfold goes
  unfold enabled at he
  dsimp only at he ⊢
  cases hscan : w.scan with
  | none => exact h
  | some s =>
    obtain ⟨c, answer⟩ := s
    rw [hscan] at he
    obtain ⟨hasked, -, hgot⟩ := h.scan c answer hscan
    have hsent : w.got c ++ received <+: sentOn c w.bridge.log := by
      rw [Option.any_some, Bool.and_eq_true_iff] at he
      exact of_decide_eq_true he.1
    have hne : ∀ c', w.monitor = some c' → c' ≠ c := by
      rintro c' hc' rfl
      have hm := (h.monitor c' hc').1
      rw [hasked] at hm
      exact absurd (congrArg (Option.map ControlMessage.command) hm) (by decide)
    have hjoined : { w with
        scan := none
        got := Function.update w.got c (w.got c ++ received) }.Joined env :=
      Joined.gets (w := { w with scan := none })
        { h.toJoined with scan := nofun } hsent nofun
    have hsettled : ∀ c', w.monitor = some c' → Settled { w with
        scan := none
        got := Function.update w.got c (w.got c ++ received) } c' → w.Settled c' := by
      rintro c' hc' ⟨j, hj, hkind, hlen⟩
      refine ⟨j, hj, hkind, ?_⟩
      dsimp only at hlen
      rwa [Function.update_of_ne (hne c' hc')] at hlen
    have hlinked : { w with
        scan := none
        got := Function.update w.got c (w.got c ++ received) }.Linked env := by
      refine ⟨hjoined, fun c' hc' hin => ?_, fun c' hc' hs => ?_, nofun⟩
      · show hotplugMessageCodec.remainder (Function.update w.got c _ c') = [] ∧
          w.told = (hotplugMessageCodec.records (Function.update w.got c _ c')).map handedOut
        rw [Function.update_of_ne (hne c' hc')]
        exact h.whole c' hc' hin
      · exact h.known c' hc' (hsettled c' hc' hs)
    have hcached := Udev.step_cached w.lib
      (env, .enumerateScanDevices { answer with received := received }) h.cached
    refine hlinked.lib hcached (scan_monitorFd env w.lib _) fun c' hc' hs => ?_
    have hold := hsettled c' hc' hs
    show (w.lib.step (env, .enumerateScanDevices { answer with received := received })).descriptor =
      w.bridge.deviceDescriptor
    cases ha : Udev.answered env { answer with received := received } with
    | none =>
      rw [Udev.scan_unanswered (h.monitor c' hc').2.1 ha]
      exact h.known c' hc' hold
    | some d =>
      rw [Udev.scan_answered ha]
      unfold Udev.answered at ha
      split at ha
      · cases ha
      rename_i hopen
      dsimp only at ha
      split at ha
      · cases ha
      rename_i hgood
      obtain rfl := Option.some.inj ha
      obtain ⟨-, hlen⟩ := not_or.mp hopen
      obtain ⟨hmagic, -⟩ := not_or.mp hgood
      rw [hgot, List.nil_append] at hsent
      obtain ⟨rest, hq⟩ := h.toJoined.reply hsent (not_not.mp hlen) (not_not.mp hmagic)
      exact h.waiting c answer c' hscan hc' hold _ rest hq

/-- A message received on a monitor that stands is one of its chronicle. -/
theorem Joined.message (h : w.Joined env) (hmon : w.monitor = some c)
    (hin : w.Connected c) (hwhole : hotplugMessageCodec.remainder (w.got c) = [])
    {received : List UInt8} (hsent : w.got c ++ received <+: sentOn c w.bridge.log)
    (hlen : received.length = hotplugMessageCodec.size) :
    hotplugMessageCodec.records (w.got c ++ received) =
        hotplugMessageCodec.records (w.got c) ++ [hotplugMessageCodec.dec received] ∧
      hotplugMessageCodec.remainder (w.got c ++ received) = [] ∧
      (hotplugMessageCodec.dec received).magic = hotplugMagic ∧
      (hotplugMessageCodec.dec received).version = controlVersion := by
  have hroom : (hotplugMessageCodec.remainder (w.got c) ++ received).length ≤
      hotplugMessageCodec.size := by
    rw [hwhole]
    exact Nat.le_of_eq hlen
  have hpush := hotplugMessageCodec.records_push (by decide) (w.got c) hroom
  rw [hwhole, List.nil_append] at hpush
  rcases hpush with ⟨hlt, -⟩ | ⟨-, hrecords, hrest⟩
  · rw [hlen] at hlt
    exact absurd hlt (Nat.lt_irrefl _)
  refine ⟨hrecords, hrest, ?_⟩
  obtain ⟨j, hj⟩ := hin
  have hjoined := h.gets hsent fun c' answer hs => by
    rintro rfl
    have hasked := (h.scan c' answer hs).1
    rw [(h.monitor c' hmon).1] at hasked
    exact absurd (congrArg (Option.map ControlMessage.command) hasked) (by decide)
  have hgot : ({ w with got := Function.update w.got c (w.got c ++ received) } : UdevWorld).got c =
      w.got c ++ received := Function.update_self ..
  rcases hjoined.monitor_slot (h.monitor c hmon).1 hj with ⟨-, hempty⟩ | ⟨-, ms, hslot⟩
  · have hnil := hjoined.got_queued hj
    rw [hgot, show (w.bridge.clients j).queued = [] from hempty] at hnil
    have := congrArg List.length (List.prefix_nil.mp hnil)
    rw [List.length_append, hlen] at this
    exact absurd this (by simp)
  · have hmem : hotplugMessageCodec.dec received ∈ ms := by
      refine hslot.received.subset ?_
      rw [hgot, hrecords]
      exact List.mem_append_right _ (List.mem_singleton_self _)
    obtain ⟨d, hd⟩ := hslot.chronicle
    rw [hd.honest _ hmem]
    exact ⟨rfl, rfl⟩

theorem receiveDevice_monitorFd (env : Env) (u : Udev) (received : List UInt8) :
    (u.receiveDevice env received).1.monitorFd = u.monitorFd := by
  unfold Udev.receiveDevice Udev.updateDescriptor
  dsimp only
  split
  · rfl
  · split
    · rfl
    · split <;> rfl

/-- The device is handed out. -/
theorem receiveDevice_message {u : Udev} (hb : env.backendEnabled = true) (hfd : 0 ≤ u.monitorFd)
    {received : List UInt8} (hlen : received.length = hotplugMessageCodec.size)
    (hmagic : (hotplugMessageCodec.dec received).magic = hotplugMagic)
    (hversion : (hotplugMessageCodec.dec received).version = controlVersion) :
    (u.receiveDevice env received).2 = true ∧
      (u.receiveDevice env received).1.descriptor =
        (hotplugMessageCodec.dec received).descriptor ∧
      (u.receiveDevice env received).1.eventAction =
        handedOut (hotplugMessageCodec.dec received) := by
  have hopen : ¬((!env.backendEnabled) = true ∨ u.monitorFd < 0) := by
    rw [hb]
    rintro (h | h)
    · cases h
    · omega
  have hgood : ¬(received.length ≠ hotplugMessageCodec.size ∨
      (hotplugMessageCodec.dec received).magic ≠ hotplugMagic ∨
      (hotplugMessageCodec.dec received).version ≠ controlVersion) := by
    simp [hlen, hmagic, hversion]
  unfold Udev.receiveDevice
  rw [if_neg hopen]
  dsimp only
  rw [if_neg hgood]
  refine ⟨rfl, ?_, rfl⟩
  simp only [Udev.updateDescriptor, hb, Bool.not_true, if_neg Bool.false_ne_true]

/-- No device is handed out where the message is not whole. -/
theorem receiveDevice_short (u : Udev) {received : List UInt8}
    (hlen : received.length ≠ hotplugMessageCodec.size) :
    u.receiveDevice env received = (u, false) := by
  unfold Udev.receiveDevice
  split
  · rfl
  · dsimp only
    rw [if_pos (Or.inl hlen)]

theorem receive_linked (h : w.Linked env) {received : List UInt8}
    (he : w.enabled env (.monitorReceive received) = true)
    (huncut : w.uncut (.monitorReceive received) = true) :
    (w.goes env (.monitorReceive received)).Linked env := by
  unfold goes
  unfold enabled at he
  unfold uncut at huncut
  dsimp only at he huncut ⊢
  cases hmon : w.monitor with
  | none => exact h
  | some c =>
    rw [hmon] at he huncut
    rw [Option.all_some, Bool.and_eq_true_iff, Bool.and_eq_true_iff, decide_eq_true_iff,
      Option.isNone_iff_eq_none] at he
    rw [Option.all_some, Bool.or_eq_true_iff, Bool.or_eq_true_iff, Bool.not_eq_true',
      decide_eq_true_iff, decide_eq_true_iff, decide_eq_false_iff_not, or_assoc] at huncut
    obtain ⟨hscan, hsent, -⟩ := he
    obtain ⟨hasked, hb, hfd⟩ := h.monitor c hmon
    have hgets := h.toJoined.gets hsent (by rw [hscan]; exact nofun)
    have hcached := Udev.step_cached w.lib (env, .monitorReceiveDevice received) h.cached
    have hself : Function.update w.got c (w.got c ++ received) c = w.got c ++ received :=
      Function.update_self ..
    refine ⟨{ hgets with monitor := fun c' hc' => ?_, cached := hcached }, fun c' hc' hin => ?_,
      fun c' hc' hs => ?_, fun c' a c'' hs => ?_⟩
    · obtain ⟨h1, h2, h3⟩ := h.monitor c' hc'
      refine ⟨h1, h2, ?_⟩
      show 0 ≤ (w.lib.receiveDevice env received).1.monitorFd
      rw [receiveDevice_monitorFd]
      exact h3
    · obtain rfl : c = c' := Option.some.inj (hmon.symm.trans hc')
      obtain ⟨hrest, htold⟩ := h.whole c hmon hin
      show hotplugMessageCodec.remainder (Function.update w.got c _ c) = [] ∧
        w.told ++ (if (w.lib.receiveDevice env received).2 then
            [(w.lib.receiveDevice env received).1.eventAction] else []) =
          (hotplugMessageCodec.records (Function.update w.got c _ c)).map handedOut
      rw [hself]
      by_cases hnil : received = []
      · rw [hnil, receiveDevice_short w.lib (by decide), List.append_nil, htold]
        exact ⟨hrest, List.append_nil _⟩
      · have hin' : w.Connected c := by
          refine hin.resolve_right fun hnew => hnil ?_
          rw [h.sound.tracked.unseen_sent hnew] at hsent
          exact (List.append_eq_nil_iff.mp (List.prefix_nil.mp hsent)).2
        have hlen := (huncut.resolve_left hnil).resolve_right (not_not.mpr hin')
        obtain ⟨hrecords, hrest', hmagic, hversion⟩ :=
          h.toJoined.message hmon hin' hrest hsent hlen
        obtain ⟨hok, -, haction⟩ := receiveDevice_message (u := w.lib) hb hfd hlen hmagic hversion
        rw [hrecords, hok, haction, htold, List.map_append]
        exact ⟨hrest', rfl⟩
    · obtain rfl : c = c' := Option.some.inj (hmon.symm.trans hc')
      show (w.lib.receiveDevice env received).1.descriptor = w.bridge.deviceDescriptor
      obtain ⟨j, hj, hkind, hcount⟩ := id hs
      have hin : w.Connected c := ⟨j, hj⟩
      obtain ⟨hrest, -⟩ := h.whole c hmon (Or.inl hin)
      by_cases hnil : received = []
      · rw [hnil, receiveDevice_short w.lib (by decide)]
        refine h.known c hmon ⟨j, hj, hkind, ?_⟩
        dsimp only at hcount
        rwa [hself, hnil, List.append_nil] at hcount
      · have hlen := (huncut.resolve_left hnil).resolve_right (not_not.mpr hin)
        obtain ⟨hrecords, -, hmagic, hversion⟩ := h.toJoined.message hmon hin hrest hsent hlen
        obtain ⟨-, hdescriptor, -⟩ := receiveDevice_message (u := w.lib) hb hfd hlen hmagic hversion
        have hlast := hgets.settled_last hasked ⟨j, hj, hkind, hcount⟩
        dsimp only at hlast
        rw [hself, hrecords, List.getLast?_concat] at hlast
        rw [hdescriptor]
        exact Option.some.inj hlast
    · rw [show w.scan = some (c', a) from hs] at hscan
      cases hscan

/-! ## 7. Runs -/

theorem start_linked (opcode : Int) (answer : DeviceAnswer) : (start opcode answer).Linked env :=
  ⟨{ reached := ⟨opcode, answer, [], rfl⟩
     serves := nofun
     commands := nofun
     fits := nofun
     unseen := fun _ _ => rfl
     got := fun _ => List.nil_prefix
     monitor := nofun
     scan := nofun
     cached := Udev.loaded_cached }, nofun, nofun, nofun⟩

/-- No receive of the run is cut short. -/
def Uncut (env : Env) (opcode : Int) (answer : DeviceAnswer) (inputs : List Input) : Prop :=
  Throughout (step env) (fun w inp => w.uncut inp = true) (start opcode answer) inputs

instance (env : Env) (opcode : Int) (answer : DeviceAnswer) (inputs : List Input) :
    Decidable (Uncut env opcode answer inputs) := decidableThroughout inputs _

/-- **Every run without a cut keeps the invariant.** -/
theorem run_linked {opcode : Int} {answer : DeviceAnswer} {inputs : List Input}
    (huncut : Uncut env opcode answer inputs) :
    (run (step env) (start opcode answer) inputs).Linked env := by
  refine run_throughout (P := Linked env) (fun w inp h hi => ?_) (start_linked opcode answer) huncut
  unfold step
  split
  · rename_i he
    cases inp with
    | bridge inp => exact bridge_linked h he
    | monitorNew answer => exact monitorNew_linked h he
    | monitorReceive received => exact receive_linked h he hi
    | monitorUnref => exact unref_linked h
    | scan answer => exact scan_linked h he
    | scanned received => exact scanned_linked h he
    | enumerate call => exact enumerate_linked h (Bool.and_eq_true_iff.mp he).2
  · exact h

/-! ## 8. What the application sees -/

/-- An honest message hands out what its descriptor says. -/
theorem handedOut_honest {m : HotplugMessage} (h : m = monitorReply m.descriptor) :
    (m.descriptor.present = 0 ∧ m.action = hotplugRemove ∧ handedOut m = 2) ∨
      (m.descriptor.present ≠ 0 ∧ m.action = hotplugAdd ∧ handedOut m = 1) := by
  have haction : m.action = (monitorReply m.descriptor).action := congrArg HotplugMessage.action h
  have hne : hotplugAdd ≠ hotplugRemove := by decide
  unfold handedOut
  rw [haction]
  unfold monitorReply
  by_cases hp : m.descriptor.present = 0
  · exact Or.inl ⟨hp, by simp [hp], by simp [hp]⟩
  · exact Or.inr ⟨hp, by simp [hp], by simp [hp, hne]⟩

/-- **Devices come and go in turn**: in every run in which no receive is cut short, what a monitor
    that stands has handed out are additions and removals, alternating. -/
theorem monitor_alternates (env : Env) (opcode : Int) (answer : DeviceAnswer) (inputs : List Input)
    (huncut : Uncut env opcode answer inputs) (c : Conn)
    (hmon : (run (step env) (start opcode answer) inputs).monitor = some c)
    (hin : (run (step env) (start opcode answer) inputs).Connected c) :
    (run (step env) (start opcode answer) inputs).told.IsChain (· ≠ ·) ∧
      ∀ a ∈ (run (step env) (start opcode answer) inputs).told, a = 1 ∨ a = 2 := by
  have h := run_linked huncut
  generalize run (step env) (start opcode answer) inputs = w at h hmon hin
  obtain ⟨-, htold⟩ := h.whole c hmon (Or.inl hin)
  have hall : ∀ a ∈ w.told, a = 1 ∨ a = 2 := by
    intro a ha
    rw [htold] at ha
    obtain ⟨m, -, rfl⟩ := List.mem_map.mp ha
    unfold handedOut
    split
    · exact Or.inr rfl
    · exact Or.inl rfl
  refine ⟨?_, hall⟩
  obtain ⟨j, hj⟩ := hin
  rw [htold, List.isChain_map]
  rcases h.toJoined.monitor_slot (h.monitor c hmon).1 hj with ⟨-, hempty⟩ | ⟨-, ms, hslot⟩
  · have hgot := h.toJoined.got_queued hj
    rw [hempty] at hgot
    rw [List.prefix_nil.mp hgot, (@Codec.records_of_lt _ hotplugMessageCodec [] (by decide)).1]
    exact List.IsChain.nil
  · obtain ⟨d, hd⟩ := hslot.chronicle
    have hchain := hd.alternates.prefix hslot.received
    refine hchain.imp_of_mem_imp fun m m' hm hm' hne heq => hne ?_
    rcases handedOut_honest (hd.honest m (hslot.received.subset hm)) with ⟨-, ha, h1⟩ | ⟨-, ha, h1⟩ <;>
      rcases handedOut_honest (hd.honest m' (hslot.received.subset hm')) with
        ⟨-, ha', h2⟩ | ⟨-, ha', h2⟩
    · exact ha.trans ha'.symm
    · rw [h1, h2] at heq
      cases heq
    · rw [h1, h2] at heq
      cases heq
    · exact ha.trans ha'.symm

theorem AtRest.settled (h : w.Linked env) (hr : w.AtRest c) : w.Settled c := by
  obtain ⟨j, hj, hout, hcontrol⟩ := hr.slot
  obtain ⟨hasked, -, -⟩ := h.monitor c hr.monitor
  have hup : w.taken c = controlMessageCodec.enc (Udev.bridgeCommand controlMonitor) := by
    have hgiven := hr.up
    rw [hasked] at hgiven
    exact Option.some.inj hgiven
  cases (h.serves c _ hasked).slot j hj with
  | waiting hcommands htaken =>
    rw [show (w.bridge.clients j).control = _ from htaken, hup] at hcontrol
    exact absurd (congrArg List.length hcontrol) (by decide)
  | stream d batches hm => exact absurd hm (by decide)
  | monitor d ms hm htaken hcommands hctl hkind hqueued =>
    refine ⟨j, hj, hkind, ?_⟩
    have hwhole : (w.bridge.clients j).sent ++ (w.bridge.clients j).output =
        (w.bridge.clients j).queued.flatMap Message.bytes := by
      obtain ⟨opcode, answer, inputs, hb⟩ := h.reached
      rw [hb]
      exact Bridge.run_whole opcode answer inputs j
    have hq : (w.bridge.clients j).queued = ms.map .hotplug := hqueued
    rw [hout, List.append_nil, hq, flatMap_hotplugs] at hwhole
    rw [hr.down, h.sound.tracked.sent_eq hj, hwhole, hotplugMessageCodec.records_encAll (by decide),
      hq, Bridge.hotplugs_map]

/-- **The library's replica.** In every run of the bridge and a process with the library, in any
    order of their steps and whatever scans come in between, as long as no receive is cut short:
    whenever the monitor is open at both ends and nothing is on its way on it, the library knows the
    device the bridge has, lists it exactly if it is there, and the last device it handed out said
    so. -/
theorem udev_replica (env : Env) (opcode : Int) (answer : DeviceAnswer) (inputs : List Input)
    (huncut : Uncut env opcode answer inputs) (c : Conn)
    (hr : (run (step env) (start opcode answer) inputs).AtRest c) :
    let w := run (step env) (start opcode answer) inputs
    w.lib.descriptor = w.bridge.deviceDescriptor ∧
      w.lib.vendorString = formatHex4 w.bridge.deviceDescriptor.vendorId ∧
      w.lib.productString = formatHex4 w.bridge.deviceDescriptor.productId ∧
      w.lib.getListEntry env = (w.lib.matchedInput && decide (0 ≤ w.bridge.lorieDeviceId)) ∧
      w.told.getLast? = some (if 0 ≤ w.bridge.lorieDeviceId then 1 else 2) := by
  intro w
  have h : w.Linked env := run_linked huncut
  have hr : w.AtRest c := hr
  generalize w = w at h hr
  have hs := hr.settled h
  have hknown := h.known c hr.monitor hs
  obtain ⟨hasked, hb, -⟩ := h.monitor c hr.monitor
  have hpresent : (w.bridge.deviceDescriptor.present = 1 ∧ 0 ≤ w.bridge.lorieDeviceId) ∨
      (w.bridge.deviceDescriptor.present = 0 ∧ w.bridge.lorieDeviceId < 0) := by
    obtain ⟨opcode, answer, inputs, heq⟩ := h.reached
    rw [heq]
    exact (Bridge.run_announced opcode answer inputs).present
  refine ⟨hknown, ?_, ?_, ?_, ?_⟩
  · rw [h.cached.vendor, hknown]
  · rw [h.cached.product, hknown]
  · unfold Udev.getListEntry
    rw [hknown, hb]
    rcases hpresent with ⟨hp, hid⟩ | ⟨hp, hid⟩
    · rw [hp]
      simp [hid]
    · rw [hp]
      have hno : ¬0 ≤ w.bridge.lorieDeviceId := by omega
      simp [hno]
  · obtain ⟨j, hj, hkind, hlen⟩ := hs
    obtain ⟨-, htold⟩ := h.whole c hr.monitor (Or.inl ⟨j, hj⟩)
    rcases h.toJoined.monitor_slot hasked hj with ⟨hnone, -⟩ | ⟨-, ms, hslot⟩
    · rw [hkind] at hnone
      cases hnone
    rw [hslot.queued, Bridge.hotplugs_map] at hlen
    obtain ⟨d, hd⟩ := hslot.chronicle
    rw [htold, hslot.settled hlen, List.getLast?_map]
    cases hlast : ms.getLast? with
    | none =>
      have := hd.last
      rw [hlast] at this
      cases this
    | some m =>
      have hm : m.descriptor = w.bridge.deviceDescriptor := by
        have := hd.last
        rw [hlast] at this
        exact Option.some.inj this
      have hhonest := handedOut_honest (hd.honest m (List.mem_of_getLast? hlast))
      rw [hm] at hhonest
      rw [Option.map_some]
      rcases hpresent with ⟨hp, hid⟩ | ⟨hp, hid⟩ <;> rcases hhonest with ⟨hp', -, hout⟩ | ⟨hp', -, hout⟩
      · rw [hp] at hp'
        cases hp'
      · rw [hout, if_pos hid]
      · rw [hout, if_neg (by omega)]
      · exact absurd hp hp'

/-- The library attaches, and the device goes while a scan is under way. -/
def unplugged : List Input :=
  let answer : ConnectAnswer := { socket := 0, connect := 0, send := 16, received := [] }
  let first : List Bridge.Input :=
    [Bridge.quietly (.accept (.conn 0 true)),
      { Bridge.quietly (.readable Bridge.slot0 (.data (Bridge.commandBytes controlMonitor))) with
        sends := [.sent 4095] },
      Bridge.quietly (.accept (.conn 1 true)),
      { Bridge.quietly (.readable Bridge.slot1 (.data (Bridge.commandBytes controlQueryDescriptor)))
        with sends := [.sent 4095, .sent 4095] },
      { Bridge.quietly (.xEvent (.hierarchyChanged Bridge.noAnswer)) with sends := [.sent 4095] }]
  let log := (run Bridge.step (Bridge.boot 1 Bridge.padAnswer) first).log
  [.monitorNew answer, .enumerate .enumerateNew,
    .enumerate (.enumerateAddMatchSubsystem (some (ascii "input")))] ++ (first.take 2).map .bridge ++
  [.monitorReceive ((sentOn 0 log).take 96), .scan { answer with socket := 1 }] ++
  (first.drop 2).map .bridge ++
  [.scanned ((sentOn 1 log).take 88), .monitorReceive ((sentOn 0 log).drop 96)]

theorem unplugged_atRest :
    (run (step plainEnv) (start 1 Bridge.padAnswer) unplugged).AtRest 0 := by
  have hrest : ∀ w, w = run (step plainEnv) (start 1 Bridge.padAnswer) unplugged →
      (w.monitor = some 0 ∧ w.got 0 = sentOn 0 w.bridge.log ∧
        some (w.taken 0) = (w.asked 0).map controlMessageCodec.enc) ∧
      ((w.bridge.clients Bridge.slot0).fd = some 0 ∧ (w.bridge.clients Bridge.slot0).output = [] ∧
        (w.bridge.clients Bridge.slot0).control = []) := by
    intro w hw
    rw [hw]
    decide +kernel
  obtain ⟨w, hw⟩ : ∃ w, w = run (step plainEnv) (start 1 Bridge.padAnswer) unplugged := ⟨_, rfl⟩
  obtain ⟨⟨hmonitor, hdown, hup⟩, hslot⟩ := hrest w hw
  rw [← hw]
  exact ⟨hmonitor, ⟨_, hslot⟩, hdown, hup⟩

/-- The scan found the device, and the monitor took it away again. -/
theorem udev_replica_unplugged :
    (run (step plainEnv) (start 1 Bridge.padAnswer) unplugged).told = [1, 2] ∧
      (run (step plainEnv) (start 1 Bridge.padAnswer) unplugged).lib.getListEntry plainEnv = false ∧
      (run (step plainEnv) (start 1 Bridge.padAnswer) unplugged).lib.descriptor =
        (run (step plainEnv) (start 1 Bridge.padAnswer) unplugged).bridge.deviceDescriptor := by
  have h := udev_replica plainEnv 1 Bridge.padAnswer unplugged (by decide +kernel) 0 unplugged_atRest
  exact ⟨by decide +kernel, by decide +kernel, h.1⟩

theorem monitor_alternates_unplugged :
    (run (step plainEnv) (start 1 Bridge.padAnswer) unplugged).told.IsChain (· ≠ ·) :=
  (monitor_alternates plainEnv 1 Bridge.padAnswer unplugged (by decide +kernel) 0
    (by decide +kernel) (by decide +kernel)).1

end UdevWorld

end TermuxGamepad
