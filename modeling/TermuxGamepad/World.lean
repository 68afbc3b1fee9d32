/-
  File:      TermuxGamepad/World.lean
  Subject:   A handle of the library and the bridge, over their sockets.

  `World` runs both machines in any order. A connection is a reliable byte stream: what has been
  received on it is a beginning of what was sent (`enabled`). The controller state travels on the
  event stream and the descriptor on the monitor, and a removal clears the state without a word on
  the event stream. What ties the two is `Bridge.Covers`: the stream tells the state, or a removal
  is on its way on the monitor, and the handle closes the stream when that arrives. So the handle
  shows what the bridge has whenever nothing is on its way (`library_replica`).
-/
import TermuxGamepad.Bridge.Replies
import TermuxGamepad.Client.Sockets

namespace TermuxGamepad

open Wire

/-! ## 1. Both machines -/

/-- The bridge, a handle with its sockets, and the bytes the bridge received on each connection. -/
structure World where
  bridge : Bridge
  peer : Peer
  taken : Conn → List UInt8

namespace World

/-- The bridge is up, and the handle is about to open its monitor. -/
def start (opcode : Int) (answer : DeviceAnswer) : World :=
  { bridge := Bridge.boot opcode answer, peer := Peer.create, taken := fun _ => [] }

inductive Input where
  | bridge (inp : Bridge.Input)
  | handle (inp : Handle.Input)

/-- What the sockets allow the bridge: a connection the handle made brings what the handle gave it
    next. Connections of other clients bring anything. -/
def bridgeEnabled (w : World) (a : Bridge.Action) : Bool :=
  match a with
  | .readable i _ =>
    match (w.bridge.clients i).fd with
    | some c =>
      (w.peer.asked c).isNone || decide (w.taken c ++ w.bridge.takes a c <+: w.peer.given c)
    | none => true
  | _ => true

/-- What they allow the handle: a connection it makes is one nobody has accepted, and what arrives
    on one is what the bridge sent next. The application refreshes and updates. -/
def handleEnabled (w : World) (inp : Handle.Input) : Bool :=
  match inp with
  | .answer (.connected fd) => decide (fd ∉ w.bridge.seen)
  | .answer (.bytes bs) =>
    match w.peer.handle.reads with
    | some (fd, room) => decide (w.peer.got fd ++ bs.take room <+: sentOn fd w.bridge.log)
    | none => true
  | inp => inp.reading

/-- One step of either; what the sockets do not allow is no input. -/
def step (w : World) (inp : Input) : World :=
  match inp with
  | .bridge inp =>
    if w.bridgeEnabled inp.action then
      { w with
        bridge := w.bridge.step inp
        taken := fun c => w.taken c ++ w.bridge.takes inp.action c }
    else w
  | .handle inp => if w.handleEnabled inp then { w with peer := w.peer.step inp } else w

/-! ## 2. At rest -/

/-- The connection is open at the bridge, and no byte is in flight or buffered on it there. -/
structure Idle (w : World) (c : Conn) : Prop where
  slot : ∃ i, (w.bridge.clients i).fd = some c ∧ (w.bridge.clients i).output = [] ∧
    (w.bridge.clients i).control = []
  down : w.peer.got c = sentOn c w.bridge.log
  up : w.taken c = w.peer.given c

/-- **At rest**: monitor and event stream are open at both ends, and no byte is in flight or
    buffered on either. -/
structure AtRest (w : World) (c e : Conn) : Prop where
  monitorFd : w.peer.handle.monitorFd = some c
  eventFd : w.peer.handle.eventFd = some e
  monitorBuffer : w.peer.handle.monitorBuffer = []
  eventBuffer : w.peer.handle.eventBuffer = []
  monitor : w.Idle c
  stream : w.Idle e

/-! ## 3. The invariant -/

/-- Both machines, and what was received of what was sent. -/
structure Joined (w : World) : Prop where
  reached : ∃ opcode answer inputs,
    w.bridge = run Bridge.step (Bridge.boot opcode answer) inputs
  kept : w.peer.Kept
  serves : ∀ c m, w.peer.asked c = some m → w.bridge.ServesOn c m (w.taken c)
  unseen : ∀ c, c ∉ w.bridge.seen → w.taken c = []
  taken : ∀ c, w.peer.asked c ≠ none → w.taken c <+: w.peer.given c
  got : ∀ c, w.peer.got c <+: sentOn c w.bridge.log

/-- The number of hotplug messages the handle has applied. -/
def applied (w : World) (c : Conn) : Nat :=
  (hotplugMessageCodec.records (w.peer.got c)).length

/-- **The invariant**: the stream of the handle tells the state, or a removal is on its way. -/
structure Linked (w : World) : Prop extends Joined w where
  covers : ∀ e c, w.peer.HasStream e → w.peer.handle.monitorFd = some c →
    w.bridge.Covers e c (w.applied c)

variable {w w' : World} {c e : Conn}

namespace Joined

theorem sound (h : w.Joined) : Bridge.Sound w.bridge := by
  obtain ⟨opcode, answer, inputs, hb⟩ := h.reached
  rw [hb]
  exact Bridge.run_sound opcode answer inputs

theorem inRange (h : w.Joined) : w.bridge.state.InRange := by
  obtain ⟨opcode, answer, inputs, hb⟩ := h.reached
  rw [hb]
  exact Bridge.run_inRange opcode answer inputs

theorem whole (h : w.Joined) (i : Slot) : (w.bridge.clients i).toLink.Whole := by
  obtain ⟨opcode, answer, inputs, hb⟩ := h.reached
  rw [hb]
  exact Bridge.run_whole opcode answer inputs i

theorem announced (h : w.Joined) : Bridge.Announced w.bridge := by
  obtain ⟨opcode, answer, inputs, hb⟩ := h.reached
  rw [hb]
  exact Bridge.run_announced opcode answer inputs

/-- What the handle got was sent from the slot. -/
theorem got_sent (h : w.Joined) {i : Slot} (hi : (w.bridge.clients i).fd = some c) :
    w.peer.got c <+: (w.bridge.clients i).sent := by
  rw [← h.sound.tracked.sent_eq hi]
  exact h.got c

/-- Where something was got, something was queued. -/
theorem queued_ne (h : w.Joined) {i : Slot} (hi : (w.bridge.clients i).fd = some c)
    (hgot : w.peer.got c ≠ []) : (w.bridge.clients i).queued ≠ [] := by
  intro hq
  have hwhole : (w.bridge.clients i).sent ++ (w.bridge.clients i).output =
      (w.bridge.clients i).queued.flatMap Message.bytes := h.whole i
  rw [hq] at hwhole
  have hsent := (List.append_eq_nil_iff.mp hwhole).1
  have hfront := h.got_sent hi
  rw [hsent] at hfront
  exact hgot (List.prefix_nil.mp hfront)

end Joined

/-- A monitor that is open has told something. -/
theorem records_ne {p : Peer} (h : p.Monitors c) : hotplugMessageCodec.records (p.got c) ≠ [] := by
  intro hnil
  have hlast := h.descriptor fun m hm => by
    rw [hnil] at hm
    cases hm
  rw [hnil] at hlast
  cases hlast

theorem got_ne {p : Peer} (h : p.Monitors c) : p.got c ≠ [] := by
  intro hnil
  refine records_ne h ?_
  rw [hnil]
  exact (@Codec.records_of_lt _ hotplugMessageCodec [] (by decide)).1

/-- The slot of the handle's monitor. -/
structure MonitorSlot (w : World) (c : Conn) (j : Slot) (ms : List HotplugMessage) : Prop where
  kind : (w.bridge.clients j).kind = .monitor
  queued : (w.bridge.clients j).queued = ms.map .hotplug
  applied : hotplugMessageCodec.records (w.peer.got c) <+: ms
  wellFormed : ∀ x ∈ ms, Handle.wellFormed x = true
  last : ms.getLast?.map HotplugMessage.descriptor = some w.bridge.deviceDescriptor

theorem Joined.monitor_slot (h : w.Joined) (hc : w.peer.handle.monitorFd = some c) {j : Slot}
    (hj : (w.bridge.clients j).fd = some c) : ∃ ms, w.MonitorSlot c j ms := by
  have hmon := h.kept.monitor c hc
  have hq := h.queued_ne hj (got_ne hmon)
  cases (h.serves c _ hmon.asked).slot j hj with
  | waiting hcommands hcontrol hkind hqueued => exact absurd hqueued hq
  | stream d batches hm => exact absurd hm (by decide)
  | monitor d ms hm htaken hcommands hcontrol hkind hqueued =>
    refine ⟨ms, hkind, hqueued, ?_, ?_, ?_⟩
    · have hwhole : (w.bridge.clients j).sent ++ (w.bridge.clients j).output =
          hotplugMessageCodec.encAll ms := by
        rw [← flatMap_hotplugs, ← hqueued]
        exact h.whole j
      have hfront : w.peer.got c <+: hotplugMessageCodec.encAll ms := by
        rw [← hwhole]
        exact (h.got_sent hj).trans (List.prefix_append _ _)
      have hrecords := hotplugMessageCodec.records_prefix (by decide) hfront
      rwa [hotplugMessageCodec.records_encAll (by decide)] at hrecords
    all_goals
      have hchronicle : Chronicle d w.bridge.deviceDescriptor ms := by
        rcases h.announced.monitors j with hfree | hok
        · rw [congrArg Link.fd hfree] at hj
          cases hj
        · have hlist := (hok.asked d ⟨[], monitorCommand, [], hcommands, rfl, nofun, nofun⟩).2
          rw [hqueued, Bridge.hotplugs_map] at hlist
          exact hlist
    · intro x hx
      rw [hchronicle.honest x hx]
      rfl
    · exact hchronicle.last

/-! ## 4. Steps -/

/-- What the bridge takes off a connection the handle made was given. -/
theorem Joined.fits (h : w.Joined) {a : Bridge.Action} (he : w.bridgeEnabled a = true)
    (hc : w.peer.asked c ≠ none) : w.taken c ++ w.bridge.takes a c <+: w.peer.given c := by
  have hnothing : w.bridge.takes a c = [] → w.taken c ++ w.bridge.takes a c <+: w.peer.given c := by
    intro hnil
    rw [hnil, List.append_nil]
    exact h.taken c hc
  cases a with
  | readable i r =>
    by_cases hfd : (w.bridge.clients i).fd = some c
    · unfold bridgeEnabled at he
      dsimp only at he
      rw [hfd] at he
      simpa [Option.isNone_iff_eq_none, hc] using he
    · exact hnothing (if_neg hfd)
  | _ => exact hnothing rfl

/-- A step of the bridge sends more on every connection. -/
theorem sentOn_step (b : Bridge) (inp : Bridge.Input) (c : Conn) :
    sentOn c b.log <+: sentOn c (b.step inp).log := by
  obtain ⟨l, hl⟩ := Bridge.act_log (b.withEnv inp.sends inp.ticks inp.stamps) inp.action
  have hlog : (b.step inp).log = b.log ++ l := hl
  rw [hlog, sentOn_append]
  exact List.prefix_append _ _

/-- **A step of the bridge.** -/
theorem bridge_linked (h : w.Linked) {inp : Bridge.Input} (he : w.bridgeEnabled inp.action = true) :
    Linked { w with
      bridge := w.bridge.step inp
      taken := fun c => w.taken c ++ w.bridge.takes inp.action c } := by
  set b := w.bridge.withEnv inp.sends inp.ticks inp.stamps with hb
  have ht : Bridge.Tracked b := (h.sound.env inp.sends inp.ticks inp.stamps).tracked
  refine ⟨⟨?_, h.kept, fun c m hm => ?_, fun c hc => ?_, fun c hc => h.fits he hc, fun c => ?_⟩,
    fun e c hs hc => ?_⟩
  · obtain ⟨opcode, answer, inputs, heq⟩ := h.reached
    refine ⟨opcode, answer, inputs ++ [inp], ?_⟩
    rw [run_concat, ← heq]
  · have hasked : w.peer.asked c = some m := hm
    obtain ⟨hcases, hgiven⟩ := h.kept.commands c m hasked
    have hcommand : m.command = controlQueryDescriptor ∨ m.command = controlMonitor := by
      rcases hcases with rfl | rfl
      · exact Or.inr rfl
      · exact Or.inl rfl
    have hserves : b.ServesOn c m (w.taken c) :=
      ⟨(h.serves c m hasked).slot, (h.serves c m hasked).unseen⟩
    exact hserves.act ht hcommand ((h.fits he (by rw [hasked]; exact nofun)).trans hgiven)
  · have hc' : c ∉ b.seen := fun hs => hc (Bridge.act_seen b inp.action hs)
    show w.taken c ++ b.takes inp.action c = []
    rw [h.unseen c hc', Bridge.takes_unseen ht inp.action hc']
    rfl
  · exact (h.got c).trans (sentOn_step w.bridge inp c)
  · have hseen : c ∈ b.seen := by
      by_contra hno
      have hfront := h.got c
      rw [h.sound.tracked.unseen_sent hno] at hfront
      exact got_ne (h.kept.monitor c hc) (List.prefix_nil.mp hfront)
    have hcovers : b.Covers e c (w.applied c) := h.covers e c hs hc
    refine hcovers.act h.inRange hseen (fun j hj => ?_) fun j hj => ?_
    · obtain ⟨ms, hslot⟩ := h.monitor_slot hc hj
      exact hslot.kind
    · obtain ⟨ms, hslot⟩ := h.monitor_slot hc hj
      show _ ≤ (hotplugs (w.bridge.clients j).queued).length
      rw [hslot.queued, Bridge.hotplugs_map]
      exact hslot.applied.length_le

/-- The bytes a step of the handle gives and gets, and the connection it makes. -/
theorem step_sockets (p : Peer) (inp : Handle.Input) (c : Conn) :
    p.given c <+: (p.step inp).given c ∧
      ((p.step inp).got c = p.got c ∨ ∃ bs room, inp = .answer (.bytes bs) ∧
        p.handle.reads = some (c, room) ∧ (p.step inp).got c = p.got c ++ bs.take room) ∧
      ((p.step inp).asked c = p.asked c ∨ p.asked c = none ∧ inp = .answer (.connected c)) := by
  have hsame : p.given c <+: p.given c := List.prefix_rfl
  unfold Peer.step
  dsimp only
  split
  · rename_i t fd hpc
    split
    · exact ⟨hsame, Or.inl rfl, Or.inl rfl⟩
    · rename_i hnew
      refine ⟨hsame, Or.inl rfl, ?_⟩
      by_cases hc : c = fd
      · subst hc
        exact Or.inr ⟨by simpa using hnew, rfl⟩
      · exact Or.inl (Function.update_of_ne hc ..)
  · rename_i t fd unsent n hpc
    refine ⟨?_, Or.inl rfl, Or.inl rfl⟩
    by_cases hc : c = fd
    · subst hc
      show _ <+: Function.update p.given c _ c
      rw [Function.update_self]
      exact List.prefix_append _ _
    · show _ <+: Function.update p.given fd _ c
      rw [Function.update_of_ne hc]
  · rename_i bs
    split
    · rename_i fd room hreads
      refine ⟨hsame, ?_, Or.inl rfl⟩
      by_cases hc : c = fd
      · subst hc
        exact Or.inr ⟨bs, room, rfl, hreads, Function.update_self ..⟩
      · exact Or.inl (Function.update_of_ne hc ..)
    · exact ⟨hsame, Or.inl rfl, Or.inl rfl⟩
  · exact ⟨hsame, Or.inl rfl, Or.inl rfl⟩

/-- A step of the handle keeps what both have in common. -/
theorem handle_joined (h : w.Joined) {inp : Handle.Input} (he : w.handleEnabled inp = true)
    (hkept : (w.peer.step inp).Kept) : Joined { w with peer := w.peer.step inp } := by
  have hnew : ∀ c, inp = .answer (.connected c) → c ∉ w.bridge.seen := by
    rintro c rfl
    exact of_decide_eq_true he
  refine ⟨h.reached, hkept, fun c m hm => ?_, h.unseen, fun c hc => ?_, fun c => ?_⟩
  · rcases (step_sockets w.peer inp c).2.2 with hsame | ⟨-, hinp⟩
    · exact h.serves c m (hsame.symm.trans hm)
    · refine ⟨fun i hi => ?_, h.unseen c⟩
      exact absurd (h.sound.tracked.isSeen i c hi) (hnew c hinp)
  · rcases (step_sockets w.peer inp c).2.2 with hsame | ⟨-, hinp⟩
    · exact (h.taken c (by rw [← hsame]; exact hc)).trans (step_sockets w.peer inp c).1
    · show w.taken c <+: _
      rw [h.unseen c (hnew c hinp)]
      exact List.nil_prefix
  · show (w.peer.step inp).got c <+: sentOn c w.bridge.log
    rcases (step_sockets w.peer inp c).2.1 with hsame | ⟨bs, room, rfl, hreads, hgot⟩
    · rw [hsame]
      exact h.got c
    · rw [hgot]
      unfold handleEnabled at he
      dsimp only at he
      rw [hreads] at he
      exact of_decide_eq_true he

/-- **A step of the handle**: a message it applies while its stream stays open tells of no
    removal, so one that is on its way still is. -/
theorem handle_linked (h : w.Linked) {inp : Handle.Input} (he : w.handleEnabled inp = true) :
    Linked { w with peer := w.peer.step inp } := by
  have hread : inp.reading = true := by
    unfold handleEnabled at he
    cases inp with
    | answer a => rfl
    | _ => exact he
  have hgoes := w.peer.step_goes h.kept hread
  have hjoined := handle_joined h.toJoined he hgoes.kept
  refine ⟨hjoined, fun e c hs hc i j hi hj => ?_⟩
  obtain ⟨hcold, hrecords⟩ := hgoes.monitor e c hs hc
  rcases hgoes.streams e hs with hold | rfl
  · rcases h.covers e c hold hcold i j hi hj with hviews | hpending
    · exact Or.inl hviews
    · right
      rcases hrecords with hsame | ⟨m, hmore, hpresent⟩
      · show ∃ x ∈ (hotplugs _).drop (hotplugMessageCodec.records ((w.peer.step inp).got c)).length, _
        rw [hsame]
        exact hpending
      · obtain ⟨ms, hslot⟩ := hjoined.monitor_slot hc hj
        obtain ⟨x, hx, hp⟩ := hpending
        have hqueued : hotplugs (w.bridge.clients j).queued = ms := by
          rw [show (w.bridge.clients j).queued = _ from hslot.queued, Bridge.hotplugs_map]
        have happlied : hotplugMessageCodec.records (w.peer.got c) ++ [m] <+: ms := by
          rw [← hmore]
          exact hslot.applied
        obtain ⟨rest, hrest⟩ := happlied
        have hdrop : ms.drop (w.applied c) = m :: rest := by
          rw [← hrest, List.append_assoc]
          exact List.drop_left
        have hdrop' : ms.drop (applied { w with peer := w.peer.step inp } c) = rest := by
          show ms.drop (hotplugMessageCodec.records ((w.peer.step inp).got c)).length = rest
          rw [hmore, ← hrest]
          exact List.drop_left
        rw [hqueued, hdrop] at hx
        refine ⟨x, ?_, hp⟩
        show x ∈ (hotplugs (w.bridge.clients j).queued).drop _
        rw [hqueued, hdrop']
        rcases List.mem_cons.mp hx with rfl | hx
        · have hmem : x ∈ ms := by
            rw [← hrest]
            exact List.mem_append_left _ (List.mem_append_right _ (List.mem_singleton_self x))
          exact absurd hp (hpresent (hslot.wellFormed x hmem))
        · exact hx
  · exact absurd (h.sound.tracked.isSeen i e hi) (of_decide_eq_true he)

theorem start_linked (opcode : Int) (answer : DeviceAnswer) : Linked (start opcode answer) where
  reached := ⟨opcode, answer, [], rfl⟩
  kept := Peer.create_kept
  serves := nofun
  unseen := fun _ _ => rfl
  taken := fun _ h => absurd rfl h
  got := fun _ => List.nil_prefix
  covers := nofun

/-- **Every run keeps the invariant.** -/
theorem run_linked (opcode : Int) (answer : DeviceAnswer) (inputs : List Input) :
    (run step (start opcode answer) inputs).Linked := by
  refine run_inv (P := Linked) (fun w inp h => ?_) (start_linked opcode answer) inputs
  cases inp with
  | bridge inp =>
    unfold step
    dsimp only
    split
    · rename_i he
      exact bridge_linked h he
    · exact h
  | handle inp =>
    unfold step
    dsimp only
    split
    · rename_i he
      exact handle_linked h he
    · exact h

/-! ## 5. The replica -/

theorem reports_batches (batches : List (List InputEvent)) :
    reports (batches.map Message.events) = batches.flatten.map InputEvent.report := by
  induction batches with
  | nil => rfl
  | cons evs batches ih =>
    rw [List.flatten_cons, List.map_append, ← ih]
    rfl

/-- The descriptor of a handle at rest. -/
theorem descriptor_at_rest (h : w.Linked) (hr : w.AtRest c e) {j : Slot}
    (hj : (w.bridge.clients j).fd = some c) (hout : (w.bridge.clients j).output = []) :
    ∃ ms, w.MonitorSlot c j ms ∧ hotplugMessageCodec.records (w.peer.got c) = ms ∧
      w.peer.handle.descriptor = copyDescriptor w.bridge.deviceDescriptor := by
  obtain ⟨ms, hslot⟩ := h.monitor_slot hr.monitorFd hj
  have hgot : w.peer.got c = hotplugMessageCodec.encAll ms := by
    have hwhole : (w.bridge.clients j).sent ++ (w.bridge.clients j).output =
        (w.bridge.clients j).queued.flatMap Message.bytes := h.whole j
    rw [hout, List.append_nil, hslot.queued, flatMap_hotplugs] at hwhole
    rw [hr.monitor.down, h.sound.tracked.sent_eq hj, hwhole]
  have hrecords : hotplugMessageCodec.records (w.peer.got c) = ms := by
    rw [hgot]
    exact hotplugMessageCodec.records_encAll (by decide) ms
  refine ⟨ms, hslot, hrecords, ?_⟩
  have hlast := (h.kept.monitor c hr.monitorFd).descriptor (by rw [hrecords]; exact hslot.wellFormed)
  rw [hrecords] at hlast
  have hdescriptor := hslot.last
  cases hms : ms.getLast? with
  | none =>
    rw [hms] at hlast
    cases hlast
  | some m =>
    rw [hms] at hlast hdescriptor
    have hm : m.descriptor = w.bridge.deviceDescriptor := Option.some.inj hdescriptor
    rw [← hm]
    exact (Option.some.inj hlast).symm

/-- The state of a handle at rest: the fold of all that was queued on its stream. -/
theorem state_at_rest (h : w.Linked) (hr : w.AtRest c e) {i : Slot}
    (hi : (w.bridge.clients i).fd = some e) (hout : (w.bridge.clients i).output = []) :
    EventClient (w.bridge.clients i).commands ∧ ∃ es : List InputEvent,
      reports (w.bridge.clients i).queued = es.map InputEvent.report ∧
        w.peer.handle.state = LibraryState.replayed es := by
  have hstr := h.kept.stream e hr.eventFd
  have hq : (w.bridge.clients i).queued ≠ [] := by
    refine h.queued_ne hi fun hnil => ?_
    have hlen := hstr.length
    rw [hnil] at hlen
    exact absurd hlen (by decide)
  cases (h.serves e _ hstr.asked).slot i hi with
  | waiting hcommands hcontrol hkind hqueued => exact absurd hqueued hq
  | monitor d ms hm => exact absurd hm (by decide)
  | stream d batches hm htaken hcommands hcontrol hkind hqueued =>
    have hgot : w.peer.got e =
        deviceDescriptorCodec.enc d ++ inputEventCodec.encAll batches.flatten := by
      have hwhole : (w.bridge.clients i).sent ++ (w.bridge.clients i).output =
          (w.bridge.clients i).queued.flatMap Message.bytes := h.whole i
      rw [hout, List.append_nil, show (w.bridge.clients i).queued = _ from hqueued,
        List.flatMap_cons, flatMap_batches] at hwhole
      rw [hr.stream.down, h.sound.tracked.sent_eq hi, hwhole]
      rfl
    have hdrop : (w.peer.got e).drop deviceDescriptorCodec.size =
        inputEventCodec.encAll batches.flatten := by
      rw [hgot, ← deviceDescriptorCodec.enc_length d]
      exact List.drop_left
    have husable := hstr.usable
    rw [hgot, deviceDescriptorCodec.dec_enc_append] at husable
    have hpresent : d.present ≠ 0 := by
      simpa using (Bool.and_eq_true_iff.mp husable).2
    refine ⟨⟨⟨(queryCommand, d), ?_, rfl, hpresent⟩, fun x hx => ?_⟩, batches.flatten, ?_, ?_⟩
    · rw [show (w.bridge.clients i).commands = _ from hcommands]
      exact List.mem_singleton_self _
    · rw [show (w.bridge.clients i).commands = _ from hcommands] at hx
      rw [List.mem_singleton.mp hx]
      show controlQueryDescriptor ≠ controlMonitor
      decide
    · rw [show (w.bridge.clients i).queued = _ from hqueued, ← reports_batches]
      rfl
    · rw [hstr.state, hdrop, inputEventCodec.records_encAll (by decide)]

/-- **The library's replica.** In every run of the bridge and a handle, in any order of their steps
    and any splitting of the bytes: whenever the handle's monitor and event stream are open at both
    ends and nothing is on its way on either, the handle's state is the image of the bridge's, and
    its descriptor a copy of the bridge's. -/
theorem library_replica (opcode : Int) (answer : DeviceAnswer) (inputs : List Input) (c e : Conn)
    (hr : (run step (start opcode answer) inputs).AtRest c e) :
    Image (run step (start opcode answer) inputs).bridge.state
        (run step (start opcode answer) inputs).peer.handle.state ∧
      (run step (start opcode answer) inputs).peer.handle.descriptor =
        copyDescriptor (run step (start opcode answer) inputs).bridge.deviceDescriptor := by
  have h := run_linked opcode answer inputs
  generalize run step (start opcode answer) inputs = w at h hr
  obtain ⟨j, hj, houtj, -⟩ := hr.monitor.slot
  obtain ⟨i, hi, houti, -⟩ := hr.stream.slot
  obtain ⟨ms, hslot, hrecords, hdescriptor⟩ := descriptor_at_rest h hr hj houtj
  obtain ⟨hclient, es, hreports, hstate⟩ := state_at_rest h hr hi houti
  refine ⟨?_, hdescriptor⟩
  rcases h.covers e c (Or.inl hr.eventFd) hr.monitorFd i j hi hj with hviews | ⟨x, hx, -⟩
  · have htells := (hviews hclient).tells
    rw [show reports (w.bridge.clients i).toLink.queued = _ from hreports] at htells
    rw [hstate]
    exact image_of_tells h.inRange htells
  · have hqueued : hotplugs (w.bridge.clients j).queued = ms := by
      rw [hslot.queued, Bridge.hotplugs_map]
    rw [hqueued, applied, hrecords, List.drop_length] at hx
    cases hx

/-- What the bridge does while a handle attaches: the monitor is accepted and answered, then the
    event stream, and in between the stick moves. -/
def attaching : List Bridge.Input :=
  [Bridge.quietly (.accept (.conn 0 true)),
    { Bridge.quietly (.readable Bridge.slot0 (.data (Bridge.commandBytes controlMonitor))) with
      sends := [.sent 4095] },
    Bridge.quietly (.xEvent (.device ⟨.motion, 5, 5, 0, [true], [1000]⟩)),
    Bridge.quietly (.accept (.conn 1 true)),
    { Bridge.quietly (.readable Bridge.slot1 (.data (Bridge.commandBytes controlQueryDescriptor)))
      with sends := [.sent 4095, .sent 4095] }]

/-- A handle attaches, and an update drains the snapshot. -/
def attached : List Input :=
  let wire := (run Bridge.step (Bridge.boot 1 Bridge.padAnswer) attaching).log
  [.handle (.answer (.connected 0)), .handle (.answer (.accepted 15))] ++
  (attaching.take 3).map .bridge ++
  [.handle (.answer (.bytes (sentOn 0 wire))), .handle (.answer .done),
    .handle (.answer (.connected 1)), .handle (.answer (.accepted 15))] ++
  (attaching.drop 3).map .bridge ++
  [.handle (.answer (.bytes ((sentOn 1 wire).take deviceDescriptorCodec.size))),
    .handle (.answer .done), .handle .update, .handle (.answer .again)] ++
  ((List.range 21).map fun k => .handle (.answer (.bytes
    (((sentOn 1 wire).drop (deviceDescriptorCodec.size + 24 * k)).take 24)))) ++
  [.handle (.answer .again)]

/-- Then nothing is on its way. -/
theorem attached_atRest : (run step (start 1 Bridge.padAnswer) attached).AtRest 0 1 := by
  have hrest : ∀ w, w = run step (start 1 Bridge.padAnswer) attached →
      (w.peer.handle.monitorFd = some 0 ∧ w.peer.handle.eventFd = some 1 ∧
        w.peer.handle.monitorBuffer = [] ∧ w.peer.handle.eventBuffer = []) ∧
      ∀ c : Fin 2, ((w.bridge.clients ⟨c, Nat.lt_trans c.isLt (by decide)⟩).fd = some c.val ∧
          (w.bridge.clients ⟨c, Nat.lt_trans c.isLt (by decide)⟩).output = [] ∧
          (w.bridge.clients ⟨c, Nat.lt_trans c.isLt (by decide)⟩).control = []) ∧
        w.peer.got c = sentOn c w.bridge.log ∧ w.taken c = w.peer.given c := by
    rintro w rfl
    decide +kernel
  obtain ⟨w, hw⟩ : ∃ w, w = run step (start 1 Bridge.padAnswer) attached := ⟨_, rfl⟩
  obtain ⟨⟨hmonitor, hevent, hmbuf, hebuf⟩, hidle⟩ := hrest w hw
  rw [← hw]
  exact ⟨hmonitor, hevent, hmbuf, hebuf, ⟨⟨_, (hidle 0).1⟩, (hidle 0).2.1, (hidle 0).2.2⟩,
    ⟨⟨_, (hidle 1).1⟩, (hidle 1).2.1, (hidle 1).2.2⟩⟩

/-- The stick is where the handle shows it. -/
theorem library_replica_attached :
    (run step (start 1 Bridge.padAnswer) attached).peer.handle.state.axes 0 = 1000 ∧
      Image (run step (start 1 Bridge.padAnswer) attached).bridge.state
        (run step (start 1 Bridge.padAnswer) attached).peer.handle.state ∧
      (run step (start 1 Bridge.padAnswer) attached).peer.handle.descriptor =
        copyDescriptor (run step (start 1 Bridge.padAnswer) attached).bridge.deviceDescriptor :=
  ⟨by decide +kernel, library_replica 1 Bridge.padAnswer attached 0 1 attached_atRest⟩

end World

end TermuxGamepad
