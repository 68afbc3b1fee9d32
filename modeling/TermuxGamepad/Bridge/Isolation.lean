/-
  File:      TermuxGamepad/Bridge/Isolation.lean
  Subject:   A client sees what it would see if the bridge served it alone.

  `Private` is the bridge of one client, without a table, buffers or sockets: what is known of the
  device (`Pad`) and what the client was told (`Subscriber`), up to the time stamps of the records.
  Three things reach it: an X event, the acceptance of the connection, and the bytes the connection
  brings. `heard` is what a step of the bridge is for a connection; the other clients are no part
  of it. `bridge_serves_alone` says that the bridge refines the private bridge of every connection
  it has, and `clients_isolated` that runs which are the same for a client tell it the same.
-/
import TermuxGamepad.Bridge.Replies

namespace TermuxGamepad

open Wire

/-! ## 1. The device, without clients -/

/-- What the bridge knows of the controller. -/
structure Pad where
  state : GamepadState
  deviceId : Int
  capabilities : UInt16
  descriptor : DeviceDescriptor

/-- A record whose time stamp does not count. -/
def timelessRecord (r : UInt16 × UInt16 × Int32) : InputEvent :=
  { time := ⟨0, 0⟩, type := r.1, code := r.2.1, value := r.2.2 }

/-- A message up to the time stamps of its records. -/
def Message.timeless : Message → Message
  | .events evs => .events (evs.map fun e => timelessRecord e.body)
  | m => m

/-- The device a search finds: the first pointer that answers for itself. -/
def XIDeviceInfo.accepted (d : XIDeviceInfo) : Option FoundDevice :=
  if d.use = .floatingSlave ∨ d.use = .slavePointer then
    (d.reply.filter fun r => r.present && (r.deviceId.toNat : Int) == d.deviceid).map fun r =>
      { deviceId := d.deviceid, capabilities := r, name := nameField (d.name.getD lorieGamepadName) }
  else none

def DeviceAnswer.found (answer : DeviceAnswer) : Option FoundDevice :=
  answer.devices.bind (List.findSome? XIDeviceInfo.accepted)

namespace Pad

/-- A bridge that knows this much and has no client. -/
def bridge (p : Pad) : Bridge :=
  { Bridge.init 0 with
    state := p.state
    lorieDeviceId := p.deviceId
    lorieCapabilities := p.capabilities
    deviceDescriptor := p.descriptor }

def start : Pad :=
  { state := GamepadState.zero, deviceId := -1, capabilities := 0,
    descriptor := (Bridge.init 0).deviceDescriptor }

/-- After a removal. -/
def gone (p : Pad) : Pad :=
  { state := GamepadState.zero, deviceId := -1, capabilities := 0,
    descriptor := { p.descriptor with present := 0, deviceId := -1 } }

/-- After an addition. -/
def came (p : Pad) (f : FoundDevice) : Pad :=
  { state := p.state, deviceId := f.deviceId, capabilities := f.capabilities.capabilities,
    descriptor := Bridge.foundDescriptor f }

/-- The removal, where there is a device, and what monitors are told of it. -/
def withdraw (p : Pad) : Pad × List Message :=
  if 0 ≤ p.deviceId then (p.gone, [.hotplug (monitorReply p.gone.descriptor)]) else (p, [])

/-- A look at the devices, and what monitors are told. -/
def look (p : Pad) (answer : DeviceAnswer) : Pad × List Message :=
  match answer.found with
  | none => p.withdraw
  | some f =>
    if p.bridge.sameDevice f then (p, [])
    else if 0 ≤ f.deviceId ∧ answer.selectOk then
      (p.withdraw.1.came f, p.withdraw.2 ++ [.hotplug (monitorReply (Bridge.foundDescriptor f))])
    else p.withdraw

/-- A device event, and what event clients are told. -/
def play (p : Pad) (e : XIDeviceEvent) : Pad × List Message :=
  if e.deviceid ≠ p.deviceId ∧ e.sourceid ≠ p.deviceId then (p, [])
  else
    let batch := p.bridge.eventBatch e
    ({ p with state := batch.1.state },
      if batch.2 = [] then []
      else [.events ((batch.2.map InputEvent.body ++ [Bridge.synBody]).map timelessRecord)])

/-- An X event: the device after it, and what the clients of one kind are told. -/
def tell (p : Pad) : Bridge.XEvent → Pad × ClientKind × List Message
  | .hierarchyChanged answer => ((p.look answer).1, .monitor, (p.look answer).2)
  | .device e => ((p.play e).1, .events, (p.play e).2)

/-- The records of a snapshot. -/
def snapshot (p : Pad) : List InputEvent :=
  (Bridge.snapshotRecords p.state).map fun r => timelessRecord (r.1, r.2.1, Int32.ofInt r.2.2)

end Pad

/-! ## 2. One client -/

/-- What a client was told, as what, and the beginning of its next command. -/
structure Subscriber where
  kind : ClientKind
  control : List UInt8
  queued : List Message

namespace Subscriber

def fresh : Subscriber := { kind := .uninitialized, control := [], queued := [] }

def hear (s : Subscriber) (kind : ClientKind) (ms : List Message) : Subscriber :=
  if s.kind = kind then { s with queued := s.queued ++ ms } else s

/-- A command, and the reply to it. Rumble is no matter between client and stream. -/
def execute (p : Pad) (s : Subscriber) (m : ControlMessage) : Subscriber :=
  if m.command = controlQueryDescriptor then
    { s with
      kind := .events
      queued := s.queued ++
        .descriptor p.descriptor :: if p.descriptor.present = 0 then [] else [.events p.snapshot] }
  else if m.command = controlMonitor then
    { s with kind := .monitor, queued := s.queued ++ [.hotplug (monitorReply p.descriptor)] }
  else s

/-- The whole commands that have arrived. -/
def drain (p : Pad) (s : Subscriber) : Subscriber :=
  (controlMessageCodec.records s.control).foldl (execute p)
    { s with control := controlMessageCodec.remainder s.control }

def receive (p : Pad) (s : Subscriber) (bs : List UInt8) : Subscriber :=
  drain p { s with control := s.control ++ bs }

end Subscriber

/-- What reaches one connection. -/
inductive Stimulus where
  | event (e : Bridge.XEvent)
  | accepted
  | bytes (bs : List UInt8)
  deriving DecidableEq, Repr

/-- The bridge of one client. -/
structure Private where
  pad : Pad
  subscriber : Subscriber

namespace Private

def start (opcode : Int) (answer : DeviceAnswer) : Private :=
  { pad := if opcode ≥ 0 then (Pad.start.look answer).1 else Pad.start, subscriber := Subscriber.fresh }

def step (p : Private) : Stimulus → Private
  | .event e =>
    { pad := (p.pad.tell e).1, subscriber := p.subscriber.hear (p.pad.tell e).2.1 (p.pad.tell e).2.2 }
  | .accepted => { p with subscriber := Subscriber.fresh }
  | .bytes bs => { p with subscriber := p.subscriber.receive p.pad bs }

end Private

/-! ## 3. What the bridge has of both -/

def Bridge.pad (b : Bridge) : Pad :=
  { state := b.state, deviceId := b.lorieDeviceId, capabilities := b.lorieCapabilities,
    descriptor := b.deviceDescriptor }

def Link.subscriber (l : Link) : Subscriber :=
  { kind := l.kind, control := l.control, queued := l.queued.map Message.timeless }

namespace Bridge

/-- What a step is for a connection. -/
def heard (b : Bridge) (inp : Input) (c : Conn) : List Stimulus :=
  match inp.action with
  | .xEvent e => [.event e]
  | .accept _ => if c ∉ b.seen ∧ ∃ i, ((b.step inp).clients i).fd = some c then [.accepted] else []
  | .readable i r =>
    if (b.clients i).fd = some c then [.bytes (received (b.clients i).toLink r)] else []
  | _ => []

/-- What a run is for a connection. -/
def view (c : Conn) : Bridge → List Input → List Stimulus
  | _, [] => []
  | b, inp :: inputs => b.heard inp c ++ view c (b.step inp) inputs

/-! ## 4. An event of the device -/

/-- Two batches under construction that agree in the state and up to time stamps. -/
structure AlikeBatch (p p' : Batch) : Prop where
  state : p.1.state = p'.1.state
  bodies : p.2.map InputEvent.body = p'.2.map InputEvent.body

theorem AlikeBatch.append {p p' : Batch} (h : AlikeBatch p p') (s : GamepadState)
    (type code : UInt16) (value : Int) :
    AlikeBatch (appendEvent (p.1.setState s, p.2) type code value)
      (appendEvent (p'.1.setState s, p'.2) type code value) where
  state := rfl
  bodies := by rw [appendEvent_body, appendEvent_body, h.bodies]

theorem motionLoop_alike (mask : List Bool) (axis : Nat) (values : List Int) {p p' : Batch}
    (h : AlikeBatch p p') :
    AlikeBatch (motionLoop mask axis values p) (motionLoop mask axis values p') := by
  induction mask generalizing axis values p p' with
  | nil => exact h
  | cons bit mask ih =>
    cases bit with
    | false => exact ih (axis + 1) values h
    | true =>
      refine ih (axis + 1) values.tail ?_
      dsimp only
      split
      · rw [h.state]
        split
        · exact h.append ..
        · exact h
      · exact h

theorem updateHats_alike {p p' : Batch} (h : AlikeBatch p p') :
    AlikeBatch (updateHatY (updateHatX p)) (updateHatY (updateHatX p')) := by
  have hx : AlikeBatch (updateHatX p) (updateHatX p') := by
    unfold updateHatX
    dsimp only
    rw [h.state]
    split
    · exact h.append ..
    · exact h
  unfold updateHatY
  dsimp only
  rw [hx.state]
  split
  · exact hx.append ..
  · exact hx

/-- **A batch depends on the controller state alone**, up to its time stamps. -/
theorem eventBatch_alike {b b' : Bridge} (h : b.state = b'.state) (e : XIDeviceEvent) :
    AlikeBatch (b.eventBatch e) (b'.eventBatch e) := by
  have hnil : AlikeBatch (b, []) (b', []) := ⟨h, rfl⟩
  have hbutton : ∀ detail pressed,
      AlikeBatch (b.buttonChange detail pressed) (b'.buttonChange detail pressed) := by
    intro detail pressed
    have hset : AlikeBatch (b.setState (b.state.setButton detail pressed), [])
        (b'.setState (b'.state.setButton detail pressed), []) := ⟨by rw [h]; rfl, rfl⟩
    unfold buttonChange
    dsimp only
    rw [h] at hset ⊢
    split
    · exact hnil
    split
    · exact updateHats_alike hset
    split
    · exact hset.append _ evKey (buttonCode detail) pressed.toInt
    · exact hset
  unfold eventBatch
  split
  · exact motionLoop_alike _ _ _ hnil
  · split
    · exact hbutton ..
    · exact hnil
  · split
    · exact hbutton ..
    · exact hnil
  · exact hnil

end Bridge

/-- A client that is still connected was so before, and heard the messages if it is of the kind. -/
def Link.Hears (kind : ClientKind) (ms : List Message) (l l' : Link) : Prop :=
  ∀ c, l'.fd = some c → l.fd = some c ∧ l'.subscriber = l.subscriber.hear kind ms

theorem Subscriber.hear_nil (s : Subscriber) (kind : ClientKind) : s.hear kind [] = s := by
  unfold hear
  split
  · rw [List.append_nil]
  · rfl

theorem Subscriber.hear_append (s : Subscriber) (kind : ClientKind) (ms ms' : List Message) :
    (s.hear kind ms).hear kind ms' = s.hear kind (ms ++ ms') := by
  unfold hear
  by_cases h : s.kind = kind
  · rw [if_pos h, if_pos h, if_pos h, List.append_assoc]
  · rw [if_neg h, if_neg h, if_neg h]

theorem Link.Hears.refl (kind : ClientKind) (l : Link) : l.Hears kind [] l := fun _ hc =>
  ⟨hc, (l.subscriber.hear_nil kind).symm⟩

theorem Link.Hears.trans {kind : ClientKind} {ms ms' : List Message} {l l' l'' : Link}
    (h : l.Hears kind ms l') (h' : l'.Hears kind ms' l'') : l.Hears kind (ms ++ ms') l'' := by
  intro c hc
  obtain ⟨hc', hs'⟩ := h' c hc
  obtain ⟨hc, hs⟩ := h c hc'
  exact ⟨hc, by rw [hs', hs, Subscriber.hear_append]⟩

/-- Messages that joined the link, up to their time stamps. -/
theorem Link.Grew.subscriber {l l' : Link} {ms : List Message} (h : l.Grew l' ms) :
    l'.subscriber =
      { l.subscriber with queued := l.subscriber.queued ++ ms.map Message.timeless } := by
  unfold Link.subscriber
  rw [h.kind, h.control, h.queued, List.map_append]

theorem Link.Kept.quiet {l l' : Link} (h : l.Kept l' []) (kind : ClientKind) :
    l.Hears kind [] l' := by
  intro c hc
  rcases h with rfl | hg
  · cases hc
  · refine ⟨hg.fd.symm.trans hc, ?_⟩
    rw [hg.subscriber, Subscriber.hear_nil, List.map_nil, List.append_nil]

namespace Bridge

/-- **A broadcast is heard** by the clients of its kind. -/
theorem broadcast_hears (b : Bridge) (kind : ClientKind) (m : Message) (i : Slot) :
    (b.clients i).toLink.Hears kind [m.timeless] ((b.broadcast kind m).clients i).toLink := by
  intro c hc
  rcases broadcast_kept b kind m i with hfree | hg
  · rw [hfree] at hc
    cases hc
  · have hfd := hg.fd.symm.trans hc
    refine ⟨hfd, ?_⟩
    rw [hg.subscriber]
    unfold offered Subscriber.hear Link.subscriber
    rw [hfd]
    by_cases hkind : (b.clients i).kind = kind
    · simp [hkind]
    · simp [hkind]

theorem timeless_batch {evs : List InputEvent} {rs : List (UInt16 × UInt16 × Int32)}
    (h : evs.map InputEvent.body = rs) :
    (Message.events evs).timeless = .events (rs.map timelessRecord) := by
  rw [← h, List.map_map]
  rfl

/-- What an operation on the device does: to the device, and to every client. -/
structure Tells (b b' : Bridge) (kind : ClientKind) (p : Pad) (ms : List Message) : Prop where
  pad : b'.pad = p
  links : ∀ i, (b.clients i).toLink.Hears kind ms (b'.clients i).toLink

/-- **A device event** is what it is without clients, and the event clients hear of it. -/
theorem processXiEvent_tells (b : Bridge) (e : XIDeviceEvent) :
    b.Tells (b.processXiEvent e b.lorieDeviceId) .events (b.pad.play e).1 (b.pad.play e).2 := by
  have hstate : b.state = b.pad.bridge.state := rfl
  have halike := eventBatch_alike hstate e
  have hnil : (b.eventBatch e).2 = [] ↔ (b.pad.bridge.eventBatch e).2 = [] := by
    rw [← List.map_eq_nil_iff, halike.bodies, List.map_eq_nil_iff]
  obtain ⟨s, ts, hsame⟩ := eventBatch_same b e
  by_cases hother : e.deviceid ≠ b.lorieDeviceId ∧ e.sourceid ≠ b.lorieDeviceId
  · have hplay : b.pad.play e = (b.pad, []) := if_pos hother
    rw [hplay, processXiEvent, if_pos hother]
    exact ⟨rfl, fun i => .refl _ _⟩
  have hplay : b.pad.play e = ({ b.pad with state := (b.pad.bridge.eventBatch e).1.state },
      if (b.pad.bridge.eventBatch e).2 = [] then [] else
        [.events (((b.pad.bridge.eventBatch e).2.map InputEvent.body ++ [synBody]).map
          timelessRecord)]) := if_neg hother
  rw [hplay, processXiEvent, if_neg hother]
  dsimp only
  rw [← halike.state, ← halike.bodies]
  by_cases hempty : (b.eventBatch e).2 = []
  · rw [if_pos (List.isEmpty_iff.mpr hempty), if_pos (hnil.mp hempty), hsame]
    exact ⟨rfl, fun i => .refl _ _⟩
  · rw [if_neg (mt List.isEmpty_iff.mp hempty), if_neg (mt hnil.mpr hempty)]
    obtain ⟨ts', hstamps⟩ := appendEvent_bridge (b.eventBatch e) evSyn synReport 0
    have hbodies := appendEvent_body (b.eventBatch e) evSyn synReport 0
    refine ⟨?_, fun i => ?_⟩
    · have hf := frame_parts.broadcast (appendEvent (b.eventBatch e) evSyn synReport 0).1 .events
        (.events (appendEvent (b.eventBatch e) evSyn synReport 0).2)
      unfold broadcastEvents pad
      rw [hf.state, hf.deviceId, hf.capabilities, hf.descriptor, hstamps, hsame]
    · have hh := broadcast_hears (appendEvent (b.eventBatch e) evSyn synReport 0).1 .events
        (.events (appendEvent (b.eventBatch e) evSyn synReport 0).2) i
      rw [timeless_batch hbodies] at hh
      have hclients : (appendEvent (b.eventBatch e) evSyn synReport 0).1.clients = b.clients := by
        rw [hstamps, hsame]
      rw [hclients] at hh
      exact hh

/-! ## 5. A look at the devices -/

theorem findInDevices_found (b : Bridge) (ds : List XIDeviceInfo) :
    (b.findInDevices ds).2 = ds.findSome? XIDeviceInfo.accepted := by
  induction ds generalizing b with
  | nil => rfl
  | cons d ds ih =>
    rw [List.findSome?_cons]
    unfold findInDevices XIDeviceInfo.accepted
    dsimp only
    by_cases huse : d.use = .floatingSlave ∨ d.use = .slavePointer
    · have hquery : (b.queryLorieCapabilities d).2 =
          d.reply.filter fun r => r.present && (r.deviceId.toNat : Int) == d.deviceid := by
        unfold queryLorieCapabilities
        dsimp only
        cases hr : d.reply with
        | none => rfl
        | some r =>
          rw [Option.filter_some]
          by_cases hp : r.present = true <;>
            by_cases hid : (r.deviceId.toNat : Int) = d.deviceid <;> simp [hp, hid]
      rw [if_pos (by simpa using huse), if_pos huse, hquery]
      cases d.reply.filter fun r => r.present && (r.deviceId.toNat : Int) == d.deviceid with
      | none => exact ih _
      | some r => rfl
    · rw [if_neg (by simpa using huse), if_neg huse]
      exact ih b

theorem findLorieDevice_found (b : Bridge) (answer : DeviceAnswer) :
    (b.findLorieDevice answer).2 = answer.found := by
  unfold findLorieDevice DeviceAnswer.found
  cases answer.devices with
  | none => rfl
  | some ds => exact findInDevices_found b ds

theorem Tells.trans {b b' b'' : Bridge} {kind : ClientKind} {p p' : Pad} {ms ms' : List Message}
    (h : b.Tells b' kind p ms) (h' : b'.Tells b'' kind p' ms') : b.Tells b'' kind p' (ms ++ ms') :=
  ⟨h'.pad, fun i => (h.links i).trans (h'.links i)⟩

theorem broadcastHotplug_tells (b : Bridge) (action : UInt8) :
    b.Tells (b.broadcastHotplug action) .monitor b.pad [.hotplug (b.hotplugMessage action)] where
  pad := by
    have hf := frame_parts.broadcast b .monitor (.hotplug (b.hotplugMessage action))
    unfold broadcastHotplug pad
    rw [hf.state, hf.deviceId, hf.capabilities, hf.descriptor]
  links := broadcast_hears b .monitor (.hotplug (b.hotplugMessage action))

theorem withoutDevice_tells (b : Bridge) :
    b.Tells b.withoutDevice .monitor b.pad.withdraw.1 b.pad.withdraw.2 := by
  unfold withoutDevice Pad.withdraw
  by_cases hid : 0 ≤ b.lorieDeviceId
  · have hpad : 0 ≤ b.pad.deviceId := hid
    have htells := broadcastHotplug_tells b.gone hotplugRemove
    rw [if_pos hid, if_pos hpad, removeDevice_eq]
    exact ⟨htells.pad, htells.links⟩
  · have hpad : ¬0 ≤ b.pad.deviceId := hid
    rw [if_neg hid, if_neg hpad]
    exact ⟨rfl, fun i => .refl _ _⟩

theorem addDevice_tells (b : Bridge) (f : FoundDevice) :
    b.Tells (b.addDevice f) .monitor (b.pad.came f)
      [.hotplug (monitorReply (foundDescriptor f))] := by
  have htells := broadcastHotplug_tells (b.came f) hotplugAdd
  rw [addDevice_eq]
  exact ⟨htells.pad, htells.links⟩

/-- **A look at the devices** is what it is without clients, and the monitors hear of it. -/
theorem refreshLorieDevice_tells (b : Bridge) (answer : DeviceAnswer) :
    b.Tells (b.refreshLorieDevice answer) .monitor (b.pad.look answer).1
      (b.pad.look answer).2 := by
  obtain ⟨reqs, hsearch, -⟩ := findLorieDevice_searched b answer
  have hfound := findLorieDevice_found b answer
  have hsearched : b.Tells (b.findLorieDevice answer).1 .monitor b.pad [] := by
    rw [hsearch]
    exact ⟨rfl, fun i => .refl _ _⟩
  have hpad : (b.findLorieDevice answer).1.pad = b.pad := hsearched.pad
  have hgone : b.Tells (b.findLorieDevice answer).1.withoutDevice .monitor b.pad.withdraw.1
      b.pad.withdraw.2 := by
    have h := withoutDevice_tells (b.findLorieDevice answer).1
    rw [hpad] at h
    exact hsearched.trans h
  unfold refreshLorieDevice Pad.look
  dsimp only
  rw [hfound]
  cases answer.found with
  | none =>
    rw [if_neg (by exact Bool.false_ne_true)]
    exact hgone
  | some f =>
    have hsame : (some f).any (b.findLorieDevice answer).1.sameDevice =
        b.pad.bridge.sameDevice f := by
      rw [Option.any_some, findLorieDevice_sameDevice]
      rfl
    rw [hsame]
    dsimp only
    split
    · exact hsearched
    · by_cases hid : 0 ≤ f.deviceId ∧ answer.selectOk = true
      · have hno : ¬(decide (f.deviceId < 0) || !answer.selectOk) = true := by
          simp [hid.1, hid.2]
        have hadd := addDevice_tells (b.findLorieDevice answer).1.withoutDevice f
        rw [hgone.pad] at hadd
        rw [if_neg hno, if_pos hid]
        exact hgone.trans hadd
      · have hyes : (decide (f.deviceId < 0) || !answer.selectOk) = true := by
          by_contra hn
          refine hid ?_
          simpa using hn
        rw [if_pos hyes, if_neg hid]
        exact hgone

/-- **An X event** is what it is without clients. -/
theorem dispatchXEvent_tells (b : Bridge) (e : XEvent) :
    b.Tells (b.dispatchXEvent e) (b.pad.tell e).2.1 (b.pad.tell e).1 (b.pad.tell e).2.2 := by
  cases e with
  | hierarchyChanged answer => exact refreshLorieDevice_tells b answer
  | device e => exact processXiEvent_tells b e

end Bridge

/-! ## 6. The bytes a client brings -/

variable {l l' : Link}

theorem timeless_snapshot {p : Pad} {evs : List InputEvent} (h : Bridge.IsSnapshot p.state evs) :
    (Message.events evs).timeless = .events p.snapshot := by
  rw [Bridge.timeless_batch h, List.map_map]
  rfl

/-- **A handled command** is what it is for a client alone. -/
theorem Link.Handled.subscriber {p : Pad} {m : ControlMessage}
    (h : Link.Handled p.state p.descriptor m (l.took m p.descriptor) l') {c : Conn}
    (hc : l'.fd = some c) :
    l'.subscriber =
      Subscriber.execute p { l.subscriber with control := l.control.drop 16 } m := by
  have hne : controlQueryDescriptor ≠ controlMonitor := by decide
  have hrumble : controlRumble ≠ controlQueryDescriptor ∧ controlRumble ≠ controlMonitor := by decide
  have hstop : controlStopRumble ≠ controlQueryDescriptor ∧ controlStopRumble ≠ controlMonitor := by
    decide
  unfold Subscriber.execute
  cases h with
  | freed hl =>
    rw [hl] at hc
    cases hc
  | rumble hcmd hl =>
    rw [hl]
    rcases hcmd with hcmd | hcmd
    · rw [hcmd, if_neg hrumble.1, if_neg hrumble.2]
      rfl
    · rw [hcmd, if_neg hstop.1, if_neg hstop.2]
      rfl
  | absent hcmd hd hg =>
    rw [if_pos hcmd, if_pos hd, hg.subscriber]
    rfl
  | snapshot evs hcmd hd hs hg =>
    rw [if_pos hcmd, if_neg hd, hg.subscriber, List.map_cons, List.map_cons, List.map_nil,
      timeless_snapshot hs]
    rfl
  | monitor hcmd hg =>
    rw [hcmd, if_neg hne.symm, if_pos rfl, hg.subscriber]
    rfl

namespace Subscriber

/-- The reply to a command does not look at the bytes behind it. -/
theorem execute_control (p : Pad) (s : Subscriber) (bs : List UInt8) (m : ControlMessage) :
    execute p { s with control := bs } m = { execute p s m with control := bs } := by
  unfold execute
  split
  · rfl
  · split <;> rfl

/-- A whole command at the front of `control` is executed first. -/
theorem drain_cons (p : Pad) (s : Subscriber) (h : 16 ≤ s.control.length) :
    s.drain p = ({ s with control := s.control.drop 16 }.execute p
      (controlMessageCodec.dec s.control)).drain p := by
  obtain ⟨hrec, hrem⟩ := controlMessageCodec.records_of_le (by decide) h
  rw [execute_control]
  unfold drain
  rw [hrec, hrem, List.foldl_cons, execute_control]
  rfl

theorem drain_short (p : Pad) (s : Subscriber) (h : s.control.length < 16) : s.drain p = s := by
  obtain ⟨hrec, hrem⟩ := controlMessageCodec.records_of_lt h
  unfold drain
  rw [hrec, hrem]
  rfl

end Subscriber

namespace Bridge

variable {b : Bridge} {i : Slot} {c : Conn}

/-- **A receive call** is what it is for a client alone. -/
theorem serveReadable_subscriber (r : RecvResult) (hc : ((b.serveReadable i r).clients i).fd = some c)
    (hshort : ((b.serveReadable i r).clients i).control.length < 16) :
    ((b.serveReadable i r).clients i).subscriber =
      (b.clients i).subscriber.receive b.pad (received (b.clients i).toLink r) := by
  -- what is left to drain leads where the whole call leads
  have hinv := serveReadable_inv (P := fun l => ∀ c, l.fd = some c → l.subscriber.drain b.pad =
      (b.clients i).subscriber.receive b.pad (received (b.clients i).toLink r)) b i r
    (fun l l' hl hlen hh c hc => ?_) nofun fun _ _ => rfl
  · have hdrained := hinv c hc
    rw [Subscriber.drain_short _ _ hshort] at hdrained
    exact hdrained
  · have hfd : l.fd = some c := by
      rcases hh.fd with hsame | hnone
      · exact hsame.symm.trans hc
      · rw [hnone] at hc
        cases hc
    have hsub := Link.Handled.subscriber (p := b.pad) hh hc
    rw [hsub]
    exact (Subscriber.drain_cons b.pad l.subscriber hlen).symm.trans (hl c hfd)

/-! ## 7. Runs -/

/-- The private bridge has what the bridge has of the device, and of the connection if it is
    there. -/
structure Plays (p : Private) (c : Conn) (b : Bridge) : Prop where
  pad : p.pad = b.pad
  subscriber : ∀ i, (b.clients i).fd = some c → p.subscriber = (b.clients i).subscriber

theorem Frame.pad {b b' : Bridge} (h : Frame b b') : b'.pad = b.pad := by
  unfold Bridge.pad
  rw [h.state, h.deviceId, h.capabilities, h.descriptor]

/-- Nothing was queued, and the device is as it was. -/
theorem Plays.kept {p : Private} {b' : Bridge} (h : Plays p c b) (hf : Frame b b')
    (hlinks : ∀ i, (b.clients i).toLink.Kept (b'.clients i).toLink []) : Plays p c b' := by
  refine ⟨h.pad.trans hf.pad.symm, fun i hc => ?_⟩
  obtain ⟨hold, hsub⟩ := (hlinks i).quiet .events c hc
  rw [h.subscriber i hold]
  exact (hsub.trans (Subscriber.hear_nil _ _)).symm

/-- Flushes, hang-ups and ticks are nothing to a connection that stays. -/
theorem act_aside {a : Action} (ha : (∃ i, a = .writable i) ∨ (∃ i, a = .hangup i) ∨ a = .tick) :
    Frame b (b.act a) ∧ ∀ i, (b.clients i).toLink.Kept ((b.act a).clients i).toLink [] := by
  constructor
  · rcases ha with ⟨i, rfl⟩ | ⟨i, rfl⟩ | rfl
    · show Frame b (if (b.clients i).fd.isSome then b.serveWritable i else b)
      split
      · exact ((frame_spans i).serveWritable b).1
      · exact .refl b
    · show Frame b (if (b.clients i).fd.isSome then b.hangUp i else b)
      split
      · exact (emitFor_frame b i _).trans (frame_parts.close _ i)
      · exact .refl b
    · exact frame_blind.updateRumble b false
  · have hlooks : a.looks = false := by
      rcases ha with ⟨i, rfl⟩ | ⟨i, rfl⟩ | rfl <;> rfl
    rcases act_turn b hlooks with hq | ⟨_, _, rfl, -⟩ | ⟨_, rfl, -⟩ | ⟨_, _, rfl, -⟩
    · exact hq.links
    all_goals rcases ha with ⟨i, h⟩ | ⟨i, h⟩ | h <;> cases h

theorem dispatchXEvent_plays {p : Private} (h : Plays p c b) (e : XEvent) :
    Plays (p.step (.event e)) c (b.dispatchXEvent e) := by
  have htells := dispatchXEvent_tells b e
  refine ⟨?_, fun i hc => ?_⟩
  · show (p.pad.tell e).1 = (b.dispatchXEvent e).pad
    rw [htells.pad, h.pad]
  · obtain ⟨hold, hsub⟩ := htells.links i c hc
    show p.subscriber.hear (p.pad.tell e).2.1 (p.pad.tell e).2.2 = _
    rw [h.subscriber i hold, h.pad]
    exact hsub.symm

theorem acceptClient_pad (b : Bridge) (r : AcceptResult) : (b.acceptClient r).pad = b.pad := by
  obtain ⟨hstate, hid, hcap, -, hdesc, -⟩ := acceptClient_same b r
  unfold pad
  rw [hstate, hid, hcap, hdesc]

/-- The connection is accepted. -/
theorem accepted_plays {p : Private} (hs : Sound b) (h : Plays p c b) (r : AcceptResult)
    (hnew : c ∉ b.seen) : Plays (p.step .accepted) c (b.acceptClient r) := by
  refine ⟨h.pad.trans (acceptClient_pad b r).symm, fun i hc => ?_⟩
  have hfd : (b.clients i).fd ≠ some c := fun hfd => hnew (hs.tracked.isSeen i c hfd)
  have hact : ((b.act (.accept r)).clients i).fd = some c := hc
  have hlink : ((b.acceptClient r).clients i).toLink = (acceptedClient c).toLink :=
    (act_takes hact hfd).2.2
  show Subscriber.fresh = ((b.acceptClient r).clients i).toLink.subscriber
  rw [hlink]
  rfl

/-- Another connection is, or none. -/
theorem acceptClient_plays {p : Private} (h : Plays p c b) (r : AcceptResult)
    (hno : ¬(c ∉ b.seen ∧ ∃ i, ((b.acceptClient r).clients i).fd = some c)) :
    Plays p c (b.acceptClient r) := by
  refine ⟨h.pad.trans (acceptClient_pad b r).symm, fun i hc => ?_⟩
  have hold : (b.clients i).fd = some c := by
    by_contra hfd
    have hact : ((b.act (.accept r)).clients i).fd = some c := hc
    exact hno ⟨(act_takes hact hfd).1, i, hc⟩
  rcases acceptClient_toLink b r i with hl | ⟨c', hnone, -, -, -⟩
  · show p.subscriber = ((b.acceptClient r).clients i).toLink.subscriber
    rw [hl]
    exact h.subscriber i hold
  · rw [hnone] at hold
    cases hold

/-- The connection brings bytes. -/
theorem serveReadable_plays {p : Private} (hs : Sound b) (h : Plays p c b) (r : RecvResult)
    (hfd : (b.clients i).fd = some c) :
    Plays (p.step (.bytes (received (b.clients i).toLink r))) c (b.serveReadable i r) := by
  obtain ⟨hframe, hother⟩ := serveReadable_frame b i r
  refine ⟨h.pad.trans hframe.pad.symm, fun j hc => ?_⟩
  have hj : j = i := by
    by_contra hj
    have hold : (b.clients j).fd = some c := by
      rw [← hc]
      exact (congrArg Link.fd (hother j hj)).symm
    exact hj (hs.tracked.distinct j i c hold hfd)
  subst hj
  show p.subscriber.receive p.pad (received (b.clients j).toLink r) = _
  rw [h.subscriber j hfd, h.pad]
  exact (serveReadable_subscriber r hc (serveReadable_short hs.short j r j)).symm

/-- Another connection does. -/
theorem serveReadable_plays_other {p : Private} (h : Plays p c b) (r : RecvResult)
    (hfd : (b.clients i).fd ≠ some c) : Plays p c (b.serveReadable i r) := by
  obtain ⟨hframe, hother⟩ := serveReadable_frame b i r
  refine ⟨h.pad.trans hframe.pad.symm, fun j hc => ?_⟩
  have hj : j ≠ i := by
    rintro rfl
    rcases serveReadable_fd b j r j with hsame | hnone
    · exact hfd (hsame.symm.trans hc)
    · rw [hnone] at hc
      cases hc
  have hold : (b.clients j).fd = some c := by
    rw [← hc]
    exact (congrArg Link.fd (hother j hj)).symm
  show p.subscriber = ((b.serveReadable i r).clients j).toLink.subscriber
  rw [hother j hj]
  exact h.subscriber j hold

/-- **A step** of the bridge is for a connection what it hears of it. -/
theorem step_plays {p : Private} (hs : Sound b) (h : Plays p c b) (inp : Input) :
    Plays ((b.heard inp c).foldl Private.step p) c (b.step inp) := by
  have h₀ : Plays p c (b.withEnv inp.sends inp.ticks inp.stamps) := ⟨h.pad, h.subscriber⟩
  have hs₀ := hs.env inp.sends inp.ticks inp.stamps
  have hstep : b.step inp = (b.withEnv inp.sends inp.ticks inp.stamps).act inp.action := rfl
  unfold heard
  rw [hstep]
  cases inp.action with
  | xEvent e => exact dispatchXEvent_plays h₀ e
  | accept r =>
    dsimp only
    split
    · rename_i hnew
      exact accepted_plays hs₀ h₀ r hnew.1
    · rename_i hno
      exact acceptClient_plays h₀ r hno
  | readable i r =>
    have hact : (b.withEnv inp.sends inp.ticks inp.stamps).act (.readable i r) =
        if ((b.withEnv inp.sends inp.ticks inp.stamps).clients i).fd.isSome then
          (b.withEnv inp.sends inp.ticks inp.stamps).serveReadable i r
        else b.withEnv inp.sends inp.ticks inp.stamps := rfl
    rw [hact]
    dsimp only
    split
    · rename_i hfd
      have hsome : ((b.withEnv inp.sends inp.ticks inp.stamps).clients i).fd.isSome = true := by
        show (b.clients i).fd.isSome = true
        rw [hfd]
        rfl
      rw [if_pos hsome]
      exact serveReadable_plays hs₀ h₀ r hfd
    · rename_i hfd
      split
      · exact serveReadable_plays_other h₀ r hfd
      · exact h₀
  | writable i => exact h₀.kept (act_aside (Or.inl ⟨i, rfl⟩)).1 (act_aside (Or.inl ⟨i, rfl⟩)).2
  | hangup i =>
    exact h₀.kept (act_aside (Or.inr (Or.inl ⟨i, rfl⟩))).1 (act_aside (Or.inr (Or.inl ⟨i, rfl⟩))).2
  | tick => exact h₀.kept (act_aside (Or.inr (Or.inr rfl))).1 (act_aside (Or.inr (Or.inr rfl))).2

theorem boot_plays (opcode : Int) (answer : DeviceAnswer) (c : Conn) :
    Plays (Private.start opcode answer) c (boot opcode answer) := by
  refine ⟨?_, fun i hc => ?_⟩
  swap
  · rw [boot_free] at hc
    cases hc
  unfold Private.start boot
  dsimp only
  split
  · exact (refreshLorieDevice_tells (Bridge.init opcode) answer).pad.symm
  · rfl

/-- Every run keeps it. -/
theorem run_plays {b : Bridge} {p : Private} {c : Conn} (hs : Sound b) (h : Plays p c b)
    (inputs : List Input) : Plays ((view c b inputs).foldl Private.step p) c (run step b inputs) := by
  induction inputs generalizing b p with
  | nil => exact h
  | cons inp inputs ih =>
    unfold view
    rw [List.foldl_append, run_cons]
    exact ih (act_sound (hs.env inp.sends inp.ticks inp.stamps) inp.action) (step_plays hs h inp)

/-- **The bridge serves every client as if it were alone**: what it knows of the device and what it
    told a connection, up to time stamps, are those of a bridge of that one client, which met the
    X events and the bytes of the connection and nothing else of the run. -/
theorem bridge_serves_alone (opcode : Int) (answer : DeviceAnswer) (inputs : List Input) (c : Conn) :
    Plays ((view c (boot opcode answer) inputs).foldl Private.step (Private.start opcode answer)) c
      (run step (boot opcode answer) inputs) :=
  run_plays (run_sound opcode answer []) (boot_plays opcode answer c) inputs

/-- **The clients are isolated from each other**: a connection that is still there is told the same
    in any two runs that are the same to it. -/
theorem clients_isolated (opcode : Int) (answer : DeviceAnswer) (inputs inputs' : List Input)
    (c c' : Conn) (i i' : Slot)
    (hview : view c (boot opcode answer) inputs = view c' (boot opcode answer) inputs')
    (hc : ((run step (boot opcode answer) inputs).clients i).fd = some c)
    (hc' : ((run step (boot opcode answer) inputs').clients i').fd = some c') :
    ((run step (boot opcode answer) inputs).clients i).subscriber =
      ((run step (boot opcode answer) inputs').clients i').subscriber := by
  have hsound : Sound (boot opcode answer) := run_sound opcode answer []
  have h := (run_plays hsound (boot_plays opcode answer c) inputs).subscriber i hc
  have h' := (run_plays hsound (boot_plays opcode answer c') inputs').subscriber i' hc'
  rw [← h, ← h', hview]

/-- A client attaches and the stick moves, -/
def aloneWithStick : List Input :=
  [quietly (.accept (.conn 7 true)),
    quietly (.readable slot0 (.data (commandBytes controlQueryDescriptor))),
    quietly (.xEvent (.device ⟨.motion, 5, 5, 0, [true], [1000]⟩))]

/-- and the same beside a client that was there before, shakes the motors and is dropped. -/
def besideAnother : List Input :=
  [quietly (.accept (.conn 3 true)),
    quietly (.readable slot0 (.data (commandBytes controlQueryDescriptor))),
    quietly (.accept (.conn 4 true)),
    quietly (.readable slot0 (.data (controlMessageCodec.enc
      ⟨controlMagic, controlVersion, controlRumble, 100, 200, 50⟩))),
    quietly (.readable slot1 (.data (commandBytes controlQueryDescriptor))),
    { quietly (.xEvent (.device ⟨.motion, 5, 5, 0, [true], [1000]⟩)) with sends := [.failed] },
    quietly .tick]

theorem clients_isolated_beside :
    (((run step (boot 1 padAnswer) aloneWithStick).clients slot0).subscriber.queued.length = 3) ∧
      ((run step (boot 1 padAnswer) aloneWithStick).clients slot0).subscriber =
        ((run step (boot 1 padAnswer) besideAnother).clients slot1).subscriber :=
  ⟨by decide +kernel, clients_isolated 1 padAnswer aloneWithStick besideAnother 7 4 slot0 slot1
    (by decide +kernel) (by decide +kernel) (by decide +kernel)⟩

end Bridge

end TermuxGamepad
