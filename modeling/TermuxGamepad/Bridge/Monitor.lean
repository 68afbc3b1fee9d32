/-
  File:      TermuxGamepad/Bridge/Monitor.lean
  Subject:   The hotplug messages a monitor client is sent.

  `Chronicle d0 d ms` is what a monitor may rely on: the messages start with the descriptor at the
  time of its command, tell additions and removals in turn, each honest about its own
  descriptor, and the last one shows the present. Every link is `MonitorOk` in every reachable
  state: a client that asked once, and did not turn into an event client later, has such a
  chronicle.
-/
import Mathlib.Data.List.Chain
import TermuxGamepad.Bridge.Turns

namespace TermuxGamepad

open Wire

/-! ## 1. Chronicles -/

/-- The hotplug messages among those queued on a connection. -/
def hotplugs (ms : List Message) : List HotplugMessage :=
  ms.filterMap fun
    | .hotplug m => some m
    | _ => none

@[simp] theorem hotplugs_append (l l' : List Message) :
    hotplugs (l ++ l') = hotplugs l ++ hotplugs l' := List.filterMap_append

/-- What a monitor that asked under descriptor `d0` may rely on while the descriptor is `d`. -/
structure Chronicle (d0 d : DeviceDescriptor) (ms : List HotplugMessage) : Prop where
  first : ms.head?.map HotplugMessage.descriptor = some d0
  last : ms.getLast?.map HotplugMessage.descriptor = some d
  alternates : ms.IsChain fun m m' => m.action ≠ m'.action
  honest : ∀ m ∈ ms, m = monitorReply m.descriptor

theorem Chronicle.start (d : DeviceDescriptor) : Chronicle d d [monitorReply d] where
  first := rfl
  last := rfl
  alternates := List.IsChain.singleton _
  honest m hm := by rw [List.mem_singleton.mp hm]; rfl

theorem monitorReply_action_ne {d d' : DeviceDescriptor} (h : d.present ≠ 0 ↔ d'.present = 0) :
    (monitorReply d).action ≠ (monitorReply d').action := by
  unfold monitorReply
  by_cases hd : d.present = 0
  · have hd' : d'.present ≠ 0 := fun e => h.mpr e hd
    simp [hd, hd', hotplugAdd, hotplugRemove]
  · simp [hd, h.mp hd, hotplugAdd, hotplugRemove]

/-- **A change of presence continues the chronicle.** -/
theorem Chronicle.next {d0 d d' : DeviceDescriptor} {ms : List HotplugMessage}
    (h : Chronicle d0 d ms) (hd : d.present ≠ 0 ↔ d'.present = 0) :
    Chronicle d0 d' (ms ++ [monitorReply d']) where
  first := by
    have hne : ms ≠ [] := by
      rintro rfl
      cases h.first
    rw [List.head?_append_of_ne_nil _ hne]
    exact h.first
  last := by rw [List.getLast?_concat]; rfl
  alternates := by
    refine List.isChain_append.mpr ⟨h.alternates, List.IsChain.singleton _, fun m hm m' hm' => ?_⟩
    cases hm'
    have hlast := h.last
    rw [Option.mem_def.mp hm] at hlast
    have hmd : m.descriptor = d := Option.some.inj hlast
    rw [h.honest m (List.mem_of_mem_getLast? hm), hmd]
    exact monitorReply_action_ne hd
  honest m hm := by
    rcases List.mem_append.mp hm with hm | hm
    · exact h.honest m hm
    · rw [List.mem_singleton.mp hm]; rfl

/-! ## 2. Who monitors -/

/-- The client issued MONITOR once, under descriptor `d0`, and no QUERY_DESCRIPTOR since. -/
def MonitoredOnce (commands : List (ControlMessage × DeviceDescriptor)) (d0 : DeviceDescriptor) :
    Prop :=
  ∃ pre m post, commands = pre ++ (m, d0) :: post ∧ m.command = controlMonitor ∧
    (∀ x ∈ pre, x.1.command ≠ controlMonitor) ∧
    ∀ x ∈ post, x.1.command ≠ controlMonitor ∧ x.1.command ≠ controlQueryDescriptor

theorem MonitoredOnce.of_concat {commands : List (ControlMessage × DeviceDescriptor)}
    {d0 d : DeviceDescriptor} {m : ControlMessage}
    (h : MonitoredOnce (commands ++ [(m, d)]) d0) :
    (m.command = controlMonitor ∧ d = d0 ∧ ∀ x ∈ commands, x.1.command ≠ controlMonitor) ∨
      (m.command ≠ controlMonitor ∧ m.command ≠ controlQueryDescriptor ∧
        MonitoredOnce commands d0) := by
  obtain ⟨pre, m', post, heq, hm, hpre, hpost⟩ := h
  rcases List.eq_nil_or_concat post with rfl | ⟨post', y, rfl⟩
  · have h1 := List.append_inj' heq rfl
    obtain ⟨hm', hd⟩ := Prod.mk.injEq _ _ _ _ ▸ List.cons.inj h1.2 |>.1
    exact Or.inl ⟨hm' ▸ hm, hd, h1.1 ▸ hpre⟩
  · have heq' : commands ++ [(m, d)] = (pre ++ (m', d0) :: post') ++ [y] := by
      rw [heq]
      simp
    have h1 := List.append_inj' heq' rfl
    have hy : (m, d) = y := (List.cons.inj h1.2).1
    have hlast := hpost y (by simp)
    rw [← hy] at hlast
    exact Or.inr ⟨hlast.1, hlast.2, pre, m', post', h1.1, hm, hpre,
      fun x hx => hpost x (by simp [hx])⟩

/-- **A link and its chronicle**: nothing is told before MONITOR, and a client that monitors has
    one that ends in the present. -/
structure MonitorOk (d : DeviceDescriptor) (l : Link) : Prop where
  occupied : l.fd.isSome
  unasked : (∀ x ∈ l.commands, x.1.command ≠ controlMonitor) →
    l.kind ≠ .monitor ∧ hotplugs l.queued = []
  asked : ∀ d0, MonitoredOnce l.commands d0 →
    l.kind = .monitor ∧ Chronicle d0 d (hotplugs l.queued)

/-- Free, or in order. -/
def Monitors (d : DeviceDescriptor) (l : Link) : Prop := l = Link.free ∨ MonitorOk d l

variable {d d' : DeviceDescriptor} {l l' : Link}

/-- What a link's monitor state depends on. -/
theorem MonitorOk.congr (h : MonitorOk d l) (hfd : l'.fd = l.fd) (hkind : l'.kind = l.kind)
    (hcmds : l'.commands = l.commands) (hq : hotplugs l'.queued = hotplugs l.queued) :
    MonitorOk d l' := by
  refine ⟨hfd ▸ h.occupied, ?_, ?_⟩
  · rw [hkind, hcmds, hq]
    exact h.unasked
  · rw [hkind, hcmds, hq]
    exact h.asked

theorem monitors_accepted (d : DeviceDescriptor) (c : Conn) :
    Monitors d (Bridge.acceptedClient c).toLink := by
  refine Or.inr ⟨rfl, fun _ => ⟨ClientKind.noConfusion, rfl⟩, fun d0 h => ?_⟩
  obtain ⟨pre, m, post, heq, -⟩ := h
  exact absurd (show [] = _ from heq) (by simp)

/-- QUERY_DESCRIPTOR makes an event client of it. -/
theorem MonitorOk.queried {m : ControlMessage} {ms : List Message} (h : MonitorOk d l)
    (hc : m.command = controlQueryDescriptor)
    (hg : Link.Grew { l.took m d with kind := .events } l' ms) (hms : hotplugs ms = []) :
    MonitorOk d l' := by
  refine ⟨hg.fd ▸ h.occupied, fun hno => ?_, fun d0 hm => ?_⟩
  · rw [hg.commands] at hno
    rw [hg.kind, hg.queued, hotplugs_append, hms, List.append_nil]
    exact ⟨ClientKind.noConfusion, (h.unasked fun x hx => hno x (List.mem_append_left _ hx)).2⟩
  · rw [hg.commands] at hm
    rcases hm.of_concat with ⟨hc', _⟩ | ⟨_, hnq, _⟩
    · rw [hc] at hc'
      exact absurd hc' (by decide)
    · exact absurd hc hnq

/-- **Every handled message keeps it.** -/
theorem MonitorOk.handled {s : GamepadState} {m : ControlMessage} (h : MonitorOk d l)
    (hh : Link.Handled s d m (l.took m d) l') : Monitors d l' := by
  cases hh with
  | freed hl => exact Or.inl hl
  | rumble hc hl =>
    subst hl
    have hnm : m.command ≠ controlMonitor := by
      rcases hc with hc | hc <;> rw [hc] <;> decide
    refine Or.inr ⟨h.occupied, fun hno => ?_, fun d0 hm => ?_⟩
    · exact h.unasked fun x hx => hno x (List.mem_append_left _ hx)
    · rcases hm.of_concat with ⟨hc', _⟩ | ⟨_, _, hm'⟩
      · exact absurd hc' hnm
      · exact h.asked d0 hm'
  | absent hc _ hg => exact Or.inr (h.queried hc hg (by simp [hotplugs]))
  | snapshot evs hc _ _ hg => exact Or.inr (h.queried hc hg (by simp [hotplugs]))
  | monitor hc hg =>
    refine Or.inr ⟨hg.fd ▸ h.occupied, fun hno => ?_, fun d0 hm => ?_⟩
    · rw [hg.commands] at hno
      exact absurd hc (hno (m, d) (List.mem_append_right _ (List.mem_singleton.mpr rfl)))
    · rw [hg.commands] at hm
      rcases hm.of_concat with ⟨_, rfl, hno⟩ | ⟨hnm, _⟩
      · refine ⟨hg.kind, ?_⟩
        rw [hg.queued, hotplugs_append]
        show Chronicle d d (hotplugs l.queued ++ _)
        rw [(h.unasked hno).2]
        exact .start d
      · exact absurd hc hnm

/-- A receive call keeps it. -/
theorem serveReadable_monitors (b : Bridge) (i : Slot) (r : RecvResult)
    (h : MonitorOk b.deviceDescriptor (b.clients i).toLink) :
    Monitors b.deviceDescriptor ((b.serveReadable i r).clients i).toLink := by
  refine Bridge.serveReadable_inv (P := Monitors b.deviceDescriptor) b i r
    (fun l l' hl hlen hh => ?_) (Or.inl rfl) (Or.inr (h.congr rfl rfl rfl rfl))
  rcases hl with rfl | hl
  · exact absurd hlen (by decide)
  · exact hl.handled hh

/-! ## 3. Device changes -/

/-- **An announced change of presence continues the chronicle.** -/
theorem Monitors.announced (h : Monitors d l) (hd : d.present ≠ 0 ↔ d'.present = 0)
    (hk : l.Kept l' (Bridge.offered .monitor (.hotplug (monitorReply d')) l)) :
    Monitors d' l' := by
  rcases h with rfl | h
  · exact Or.inl hk.ofFree
  rcases hk with rfl | hg
  · exact Or.inl rfl
  refine Or.inr ⟨hg.fd ▸ h.occupied, fun hno => ?_, fun d0 hm => ?_⟩
  · rw [hg.commands] at hno
    obtain ⟨hkind, hq⟩ := h.unasked hno
    have hoff : Bridge.offered .monitor (.hotplug (monitorReply d')) l = [] := by
      unfold Bridge.offered
      rw [if_neg (by simp [hkind])]
    rw [hg.kind, hg.queued, hoff, List.append_nil]
    exact ⟨hkind, hq⟩
  · rw [hg.commands] at hm
    obtain ⟨hkind, hc⟩ := h.asked d0 hm
    have hoff : Bridge.offered .monitor (.hotplug (monitorReply d')) l =
        [.hotplug (monitorReply d')] := by
      unfold Bridge.offered
      rw [if_pos (by simp [hkind, h.occupied])]
    rw [hg.kind, hg.queued, hoff, hotplugs_append]
    exact ⟨hkind, hc.next hd⟩

/-- Messages of other kinds do not touch it. -/
theorem Monitors.kept {ms : List Message} (h : Monitors d l) (hk : l.Kept l' ms)
    (hms : hotplugs ms = []) : Monitors d l' := by
  rcases h with rfl | h
  · exact Or.inl hk.ofFree
  rcases hk with rfl | hg
  · exact Or.inl rfl
  · refine Or.inr (h.congr hg.fd hg.kind hg.commands ?_)
    rw [hg.queued, hotplugs_append, hms, List.append_nil]

namespace Bridge

/-- What the monitors rely on: the descriptor says what the bridge has, and every link is in
    order with it. -/
structure Announced (b : Bridge) : Prop where
  present : (b.deviceDescriptor.present = 1 ∧ 0 ≤ b.lorieDeviceId) ∨
    (b.deviceDescriptor.present = 0 ∧ b.lorieDeviceId < 0)
  monitors : ∀ i, Monitors b.deviceDescriptor (b.clients i).toLink

variable {b b' : Bridge}

/-- The announcement of a new descriptor. -/
theorem announce (h : Announced b) {action : UInt8}
    (hlinks : b'.clients = b.clients) (hm : b'.hotplugMessage action = monitorReply b'.deviceDescriptor)
    (hd : b.deviceDescriptor.present ≠ 0 ↔ b'.deviceDescriptor.present = 0)
    (hp : (b'.deviceDescriptor.present = 1 ∧ 0 ≤ b'.lorieDeviceId) ∨
      (b'.deviceDescriptor.present = 0 ∧ b'.lorieDeviceId < 0)) :
    Announced (b'.broadcastHotplug action) := by
  have hf := frame_parts.broadcast b' .monitor (.hotplug (b'.hotplugMessage action))
  refine ⟨?_, fun i => ?_⟩
  · rw [broadcastHotplug, hf.descriptor, hf.deviceId]
    exact hp
  · rw [broadcastHotplug, hf.descriptor, hm]
    have hk := broadcast_kept b' .monitor (.hotplug (monitorReply b'.deviceDescriptor)) i
    rw [hlinks] at hk
    exact (h.monitors i).announced hd hk

theorem removeDevice_announced (h : Announced b) (hid : 0 ≤ b.lorieDeviceId) :
    Announced b.removeDevice := by
  have hp : b.deviceDescriptor.present = 1 := by
    rcases h.present with ⟨hp, _⟩ | ⟨_, hneg⟩
    · exact hp
    · omega
  rw [removeDevice_eq]
  refine @announce b b.gone h _ rfl rfl ?_ (Or.inr ⟨rfl, by simp⟩)
  simp [hp]

theorem addDevice_announced (h : Announced b) (hid : b.lorieDeviceId < 0) {f : FoundDevice}
    (hf : 0 ≤ f.deviceId) : Announced (b.addDevice f) := by
  have hp : b.deviceDescriptor.present = 0 := by
    rcases h.present with ⟨_, hpos⟩ | ⟨hp, _⟩
    · omega
    · exact hp
  rw [addDevice_eq]
  refine @announce b (b.came f) h _ rfl rfl ?_ (Or.inl ⟨rfl, hf⟩)
  simp [hp]

/-- What an operation that leaves the device alone keeps, if it keeps the links in order. -/
theorem Announced.links (h : Announced b) (hf : b'.deviceDescriptor = b.deviceDescriptor)
    (hid : b'.lorieDeviceId = b.lorieDeviceId)
    (hlink : ∀ i, Monitors b.deviceDescriptor (b'.clients i).toLink) : Announced b' := by
  refine ⟨?_, fun i => ?_⟩
  · rw [hf, hid]
    exact h.present
  · rw [hf]
    exact hlink i

/-! ## 4. Runs -/

theorem announced_keeps : Keeps Announced where
  quiet _ _ hq h := h.links hq.descriptor hq.deviceId fun i => (h.monitors i).kept (hq.links i) rfl
  played b event evs b' hp h := by
    -- a batch goes to event clients, and holds no hotplug message
    refine h.links hp.descriptor hp.deviceId fun i => (h.monitors i).kept (hp.links i) ?_
    unfold offeredBatch offered
    split
    · rfl
    · split <;> rfl
  accepted b r h := by
    obtain ⟨_, hid, _, _, hd, _⟩ := acceptClient_same b r
    refine h.links hd hid fun i => ?_
    rcases acceptClient_toLink b r i with h1 | ⟨c, _, _, _, h1⟩
    · exact h1 ▸ h.monitors i
    · exact h1 ▸ monitors_accepted _ c
  served b i r hfd h := by
    obtain ⟨hf, hne⟩ := serveReadable_frame b i r
    refine h.links hf.descriptor hf.deviceId fun j => ?_
    by_cases hj : j = i
    · subst hj
      rcases h.monitors j with hfree | hok
      · rw [congrArg Link.fd hfree] at hfd
        cases hfd
      · exact serveReadable_monitors b j r hok
    · rw [hne j hj]
      exact h.monitors j

theorem init_announced (opcode : Int) : Announced (Bridge.init opcode) :=
  ⟨Or.inr ⟨rfl, (by decide : (-1 : Int) < 0)⟩, fun _ => Or.inl rfl⟩

theorem run_announced (opcode : Int) (answer : DeviceAnswer) (inputs : List Input) :
    Announced (run step (boot opcode answer) inputs) :=
  announced_keeps.run init_announced (fun _ hid h => removeDevice_announced h hid)
    (fun _ _ hid hf h => addDevice_announced h hid hf) opcode answer inputs

/-- What the search finds carries a name that fits its field. -/
theorem findInDevices_name (b : Bridge) (ds : List XIDeviceInfo) (f : FoundDevice)
    (h : (b.findInDevices ds).2 = some f) : ∃ s, f.name = nameField s := by
  induction ds generalizing b with
  | nil => cases h
  | cons d ds ih =>
    unfold findInDevices at h
    dsimp only at h
    split at h
    · split at h
      · cases h
        exact ⟨_, rfl⟩
      · exact ih _ h
    · exact ih _ h

theorem findLorieDevice_name {b : Bridge} {answer : DeviceAnswer} {f : FoundDevice}
    (h : (b.findLorieDevice answer).2 = some f) : ∃ s, f.name = nameField s := by
  unfold findLorieDevice at h
  split at h
  · cases h
  · exact findInDevices_name _ _ f h

/-- A refresh that finds the device there is, under the identity it has. -/
def FindsSame (b : Bridge) (answer : DeviceAnswer) : Prop :=
  ∃ f, (b.findLorieDevice answer).2 = some f ∧ 0 ≤ f.deviceId ∧ f.deviceId = b.lorieDeviceId ∧
    f.capabilities.capabilities = b.lorieCapabilities ∧ foundDescriptor f = b.deviceDescriptor

/-- **Finding the same device again tells nobody anything.** -/
theorem refresh_same {b : Bridge} {answer : DeviceAnswer} (h : b.FindsSame answer) :
    (b.refreshLorieDevice answer).clients = b.clients := by
  obtain ⟨f, hf, hpos, hid, hcap, hdesc⟩ := h
  obtain ⟨s, hs⟩ := findLorieDevice_name hf
  have hname : cString b.deviceDescriptor.name.bytes = cString f.name.bytes := by
    rw [← hdesc]
    show cString (nameField (cString f.name.bytes)).bytes = _
    rw [hs]
    exact cString_nameField_idem s
  have hsame : b.sameDevice f = true := by
    unfold sameDevice
    rw [hname]
    simp [← hdesc, ← hid, hpos, hcap, foundDescriptor]
  have hclients : (b.findLorieDevice answer).1.clients = b.clients := by
    obtain ⟨reqs, h, -⟩ := findLorieDevice_searched b answer
    rw [h]
  unfold refreshLorieDevice
  dsimp only
  rw [hf, Option.any_some, findLorieDevice_sameDevice, hsame, if_pos rfl]
  exact hclients

/-- The client issued MONITOR exactly once, under descriptor `d0`. -/
def IssuedMonitorOnce (commands : List (ControlMessage × DeviceDescriptor)) (d0 : DeviceDescriptor) :
    Prop :=
  ∃ pre m post, commands = pre ++ (m, d0) :: post ∧ m.command = controlMonitor ∧
    (∀ x ∈ pre, x.1.command ≠ controlMonitor) ∧ ∀ x ∈ post, x.1.command ≠ controlMonitor

/-- A client that monitors, then asks for the descriptor as an event client does, and the device
    is removed. -/
def monitorThenQuery : List Input :=
  [quietly (.accept (.conn 0 true)),
    quietly (.readable slot0 (.data (commandBytes controlMonitor))),
    quietly (.readable slot0 (.data (commandBytes controlQueryDescriptor))),
    quietly (.xEvent (.hierarchyChanged noAnswer))]

/-- **Monitor stream correctness.** In every run, a client that issued MONITOR once and no
    QUERY_DESCRIPTOR since has been sent a chronicle from the descriptor of that moment to the
    present one; a refresh that finds the same device tells nobody anything; and the descriptor
    is present exactly when there is a device. -/
theorem monitor_stream (opcode : Int) (answer : DeviceAnswer) (inputs : List Input) :
    let b := run step (boot opcode answer) inputs
    (∀ i d0, MonitoredOnce (b.clients i).commands d0 →
      Chronicle d0 b.deviceDescriptor (hotplugs (b.clients i).queued)) ∧
    (∀ answer', b.FindsSame answer' → (b.refreshLorieDevice answer').clients = b.clients) ∧
    (b.deviceDescriptor.present = 1 ↔ 0 ≤ b.lorieDeviceId) := by
  have h := run_announced opcode answer inputs
  dsimp only
  generalize run step (boot opcode answer) inputs = b at h
  refine ⟨fun i d0 hm => ?_, fun answer' => refresh_same, ?_⟩
  · rcases h.monitors i with hfree | hok
    · obtain ⟨pre, m, post, heq, -⟩ := hm
      rw [congrArg Link.commands hfree] at heq
      exact absurd (show [] = _ from heq) (by simp)
    · exact (hok.asked d0 hm).2
  · rcases h.present with ⟨h1, h2⟩ | ⟨h1, h2⟩
    · exact ⟨fun _ => h2, fun _ => h1⟩
    · rw [h1]
      exact ⟨fun h3 => absurd h3 (by decide), fun h3 => absurd h3 (by omega)⟩

/-- A client that asks for the monitor stream, and stops a rumble behind it. -/
example : MonitoredOnce ((run step (boot 1 padAnswer)
    [quietly (.accept (.conn 0 true)),
      quietly (.readable slot0 (.data (commandBytes controlMonitor))),
      quietly (.readable slot0 (.data (commandBytes controlStopRumble)))]).clients slot0).commands
    (boot 1 padAnswer).deviceDescriptor := by
  refine ⟨[], ⟨controlMagic, controlVersion, controlMonitor, 0, 0, 0⟩,
    [(⟨controlMagic, controlVersion, controlStopRumble, 0, 0, 0⟩,
      (boot 1 padAnswer).deviceDescriptor)], ?_, rfl, ?_, ?_⟩ <;> decide +kernel

/-- A QUERY_DESCRIPTOR after MONITOR makes an event client of the monitor: it misses the
    removal that follows. -/
theorem monitor_misses_removal :
    ¬ ∀ opcode answer inputs i d0,
      IssuedMonitorOnce ((run step (boot opcode answer) inputs).clients i).commands d0 →
        Chronicle d0 (run step (boot opcode answer) inputs).deviceDescriptor
          (hotplugs ((run step (boot opcode answer) inputs).clients i).queued) := by
  intro h
  have hissued : IssuedMonitorOnce
      ((run step (boot 1 padAnswer) monitorThenQuery).clients slot0).commands
      (boot 1 padAnswer).deviceDescriptor := by
    refine ⟨[], ⟨controlMagic, controlVersion, controlMonitor, 0, 0, 0⟩,
      [(⟨controlMagic, controlVersion, controlQueryDescriptor, 0, 0, 0⟩,
        (boot 1 padAnswer).deviceDescriptor)], ?_, rfl, ?_, ?_⟩ <;> decide +kernel
  have hlast := (h 1 padAnswer monitorThenQuery slot0 _ hissued).last
  revert hlast
  decide +kernel

end Bridge

end TermuxGamepad
