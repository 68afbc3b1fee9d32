/-
  File:      TermuxGamepad/Discovery.lean
  Subject:   From a scan of the fake libudev to a virtual descriptor of the shim.

  A program that finds the device in a scan opens its node. The scan and the open ask the bridge
  each on a connection of its own, and each is answered at a moment of its own (`AnswersAt`), with
  the descriptor of that moment. So what is listed and what can be opened is the device the bridge
  had, and both libraries show the same of it as long as it was the same (`listed_opens`).
-/
import TermuxGamepad.Bridge.Monitor
import TermuxGamepad.Joystick
import TermuxGamepad.Shim.Registry
import TermuxGamepad.Udev.Devices
import TermuxGamepad.Udev.Enumeration

namespace TermuxGamepad

open Wire

/-! ## 1. The bridge's answer -/

namespace Bridge

variable {b b' : Bridge} {c : Conn} {opcode : Int} {answer : DeviceAnswer} {inputs pre : List Input}

/-- The descriptor begins as both libraries expect it. -/
structure Headed (b : Bridge) : Prop where
  magic : b.deviceDescriptor.magic = deviceMagic
  version : b.deviceDescriptor.version = controlVersion

theorem Headed.same (h : Headed b) (hd : b'.deviceDescriptor = b.deviceDescriptor) : Headed b' :=
  ⟨by rw [hd, h.magic], by rw [hd, h.version]⟩

theorem headed_keeps : Keeps Headed where
  quiet _ _ hq h := h.same hq.descriptor
  played _ _ _ _ hp h := h.same hp.descriptor
  accepted b r h := by
    obtain ⟨_, _, _, _, hd, _⟩ := acceptClient_same b r
    exact h.same hd
  served b i r _ h := h.same (serveReadable_frame b i r).1.descriptor

theorem run_headed (opcode : Int) (answer : DeviceAnswer) (inputs : List Input) :
    Headed (run step (boot opcode answer) inputs) := by
  refine headed_keeps.run (fun _ => ⟨rfl, rfl⟩) (fun b _ h => ?_) (fun b f _ _ _ => ?_) opcode
    answer inputs
  · have hgone : Headed b.gone := ⟨h.magic, h.version⟩
    rw [removeDevice_eq]
    exact hgone.same (frame_parts.broadcast ..).descriptor
  · have hcame : Headed (b.came f) := ⟨rfl, rfl⟩
    rw [addDevice_eq]
    exact hcame.same (frame_parts.broadcast ..).descriptor

/-- The bridge answers on a connection in the step after `pre`: what it queues on it first is a
    descriptor. -/
structure AnswersAt (start : Bridge) (inputs : List Input) (c : Conn) (pre : List Input) : Prop where
  before : ∃ inp post, inputs = pre ++ inp :: post ∧
    ∃ d ms, queuedOn c (run step start (pre ++ [inp])).log = .descriptor d :: ms
  empty : queuedOn c (run step start pre).log = []

theorem run_queuedOn (start : Bridge) (inputs after : List Input) (c : Conn) :
    queuedOn c (run step start inputs).log <+: queuedOn c (run step start (inputs ++ after)).log := by
  rw [run_append]
  refine run_inv (P := fun b : Bridge => queuedOn c (run step start inputs).log <+:
    queuedOn c b.log) (fun b inp h => h.trans ?_) List.prefix_rfl after
  obtain ⟨l, hl⟩ := act_log (b.withEnv inp.sends inp.ticks inp.stamps) inp.action
  have hlog : (b.step inp).log = b.log ++ l := hl
  rw [hlog, queuedOn_append]
  exact List.prefix_append ..

/-- **The answer is the descriptor of that moment.** -/
theorem AnswersAt.queued (h : AnswersAt (boot opcode answer) inputs c pre) :
    ∃ ms, queuedOn c (run step (boot opcode answer) inputs).log =
      .descriptor (run step (boot opcode answer) pre).deviceDescriptor :: ms := by
  obtain ⟨inp, post, hin, d, ms, hms⟩ := h.before
  have hd : d = (run step (boot opcode answer) pre).deviceDescriptor := by
    obtain ⟨ms', hadds, hcase⟩ := step_adds (run_opened opcode answer pre) inp c
    rw [run_concat, hadds, h.empty, List.nil_append] at hms
    rcases hcase with hnil | ⟨-, hreplies⟩
    · rw [hnil] at hms
      cases hms
    · have hr := hreplies h.empty
      rw [hms] at hr
      cases hr <;> rfl
  obtain ⟨rest, hrest⟩ := run_queuedOn (boot opcode answer) (pre ++ [inp]) post c
  refine ⟨ms ++ rest, ?_⟩
  rw [hin, ← hd, ← List.cons_append, ← hms, hrest, List.append_assoc, List.singleton_append]

end Bridge

/-! ## 2. A library asks -/

/-- A library asks the bridge, and is answered: its socket calls go well, the bridge answers on
    its connection in the step after `pre`, and what it receives is what the bridge sent first. -/
structure Greeted (env : Env) (opcode : Int) (answer : DeviceAnswer) (inputs : List Bridge.Input)
    (c : Conn) (pre : List Bridge.Input) (a : ConnectAnswer) : Prop where
  connected : (Udev.connectBridge env a).isSome = true
  moment : Bridge.AnswersAt (Bridge.boot opcode answer) inputs c pre
  received : a.received <+: sentOn c (run Bridge.step (Bridge.boot opcode answer) inputs).log
  whole : a.received.length = deviceDescriptorCodec.size

variable {env : Env} {opcode : Int} {answer : DeviceAnswer} {inputs pre : List Bridge.Input}
  {c : Conn} {a : ConnectAnswer}

theorem Greeted.descriptor (h : Greeted env opcode answer inputs c pre a) :
    deviceDescriptorCodec.dec a.received =
      (run Bridge.step (Bridge.boot opcode answer) pre).deviceDescriptor := by
  obtain ⟨ms, hms⟩ := h.moment.queued
  have hsent := h.received.trans (Bridge.sentOn_prefix opcode answer inputs c)
  rw [hms, ← List.append_nil a.received] at hsent
  rw [(prefix_enc (c := deviceDescriptorCodec) hsent h.whole).1, deviceDescriptorCodec.dec_enc]

/-- What `connect_bridge` found where it returns a socket. -/
theorem connectBridge_isSome (h : (Udev.connectBridge env a).isSome = true) :
    ¬((nonEmpty env.evdevSocket).getD defaultSocket).length ≥ sunPathSize ∧ ¬a.socket < 0 ∧
      a.connect = 0 ∧ a.send = controlMessageCodec.size := by
  unfold Udev.connectBridge at h
  split at h
  · cases h
  split at h
  · cases h
  rename_i hpath
  split at h
  · cases h
  rename_i hsocket
  split at h
  · cases h
  rename_i hconnect
  split at h
  · cases h
  rename_i hsend
  exact ⟨hpath, hsocket, not_not.mp hconnect, not_not.mp hsend⟩

/-- The bridge says whether it has a device. -/
theorem present_iff (opcode : Int) (answer : DeviceAnswer) (inputs : List Bridge.Input) :
    (run Bridge.step (Bridge.boot opcode answer) inputs).deviceDescriptor.present ≠ 0 ↔
      0 ≤ (run Bridge.step (Bridge.boot opcode answer) inputs).lorieDeviceId := by
  rcases (Bridge.run_announced opcode answer inputs).present with ⟨hp, hid⟩ | ⟨hp, hid⟩
  · rw [hp]
    exact iff_of_true (by decide) hid
  · rw [hp]
    exact iff_of_false (by decide) (by omega)

/-! ## 3. The scan -/

theorem Greeted.answered (h : Greeted env opcode answer inputs c pre a) :
    Udev.answered env a =
      some (run Bridge.step (Bridge.boot opcode answer) pre).deviceDescriptor := by
  have hheaded := Bridge.run_headed opcode answer pre
  rw [Udev.answered, if_neg, h.descriptor, if_neg]
  · exact fun hbad => hbad.elim (fun hm => hm hheaded.magic) fun hv => hv hheaded.version
  · rintro (hnone | hlen)
    · have hsome := h.connected
      rw [Option.isNone_iff_eq_none.mp hnone] at hsome
      cases hsome
    · exact hlen h.whole

/-- **A scan lists the device that was there** when the bridge answered it. -/
theorem Greeted.lists (h : Greeted env opcode answer inputs c pre a) (u : Udev)
    {ms : List Match} (hmatch : Udev.flag ms = true) :
    u.lists env a ms = true ↔
      0 ≤ (run Bridge.step (Bridge.boot opcode answer) pre).lorieDeviceId := by
  rw [← present_iff]
  by_cases hp : (run Bridge.step (Bridge.boot opcode answer) pre).deviceDescriptor.present = 0
  · refine iff_of_false (fun hl => ?_) (fun hn => hn hp)
    unfold Udev.lists Udev.getListEntry at hl
    rw [Udev.scan_answered h.answered, hp] at hl
    simp at hl
  · exact iff_of_true (by rw [Udev.lists_eq h.answered hp, hmatch]) hp

/-! ## 4. The open -/

namespace Shim

variable {s : Shim}

theorem next_answer (h : s.connects.head? = some a) :
    s.connects.headD ⟨-1, -1, -1, []⟩ = a := by
  rw [List.headD_eq_head?_getD, h]
  rfl

/-- **Connecting a node** to a bridge that answers well: the socket's number, or -1 where the
    bridge has no device. -/
theorem connectDevice_result (hnext : s.connects.head? = some a)
    (hconnected : (Udev.connectBridge env a).isSome = true)
    (hlen : a.received.length = deviceDescriptorCodec.size)
    (hmagic : (deviceDescriptorCodec.dec a.received).magic = deviceMagic)
    (hversion : (deviceDescriptorCodec.dec a.received).version = controlVersion)
    (flags : UInt32) (joydev : Bool) :
    (s.connectDevice env flags joydev).2.result =
      if (deviceDescriptorCodec.dec a.received).present = 0 then -1 else a.socket := by
  obtain ⟨hpath, hsocket, hconnect, hsend⟩ := connectBridge_isSome hconnected
  unfold connectDevice
  dsimp only
  rw [next_answer hnext, if_neg hpath, if_neg hsocket, if_neg (not_not.mpr hconnect)]
  by_cases hp : (deviceDescriptorCodec.dec a.received).present = 0
  · rw [if_pos hp, if_pos (Or.inr (Or.inr (Or.inr (Or.inr hp))))]
    rfl
  · rw [if_neg hp, if_neg]
    rintro (h | h | h | h | h)
    · exact h hsend
    · exact h hlen
    · exact h hmagic
    · exact h hversion
    · exact hp h

/-- An open call of a virtual node connects it. -/
theorem open_connects {call : Call} {path : Path} {joydev : Bool} (s : Shim)
    (hon : env.backendEnabled = true) (hopen : call.isOpen = true) (hpath : call.path = some path)
    (hv : virtualNode path = some joydev) :
    ∃ t flags, Still s t ∧ s.call env call = t.connectDevice env flags joydev := by
  have hopens : call.opens env = some joydev := by
    cases call <;> simp_all [Call.isOpen, Call.path, Call.opens]
  rcases @call_table env s call with ⟨hconn, -, -⟩ | ⟨fd, rfl⟩ | ⟨fd, buffer, length, rfl⟩
  · rcases hconn with ⟨-, hnone⟩ | ⟨t, flags, joydev', ht, hnode, he⟩
    · rw [hopens] at hnone
      cases hnone
    · obtain rfl : joydev = joydev' := Option.some.inj (hopens.symm.trans hnode)
      exact ⟨t, flags, ht, he⟩
  · cases hopen
  · cases hopen

end Shim

/-- **A connect succeeds exactly if the bridge has a device** when it answers. -/
theorem Greeted.connects (h : Greeted env opcode answer inputs c pre a) {s : Shim}
    (hnext : s.connects.head? = some a) (flags : UInt32) (joydev : Bool) :
    0 ≤ (s.connectDevice env flags joydev).2.result ↔
      0 ≤ (run Bridge.step (Bridge.boot opcode answer) pre).lorieDeviceId := by
  have hheaded := Bridge.run_headed opcode answer pre
  have hd := h.descriptor
  have hsocket : 0 ≤ a.socket := not_lt.mp (connectBridge_isSome h.connected).2.1
  rw [Shim.connectDevice_result hnext h.connected h.whole (hd ▸ hheaded.magic)
    (hd ▸ hheaded.version), hd, ← present_iff]
  split
  · rename_i hp
    exact iff_of_false (by decide) (fun hpresent => hpresent hp)
  · rename_i hp
    exact iff_of_true hsocket hp

/-- **A fresh socket becomes a virtual descriptor** of the device the bridge had. -/
theorem Greeted.connects_found (h : Greeted env opcode answer inputs c pre a) {t : Session}
    {s : Shim} (hsound : t.Sound env) (hstill : Shim.Still t.shim s)
    (hnext : t.shim.connects.head? = some a) (hfresh : a.socket ∉ t.opened) (flags : UInt32)
    (joydev : Bool) (fd : Int) :
    (s.connectDevice env flags joydev).1.findFakeFd fd =
      if 0 ≤ (s.connectDevice env flags joydev).2.result ∧ t.shim.fakeFds.length < maxFakeFds ∧
          fd = (s.connectDevice env flags joydev).2.result then
        some (Shim.newFake fd joydev
          (run Bridge.step (Bridge.boot opcode answer) pre).deviceDescriptor)
      else t.shim.findFakeFd fd := by
  have hhead := Shim.next_answer hnext
  have hnew : t.shim.nextSocket ∉ t.opened := by
    rw [Shim.nextSocket, hhead]
    exact hfresh
  rw [hsound.within.connect_found hnew hstill, Shim.greeting, hhead, h.descriptor]

/-! ## 5. From the list to the descriptor -/

/-- What a program has after it opened the node of a device: the descriptor of that flavour, for
    the device of the bridge, which shows the profile and the name the other library tells. -/
structure Shows (env : Env) (u : Udev) (s : Shim) (fd : Int) (d : DeviceKind)
    (device : DeviceDescriptor) : Prop where
  found : ∃ fake, s.findFakeFd fd = some fake ∧ (fake.joydev = true ↔ d = .joydev) ∧
    fake.descriptor = device ∧
    (u.descriptor = device → (s.init env).isDinput fake = u.dinputMode env ∧
      (s.init env).deviceName fake = u.deviceName env)

/-- **What is listed can be opened.** In every run of the bridge, after any calls of both
    libraries: a scan lists the device exactly if the bridge had a device when it answered, and
    the entry leads to every node of it; and so an open of such a node gives a descriptor exactly
    if the bridge has a device when it answers that. While there is room, the descriptor has the
    node's flavour and the device of the open, shown as the fake libudev shows it if the scan met
    the same. An open that fails, for whatever reason, leaves every descriptor as it is. -/
theorem listed_opens (env : Env) (opcode : Int) (answer : DeviceAnswer) (inputs : List Bridge.Input)
    (c : Conn) (pre : List Bridge.Input) (scan : ConnectAnswer)
    (hscan : Greeted env opcode answer inputs c pre scan)
    (ucalls : List (Env × UdevCall)) (ms : List Match) (hmatch : Udev.flag ms = true)
    (reals : List Outcome) (connects : List ConnectAnswer) (sends : List Int) (calls : List Call)
    (d : DeviceKind) (node : List UInt8) (hnode : Udev.getDevnode d = some node)
    (call : Call) (hcall : call.isOpen = true) (hpath : call.path = some (some node)) :
    let b := run Bridge.step (Bridge.boot opcode answer) pre
    let u := ((run Udev.step Udev.loaded ucalls).filtered env ms).step
      (env, .enumerateScanDevices scan)
    let t := run (Session.step env) (Session.loaded reals connects sends) calls
    let r := t.shim.call env call
    u.descriptor = b.deviceDescriptor ∧
      (u.getListEntry env = true ↔ 0 ≤ b.lorieDeviceId) ∧
      Udev.Leads env d node ∧
      (∀ c' pre' opening, Greeted env opcode answer inputs c' pre' opening →
        t.shim.connects.head? = some opening →
        let b' := run Bridge.step (Bridge.boot opcode answer) pre'
        (0 ≤ r.2.result ↔ 0 ≤ b'.lorieDeviceId) ∧
          (opening.socket ∉ t.opened → t.shim.fakeFds.length < maxFakeFds → 0 ≤ r.2.result →
            Shows env u r.1 r.2.result d b'.deviceDescriptor)) ∧
      (t.shim.nextSocket ∉ t.opened → ¬0 ≤ r.2.result →
        ∀ fd, r.1.findFakeFd fd = t.shim.findFakeFd fd) := by
  intro b u t r
  have hon : env.backendEnabled = true := Udev.enabled_of_answered hscan.answered
  have hsound : t.Sound env := run_inv (P := Session.Sound env) step_sound
    (loaded_sound reals connects sends) calls
  have hmoded : Shim.Moded env r.1 := Shim.call_moded call
    (@Shim.run_moded env reals connects sends calls)
  obtain ⟨-, -, hv⟩ := Udev.getDevnode_child hnode
  obtain ⟨t', flags, hstill, he⟩ := Shim.open_connects t.shim hon hcall hpath hv
  refine ⟨Udev.scan_answered hscan.answered _, hscan.lists _ hmatch, Udev.leads hon hnode,
    fun c' pre' opening hopening hnext => ⟨?_, fun hfresh hroom hr => ?_⟩, fun hfresh hr fd => ?_⟩
  · show 0 ≤ (t.shim.call env call).2.result ↔ _
    rw [he]
    exact hopening.connects (hstill.connects ▸ hnext) flags (decide (d = .joydev))
  · have hfound := hopening.connects_found hsound hstill hnext hfresh flags (decide (d = .joydev))
      r.2.result
    rw [← he, if_pos ⟨hr, hroom, rfl⟩] at hfound
    refine ⟨_, hfound, decide_eq_true_iff, rfl, fun hsame => ?_⟩
    exact ⟨(dinputMode_eq rfl hmoded hsame.symm).symm, (deviceName_eq rfl hmoded hsame.symm).symm⟩
  · have hfound := @Shim.Within.connect_found env _ _ _ hsound.within hfresh hstill flags
      (decide (d = .joydev)) fd
    rw [← he, if_neg fun h => hr h.1] at hfound
    exact hfound

/-- Two clients ask for the descriptor. -/
def twoQueries : List Bridge.Input :=
  [Bridge.quietly (.accept (.conn 0 true)),
    { Bridge.quietly (.readable Bridge.slot0 (.data (Bridge.commandBytes controlQueryDescriptor))) with
      sends := [.sent 4095, .sent 4095] },
    Bridge.quietly (.accept (.conn 1 true)),
    { Bridge.quietly (.readable Bridge.slot1 (.data (Bridge.commandBytes controlQueryDescriptor))) with
      sends := [.sent 4095, .sent 4095] }]

/-- What a library receives on a connection of the bridge. -/
def queryAnswer (socket : Int) (c : Conn) : ConnectAnswer :=
  { socket := socket, connect := 0, send := 16
    received := (sentOn c (run Bridge.step (Bridge.boot 1 Bridge.padAnswer) twoQueries).log).take 88 }

/-- A program opens the joydev node. -/
def padOpened : Shim × Outcome :=
  (run (Session.step plainEnv) (Session.loaded [] [queryAnswer 4 1] []) []).shim.call plainEnv
    (.open_ (some fakeJoydevNode) 0 0)

/-- The program found the pad in a scan for the subsystem. -/
theorem listed_opens_joydev :
    ((Udev.loaded.filtered plainEnv [.subsystem (some (ascii "input"))]).step
        (plainEnv, .enumerateScanDevices (queryAnswer 3 0))).getListEntry plainEnv = true ∧
      padOpened.2.result = 4 ∧
      ∃ fake, padOpened.1.findFakeFd padOpened.2.result = some fake ∧ fake.joydev = true := by
  have hscan : Greeted plainEnv 1 Bridge.padAnswer twoQueries 0 (twoQueries.take 1)
      (queryAnswer 3 0) := by
    refine ⟨by decide +kernel, ⟨⟨_, twoQueries.drop 2, rfl, ?_⟩, by decide +kernel⟩,
      List.isPrefixOf_iff_prefix.mp (by decide +kernel), by decide +kernel⟩
    exact ⟨(Bridge.boot 1 Bridge.padAnswer).deviceDescriptor, (queuedOn 0 (run Bridge.step
      (Bridge.boot 1 Bridge.padAnswer) twoQueries).log).tail, by decide +kernel⟩
  have hopening : Greeted plainEnv 1 Bridge.padAnswer twoQueries 1 (twoQueries.take 3)
      (queryAnswer 4 1) := by
    refine ⟨by decide +kernel, ⟨⟨_, twoQueries.drop 4, rfl, ?_⟩, by decide +kernel⟩,
      List.isPrefixOf_iff_prefix.mp (by decide +kernel), by decide +kernel⟩
    exact ⟨(Bridge.boot 1 Bridge.padAnswer).deviceDescriptor, (queuedOn 1 (run Bridge.step
      (Bridge.boot 1 Bridge.padAnswer) twoQueries).log).tail, by decide +kernel⟩
  obtain ⟨-, hlist, -, hopens, -⟩ := listed_opens plainEnv 1 Bridge.padAnswer twoQueries 0 _ _
    hscan [] [.subsystem (some (ascii "input"))] (by decide +kernel) [] [queryAnswer 4 1] [] []
    .joydev fakeJoydevNode rfl (.open_ (some fakeJoydevNode) 0 0) rfl rfl
  obtain ⟨hopen, hshows⟩ := hopens 1 _ _ hopening rfl
  have hthere : 0 ≤ (run Bridge.step (Bridge.boot 1 Bridge.padAnswer)
      (twoQueries.take 1)).lorieDeviceId ∧ 0 ≤ (run Bridge.step (Bridge.boot 1 Bridge.padAnswer)
      (twoQueries.take 3)).lorieDeviceId := by decide +kernel
  obtain ⟨fake, hfind, hjoydev, -⟩ := (hshows (by decide) (by decide) (hopen.mpr hthere.2)).found
  refine ⟨hlist.mpr hthere.1, by decide +kernel, fake, ?_, ?_⟩
  · unfold padOpened
    exact hfind
  · exact hjoydev.mpr rfl

end TermuxGamepad
