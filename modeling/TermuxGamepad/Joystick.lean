/-
  File:      TermuxGamepad/Joystick.lean
  Subject:   A joydev descriptor of the shim at the end of a connection of the bridge.

  The bridge queues descriptor and snapshot before anything else (Bridge/Opening.lean), and the
  descriptor translates whatever records it consumes, in order (Shim/JoyStream.lean). Together:
  the reads return the state at the opening as the initial report, then the changes.
-/
import TermuxGamepad.Bridge.Controls
import TermuxGamepad.Bridge.Opening
import TermuxGamepad.Bridge.Rounds
import TermuxGamepad.Shim.JoyStream

namespace TermuxGamepad

open Wire

/-! ## 1. The initial report -/

/-- A joydev event without its time. -/
def JsEvent.body (e : JsEvent) : UInt8 × UInt8 × Int16 := (e.type, e.number, e.value)

/-- The initial event of a control. -/
def GamepadState.joyReport (s : GamepadState) : Control → UInt8 × UInt8 × Int16
  | .axis i => (jsEventAxis ||| jsEventInit, [0, 1, 3, 4, 2, 5].getD i 0,
      joyAxisValue (axisCode i) (Int32.ofInt (s.axes i)))
  | .hatX => (jsEventAxis ||| jsEventInit, 6, joyAxisValue absHat0x (Int32.ofInt s.hatX))
  | .hatY => (jsEventAxis ||| jsEventInit, 7, joyAxisValue absHat0y (Int32.ofInt s.hatY))
  | .button k => (jsEventButton ||| jsEventInit, [0, 1, 2, 3, 4, 5, 6, 7, 9, 10, 8, 11].getD k 0,
      if s.isPressed (buttonDetail k) then 1 else 0)

/-- **The initial report of a state**: eight axes and twelve buttons. -/
def GamepadState.initialReport (s : GamepadState) : List (UInt8 × UInt8 × Int16) :=
  snapshotControls.map s.joyReport

theorem initialReport_length (s : GamepadState) : s.initialReport.length = 20 := by
  rw [GamepadState.initialReport, List.length_map]
  rfl

/-- The record of a control becomes its initial event. -/
theorem joyEvent_control (s : GamepadState) (c : Control) {e : InputEvent}
    (h : e.body = (c.key.1, c.key.2, s.shown c)) :
    (joyEvent true e).map JsEvent.body = some (s.joyReport c) := by
  obtain ⟨time, type, code, value⟩ := e
  obtain ⟨rfl, h'⟩ := Prod.mk.inj h
  obtain ⟨rfl, rfl⟩ := Prod.mk.inj h'
  cases c with
  | axis i => fin_cases i <;> rfl
  | hatX => rfl
  | hatY => rfl
  | button k =>
    have hvalue : ∀ p : Bool, (if Int32.ofInt p.toInt ≠ 0 then (1 : Int16) else 0) =
        if p then 1 else 0 := by decide
    have hk : (joyEvent true ⟨time, (Control.button k).key.1, (Control.button k).key.2,
        s.shown (.button k)⟩).map JsEvent.body =
          some (jsEventButton ||| jsEventInit, [0, 1, 2, 3, 4, 5, 6, 7, 9, 10, 8, 11].getD k 0,
            if s.shown (.button k) ≠ 0 then 1 else 0) := by
      fin_cases k <;> rfl
    rw [hk]
    exact congrArg (fun v => some (_, _, v)) (hvalue _)

theorem Control.isSync (c : Control) {e : InputEvent} {v : Int32}
    (h : e.body = (c.key.1, c.key.2, v)) : e.isSync = false := by
  have hmute := syn_mute c
  by_contra hs
  obtain ⟨h1, h2⟩ := Bool.and_eq_true_iff.mp (Bool.not_eq_false _ ▸ hs)
  obtain ⟨ht, h'⟩ := Prod.mk.inj h
  exact hmute (Prod.ext (ht ▸ of_decide_eq_true h1) ((Prod.mk.inj h').1 ▸ of_decide_eq_true h2))

/-- The records of controls become their initial events. -/
theorem joyEvents_controls (s : GamepadState) (cs : List Control) {es : List InputEvent}
    (h : es.map InputEvent.body = cs.map fun c => (c.key.1, c.key.2, s.shown c)) :
    (∀ e ∈ es, e.isSync = false) ∧
      (es.filterMap (joyEvent true)).map JsEvent.body = cs.map s.joyReport := by
  induction cs generalizing es with
  | nil =>
    rw [List.map_eq_nil_iff.mp h]
    exact ⟨fun e he => absurd he List.not_mem_nil, rfl⟩
  | cons c cs ih =>
    obtain ⟨e, es, rfl, he, hes⟩ := List.map_eq_cons_iff.mp h
    obtain ⟨hall, hmap⟩ := ih hes
    obtain ⟨j, hj, hbody⟩ := Option.map_eq_some_iff.mp (joyEvent_control s c he)
    refine ⟨List.forall_mem_cons.mpr ⟨c.isSync he, hall⟩, ?_⟩
    rw [List.filterMap_cons_some hj, List.map_cons, List.map_cons, hbody, hmap]

/-- **A snapshot translates to the initial report of its state**, and ends it. -/
theorem snapshot_report {s : GamepadState} {evs : List InputEvent} (h : Bridge.IsSnapshot s evs) :
    ∃ records sync, evs = records ++ [sync] ∧ sync.isSync = true ∧
      translated records = records.filterMap (joyEvent true) ∧
      (translated records).map JsEvent.body = s.initialReport := by
  have hbody : evs.map InputEvent.body =
      snapshotControls.map (fun c => (c.key.1, c.key.2, s.shown c)) ++ [Bridge.synBody] := by
    rw [h, snapshotRecords_eq, List.map_append, List.map_map]
    rfl
  obtain ⟨records, last, rfl, hrecords, hlast⟩ := List.map_eq_append_iff.mp hbody
  obtain ⟨sync, rfl, hsync⟩ := List.map_eq_singleton_iff.mp hlast
  obtain ⟨hall, hmap⟩ := joyEvents_controls s snapshotControls hrecords
  have hinitial := translated_initial hall
  refine ⟨records, sync, rfl, ?_, hinitial, hinitial ▸ hmap⟩
  obtain ⟨ht, h'⟩ := Prod.mk.inj hsync
  exact Bool.and_eq_true_iff.mpr ⟨decide_eq_true ht, decide_eq_true (Prod.mk.inj h').1⟩

/-! ## 2. What a descriptor is greeted with -/

/-- Bytes that begin like a stream of records begin with the first of them. -/
theorem prefix_enc {α : Type} {c : Codec α} {a : α} {bs more rest : List UInt8}
    (h : bs ++ more <+: c.enc a ++ rest) (hlen : bs.length = c.size) :
    bs = c.enc a ∧ more <+: rest := by
  obtain ⟨t, ht⟩ := h
  rw [List.append_assoc] at ht
  obtain ⟨h1, h2⟩ := List.append_inj ht (hlen.trans (c.enc_length a).symm)
  exact ⟨h1, t, h2⟩

/-- **Behind the descriptor of a device comes a snapshot**: of what was sent on a connection,
    the bytes behind a descriptor begin with the snapshot of the state at the opening. -/
theorem greeted {opcode : Int} {answer : DeviceAnswer} {inputs : List Bridge.Input} {c : Conn}
    {greeting bytes : List UInt8}
    (hsent : greeting ++ bytes <+:
      sentOn c (run Bridge.step (Bridge.boot opcode answer) inputs).log)
    (hlen : greeting.length = deviceDescriptorCodec.size)
    (hmagic : (deviceDescriptorCodec.dec greeting).magic = deviceMagic)
    (hpresent : (deviceDescriptorCodec.dec greeting).present ≠ 0) :
    ∃ pre ms rest, Bridge.Opening (Bridge.boot opcode answer) inputs c pre ms rest ∧
      ∃ evs more, Bridge.IsSnapshot (run Bridge.step (Bridge.boot opcode answer) pre).state evs ∧
        bytes <+: inputEventCodec.encAll evs ++ more := by
  have hstream := hsent.trans (Bridge.sentOn_prefix opcode answer inputs c)
  have hnil : greeting ≠ [] := by
    rintro rfl
    exact absurd hlen (by decide)
  rcases Bridge.run_opening opcode answer inputs c with hnone | ⟨pre, ms, rest, h⟩
  · rw [hnone] at hstream
    exact absurd (List.append_eq_nil_iff.mp (List.prefix_nil.mp hstream)).1 hnil
  refine ⟨pre, ms, rest, h, ?_⟩
  rw [h.queued] at hstream
  have hdescriptor : ∀ {d ms'}, ms = .descriptor d :: ms' → d.present ≠ 0 ∧
      bytes <+: (ms' ++ rest).flatMap Message.bytes := by
    rintro d ms' rfl
    obtain ⟨h1, h2⟩ := prefix_enc (c := deviceDescriptorCodec) hstream hlen
    rw [h1, deviceDescriptorCodec.dec_enc] at hpresent
    exact ⟨hpresent, h2⟩
  have hsnap : ∀ {d ms'}, ms = .descriptor d :: ms' →
      ∃ evs more, Bridge.IsSnapshot (run Bridge.step (Bridge.boot opcode answer) pre).state evs ∧
        bytes <+: inputEventCodec.encAll evs ++ more := by
    intro d ms' hms
    obtain ⟨hd, hbytes⟩ := hdescriptor hms
    subst hms
    rcases h.snapshot hd with ⟨rfl, rfl⟩ | ⟨evs, ms'', hs, rfl⟩
    · -- nothing followed, so nothing was consumed
      rw [List.prefix_nil.mp hbytes]
      have hspec := (Bridge.appendRecords_spec (Bridge.snapshotRecords
        (run Bridge.step (Bridge.boot opcode answer) pre).state) (Bridge.init opcode, [])).2
      exact ⟨_, [], by simpa [Bridge.IsSnapshot] using hspec, List.nil_prefix⟩
    · exact ⟨evs, _, hs, hbytes⟩
  cases h.replies with
  | nil => exact absurd rfl h.some
  | absent _ _ => exact hsnap rfl
  | cut => exact hsnap rfl
  | snapshot _ _ => exact hsnap rfl
  | monitor _ =>
    -- a hotplug message has another magic
    obtain ⟨t, ht⟩ := hstream
    have hword := congrArg Codec.u32.dec ht
    rw [List.append_assoc, Codec.u32.dec_append greeting _ (by rw [hlen]; decide)] at hword
    have hhotplug := hmagic.symm.trans (hword.trans (congrArg HotplugMessage.magic
      (hotplugMessageCodec.dec_enc_append (monitorReply _) _)))
    exact absurd (show deviceMagic = hotplugMagic from hhotplug) (by decide)

/-! ## 3. The stream -/

/-- **The joydev stream is the translated event stream.** In every run of the bridge and for every
    sequence of reads of a descriptor connected to it, whatever the pieces in which the socket
    hands out the bytes: the events returned are the translation of the whole records consumed,
    in their order. The first twenty are the initial report of the state at the opening, with
    JS_EVENT_INIT; none behind a SYN_REPORT has it. -/
theorem joydev_stream (opcode : Int) (answer : DeviceAnswer) (inputs : List Bridge.Input) (c : Conn)
    (env : Env) (s : Shim) (flags : UInt32) (fd : Int) (hopen : s.OpensJoydev env flags fd)
    (calls : List (UInt64 × Nat)) :
    let opened := (s.connectDevice env flags true).1
    let reads := Shim.joyReads env fd opened calls
    let bytes := consumed fd (reads.1.log.drop opened.log.length)
    let records := inputEventCodec.records bytes
    -- the socket is a byte stream: what was received is a beginning of what was sent
    s.greeting ++ bytes <+: sentOn c (run Bridge.step (Bridge.boot opcode answer) inputs).log →
    reads.2 = translated records ∧
      (∃ pre inp post, inputs = pre ++ inp :: post ∧
        queuedOn c (run Bridge.step (Bridge.boot opcode answer) pre).log = [] ∧
        queuedOn c (run Bridge.step (Bridge.boot opcode answer) (pre ++ [inp])).log ≠ [] ∧
        (reads.2.take 20).map JsEvent.body <+:
          (run Bridge.step (Bridge.boot opcode answer) pre).state.initialReport) ∧
      (∀ e ∈ reads.2.take 20, e.type &&& jsEventInit = jsEventInit) ∧
      ∀ before sync after, records = before ++ sync :: after → sync.isSync = true →
        ∀ e ∈ reads.2.drop (translated before).length, e.type &&& jsEventInit = 0 := by
  intro opened reads bytes records hsent
  obtain ⟨hlen, hmagic, hpresent⟩ :=
    Shim.connectDevice_greeting (show 0 ≤ (s.connectDevice env flags true).2.result from
      hopen.result.symm ▸ hopen.nonneg)
  have htranslated : reads.2 = translated records := Shim.joyReads_translated hopen.reads calls
  obtain ⟨pre, ms, rest, hopening, evs, more, hs, hbytes⟩ := greeted hsent hlen hmagic hpresent
  obtain ⟨initial, sync, rfl, hsync, hinitial, hreport⟩ := snapshot_report hs
  -- the records are a beginning of the snapshot's and what follows it
  have hrecords : records <+: initial ++ sync :: inputEventCodec.records more := by
    have h := inputEventCodec.records_prefix (by decide) hbytes
    rwa [inputEventCodec.records_encAll_append (by decide), List.append_assoc] at h
  have hevents : reads.2 <+: translated initial ++
      (inputEventCodec.records more).filterMap (joyEvent false) := by
    rw [htranslated, ← translated_sync initial _ hsync]
    exact translated_prefix hrecords
  have hcount : (translated initial).length = 20 := by
    rw [← List.length_map (f := JsEvent.body), hreport, initialReport_length]
  have htake : reads.2.take 20 <+: translated initial := by
    have h := hevents.take 20
    rwa [List.take_left' hcount] at h
  refine ⟨htranslated, ?_, fun e he => ?_, fun before sync' after heq hsync' e he => ?_⟩
  · obtain ⟨inp, post, hin, hms⟩ := hopening.before
    exact ⟨pre, inp, post, hin, hopening.empty, hms ▸ hopening.some, hreport ▸ htake.map _⟩
  · have hmem := htake.subset he
    rw [hinitial] at hmem
    obtain ⟨r, -, hr⟩ := List.mem_filterMap.mp hmem
    exact joyEvent_init hr
  · rw [htranslated, heq, translated_sync before after hsync', List.drop_left] at he
    obtain ⟨r, -, hr⟩ := List.mem_filterMap.mp he
    exact joyEvent_init hr

/-- A client asks for the descriptor, then the left stick moves; a send takes forty bytes. -/
def stickInputs : List Bridge.Input :=
  [Bridge.quietly (.accept (.conn 0 true)),
    { Bridge.quietly (.readable Bridge.slot0 (.data (Bridge.commandBytes controlQueryDescriptor))) with
      sends := [.sent 40, .sent 1000, .sent 1000] },
    { Bridge.quietly (.xEvent (.device ⟨.motion, 5, 5, 0, [true], [1000]⟩)) with sends := [.sent 1000] }]

/-- What the bridge sent. -/
def stickBytes : List UInt8 := sentOn 0 (run Bridge.step (Bridge.boot 1 Bridge.padAnswer) stickInputs).log

/-- A shim whose socket hands out ten bytes of the first record, runs dry, and goes on. -/
def stickShim : Shim :=
  let events := stickBytes.drop 88
  .loaded (⟨10, events.take 10⟩ :: ⟨-1, []⟩ :: ⟨14, (events.drop 10).take 14⟩ ::
    (List.range 22).map fun k => ⟨24, (events.drop (24 * (k + 1))).take 24⟩)
    [{ socket := 3, connect := 0, send := 16, received := stickBytes.take 88 }] []

/-- Three reads with buffers of one, ten and fifty events. -/
def stickReads : Shim × List JsEvent :=
  Shim.joyReads plainEnv 3 (stickShim.connectDevice plainEnv 0 true).1 [(4096, 8), (4096, 80), (4096, 400)]

theorem joydev_stream_stick :
    stickReads.2.length = 21 ∧
      stickReads.2 = translated (inputEventCodec.records (consumed 3
        (stickReads.1.log.drop (stickShim.connectDevice plainEnv 0 true).1.log.length))) :=
  ⟨by decide +kernel, (joydev_stream 1 Bridge.padAnswer stickInputs 0 plainEnv stickShim 0 3
    ⟨by decide +kernel, by decide, rfl, by decide +kernel⟩ [(4096, 8), (4096, 80), (4096, 400)]
    (List.isPrefixOf_iff_prefix.mp (by decide +kernel))).1⟩

end TermuxGamepad
