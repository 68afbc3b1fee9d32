/-
  File:      TermuxGamepad/Advertisement.lean
  Subject:   What the bridge sends is what the virtual device advertises.

  The bridge encodes its state, the shim answers the capability requests; the two share no
  table. Everything the bridge queues for an event client reports controls inside their ranges
  (`Emittable`), for every run; every such record, as a descriptor of either profile shows it,
  has its code in the descriptor's bitmap and its value in the range of its axis.
-/
import TermuxGamepad.Bridge.Queueing
import TermuxGamepad.Bridge.Tracking
import TermuxGamepad.Shim.Translation

namespace TermuxGamepad

open Wire

/-! ## 1. What the bridge queues -/

/-- The record reports a control, with a value in its range. -/
def InputEvent.InRange (e : InputEvent) : Prop :=
  ∃ (c : Control) (v : Int), e.report = (c.key, Int32.ofInt v) ∧ c.low ≤ v ∧ v ≤ c.high

/-- Records of controls, closed by SYN_REPORT. -/
def Emittable (evs : List InputEvent) : Prop :=
  ∃ records syn, evs = records ++ [syn] ∧ syn.body = Bridge.synBody ∧ ∀ e ∈ records, e.InRange

/-- Bodies tell a list of records apart from the one behind it. -/
theorem emittable_of_body {evs : List InputEvent} (rs : List (UInt16 × UInt16 × Int32))
    (h : evs.map InputEvent.body = rs ++ [Bridge.synBody])
    (hrs : ∀ r ∈ rs, ∃ (c : Control) (v : Int),
      r = (c.key.1, c.key.2, Int32.ofInt v) ∧ c.low ≤ v ∧ v ≤ c.high) : Emittable evs := by
  obtain ⟨records, last, rfl, hrecords, hlast⟩ := List.map_eq_append_iff.mp h
  obtain ⟨syn, rfl, hsyn⟩ := List.map_eq_singleton_iff.mp hlast
  refine ⟨records, syn, rfl, hsyn, fun e he => ?_⟩
  obtain ⟨c, v, hr, hv⟩ := hrs e.body (hrecords ▸ List.mem_map_of_mem he)
  refine ⟨c, v, ?_, hv⟩
  unfold InputEvent.body at hr
  obtain ⟨h1, h2⟩ := Prod.mk.inj hr
  obtain ⟨h2, h3⟩ := Prod.mk.inj h2
  show ((e.type, e.code), e.value) = _
  rw [h1, h2, h3]

theorem snapshot_emittable {s : GamepadState} (hs : s.InRange) {evs : List InputEvent}
    (h : Bridge.IsSnapshot s evs) : Emittable evs := by
  refine emittable_of_body (snapshotControls.map fun c => (c.key.1, c.key.2, s.shown c)) ?_ ?_
  · rw [h, snapshotRecords_eq, List.map_append, List.map_map]
    rfl
  · intro r hr
    obtain ⟨c, _, rfl⟩ := List.mem_map.mp hr
    exact ⟨c, s.value c, rfl, hs.value c⟩

theorem batch_emittable {b : Bridge} (hb : b.state.InRange) {event : XIDeviceEvent}
    {evs : List InputEvent} (h : b.IsBatch event evs) : Emittable evs := by
  refine emittable_of_body _ h fun r hr => ?_
  obtain ⟨cs, hcs, -⟩ := Bridge.eventBatch_changed b event
  obtain ⟨e, he, rfl⟩ := List.mem_map.mp hr
  have hrep : e.report ∈ cs.map fun c => (c.key, (b.eventBatch event).1.state.shown c) := by
    rw [← hcs.records]
    exact List.mem_map_of_mem he
  obtain ⟨c, _, hc⟩ := List.mem_map.mp hrep
  refine ⟨c, (b.eventBatch event).1.state.value c, ?_,
    (Bridge.eventBatch_inRange hb event).value c⟩
  obtain ⟨hkey, hvalue⟩ := Prod.mk.inj hc
  show (e.type, e.code, e.value) = _
  rw [show e.type = c.key.1 from (congrArg Prod.fst hkey).symm,
    show e.code = c.key.2 from (congrArg Prod.snd hkey).symm, ← hvalue]
  rfl

namespace Bridge

/-- The state is in range, and so is all that was ever queued. -/
structure Sane (b : Bridge) : Prop where
  state : b.state.InRange
  queued : ∀ c evs, Message.events evs ∈ queuedOn c b.log → Emittable evs

variable {b b' : Bridge}

theorem act_inRange (h : b.state.InRange) (a : Action) : (b.act a).state.InRange := by
  by_cases ha : a.looks = true
  · obtain ⟨answer, rfl⟩ := Action.looks_eq ha
    refine refreshLorieDevice_inv (P := fun b => b.state.InRange) answer (fun b' hs => ?_) ?_ ?_
    · rw [hs.quiet.state]
      exact h
    · intro b' _ _
      rw [removeDevice_eq, broadcastHotplug, (frame_parts.broadcast ..).state]
      exact GamepadState.zero_inRange
    · intro b' f _ _ h'
      rw [addDevice_eq, broadcastHotplug, (frame_parts.broadcast ..).state]
      exact h'
  · rcases act_turn b (Bool.not_eq_true _ ▸ ha) with hq | ⟨event, evs, _, hp⟩ | ⟨r, _, he⟩ |
      ⟨i, r, _, _, he⟩
    · rw [hq.state]
      exact h
    · rw [hp.state]
      exact eventBatch_inRange h event
    · rw [he, (acceptClient_same b r).1]
      exact h
    · rw [he, (serveReadable_frame b i r).1.state]
      exact h

/-- The event batches among replies are snapshots. -/
theorem Replies.events_mem {s : GamepadState} {d : DeviceDescriptor} {ms : List Message}
    (h : Replies s d ms) {evs : List InputEvent} (hmem : Message.events evs ∈ ms) :
    IsSnapshot s evs := by
  induction h with
  | nil => cases hmem
  | cut => simp at hmem
  | absent _ _ ih => exact ih (by simpa using hmem)
  | monitor _ ih => exact ih (by simpa using hmem)
  | snapshot hs _ ih =>
    simp only [List.mem_cons, reduceCtorEq, Message.events.injEq, false_or] at hmem
    rcases hmem with rfl | hmem
    · exact hs
    · exact ih hmem

/-- **One action** queues only what can be emitted. -/
theorem act_sane (h : Sane b) (a : Action) : Sane (b.act a) := by
  refine ⟨act_inRange h.state a, fun c evs hmem => ?_⟩
  have hgrow : ∀ ms, Adds b (b.act a) c ms → (Message.events evs ∈ ms → Emittable evs) →
      Emittable evs := by
    intro ms hms hnew
    rw [hms] at hmem
    rcases List.mem_append.mp hmem with hmem | hmem
    · exact h.queued c evs hmem
    · exact hnew hmem
  by_cases ha : a.looks = true
  · obtain ⟨answer, rfl⟩ := Action.looks_eq ha
    obtain ⟨-, ms, hms, hx⟩ := refreshLorieDevice_adds b answer c
    refine hgrow ms hms fun hmem => ?_
    obtain ⟨⟨m, hm⟩, -⟩ := hx _ hmem
    cases hm
  · rcases act_adds b (Bool.not_eq_true _ ▸ ha) c with hms | ⟨i, r, ms, _, _, hms⟩ |
      ⟨event, ms, _, hms, hx⟩
    · exact hgrow [] hms fun hmem => by cases hmem
    · exact hgrow ms hms.adds fun hmem => snapshot_emittable h.state (hms.replies.events_mem hmem)
    · refine hgrow ms hms fun hmem => ?_
      obtain ⟨evs', he, hbatch, -⟩ := hx _ hmem
      cases he
      exact batch_emittable h.state hbatch

theorem run_sane (opcode : Int) (answer : DeviceAnswer) (inputs : List Input) :
    Sane (run step (boot opcode answer) inputs) :=
  run_boot_inv (P := Sane) (fun _ => ⟨GamepadState.zero_inRange, fun _ _ h => by cases h⟩)
    (fun _ _ _ _ h => ⟨h.state, h.queued⟩) (fun _ a h => act_sane h a) opcode answer inputs

end Bridge

/-! ## 2. What a descriptor advertises -/

namespace Shim

/-- **The record is advertised**: its code is set in the bitmap for its type, and the value of an
    axis lies in the range reported for it. -/
structure Advertised (s : Shim) (fake : FakeFd) (e : InputEvent) : Prop where
  bit : e.type = evKey ∨ e.type = evAbs → ∀ req arg, iocType req = 'E'.toNat →
    iocNr req = 0x20 + e.type.toNat → arg ≠ 0 → e.code.toNat / 8 < iocSize req →
    bitAt (s.fakeIoctl fake req arg).stored e.code.toNat = true
  range : e.type = evAbs → ∀ req arg, iocType req = 'E'.toNat →
    iocNr req = 0x40 + e.code.toNat → arg ≠ 0 → 24 ≤ iocSize req →
    Codec.s32.dec ((s.fakeIoctl fake req arg).stored.drop 4) ≤ e.value ∧
      e.value ≤ Codec.s32.dec ((s.fakeIoctl fake req arg).stored.drop 8)

/-- EVIOCGBIT for keys and axes. -/
theorem fakeIoctl_bits (s : Shim) (fake : FakeFd) {req arg : UInt64} {ev : Nat}
    (hev : ev = 1 ∨ ev = 3) (htype : iocType req = 'E'.toNat) (hnr : iocNr req = 0x20 + ev)
    (harg : arg ≠ 0) :
    (s.fakeIoctl fake req arg).stored = fillBits (iocSize req) ev (s.isDinput fake) := by
  unfold fakeIoctl
  rcases hev with rfl | rfl <;> simp [htype, hnr, harg]

/-- EVIOCGABS. -/
theorem fakeIoctl_abs (s : Shim) (fake : FakeFd) {req arg : UInt64} {code : Nat}
    (hcode : code ≤ 0x3f) (htype : iocType req = 'E'.toNat) (hnr : iocNr req = 0x40 + code)
    (harg : arg ≠ 0) (hsize : 24 ≤ iocSize req) :
    (s.fakeIoctl fake req arg).stored = absInfo code := by
  have h1 : ¬iocNr req = 1 := by omega
  have h2 : ¬iocNr req = 2 := by omega
  have h6 : ¬iocNr req = 6 := by omega
  have hbits : ¬iocNr req ∈ [0x20, 0x21, 0x22, 0x23, 0x35] := by
    simp only [List.mem_cons, List.not_mem_nil, or_false]
    omega
  have habs : iocNr req ≥ 0x40 ∧ iocNr req ≤ 0x40 + 0x3f ∧ arg ≠ 0 ∧ iocSize req ≥ 24 :=
    ⟨by omega, by omega, harg, hsize⟩
  unfold fakeIoctl
  dsimp only
  rw [if_neg (by simp [htype]), if_neg (fun h => h1 h.1), if_neg (fun h => h2 h.1),
    if_neg (fun h => h6 h.1), if_neg (fun h => hbits h.1), if_pos habs, hnr, Nat.add_sub_cancel_left]

/-- Every control is in the bitmaps of both profiles, a button under the code each shows. -/
theorem control_bit (c : Control) (isDinput : Bool) :
    (c.key.1 = evAbs ∧ c.key.2.toNat ∈ fillBitCodes 3 isDinput) ∨
      (c.key.1 = evKey ∧ c.key.2.toNat ∈ fillBitCodes 1 false ∧
        (dinputButtonCode c.key.2).toNat ∈ fillBitCodes 1 true) := by
  cases c with
  | axis i => revert i isDinput; decide
  | hatX => revert isDinput; decide
  | hatY => revert isDinput; decide
  | button k => revert k isDinput; decide

/-- The range of an axis is the range reported for it. -/
theorem absInfo_range (c : Control) (hc : c.key.1 = evAbs) :
    c.key.2.toNat ≤ 0x3f ∧
      Codec.s32.dec ((absInfo c.key.2.toNat).drop 4) = Int32.ofInt c.low ∧
      Codec.s32.dec ((absInfo c.key.2.toNat).drop 8) = Int32.ofInt c.high := by
  cases c with
  | axis i => revert i; decide
  | hatX => decide
  | hatY => decide
  | button k => cases hc

/-- A record of a control in its range is advertised as every descriptor shows it. -/
theorem advertised_of_inRange {e : InputEvent} (he : e.InRange) (s : Shim) (fake : FakeFd) :
    s.Advertised fake (s.shows fake e) := by
  obtain ⟨c, v, hrep, hlow, hhigh⟩ := he
  obtain ⟨hkey, hvalue⟩ := Prod.mk.inj hrep
  have htype : e.type = c.key.1 := congrArg Prod.fst hkey
  have hcode : e.code = c.key.2 := congrArg Prod.snd hkey
  have hshown : (s.shows fake e).type = e.type ∧ (s.shows fake e).value = e.value := by
    unfold shows InputEvent.dinput
    split <;> exact ⟨rfl, rfl⟩
  have hcodes : (s.shows fake e).code =
      if s.isDinput fake = true ∧ e.type = evKey then dinputButtonCode e.code else e.code := by
    unfold shows InputEvent.dinput
    by_cases hd : s.isDinput fake = true <;> simp [hd]
  have hne : evAbs ≠ evKey := by decide
  constructor
  · intro _ req arg hioc hnr harg hsize
    rw [hshown.1] at hnr
    rcases control_bit c (s.isDinput fake) with ⟨habs, hmem⟩ | ⟨hk, hx, hd⟩
    · have ht : e.type = evAbs := htype.trans habs
      rw [hcodes, if_neg (fun h => hne (ht.symm.trans h.2)), hcode] at hsize ⊢
      rw [fakeIoctl_bits s fake (Or.inr rfl) hioc (by rw [hnr, ht]; rfl) harg, bitAt_fillBits]
      simp [hmem, hsize]
    · have ht : e.type = evKey := htype.trans hk
      rw [fakeIoctl_bits s fake (Or.inl rfl) hioc (by rw [hnr, ht]; rfl) harg, bitAt_fillBits]
      by_cases hdin : s.isDinput fake = true
      · rw [hcodes, if_pos ⟨hdin, ht⟩, hcode] at hsize ⊢
        simp [hdin, hd, hsize]
      · rw [hcodes, if_neg (fun h => hdin h.1), hcode] at hsize ⊢
        simp [hdin, hx, hsize]
  · intro ht req arg hioc hnr harg hsize
    rw [hshown.1] at ht
    have habs : c.key.1 = evAbs := htype.symm.trans ht
    obtain ⟨hle, hmin, hmax⟩ := absInfo_range c habs
    rw [hcodes, if_neg (fun h => hne (ht.symm.trans h.2)), hcode] at hnr
    rw [fakeIoctl_abs s fake hle hioc hnr harg hsize, hmin, hmax, hshown.2, hvalue]
    obtain ⟨h1, h2⟩ := Control.low_high c
    have hof : ∀ n : Int, -32768 ≤ n → n ≤ 32767 → (Int32.ofInt n).toInt = n := fun n h1 h2 =>
      Int32.toInt_ofInt_of_le (by omega) (by omega)
    refine ⟨?_, ?_⟩ <;> rw [Int32.le_iff_toInt_le, hof _ (by omega) (by omega), hof _ (by omega) (by omega)]
    · exact hlow
    · exact hhigh

end Shim

/-! ## 3. The device as a whole -/

/-- Records of a snapshot or a batch before its closing SYN_REPORT. -/
def ClosedBySyn (evs : List InputEvent) : Prop :=
  ∃ records syn, evs = records ++ [syn] ∧ syn.type = evSyn ∧ syn.code = synReport ∧
    ∀ e ∈ records, e.type ≠ evSyn

theorem Emittable.closed {evs : List InputEvent} (h : Emittable evs) : ClosedBySyn evs := by
  obtain ⟨records, syn, rfl, hsyn, hall⟩ := h
  obtain ⟨h1, h2⟩ := Prod.mk.inj hsyn
  refine ⟨records, syn, rfl, h1, (Prod.mk.inj h2).1, fun e he => ?_⟩
  obtain ⟨c, v, hrep, -⟩ := hall e he
  rw [show e.type = c.key.1 from congrArg Prod.fst (Prod.mk.inj hrep).1]
  rcases Shim.control_bit c false with ⟨h, _⟩ | ⟨h, _⟩ <;> rw [h] <;> decide

/-- SYN_REPORT needs no bitmap and has no range. -/
theorem syn_advertised {syn : InputEvent} (h : syn.body = Bridge.synBody) (s : Shim) (fake : FakeFd) :
    s.Advertised fake (s.shows fake syn) := by
  have htype : (s.shows fake syn).type = evSyn := by
    have : (s.shows fake syn).type = syn.type := by
      unfold Shim.shows InputEvent.dinput
      split <;> rfl
    rw [this]
    exact (Prod.mk.inj h).1
  exact ⟨fun hk => absurd hk (by rw [htype]; decide), fun hk => absurd hk (by rw [htype]; decide)⟩

/-- **The device never emits what it did not advertise.** In every run, every snapshot and every
    batch queued on any connection is closed by its one SYN_REPORT; and every record of it, as a
    descriptor of whatever profile shows it, is advertised by that descriptor. A read of the
    whole records returns them as shown. -/
theorem emits_advertised (opcode : Int) (answer : DeviceAnswer) (inputs : List Bridge.Input)
    (c : Conn) (evs : List InputEvent)
    (hq : .events evs ∈ queuedOn c (run Bridge.step (Bridge.boot opcode answer) inputs).log)
    (s : Shim) (fake : FakeFd) :
    ClosedBySyn evs ∧ (∀ e ∈ evs, s.Advertised fake (s.shows fake e)) ∧
      ∀ env fd rest buffer length, s.initDone = true → s.resolved .read = true →
        s.findFakeFd fd = some fake → fake.joydev = false →
        s.reals = ⟨(inputEventCodec.encAll evs).length, inputEventCodec.encAll evs⟩ :: rest →
        buffer ≠ 0 → (s.read env fd buffer length).2 =
          ⟨(inputEventCodec.encAll evs).length, inputEventCodec.encAll (evs.map (s.shows fake))⟩ := by
  have hemit : Emittable evs := (Bridge.run_sane opcode answer inputs).queued c evs hq
  refine ⟨hemit.closed, fun e he => ?_, fun env fd rest buffer length h1 h2 h3 h4 h5 h6 =>
    Shim.read_whole env h1 h2 h3 h4 h5 h6 length⟩
  obtain ⟨records, syn, rfl, hsyn, hall⟩ := hemit
  rcases List.mem_append.mp he with he | he
  · exact Shim.advertised_of_inRange (hall e he) s fake
  · rw [List.mem_singleton.mp he]
    exact syn_advertised hsyn s fake

/-- The snapshot of a bridge at rest, to a client that asks for the descriptor. -/
def restSnapshot : List InputEvent :=
  (Bridge.appendRecords (Bridge.init 1, []) (Bridge.snapshotRecords GamepadState.zero)).2

/-- A DirectInput descriptor. -/
def dinputFd : FakeFd :=
  { fd := 3, joydev := false, initializing := false, raw := [], raw_lt := raw_empty,
    descriptor := { (Bridge.init 1).deviceDescriptor with present := 1, inputMode := 2 } }

theorem emits_advertised_snapshot :
    ClosedBySyn restSnapshot ∧
      ∀ e ∈ restSnapshot,
        (Shim.loaded [] [] []).Advertised dinputFd ((Shim.loaded [] [] []).shows dinputFd e) := by
  have hq : Message.events restSnapshot ∈
      queuedOn 0 (run Bridge.step (Bridge.boot 1 Bridge.padAnswer) Bridge.oneClient).log := by
    decide +kernel
  have h := emits_advertised 1 Bridge.padAnswer Bridge.oneClient 0 restSnapshot hq
    (Shim.loaded [] [] []) dinputFd
  exact ⟨h.1, h.2.1⟩

end TermuxGamepad
