/-
  File:      TermuxGamepad/Client/Reports.lean
  Subject:   What the library's state shows whenever an update returns: whole batches, or not.

  The bridge ends every batch with SYN_REPORT; the library applies a record as soon as it is
  whole, and counts the SYN_REPORTs. `StreamWatch` runs a handle together with the bytes it
  received on its event stream and with what the application found at the end of each update
  there. An update that returns inside a batch shows the records of the batch received so far: so
  the state is a fold of whole batches exactly if those records change nothing.
-/
import Mathlib.Data.List.Chain
import TermuxGamepad.Bridge.Rounds
import TermuxGamepad.Client.Readout
import TermuxGamepad.Client.Returns
import TermuxGamepad.Lib.Slots

namespace TermuxGamepad

open Wire

/-! ## 1. Batches -/

/-- A SYN_REPORT. -/
def InputEvent.isReport (e : InputEvent) : Bool := e.type == evSyn && e.code == synReport

/-- The number of whole batches among the records. -/
def reportCount (es : List InputEvent) : Nat := es.countP InputEvent.isReport

/-- The records of the first `k` batches. -/
def batches : List InputEvent → Nat → List InputEvent
  | _, 0 => []
  | [], _ + 1 => []
  | e :: es, k + 1 => e :: batches es (if e.isReport then k else k + 1)

/-- What comes later does not change the first whole batches. -/
theorem batches_append (es more : List InputEvent) {k : Nat} (hk : k ≤ reportCount es) :
    batches (es ++ more) k = batches es k := by
  induction es generalizing k with
  | nil =>
    obtain rfl : k = 0 := Nat.le_zero.mp hk
    cases more <;> rfl
  | cons e es ih =>
    cases k with
    | zero => rfl
    | succ k =>
      rw [List.cons_append, batches, batches, ih]
      cases he : e.isReport with
      | true =>
        rw [reportCount, List.countP_cons_of_pos he] at hk
        exact Nat.le_of_succ_le_succ hk
      | false =>
        rw [reportCount, List.countP_cons_of_neg (by rw [he]; exact Bool.false_ne_true)] at hk
        exact hk

namespace LibraryState

/-- Sticks, triggers, hats and buttons are the same. -/
structure SameControls (t t' : LibraryState) : Prop where
  axes : t.axes = t'.axes
  hatX : t.hatX = t'.hatX
  hatY : t.hatY = t'.hatY
  buttons : t.buttons = t'.buttons

theorem SameControls.symm {t t' : LibraryState} (h : SameControls t t') : SameControls t' t :=
  ⟨h.axes.symm, h.hatX.symm, h.hatY.symm, h.buttons.symm⟩

theorem SameControls.trans {t t' t'' : LibraryState} (h : SameControls t t')
    (h' : SameControls t' t'') : SameControls t t'' :=
  ⟨h.axes.trans h'.axes, h.hatX.trans h'.hatX, h.hatY.trans h'.hatY, h.buttons.trans h'.buttons⟩

theorem record_packetNumber (t : LibraryState) (e : InputEvent) :
    (t.record e).packetNumber = if e.isReport then t.packetNumber + 1 else t.packetNumber := by
  have habs : (t.absEvent e.code e.value).packetNumber = t.packetNumber := by
    unfold absEvent setAxis
    split_ifs <;> rfl
  have hkey : (t.keyEvent e.code e.value).packetNumber = t.packetNumber := by
    unfold keyEvent
    split <;> rfl
  have hsyn : e.isReport = true ↔ e.type = evSyn ∧ e.code = synReport := by
    rw [InputEvent.isReport, Bool.and_eq_true, beq_iff_eq, beq_iff_eq]
  unfold record processEvent
  split
  · rename_i htype
    rw [if_neg fun h => absurd (htype.symm.trans (hsyn.mp h).1) (by decide)]
    exact habs
  split
  · rename_i htype
    rw [if_neg fun h => absurd (htype.symm.trans (hsyn.mp h).1) (by decide)]
    exact hkey
  split
  · rename_i h
    rw [if_pos (hsyn.mpr h)]
  · rename_i h
    rw [if_neg (mt hsyn.mp h)]

/-- The packet number counts the batches, in 32 bits. -/
theorem replayed_packetNumber (es : List InputEvent) :
    (replayed es).packetNumber.toNat = reportCount es % 2 ^ 32 := by
  have h : (replayed es).packetNumber = UInt32.ofNat (reportCount es) := by
    induction es using List.reverseRecOn with
    | nil => rfl
    | append_singleton es e ih =>
      rw [replayed_concat, record_packetNumber, ih, reportCount, reportCount, List.countP_append,
        List.countP_singleton]
      split
      · rw [UInt32.ofNat_add]
        rfl
      · rfl
  rw [h]
  rfl

end LibraryState

/-! ## 2. What an application finds -/

/-- The state at the end of an update, and the records received by then. -/
structure UpdateReturn where
  state : LibraryState
  records : List InputEvent

namespace UpdateReturn

/-- The state is the fold of a whole number of batches, and the packet number is that number. -/
def Whole (r : UpdateReturn) : Prop :=
  ∃ k ≤ reportCount r.records,
    r.state.SameControls (LibraryState.replayed (batches r.records k)) ∧
      r.state.packetNumber.toNat = k

/-- The records received after the batches that the packet number counts (those after the last
    SYN_REPORT, as long as the 32 bits suffice) change no stick, trigger, hat or button. -/
def Quiet (r : UpdateReturn) : Prop :=
  (LibraryState.replayed r.records).SameControls
    (LibraryState.replayed (batches r.records (reportCount r.records % 2 ^ 32)))

/-- The state changed between two updates only if the packet number did. -/
def Numbered (r r' : UpdateReturn) : Prop :=
  ¬r'.state.SameControls r.state → r'.state.packetNumber ≠ r.state.packetNumber

variable {r r' : UpdateReturn}

/-- **One return**: the state is one of whole batches exactly if the rest changes nothing. -/
theorem whole_iff (h : r.state = LibraryState.replayed r.records) : r.Whole ↔ r.Quiet := by
  have hnumber := LibraryState.replayed_packetNumber r.records
  unfold Whole Quiet
  rw [h]
  constructor
  · rintro ⟨k, -, hsame, hk⟩
    rw [← hnumber, hk]
    exact hsame
  · intro hsame
    exact ⟨_, Nat.mod_le _ _, hsame, hnumber⟩

/-- States of as many batches of one stream are the same. -/
theorem numbered_of_whole (h : r.Whole) (h' : r'.Whole) (hfront : r.records <+: r'.records) :
    Numbered r r' := by
  obtain ⟨k, hk, hsame, hnumber⟩ := h
  obtain ⟨k', -, hsame', hnumber'⟩ := h'
  obtain ⟨more, hmore⟩ := hfront
  intro hdiffer heq
  have hkk : k' = k := by rw [← hnumber, ← hnumber', heq]
  rw [← hmore, hkk, batches_append _ _ hk] at hsame'
  exact hdiffer (hsame'.trans hsame.symm)

end UpdateReturn

/-- A handle, the bytes received on its event stream behind the descriptor, and the ends of the
    updates on that stream. -/
structure StreamWatch where
  handle : Handle
  bytes : List UInt8
  returned : List UpdateReturn

namespace StreamWatch

def create : StreamWatch := { handle := Handle.create, bytes := [], returned := [] }

/-- The records received. -/
def records (w : StreamWatch) : List InputEvent := inputEventCodec.records w.bytes

/-- The handle went on; an update that returned with the stream open is recorded. -/
def moved (w : StreamWatch) (h : Handle) : StreamWatch :=
  if w.handle.updates.length < h.updates.length ∧ h.eventFd.isSome then
    { w with handle := h, returned := w.returned ++ [⟨h.state, w.records⟩] }
  else { w with handle := h }

/-- One step of the handle. -/
def step (w : StreamWatch) (inp : Handle.Input) : StreamWatch :=
  let h := w.handle.step inp
  match w.handle.pc, inp with
  | .setNonblock (.stream _) _ _, .answer .done => { handle := h, bytes := [], returned := [] }
  | .eventRecv _, .answer (.bytes bs) =>
    { w with
      handle := h
      bytes := w.bytes ++ bs.take (inputEventCodec.size - w.handle.eventBuffer.length) }
  | _, _ => w.moved h

/-- **Reports are applied as a whole**: every update left the fold of whole batches, numbered, and
    a state that differs from that of the update before only if the number does. -/
structure Atomic (w : StreamWatch) : Prop where
  whole : ∀ r ∈ w.returned, r.Whole
  numbered : w.returned.IsChain UpdateReturn.Numbered

/-- If the step ends an update, what was received of an unfinished batch changes nothing. -/
def EndsQuiet (w : StreamWatch) (inp : Handle.Input) : Prop :=
  ∀ r, (w.step inp).returned = w.returned ++ [r] → r.Quiet

/-! ## 3. Steps -/

/-- What the steps keep: the state is the fold of the records received, an unfinished record is in
    the buffer, and the ends of the updates are states of the stream. -/
structure Folded (w : StreamWatch) : Prop where
  state : w.handle.eventFd ≠ none → w.handle.state = LibraryState.replayed w.records
  buffer : w.handle.eventFd ≠ none → w.handle.eventBuffer = inputEventCodec.remainder w.bytes
  past : ∀ r ∈ w.returned, r.state = LibraryState.replayed r.records ∧ r.records <+: w.records

variable {w : StreamWatch}

/-- The steps that neither open the event stream nor receive on it, nor return with it open. -/
theorem answer_rests {h : Handle} {a : SysAnswer}
    (hopen : ∀ site fd got, h.pc = .setNonblock (.stream site) fd got → a ≠ .done)
    (hrecv : ∀ reports, h.pc = .eventRecv reports → a ≠ .again ∧ ∀ bs, a ≠ .bytes bs) :
    Handle.Rests h (h.answer a) := by
  unfold Handle.answer
  split
  · exact (Handle.Carried.refl h).rests
  · exact (Handle.connectAnswer_carried h _ a).rests
  · exact (Handle.sendAnswer_carried h _ _ a).rests
  · exact (Handle.pollAnswer_carried h _ _ a).rests
  · exact (Handle.receiveAnswer_carried h _ _ _ a).rests
  · rename_i t fd got hpc
    cases a with
    | done =>
      cases t with
      | monitor caller => exact Handle.opened_monitor_rests h caller fd got
      | stream site => exact absurd rfl (hopen site fd got hpc)
    | failed e => exact (Handle.openFailed_carried h t e).rests
    | _ => exact (Handle.Carried.refl h).rests
  · exact Handle.refreshAnswer_rests h _ _ a
  · rename_i reports hpc
    obtain ⟨hagain, hbytes⟩ := hrecv reports hpc
    cases a with
    | bytes bs => exact absurd rfl (hbytes bs)
    | again => exact absurd rfl hagain
    | ended => exact Or.inl rfl
    | failed e => exact Or.inl rfl
    | _ => exact (Handle.Carried.refl h).rests

/-- A step that leaves the event stream alone, or closes it. -/
theorem Folded.rests (hw : w.Folded) {h : Handle} (hr : Handle.Rests w.handle h) :
    Folded { w with handle := h } := by
  rcases hr with hnone | ⟨hfd, hstate, hbuffer, -⟩
  · exact ⟨fun hne => absurd hnone hne, fun hne => absurd hnone hne, hw.past⟩
  · refine ⟨fun hne => ?_, fun hne => ?_, hw.past⟩
    · exact hstate.trans (hw.state (hfd ▸ hne))
    · exact hbuffer.trans (hw.buffer (hfd ▸ hne))

/-- Such a step ends no update on an open stream. -/
theorem moved_of_rests (w : StreamWatch) {h : Handle} (hr : Handle.Rests w.handle h) :
    w.moved h = { w with handle := h } := by
  refine if_neg ?_
  rintro ⟨hlt, hsome⟩
  rcases hr with hnone | ⟨-, -, -, hsame⟩
  · rw [hnone] at hsome
    cases hsome
  · rw [hsame] at hlt
    exact absurd hlt (Nat.lt_irrefl _)

/-- The event stream is opened. -/
theorem opened_folded {h : Handle} {site : StreamSite} {fd : Nat} {got : List UInt8} :
    Folded { handle := h.opened (.stream site) fd got, bytes := [], returned := [] } := by
  have hc := Handle.opened_stream h site fd got
  obtain ⟨hrecords, hrest⟩ := @Codec.records_of_lt _ inputEventCodec [] (by decide)
  refine ⟨fun _ => ?_, fun _ => ?_, fun _ hm => absurd hm List.not_mem_nil⟩
  · show (h.opened (.stream site) fd got).state =
      LibraryState.replayed (inputEventCodec.records [])
    rw [hc.state, hrecords]
    rfl
  · exact hc.eventBuffer.trans hrest.symm

/-- **Bytes are received**: a record that is whole is applied at once. -/
theorem received_folded (hw : w.Folded) (reports : Nat) (bs : List UInt8) :
    Folded { w with
      handle := w.handle.eventAnswer reports (.bytes bs)
      bytes := w.bytes ++ bs.take (inputEventCodec.size - w.handle.eventBuffer.length) } := by
  have hsize : 0 < inputEventCodec.size := by decide
  set piece := bs.take (inputEventCodec.size - w.handle.eventBuffer.length) with hpiece
  have hfront : w.records <+: inputEventCodec.records (w.bytes ++ piece) :=
    inputEventCodec.records_prefix hsize (List.prefix_append _ _)
  have hpast : ∀ r ∈ w.returned, r.state = LibraryState.replayed r.records ∧
      r.records <+: inputEventCodec.records (w.bytes ++ piece) := fun r hr =>
    ⟨(hw.past r hr).1, (hw.past r hr).2.trans hfront⟩
  have hfd : (w.handle.eventAnswer reports (.bytes bs)).eventFd = w.handle.eventFd := by
    unfold Handle.eventAnswer
    dsimp only
    split <;> rfl
  by_cases hopen : w.handle.eventFd = none
  · have hnone : (w.handle.eventAnswer reports (.bytes bs)).eventFd = none := hfd.trans hopen
    exact ⟨fun hne => absurd hnone hne, fun hne => absurd hnone hne, hpast⟩
  have hbuffer := hw.buffer hopen
  have hstate := hw.state hopen
  have hroom : (inputEventCodec.remainder w.bytes ++ piece).length ≤ inputEventCodec.size := by
    have hlt := inputEventCodec.remainder_length hsize w.bytes
    rw [List.length_append, hpiece, List.length_take, hbuffer]
    omega
  rcases inputEventCodec.records_push hsize w.bytes hroom with
    ⟨hlt, hrecords, hrest⟩ | ⟨hfull, hrecords, hrest⟩
  · have hpart : (w.handle.eventAnswer reports (.bytes bs)) =
        { w.handle with eventBuffer := w.handle.eventBuffer ++ piece } := by
      unfold Handle.eventAnswer
      dsimp only
      rw [← hpiece, hbuffer, if_neg (Nat.ne_of_lt hlt)]
    rw [hpart]
    refine ⟨fun _ => ?_, fun _ => ?_, hpast⟩
    · exact hstate.trans (congrArg LibraryState.replayed hrecords.symm)
    · show w.handle.eventBuffer ++ piece = inputEventCodec.remainder (w.bytes ++ piece)
      rw [hrest, hbuffer]
  · have hwhole : (w.handle.eventAnswer reports (.bytes bs)).state =
          w.handle.state.record (inputEventCodec.dec (inputEventCodec.remainder w.bytes ++ piece)) ∧
        (w.handle.eventAnswer reports (.bytes bs)).eventBuffer = [] := by
      unfold Handle.eventAnswer
      dsimp only
      rw [← hpiece, hbuffer, if_pos hfull]
      exact ⟨LibraryState.processEvent_record _ _ _, rfl⟩
    refine ⟨fun _ => ?_, fun _ => ?_, hpast⟩
    · show _ = LibraryState.replayed (inputEventCodec.records (w.bytes ++ piece))
      rw [hwhole.1, hrecords, LibraryState.replayed_concat, hstate]
      rfl
    · exact hwhole.2.trans hrest.symm

/-- An update returns where nothing more is pending on the stream. -/
theorem drained_folded (hw : w.Folded) (reports : Nat) :
    (w.moved (w.handle.updateReturns reports)).Folded ∧
      ((w.moved (w.handle.updateReturns reports)).returned = w.returned ∨
        ∃ r, (w.moved (w.handle.updateReturns reports)).returned = w.returned ++ [r] ∧
          r.state = LibraryState.replayed r.records ∧
          r.records = (w.moved (w.handle.updateReturns reports)).records) := by
  have hsame : Folded { w with handle := w.handle.updateReturns reports } :=
    ⟨hw.state, hw.buffer, hw.past⟩
  unfold moved
  split
  · rename_i h
    have hopen : w.handle.eventFd ≠ none := fun hnone => by
      have hsome : w.handle.eventFd.isSome = true := h.2
      rw [hnone] at hsome
      cases hsome
    refine ⟨⟨hsame.state, hsame.buffer, fun r hr => ?_⟩, Or.inr ⟨_, rfl, hw.state hopen, rfl⟩⟩
    rcases List.mem_append.mp hr with hr | hr
    · exact hw.past r hr
    · rw [List.mem_singleton.mp hr]
      exact ⟨hw.state hopen, List.prefix_rfl⟩
  · exact ⟨hsame, Or.inl rfl⟩

/-- **One step**: it leaves the ends of the updates alone, forgets them with the old stream, or
    adds one. -/
theorem step_cases (hw : w.Folded) (inp : Handle.Input) :
    (w.step inp).Folded ∧ ((w.step inp).returned = w.returned ∨ (w.step inp).returned = [] ∨
      ∃ r, (w.step inp).returned = w.returned ++ [r] ∧
        r.state = LibraryState.replayed r.records ∧ r.records = (w.step inp).records) := by
  have hquiet : Handle.Rests w.handle (w.handle.step inp) →
      (w.moved (w.handle.step inp)).Folded ∧
        (w.moved (w.handle.step inp)).returned = w.returned := fun hr => by
    rw [moved_of_rests w hr]
    exact ⟨hw.rests hr, rfl⟩
  unfold step
  dsimp only
  split
  · rename_i site fd got hpc
    have hstep : w.handle.step (.answer .done) = w.handle.opened (.stream site) fd got := by
      simp only [Handle.step, Handle.answer, hpc, Handle.setNonblockAnswer]
    rw [hstep]
    exact ⟨opened_folded, Or.inr (Or.inl rfl)⟩
  · rename_i reports bs hpc
    have hstep : w.handle.step (.answer (.bytes bs)) = w.handle.eventAnswer reports (.bytes bs) := by
      simp only [Handle.step, Handle.answer, hpc]
    rw [hstep]
    exact ⟨received_folded hw reports bs, Or.inl rfl⟩
  · rename_i inp _ _ hopen hbytes
    by_cases hend : ∃ reports, w.handle.pc = .eventRecv reports ∧ inp = .answer .again
    · obtain ⟨reports, hpc, rfl⟩ := hend
      have hstep : w.handle.step (.answer .again) = w.handle.updateReturns reports := by
        simp only [Handle.step, Handle.answer, hpc, Handle.eventAnswer]
      rw [hstep]
      obtain ⟨hf, hr⟩ := drained_folded hw reports
      exact ⟨hf, hr.imp_right Or.inr⟩
    · have hr : Handle.Rests w.handle (w.handle.step inp) := by
        by_cases hcall : ∀ a, inp ≠ .answer a
        · exact (w.handle.call_carried hcall).rests
        · obtain ⟨a, ha⟩ := not_forall.mp hcall
          obtain rfl := not_not.mp ha
          refine answer_rests (fun site fd got hpc ha => ?_) fun reports hpc => ⟨fun ha => ?_, ?_⟩
          · exact hopen site fd got hpc (by rw [ha])
          · exact hend ⟨reports, hpc, by rw [ha]⟩
          · exact fun bs ha => hbytes reports bs hpc (by rw [ha])
      exact ⟨(hquiet hr).1, Or.inl (hquiet hr).2⟩

/-! ## 4. Runs -/

/-- An update that ends quietly keeps the law. -/
theorem step_atomic (hw : w.Folded ∧ w.Atomic) {inp : Handle.Input} (hq : w.EndsQuiet inp) :
    (w.step inp).Folded ∧ (w.step inp).Atomic := by
  obtain ⟨hfolded, hatomic⟩ := hw
  obtain ⟨hf, hr | hr | ⟨r, hr, hstate, hrecords⟩⟩ := step_cases hfolded inp
  · refine ⟨hf, ?_, ?_⟩ <;> rw [hr]
    · exact hatomic.whole
    · exact hatomic.numbered
  · refine ⟨hf, ?_, ?_⟩ <;> rw [hr]
    · exact fun _ hm => absurd hm List.not_mem_nil
    · exact .nil
  · have hwhole : r.Whole := (UpdateReturn.whole_iff hstate).mpr (hq r hr)
    refine ⟨hf, ?_, ?_⟩ <;> rw [hr]
    · intro r' hr'
      rcases List.mem_append.mp hr' with hr' | hr'
      · exact hatomic.whole r' hr'
      · rw [List.mem_singleton.mp hr']
        exact hwhole
    · refine List.isChain_append.mpr ⟨hatomic.numbered, List.isChain_singleton r, ?_⟩
      intro r' hlast r'' hhead
      obtain rfl : r = r'' := Option.some.inj hhead
      have hmem : r' ∈ w.returned := List.mem_of_getLast? hlast
      have hfront : r'.records <+: (w.step inp).records :=
        (hf.past r' (hr ▸ List.mem_append_left _ hmem)).2
      exact UpdateReturn.numbered_of_whole (hatomic.whole r' hmem) hwhole (hrecords ▸ hfront)

/-- An update that does not end quietly leaves a part of a batch in the state. -/
theorem step_torn (hw : w.Folded ∧ w.Atomic) {inp : Handle.Input} (hq : ¬w.EndsQuiet inp) :
    ¬(w.step inp).Atomic := by
  intro hatomic
  refine hq fun r hr => ?_
  have hmem : r ∈ (w.step inp).returned := by
    rw [hr]
    exact List.mem_append_right _ (List.mem_singleton_self r)
  have hstate := ((step_cases hw.1 inp).1.past r hmem).1
  exact (UpdateReturn.whole_iff hstate).mp (hatomic.whole r hmem)

theorem create_folded : create.Folded ∧ create.Atomic :=
  ⟨⟨fun h => absurd rfl h, fun h => absurd rfl h, fun _ h => absurd h List.not_mem_nil⟩,
    fun _ h => absurd h List.not_mem_nil, .nil⟩

/-- **Reports and updates**: whatever arrives, in whatever pieces, and wherever the updates are
    placed, every update leaves the fold of whole batches exactly if none returns when a part of
    a batch has changed something. -/
theorem reports_atomic_iff (inputs : List Handle.Input) :
    (∀ before after, inputs = before ++ after → (run step create before).Atomic) ↔
      Throughout step EndsQuiet create inputs :=
  throughout_iff (F := fun _ _ => True) (P := fun w => w.Folded ∧ w.Atomic) (fun _ h => h.2)
    (fun _ _ h _ hq => step_atomic h hq) (fun _ _ h _ hq => step_torn h hq) create_folded
    fun _ _ _ _ => trivial

/-- What the bridge sends a monitor and an event client: both sticks' axes move in one event. -/
def stickMoved : List Out :=
  (run Bridge.step (Bridge.boot 1 Bridge.padAnswer)
    [Bridge.quietly (.accept (.conn 0 true)), Bridge.quietly (.accept (.conn 1 true)),
      { Bridge.quietly (.readable Bridge.slot0 (.data (Bridge.commandBytes controlMonitor))) with
        sends := [.sent 4095] },
      { Bridge.quietly (.readable Bridge.slot1 (.data (Bridge.commandBytes controlQueryDescriptor)))
        with sends := [.sent 4095, .sent 4095] },
      { Bridge.quietly (.xEvent (.device ⟨.motion, 5, 5, 0, [true, true], [1000, 2000]⟩)) with
        sends := [.sent 4095] }]).log

/-- A handle opens both connections; an update drains the snapshot and the first record of the
    batch, and returns. -/
def tornUpdate : List Handle.Input :=
  let stream := sentOn 1 stickMoved
  [.answer (.connected 3), .answer (.accepted 15),
    .answer (.bytes (sentOn 0 stickMoved)), .answer .done,
    .answer (.connected 4), .answer (.accepted 15),
    .answer (.bytes (stream.take deviceDescriptorCodec.size)), .answer .done,
    .update, .answer .again] ++
  ((List.range 22).map fun k =>
    .answer (.bytes ((stream.drop (deviceDescriptorCodec.size + 24 * k)).take 24))) ++
  [.answer .again]

/-- **An update returns inside a batch** of the bridge: after one report the stick is where only
    the second puts it. -/
theorem torn_update_shows :
    ((run step create tornUpdate).returned.map fun r => (r.state.packetNumber, r.state.axes 0,
        (LibraryState.replayed (batches r.records 1)).axes 0)) = [(1, 1000, 0)] ∧
      ¬(run step create tornUpdate).Atomic := by
  have hshown : ((run step create tornUpdate).returned.map fun r => (r.state.packetNumber,
      r.state.axes 0, (LibraryState.replayed (batches r.records 1)).axes 0)) = [(1, 1000, 0)] := by
    decide +kernel
  refine ⟨hshown, fun h => ?_⟩
  obtain ⟨r, hr, heq⟩ := List.map_eq_singleton_iff.mp hshown
  obtain ⟨k, -, hsame, hk⟩ := h.whole r (by rw [hr]; exact List.mem_singleton_self r)
  obtain ⟨hnumber, haxes⟩ := Prod.mk.inj heq
  obtain ⟨hstick, hbatch⟩ := Prod.mk.inj haxes
  have hone : k = 1 := by
    rw [← hk, hnumber]
    rfl
  rw [hone] at hsame
  have hsticks := congrFun hsame.axes 0
  rw [hstick, hbatch] at hsticks
  exact absurd hsticks (by decide)

end StreamWatch

end TermuxGamepad
