/-
  File:      TermuxGamepad/Joyboard.lean
  Subject:   An application that plays a joydev descriptor, and the numbers it relies on
             (evdev_preload.c, lines 452-560).

  Such an application asks for the number of axes and buttons, makes an array of each, and writes
  every event into them; `Board.play` is `none` where an event has no place. The requests, the
  translation of the records and the bridge that sends them share no table. `joydev_board` says
  they agree: whatever the bridge sends finds its place, controls never share one, and the arrays
  show of each control what its last record says.
-/
import TermuxGamepad.Advertisement
import TermuxGamepad.Bridge.Asking
import TermuxGamepad.Joystick

namespace TermuxGamepad

open Wire

/-! ## 1. The application -/

/-- JSIOCGAXES and JSIOCGBUTTONS. -/
def jsiocGAxes : UInt64 := 0x80016a11
def jsiocGButtons : UInt64 := 0x80016a12

structure Board where
  axes : List Int16
  buttons : List Int16
  deriving DecidableEq, Repr

namespace Board

/-- The arrays, as long as the descriptor says. -/
def opened (s : Shim) (fake : FakeFd) (arg : UInt64) : Board :=
  { axes := List.replicate ((s.fakeJoyIoctl fake jsiocGAxes arg).stored.headD 0).toNat 0
    buttons := List.replicate ((s.fakeJoyIoctl fake jsiocGButtons arg).stored.headD 0).toNat 0 }

/-- An event is written into its place, the initial ones like the others. -/
def put (b : Board) (e : JsEvent) : Option Board :=
  if e.type &&& ~~~jsEventInit = jsEventAxis then
    if e.number.toNat < b.axes.length then some { b with axes := b.axes.set e.number.toNat e.value }
    else none
  else if e.type &&& ~~~jsEventInit = jsEventButton then
    if e.number.toNat < b.buttons.length then
      some { b with buttons := b.buttons.set e.number.toNat e.value }
    else none
  else none

def play (b : Board) (es : List JsEvent) : Option Board := es.foldlM put b

end Board

/-- The place of a control: an axis, or a button, and its number. -/
def Control.place : Control → Bool × Nat
  | .axis i => (true, [0, 1, 3, 4, 2, 5].getD i 0)
  | .hatX => (true, 6)
  | .hatY => (true, 7)
  | .button k => (false, [0, 1, 2, 3, 4, 5, 6, 7, 9, 10, 8, 11].getD k 0)

/-- What stands there for a value. -/
def Control.joyShown : Control → Int32 → Int16
  | .axis i, v => joyAxisValue (axisCode i) v
  | .hatX, v => joyAxisValue absHat0x v
  | .hatY, v => joyAxisValue absHat0y v
  | .button _, v => if v ≠ 0 then 1 else 0

namespace Board

def get (b : Board) (place : Bool × Nat) : Option Int16 :=
  if place.1 then b.axes[place.2]? else b.buttons[place.2]?

end Board

/-! ## 2. One event -/

theorem Control.place_injective : Function.Injective Control.place := by
  intro c c' h
  rcases c with i | _ | _ | k <;> rcases c' with i' | _ | _ | k' <;> revert h
  · revert i i'; decide
  · revert i; decide
  · revert i; decide
  · revert i k'; decide
  · revert i'; decide
  · decide
  · decide
  · revert k'; decide
  · revert i'; decide
  · decide
  · decide
  · revert k'; decide
  · revert k i'; decide
  · revert k; decide
  · revert k; decide
  · revert k k'; decide

/-- A board with eight axes and twelve buttons. -/
structure Board.Full (b : Board) : Prop where
  axes : b.axes.length = 8
  buttons : b.buttons.length = 12

/-- **The requests of a joydev descriptor** tell of eight axes and twelve buttons. -/
theorem opened_full (s : Shim) (fake : FakeFd) {arg : UInt64} (harg : arg ≠ 0) :
    (Board.opened s fake arg).Full ∧ ∀ c : Control, (Board.opened s fake arg).get c.place = some 0 := by
  have haxes : s.fakeJoyIoctl fake jsiocGAxes arg = { result := 0, stored := [8] } := by
    unfold Shim.fakeJoyIoctl
    dsimp only
    rw [if_neg (fun h => h.elim (fun h => h (by decide)) harg), if_neg (by decide),
      if_pos (by decide)]
  have hbuttons : s.fakeJoyIoctl fake jsiocGButtons arg = { result := 0, stored := [12] } := by
    unfold Shim.fakeJoyIoctl
    dsimp only
    rw [if_neg (fun h => h.elim (fun h => h (by decide)) harg), if_neg (by decide),
      if_neg (by decide), if_pos (by decide)]
  have hboard : Board.opened s fake arg =
      { axes := List.replicate 8 0, buttons := List.replicate 12 0 } := by
    rw [Board.opened, haxes, hbuttons]
    rfl
  rw [hboard]
  refine ⟨⟨rfl, rfl⟩, fun c => ?_⟩
  cases c with
  | axis i => revert i; decide
  | hatX => rfl
  | hatY => rfl
  | button k => revert k; decide

theorem place_lt (c : Control) : c.place.2 < if c.place.1 then 8 else 12 := by
  cases c with
  | axis i => revert i; decide
  | hatX => decide
  | hatY => decide
  | button k => revert k; decide

/-- The event of a control's record, by its place and value. -/
theorem joyEvent_place (c : Control) {e : InputEvent} {v : Int32} (h : e.report = (c.key, v))
    (initializing : Bool) :
    ∃ j, joyEvent initializing e = some j ∧
      j.type &&& ~~~jsEventInit = (if c.place.1 then jsEventAxis else jsEventButton) ∧
      j.number.toNat = c.place.2 ∧ j.value = c.joyShown v := by
  have hmap : (joyEvent initializing e).map JsEvent.body =
      some ((if c.place.1 then jsEventAxis else jsEventButton) |||
        (if initializing then jsEventInit else 0), UInt8.ofNat c.place.2, c.joyShown v) := by
    obtain ⟨time, type, code, value⟩ := e
    obtain ⟨hkey, rfl⟩ := Prod.mk.inj h
    obtain ⟨rfl, rfl⟩ := Prod.mk.inj hkey
    cases c with
    | axis i => fin_cases i <;> rfl
    | hatX => rfl
    | hatY => rfl
    | button k => fin_cases k <;> rfl
  have htypes : ∀ axis initializing : Bool,
      ((if axis then jsEventAxis else jsEventButton) ||| (if initializing then jsEventInit else 0)) &&&
        ~~~jsEventInit = if axis then jsEventAxis else jsEventButton := by decide
  obtain ⟨j, hj, hbody⟩ := Option.map_eq_some_iff.mp hmap
  obtain ⟨htype, hrest⟩ := Prod.mk.inj hbody
  obtain ⟨hnumber, hvalue⟩ := Prod.mk.inj hrest
  refine ⟨j, hj, by rw [htype, htypes], ?_, hvalue⟩
  have hlt := place_lt c
  rw [hnumber]
  refine UInt8.toNat_ofNat_of_lt' (show c.place.2 < 256 from ?_)
  split at hlt <;> omega

/-- **The event of a control finds its place**, and changes no other. -/
theorem put_control {b : Board} (hb : b.Full) (c : Control) {e : InputEvent} {v : Int32}
    (h : e.report = (c.key, v)) (initializing : Bool) :
    ∃ j b', joyEvent initializing e = some j ∧ b.put j = some b' ∧ b'.Full ∧
      ∀ c', b'.get c'.place = if c' = c then some (c.joyShown v) else b.get c'.place := by
  obtain ⟨j, hj, htype, hnumber, hvalue⟩ := joyEvent_place c h initializing
  have hlt := place_lt c
  have hne : ∀ c', c' ≠ c → c'.place.1 = c.place.1 → c.place.2 ≠ c'.place.2 :=
    fun c' hc h1 h2 => hc (Control.place_injective (Prod.ext h1 h2.symm))
  have hput : b.put j = (if (if c.place.1 then jsEventAxis else jsEventButton) = jsEventAxis then
      if c.place.2 < b.axes.length then some { b with axes := b.axes.set c.place.2 j.value } else none
      else if c.place.2 < b.buttons.length then
        some { b with buttons := b.buttons.set c.place.2 j.value }
      else none) := by
    unfold Board.put
    rw [htype, hnumber]
    cases c.place.1 <;> rfl
  cases hplace : c.place.1 with
  | true =>
    have hlt : c.place.2 < 8 := by rwa [hplace] at hlt
    refine ⟨j, { b with axes := b.axes.set c.place.2 j.value }, hj, ?_,
      ⟨by rw [List.length_set]; exact hb.axes, hb.buttons⟩, fun c' => ?_⟩
    · rw [hput, hplace, if_pos rfl, hb.axes, if_pos hlt, if_pos rfl]
    · unfold Board.get
      by_cases hc : c' = c
      · subst hc
        rw [hplace, if_pos rfl, if_pos rfl, List.getElem?_set_self (by rw [hb.axes]; exact hlt), hvalue]
      · rw [if_neg hc]
        cases hplace' : c'.place.1 with
        | true => exact List.getElem?_set_ne (hne c' hc (hplace'.trans hplace.symm))
        | false => rfl
  | false =>
    have hlt : c.place.2 < 12 := by rwa [hplace] at hlt
    refine ⟨j, { b with buttons := b.buttons.set c.place.2 j.value }, hj, ?_,
      ⟨hb.axes, by rw [List.length_set]; exact hb.buttons⟩, fun c' => ?_⟩
    · rw [hput, hplace, if_neg (by decide), hb.buttons, if_pos hlt]
    · unfold Board.get
      by_cases hc : c' = c
      · subst hc
        rw [hplace, if_neg Bool.false_ne_true, if_pos rfl,
          List.getElem?_set_self (by rw [hb.buttons]; exact hlt), hvalue]
      · rw [if_neg hc]
        cases hplace' : c'.place.1 with
        | true => rfl
        | false => exact List.getElem?_set_ne (hne c' hc (hplace'.trans hplace.symm))

/-! ## 3. The whole stream -/

/-- A record that reports a control, or a SYN_REPORT. -/
def InputEvent.Plain (e : InputEvent) : Prop :=
  e.isSync = true ∨ ∃ (c : Control) (v : Int32), e.report = (c.key, v)

theorem translated_concat (es : List InputEvent) (e : InputEvent) :
    ∃ initializing, translated (es ++ [e]) = translated es ++ (convertJoyEvent initializing e).2.toList := by
  refine ⟨(convertAll true es).1, ?_⟩
  rw [← convertAll_eq, ← convertAll_eq, convertAll_append]
  show _ ++ ((convertJoyEvent _ e).2.toList ++ []) = _
  rw [List.append_nil]

/-- **The board** after the events of plain records: everything found its place, and every place
    shows the last record of its control. -/
theorem board_shows {b₀ : Board} (hb₀ : b₀.Full) (hzero : ∀ c : Control, b₀.get c.place = some 0)
    (es : List InputEvent) (hes : ∀ e ∈ es, e.Plain) :
    ∃ b, b₀.play (translated es) = some b ∧ b.Full ∧
      (∀ c : Control, b.get c.place =
        some (((latest (es.map InputEvent.report) c.key).map c.joyShown).getD 0)) ∧
      (translated es).length = (es.filter fun e => !e.isSync).length := by
  induction es using List.reverseRecOn with
  | nil => exact ⟨b₀, rfl, hb₀, hzero, rfl⟩
  | append_singleton es e ih =>
    obtain ⟨b, hplay, hb, hget, hlen⟩ := ih fun x hx => hes x (List.mem_append_left _ hx)
    obtain ⟨initializing, hnext⟩ := translated_concat es e
    rw [hnext, List.filter_append, List.length_append, List.length_append, ← hlen]
    rcases hes e (List.mem_append_right _ (List.mem_singleton.mpr rfl)) with hsync | ⟨c, v, hreport⟩
    · -- a SYN_REPORT has no event and reports no control
      rw [joyEvent_sync hsync, List.filter_singleton, hsync]
      refine ⟨b, by simpa using hplay, hb, fun c => ?_, by simp⟩
      obtain ⟨htype, hcode⟩ := Bool.and_eq_true_iff.mp hsync
      have hkey : (evSyn, synReport) ≠ c.key := (syn_mute c).symm
      have hreport : e.report = ((evSyn, synReport), e.value) := by
        rw [InputEvent.report, of_decide_eq_true htype, of_decide_eq_true hcode]
      rw [List.map_append, List.map_singleton, hreport, latest_concat, if_neg hkey]
      exact hget c
    · have hsync : e.isSync = false := by
        by_contra hs
        obtain ⟨htype, hcode⟩ := Bool.and_eq_true_iff.mp (Bool.not_eq_false _ ▸ hs)
        refine syn_mute c ((congrArg Prod.fst hreport).symm.trans ?_)
        rw [InputEvent.report, of_decide_eq_true htype, of_decide_eq_true hcode]
      obtain ⟨j, b', hj, hput, hb', hgets⟩ := put_control hb c hreport initializing
      rw [convertJoyEvent_other hsync, hj, List.filter_singleton, hsync]
      refine ⟨b', ?_, hb', fun c' => ?_, by simp⟩
      · rw [Board.play, List.foldlM_append]
        rw [Board.play] at hplay
        rw [hplay]
        simpa using hput
      · rw [hgets, List.map_append, List.map_singleton, hreport, latest_concat]
        by_cases hc : c' = c
        · rw [if_pos hc, if_pos (by rw [hc]), hc]
          rfl
        · rw [if_neg hc, if_neg fun h => hc (Control.key_injective h).symm]
          exact hget c'

/-! ## 4. The descriptor at the end of a connection -/

theorem emittable_plain {evs : List InputEvent} (h : Emittable evs) : ∀ e ∈ evs, e.Plain := by
  obtain ⟨records, syn, rfl, hsyn, hall⟩ := h
  intro e he
  rcases List.mem_append.mp he with he | he
  · obtain ⟨c, v, hreport, -⟩ := hall e he
    exact Or.inr ⟨c, _, hreport⟩
  · rw [List.mem_singleton.mp he]
    obtain ⟨htype, hrest⟩ := Prod.mk.inj hsyn
    exact Or.inl (Bool.and_eq_true_iff.mpr ⟨decide_eq_true htype, decide_eq_true (Prod.mk.inj hrest).1⟩)

/-- Behind the descriptor of a client that asked once there are the records of its batches. -/
theorem stream_records {d : DeviceDescriptor} {batches : List (List InputEvent)}
    {greeting bytes : List UInt8}
    (h : greeting ++ bytes <+: (Message.descriptor d :: batches.map .events).flatMap Message.bytes)
    (hlen : greeting.length = deviceDescriptorCodec.size) :
    inputEventCodec.records bytes <+: batches.flatten := by
  rw [List.flatMap_cons, flatMap_batches] at h
  obtain ⟨-, hpref⟩ := prefix_enc (c := deviceDescriptorCodec) h hlen
  have hrecords := inputEventCodec.records_prefix (by decide) hpref
  rwa [inputEventCodec.records_encAll (by decide)] at hrecords

/-- **The arrays of an application agree with the descriptor**: in every run of the bridge, for a
    joydev descriptor on a connection that brings the bridge the one question of
    `tg_connect_device`, and for every sequence of reads of it, each event has a place in arrays as
    long as JSIOCGAXES and JSIOCGBUTTONS say; different controls have different places, which show
    of every control what its last record consumed says, and each record but SYN_REPORT made one
    event. -/
theorem joydev_board (opcode : Int) (answer : DeviceAnswer) (inputs : List Bridge.Input) (c : Conn)
    (env : Env) (s : Shim) (flags : UInt32) (fd : Int) (hopen : s.OpensJoydev env flags fd)
    (calls : List (UInt64 × Nat))
    (hasked : Bridge.brought c (Bridge.boot opcode answer) inputs <+:
      controlMessageCodec.enc Shim.descriptorQuery)
    (s' : Shim) (fake : FakeFd) (arg : UInt64) (harg : arg ≠ 0) :
    let opened := (s.connectDevice env flags true).1
    let reads := Shim.joyReads env fd opened calls
    let bytes := consumed fd (reads.1.log.drop opened.log.length)
    let records := inputEventCodec.records bytes
    s.greeting ++ bytes <+: sentOn c (run Bridge.step (Bridge.boot opcode answer) inputs).log →
    Function.Injective Control.place ∧
      ∃ b, (Board.opened s' fake arg).play reads.2 = some b ∧
        (∀ control : Control, b.get control.place =
          some (((latest (records.map InputEvent.report) control.key).map control.joyShown).getD 0)) ∧
        reads.2.length = (records.filter fun e => !e.isSync).length := by
  intro opened reads bytes records hsent
  obtain ⟨hlen, -⟩ := Shim.connectDevice_greeting
    (show 0 ≤ (s.connectDevice env flags true).2.result from hopen.result.symm ▸ hopen.nonneg)
  have hstream := hsent.trans (Bridge.sentOn_prefix opcode answer inputs c)
  obtain ⟨d, batches, hqueue⟩ := ((Bridge.asked_once opcode answer inputs c rfl hasked).2).resolve_left
    fun hnone => by
      rw [hnone] at hstream
      have hempty := (List.append_eq_nil_iff.mp (List.prefix_nil.mp hstream)).1
      rw [hempty] at hlen
      exact absurd hlen (by decide)
  rw [hqueue] at hstream
  have hpref : records <+: batches.flatten := stream_records hstream hlen
  have hplain : ∀ e ∈ records, e.Plain := by
    intro e he
    obtain ⟨evs, hevs, hmem⟩ := List.mem_flatten.mp (hpref.subset he)
    refine emittable_plain ((Bridge.run_sane opcode answer inputs).queued c evs ?_) e hmem
    rw [hqueue]
    exact List.mem_cons_of_mem _ (List.mem_map_of_mem hevs)
  have htranslated : reads.2 = translated records := Shim.joyReads_translated hopen.reads calls
  obtain ⟨hfull, hzero⟩ := opened_full s' fake harg
  obtain ⟨b, hplay, -, hget, hcount⟩ := board_shows hfull hzero records hplain
  rw [htranslated]
  exact ⟨Control.place_injective, b, hplay, hget, hcount⟩

theorem joydev_board_stick :
    ∃ b, (Board.opened stickShim dinputFd 4096).play stickReads.2 = some b ∧
      b.get (Control.axis 0).place = some 1000 := by
  obtain ⟨-, b, hplay, hget, -⟩ := joydev_board 1 Bridge.padAnswer stickInputs 0 plainEnv stickShim 0 3
    ⟨by decide +kernel, by decide, rfl, by decide +kernel⟩ [(4096, 8), (4096, 80), (4096, 400)]
    (List.isPrefixOf_iff_prefix.mp (by decide +kernel)) stickShim dinputFd 4096 (by decide)
    (List.isPrefixOf_iff_prefix.mp (by decide +kernel))
  refine ⟨b, hplay, ?_⟩
  rw [hget]
  decide +kernel

end TermuxGamepad
