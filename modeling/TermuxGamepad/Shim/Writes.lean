/-
  File:      TermuxGamepad/Shim/Writes.lean
  Subject:   What a failed write of force-feedback records leaves behind.

  A write carries its records out one by one and returns -1 at the first that fails. A record that
  plays an effect fails where the effect is unknown or the command is not sent; gain records and
  records of other types never do. So a failed write has changed nothing only if the first effect
  it plays is what fails (`failed_write_iff`).
-/
import TermuxGamepad.Shim.Requests

namespace TermuxGamepad

open Wire

/-! ## 1. Records -/

namespace InputEvent

/-- A record that sets the gain. -/
def isGain (e : InputEvent) : Bool := e.type == evFf && e.code == ffGainCode

/-- A record that starts or stops an effect. -/
def isPlay (e : InputEvent) : Bool := e.type == evFf && e.code != ffGainCode

/-- The gain a record asks for, within its bounds. -/
def gain (e : InputEvent) : UInt16 :=
  let gain := e.value.toInt
  UInt16.ofNat (if gain < 0 then 0 else if gain > 0xffff then 0xffff else gain).toNat

end InputEvent

/-- The gain after a list of records. -/
def gainAfter (g : UInt16) (es : List InputEvent) : UInt16 :=
  es.foldl (fun g e => if e.isGain then e.gain else g) g

/-- The control messages that reached the bridge whole. -/
def reached (log : List Event) : List (Int × ControlMessage) :=
  log.filterMap fun e =>
    match e with
    | .control fd m result => if result = controlMessageCodec.size then some (fd, m) else none
    | _ => none

theorem reached_append (log log' : List Event) : reached (log ++ log') = reached log ++ reached log' :=
  List.filterMap_append

/-- A command that was not sent whole does not count. -/
theorem reached_lost (fd : Int) (m : ControlMessage) {result : Int}
    (h : result ≠ controlMessageCodec.size) : reached [.control fd m result] = [] :=
  List.filterMap_cons_none (if_neg h)

namespace Shim

/-- The command a record asks for, of an effect the descriptor has. -/
def playCommand (s : Shim) (gain : UInt16) (slot : Fin maxEffects) (e : InputEvent) : ControlMessage :=
  let effect := s.effectSlots slot
  let scaled := { s with ffGain := gain }.scaledByGain
  if e.value ≤ 0 then
    { magic := controlMagic, version := controlVersion, command := controlStopRumble,
      lowFrequency := 0, highFrequency := 0, durationMs := 0 }
  else
    { magic := controlMagic, version := controlVersion, command := controlRumble,
      lowFrequency := scaled effect.lowFrequency, highFrequency := scaled effect.highFrequency,
      durationMs := if effect.durationMs = 0 then 2500 else effect.durationMs.toUInt32 }

/-- The commands a list of records asks for, in order, each under the gain of that moment. -/
def asked (s : Shim) (fd : Int) : UInt16 → List InputEvent → List ControlMessage
  | _, [] => []
  | gain, e :: es =>
    if e.isPlay then
      ((s.findEffect fd e.code.toNat).map fun slot => s.playCommand gain slot e).toList ++
        asked s fd gain es
    else asked s fd (if e.isGain then e.gain else gain) es

/-- The records of a write to an evdev descriptor; none where the call is refused outright. -/
def recordsWritten (buffer : UInt64) (content : List UInt8) (length : Nat) : List InputEvent :=
  if buffer = 0 ∨ length % inputEventCodec.size ≠ 0 then []
  else recordsOf content (length / inputEventCodec.size)

/-- **All or nothing**: a write that returns -1 has changed no gain and sent no command, one that
    returns the length has carried out every record in order. -/
structure AllOrNothing (env : Env) (s : Shim) (fd : Int) (buffer : UInt64) (content : List UInt8)
    (length : Nat) : Prop where
  nothing : (s.write env fd buffer content length).2.result = -1 →
    (s.write env fd buffer content length).1.ffGain = s.ffGain ∧
      reached (s.write env fd buffer content length).1.log = reached s.log
  all : (s.write env fd buffer content length).2.result = length →
    (s.write env fd buffer content length).1.ffGain =
        gainAfter s.ffGain (recordsWritten buffer content length) ∧
      reached (s.write env fd buffer content length).1.log = reached s.log ++
        (s.asked fd s.ffGain (recordsWritten buffer content length)).map fun m => (fd, m)

/-- Every effect a list of records plays is known, and every command is sent. -/
def Goes (s : Shim) (fd : Int) (es : List InputEvent) : Prop :=
  (∀ e ∈ es.filter InputEvent.isPlay, (s.findEffect fd e.code.toNat).isSome = true) ∧
    s.sends.take (es.filter InputEvent.isPlay).length =
      List.replicate (es.filter InputEvent.isPlay).length (controlMessageCodec.size : Int)

/-- The first effect a list of records plays fails, and the gain it had been given is the old. -/
def FailsFirst (s : Shim) (fd : Int) (es : List InputEvent) : Prop :=
  (∃ e ∈ (es.filter InputEvent.isPlay).head?,
      s.findEffect fd e.code.toNat = none ∨ s.sends.headD (-1) ≠ controlMessageCodec.size) ∧
    gainAfter s.ffGain (es.takeWhile fun e => !e.isPlay) = s.ffGain

variable {env : Env} {s t : Shim} {fd : Int}

/-! ## 2. One record -/

theorem findEffect_congr (h : t.effectSlots = s.effectSlots) (fd id : Int) :
    t.findEffect fd id = s.findEffect fd id := by
  unfold findEffect
  rw [h]

/-- A record that plays no effect sets the gain, or does nothing. -/
theorem writeEvent_quiet (s : Shim) (fd : Int) {e : InputEvent} (h : e.isPlay = false) :
    s.writeEvent fd e = ({ s with ffGain := if e.isGain then e.gain else s.ffGain }, true) := by
  unfold writeEvent
  by_cases htype : e.type = evFf
  · have hcode : e.code = ffGainCode := by simpa [InputEvent.isPlay, htype] using h
    have hgain : e.isGain = true := by simp [InputEvent.isGain, htype, hcode]
    rw [if_neg (not_not.mpr htype), if_pos hcode, if_pos hgain]
    rfl
  · have hgain : e.isGain = false := by simp [InputEvent.isGain, htype]
    rw [if_pos htype, hgain]
    rfl

/-- A record that plays an unknown effect fails. -/
theorem writeEvent_unknown {e : InputEvent} (h : e.isPlay = true)
    (hnone : s.findEffect fd e.code.toNat = none) : s.writeEvent fd e = (s, false) := by
  obtain ⟨htype, hcode⟩ : e.type = evFf ∧ e.code ≠ ffGainCode := by
    simpa [InputEvent.isPlay] using h
  unfold writeEvent
  rw [if_neg (not_not.mpr htype), if_neg hcode, hnone]

/-- A record that plays a known one sends its command. -/
theorem writeEvent_play {e : InputEvent} (h : e.isPlay = true) {slot : Fin maxEffects}
    (hslot : s.findEffect fd e.code.toNat = some slot) :
    s.writeEvent fd e =
      ({ s with
          sends := s.sends.tail
          log := s.log ++ [.control fd (s.playCommand s.ffGain slot e) (s.sends.headD (-1))] },
        s.sends.headD (-1) == controlMessageCodec.size) := by
  obtain ⟨htype, hcode⟩ : e.type = evFf ∧ e.code ≠ ffGainCode := by
    simpa [InputEvent.isPlay] using h
  unfold writeEvent
  rw [if_neg (not_not.mpr htype), if_neg hcode, hslot]
  dsimp only
  unfold playCommand
  split
  · rfl
  · rfl

/-! ## 3. The loop -/

theorem writeEvents_log (fd : Int) (es : List InputEvent) (s : Shim) :
    ∃ more, (s.writeEvents fd es).1.log = s.log ++ more := by
  induction es generalizing s with
  | nil => exact ⟨[], (List.append_nil _).symm⟩
  | cons e es ih =>
    have hone : ∃ more, (s.writeEvent fd e).1.log = s.log ++ more := by
      cases hplay : e.isPlay with
      | false => exact ⟨[], by rw [writeEvent_quiet s fd hplay, List.append_nil]⟩
      | true =>
        cases hfind : s.findEffect fd e.code.toNat with
        | none => exact ⟨[], by rw [writeEvent_unknown hplay hfind, List.append_nil]⟩
        | some slot => exact ⟨_, by rw [writeEvent_play hplay hfind]⟩
    unfold writeEvents
    dsimp only
    split
    · obtain ⟨more, hmore⟩ := hone
      obtain ⟨more', hmore'⟩ := ih (s.writeEvent fd e).1
      exact ⟨more ++ more', by rw [hmore', hmore, List.append_assoc]⟩
    · exact hone

/-- A list of records goes on behind one that plays, if that goes. -/
theorem goes_play {e : InputEvent} (h : e.isPlay = true) {slot : Fin maxEffects}
    (hslot : s.findEffect fd e.code.toNat = some slot) (es : List InputEvent) :
    s.Goes fd (e :: es) ↔ s.sends.headD (-1) = controlMessageCodec.size ∧
      (s.writeEvent fd e).1.Goes fd es := by
  have hslots : (s.writeEvent fd e).1.effectSlots = s.effectSlots := by rw [writeEvent_play h hslot]
  have hsends : (s.writeEvent fd e).1.sends = s.sends.tail := by rw [writeEvent_play h hslot]
  unfold Goes
  rw [List.filter_cons_of_pos h, hsends]
  simp only [findEffect_congr hslots, List.forall_mem_cons, hslot, Option.isSome_some, true_and,
    List.length_cons, List.replicate_succ]
  cases s.sends with
  | nil => simp
  | cons n ns =>
    simp only [List.take_succ_cons, List.cons.injEq, List.headD_cons, List.tail_cons]
    tauto

theorem goes_quiet {e : InputEvent} (h : e.isPlay = false) (es : List InputEvent) :
    s.Goes fd (e :: es) ↔ (s.writeEvent fd e).1.Goes fd es := by
  rw [writeEvent_quiet s fd h]
  unfold Goes
  rw [List.filter_cons_of_neg (by rw [h]; decide)]
  rfl

/-- **The loop returns the length** exactly if the list of records goes, and has then carried it
    out: `s` has the effects, `t` the gain so far. -/
theorem writeEvents_all (es : List InputEvent) (ht : t.effectSlots = s.effectSlots) :
    ((t.writeEvents fd es).2 = true ↔ t.Goes fd es) ∧
      ((t.writeEvents fd es).2 = true →
        (t.writeEvents fd es).1.ffGain = gainAfter t.ffGain es ∧
          reached (t.writeEvents fd es).1.log =
            reached t.log ++ (s.asked fd t.ffGain es).map fun m => (fd, m)) := by
  induction es generalizing t with
  | nil => exact ⟨⟨fun _ => ⟨by simp, rfl⟩, fun _ => rfl⟩, fun _ => ⟨rfl, (List.append_nil _).symm⟩⟩
  | cons e es ih =>
    unfold writeEvents
    dsimp only
    cases hplay : e.isPlay with
    | false =>
      have hquiet := writeEvent_quiet t fd hplay
      have hrest := @ih (t.writeEvent fd e).1 (by rw [hquiet]; exact ht)
      rw [if_pos (by rw [hquiet]), goes_quiet hplay]
      refine ⟨hrest.1, fun h => ?_⟩
      obtain ⟨hgain, hreached⟩ := hrest.2 h
      rw [hgain, hreached, hquiet]
      refine ⟨rfl, ?_⟩
      rw [asked, if_neg (show ¬e.isPlay = true by rw [hplay]; decide)]
    | true =>
      cases hfind : t.findEffect fd e.code.toNat with
      | none =>
        rw [writeEvent_unknown hplay hfind, if_neg Bool.false_ne_true]
        refine ⟨⟨fun h => (by cases h), fun h => ?_⟩, fun h => by cases h⟩
        have hsome := h.1 e (by rw [List.filter_cons_of_pos hplay]; exact List.mem_cons_self)
        rw [hfind] at hsome
        cases hsome
      | some slot =>
        have hone := writeEvent_play hplay hfind
        rw [goes_play hplay hfind]
        by_cases hsent : t.sends.headD (-1) = controlMessageCodec.size
        · have hrest := @ih (t.writeEvent fd e).1 (by rw [hone]; exact ht)
          rw [if_pos (by rw [hone, hsent]; rfl)]
          refine ⟨⟨fun h => ⟨hsent, hrest.1.mp h⟩, fun h => hrest.1.mpr h.2⟩, fun h => ?_⟩
          obtain ⟨hgain, hreached⟩ := hrest.2 h
          have hcommand : t.playCommand t.ffGain slot e = s.playCommand t.ffGain slot e := by
            unfold playCommand
            rw [ht]
            rfl
          have hgained : e.isGain = false := by
            cases hg : e.isGain with
            | false => rfl
            | true =>
              simp only [InputEvent.isPlay, InputEvent.isGain, Bool.and_eq_true, bne_iff_ne,
                beq_iff_eq] at hplay hg
              exact absurd hg.2 hplay.2
          rw [hgain, hreached, hone]
          refine ⟨?_, ?_⟩
          · show _ = gainAfter (if e.isGain then e.gain else t.ffGain) es
            rw [hgained]
            rfl
          · rw [asked, if_pos hplay, ← findEffect_congr ht, hfind, reached_append, hsent, hcommand,
              Option.map_some, Option.toList_some, List.singleton_append, List.map_cons,
              List.append_assoc]
            rfl
        · have hfailed : (t.writeEvent fd e).2 = false := by
            rw [hone]
            exact beq_false_of_ne hsent
          rw [if_neg (by rw [hfailed]; decide), hfailed]
          exact ⟨⟨fun h => (by cases h), fun h => absurd h.1 hsent⟩, fun h => by cases h⟩

/-- **The loop fails without a trace** exactly if the first effect played is what fails. -/
theorem writeEvents_nothing (es : List InputEvent) (g : UInt16)
    (hfailed : (s.writeEvents fd es).2 = false) :
    ((s.writeEvents fd es).1.ffGain = g ∧ reached (s.writeEvents fd es).1.log = reached s.log) ↔
      (∃ e ∈ (es.filter InputEvent.isPlay).head?,
          s.findEffect fd e.code.toNat = none ∨ s.sends.headD (-1) ≠ controlMessageCodec.size) ∧
        gainAfter s.ffGain (es.takeWhile fun e => !e.isPlay) = g := by
  induction es generalizing s with
  | nil => cases hfailed
  | cons e es ih =>
    unfold writeEvents at hfailed ⊢
    dsimp only at hfailed ⊢
    cases hplay : e.isPlay with
    | false =>
      have hquiet := writeEvent_quiet s fd hplay
      have hok : (s.writeEvent fd e).2 = true := by rw [hquiet]
      rw [if_pos hok] at hfailed ⊢
      have hrest := @ih (s.writeEvent fd e).1 hfailed
      rw [List.filter_cons_of_neg (by rw [hplay]; decide),
        List.takeWhile_cons_of_pos (by rw [hplay]; rfl)]
      rw [hquiet] at hrest ⊢
      exact hrest
    | true =>
      rw [List.filter_cons_of_pos hplay, List.takeWhile_cons_of_neg (by rw [hplay]; decide)]
      simp only [List.head?_cons, Option.mem_def, Option.some.injEq, exists_eq_left']
      cases hfind : s.findEffect fd e.code.toNat with
      | none =>
        rw [writeEvent_unknown hplay hfind, if_neg Bool.false_ne_true]
        exact ⟨fun h => ⟨Or.inl rfl, h.1⟩, fun h => ⟨h.2, rfl⟩⟩
      | some slot =>
        have hone := writeEvent_play hplay hfind
        by_cases hsent : s.sends.headD (-1) = controlMessageCodec.size
        · have hok : (s.writeEvent fd e).2 = true := by
            rw [hone, hsent]
            rfl
          -- the command of `e` has reached the bridge
          obtain ⟨more, hmore⟩ := writeEvents_log fd es (s.writeEvent fd e).1
          have hreached : reached (writeEvents (s.writeEvent fd e).1 fd es).1.log =
              reached s.log ++ (fd, s.playCommand s.ffGain slot e) :: reached more := by
            rw [hmore, hone, hsent, reached_append, reached_append, List.append_assoc]
            rfl
          rw [if_pos hok, hreached]
          refine ⟨fun h => absurd h.2 ?_, fun h => absurd h.1 ?_⟩
          · exact fun he => List.cons_ne_nil _ _ (List.self_eq_append_right.mp he.symm)
          · exact fun hor => hor.elim (fun he => by cases he) fun hne => hne hsent
        · have hno : (s.writeEvent fd e).2 = false := by
            rw [hone]
            exact beq_false_of_ne hsent
          have hlost : reached (s.writeEvent fd e).1.log = reached s.log := by
            rw [hone, reached_append, reached_lost _ _ hsent, List.append_nil]
          rw [if_neg (by rw [hno]; decide), hlost, hone]
          exact ⟨fun h => ⟨Or.inr hsent, h.1⟩, fun h => ⟨h.2, rfl⟩⟩

/-! ## 4. The call -/

/-- `write` on an evdev descriptor. -/
theorem write_evdev {fake : FakeFd} (hfind : s.findFakeFd fd = some fake) (hjoy : fake.joydev = false)
    (buffer : UInt64) (content : List UInt8) (length : Nat) :
    (s.write env fd buffer content length = (s.init env, Outcome.failed) ∧
        recordsWritten buffer content length = []) ∨
      s.write env fd buffer content length =
        (((s.init env).writeEvents fd (recordsWritten buffer content length)).1,
          if ((s.init env).writeEvents fd (recordsWritten buffer content length)).2 then
            { result := length, stored := [] } else Outcome.failed) := by
  have hinit : (s.init env).findFakeFd fd = some fake := (init_findFakeFd s fd).trans hfind
  unfold write recordsWritten
  simp only [hinit, hjoy, Bool.false_eq_true, false_or]
  split
  · exact Or.inl ⟨rfl, rfl⟩
  · exact Or.inr rfl

end Shim

/-- **A failed write changes nothing**, and a successful one carries out everything in order,
    exactly if every effect played goes, or the first one does not and the gain records before it
    leave the gain as it was. -/
theorem failed_write_iff (env : Env) (s : Shim) (fd : Int) (fake : FakeFd) (buffer : UInt64)
    (content : List UInt8) (length : Nat) (hfind : s.findFakeFd fd = some fake)
    (hjoy : fake.joydev = false) :
    s.AllOrNothing env fd buffer content length ↔
      s.Goes fd (Shim.recordsWritten buffer content length) ∨
        s.FailsFirst fd (Shim.recordsWritten buffer content length) := by
  have hinit : (s.init env).effectSlots = s.effectSlots ∧ (s.init env).ffGain = s.ffGain ∧
      (s.init env).sends = s.sends ∧ (s.init env).log = s.log := by
    unfold Shim.init
    split <;> exact ⟨rfl, rfl, rfl, rfl⟩
  obtain ⟨hslots, hgain, hsends, hlog⟩ := hinit
  have hgoes : ∀ es, (s.init env).Goes fd es ↔ s.Goes fd es := by
    intro es
    unfold Shim.Goes
    rw [hsends]
    simp only [Shim.findEffect_congr hslots]
  rcases @Shim.write_evdev env s fd fake hfind hjoy buffer content length with ⟨he, hnil⟩ | he
  · rw [hnil]
    refine ⟨fun _ => Or.inl ⟨by simp, rfl⟩, fun _ => ⟨fun _ => ?_, fun hl => ?_⟩⟩
    · rw [he]
      exact ⟨hgain, by rw [hlog]⟩
    · rw [he] at hl
      have hneg : (-1 : Int) = length := hl
      omega
  · set es := Shim.recordsWritten buffer content length
    obtain ⟨hwhen, hthen⟩ := @Shim.writeEvents_all s (s.init env) fd es hslots
    cases hok : ((s.init env).writeEvents fd es).2 with
    | true =>
      rw [hok] at he
      refine ⟨fun _ => Or.inl ((hgoes es).mp (hwhen.mp hok)), fun _ => ⟨fun hl => ?_, fun _ => ?_⟩⟩
      · rw [he] at hl
        have hneg : (length : Int) = -1 := hl
        omega
      · obtain ⟨h1, h2⟩ := hthen hok
        rw [he]
        rw [hgain] at h1 h2
        rw [hlog] at h2
        exact ⟨h1, h2⟩
    | false =>
      rw [hok] at he
      have hnogo : ¬s.Goes fd es := fun h => by
        rw [hwhen.mpr ((hgoes es).mpr h)] at hok
        cases hok
      have hnothing := Shim.writeEvents_nothing es s.ffGain hok
      rw [hgain, hsends, hlog] at hnothing
      simp only [Shim.findEffect_congr hslots] at hnothing
      constructor
      · intro h
        refine Or.inr (hnothing.mp ?_)
        have hn := h.nothing (by rw [he]; rfl)
        rw [he] at hn
        exact hn
      · rintro (h | h)
        · exact absurd h hnogo
        · refine ⟨fun _ => ?_, fun hl => ?_⟩
          · rw [he]
            exact hnothing.mpr h
          · rw [he] at hl
            have hneg : (-1 : Int) = length := hl
            omega

/-- The records of a write. -/
def ffRecord (code : UInt16) (value : Int32) : InputEvent :=
  { time := ⟨0, 0⟩, type := evFf, code := code, value := value }

/-- An evdev descriptor with one effect, of id 0. -/
def effectUploaded (sends : List Int) : Shim :=
  (((Shim.loaded [] [openAnswer 3] sends).call plainEnv (.open_ (some fakeDevnode) 0 0)).1.call plainEnv
    (uploadRumble 3 40000 20000)).1

theorem failed_write_iff_start :
    (effectUploaded [16]).AllOrNothing plainEnv 3 4096
        (inputEventCodec.encAll [ffRecord ffGainCode 1000, ffRecord 0 1]) 48 ↔
      (effectUploaded [16]).Goes 3 (Shim.recordsWritten 4096
          (inputEventCodec.encAll [ffRecord ffGainCode 1000, ffRecord 0 1]) 48) ∨
        (effectUploaded [16]).FailsFirst 3 (Shim.recordsWritten 4096
          (inputEventCodec.encAll [ffRecord ffGainCode 1000, ffRecord 0 1]) 48) :=
  failed_write_iff plainEnv (effectUploaded [16]) 3 evdevFake 4096
    (inputEventCodec.encAll [ffRecord ffGainCode 1000, ffRecord 0 1]) 48 (by rfl) rfl

/-- **A write of two events, the second about an unknown effect**: -1, and the first one's rumble
    has started; and one of a gain and an unknown effect, which leaves the new gain. -/
theorem failed_write_leaves_traces :
    ¬(effectUploaded [16]).AllOrNothing plainEnv 3 4096
        (inputEventCodec.encAll [ffRecord 0 1, ffRecord 7 1]) 48 ∧
      ¬(effectUploaded [16]).AllOrNothing plainEnv 3 4096
        (inputEventCodec.encAll [ffRecord ffGainCode 1000, ffRecord 7 1]) 48 := by
  refine ⟨fun h => ?_, fun h => ?_⟩
  · exact absurd (h.nothing (by decide +kernel)).2 (by decide +kernel)
  · exact absurd (h.nothing (by decide +kernel)).1 (by decide +kernel)

end TermuxGamepad
