/-
  File:      TermuxGamepad/Playback.lean
  Subject:   Several force-feedback effects on one evdev descriptor, from the program's calls to
             the rumble its client holds at the bridge.

  `Playback` is the shim and the bridge at the two ends of one socket, with the effects that are
  to be playing (`playing`, the reference): an effect plays from its start to the end of its
  replay time, unless it is stopped or removed or the descriptor is closed. The shim keeps no
  such record and the bridge keeps one rumble for the client, the last one it was sent, so the
  two part as soon as effects overlap. `Yields` is what keeps them together.
-/
import TermuxGamepad.Bridge.Aging
import TermuxGamepad.Shim.Effects

namespace TermuxGamepad

open Wire

/-! ## 1. Calls -/

/-- A force-feedback call of a program: EVIOCSFF, EVIOCRMFF, a write of one record, `close`. -/
inductive FfCall where
  | upload (memory : List UInt8)
  | remove (id : UInt64)
  | write (event : InputEvent)
  | close

def FfCall.call (fd : Int) : FfCall → Call
  | .upload memory => .ioctl fd 0x40304580 4096 memory
  | .remove id => .ioctl fd 0x40044581 id []
  | .write event => .write fd 4096 (inputEventCodec.enc event) 24
  | .close => .close fd

namespace Shim

variable {env : Env} {s : Shim} {fd : Int}

/-- The effect a removal or an event names by its number. -/
def removed (s : Shim) (fd : Int) (id : UInt64) : Option (Fin maxEffects) :=
  s.findEffect fd (Int32.ofNat id.toNat).toInt

def named (s : Shim) (fd : Int) (event : InputEvent) : Option (Fin maxEffects) :=
  if event.type = evFf ∧ event.code ≠ ffGainCode then s.findEffect fd event.code.toNat else none

/-- An effect as it plays when its start is handled at time `t`. -/
def startedAt (s : Shim) (k : Fin maxEffects) (t : Nat) : Rumble :=
  { rumbleLow := s.scaledByGain (s.effectSlots k).lowFrequency
    rumbleHigh := s.scaledByGain (s.effectSlots k).highFrequency
    rumbleExpiresMs := t +
      if (s.effectSlots k).durationMs = 0 then 2500 else (s.effectSlots k).durationMs.toNat }

/-- The message an event about an effect sends. -/
def eventMessage (s : Shim) (k : Fin maxEffects) (event : InputEvent) : ControlMessage :=
  if event.value ≤ 0 then EffectMap.stopMessage
  else
    { magic := controlMagic, version := controlVersion, command := controlRumble
      lowFrequency := s.scaledByGain (s.effectSlots k).lowFrequency
      highFrequency := s.scaledByGain (s.effectSlots k).highFrequency
      durationMs := if (s.effectSlots k).durationMs = 0 then 2500
        else (s.effectSlots k).durationMs.toUInt32 }

theorem nodeAt_open (h : s.nodeAt fd = some false) :
    ∃ fake, (s.init env).findFakeFd fd = some fake ∧ fake.joydev = false := by
  rw [init_findFakeFd]
  exact Option.map_eq_some_iff.mp h

/-- An upload and a removal say nothing to the bridge. -/
theorem ioctl_log (h : s.nodeAt fd = some false) (req arg : UInt64) (memory : List UInt8) :
    (s.call env (.ioctl fd req arg memory)).1.log = s.log := by
  obtain ⟨fake, hfind, hjoy⟩ := @nodeAt_open env s fd h
  show (s.ioctl env fd req arg memory).1.log = s.log
  unfold ioctl
  dsimp only
  rw [hfind]
  dsimp only
  rw [hjoy, if_neg Bool.false_ne_true]
  split
  · unfold uploadEffect
    dsimp only
    split
    · exact init_log s
    · split <;> exact init_log s
  · split
    · unfold removeEffect
      split <;> exact init_log s
    · exact init_log s

/-- **An event sends the message of the effect it names**, if it names one. -/
theorem writeEvent_log (s : Shim) (fd : Int) (event : InputEvent) :
    (s.writeEvent fd event).1.log = s.log ++
      (s.named fd event).toList.map fun k =>
        .control fd (s.eventMessage k event) (s.sends.headD (-1)) := by
  unfold writeEvent named
  by_cases htype : event.type = evFf
  · rw [if_neg (not_not.mpr htype)]
    by_cases hcode : event.code = ffGainCode
    · rw [if_pos hcode, if_neg (fun h => h.2 hcode)]
      exact (List.append_nil _).symm
    · rw [if_neg hcode, if_pos ⟨htype, hcode⟩]
      cases s.findEffect fd event.code.toNat with
      | none => exact (List.append_nil _).symm
      | some k =>
        unfold eventMessage
        dsimp only [Option.toList_some, List.map_cons, List.map_nil]
        split <;> rfl
  · rw [if_pos htype, if_neg (fun h => htype h.1)]
    exact (List.append_nil _).symm

theorem write_log (h : s.nodeAt fd = some false) (event : InputEvent) :
    (s.call env ((FfCall.write event).call fd)).1.log = s.log ++
      (s.named fd event).toList.map fun k =>
        .control fd (s.eventMessage k event) (s.sends.headD (-1)) := by
  obtain ⟨fake, hfind, hjoy⟩ := @nodeAt_open env s fd h
  obtain ⟨-, hslots, hgain, hsends⟩ := init_same env s
  have hone : (recordsOf (inputEventCodec.enc event) (24 / inputEventCodec.size)) = [event] :=
    congrArg (· :: []) (inputEventCodec.dec_enc event)
  have hlast : ∀ s : Shim, (s.writeEvents fd [event]).1 = (s.writeEvent fd event).1 := by
    intro s
    unfold writeEvents writeEvents
    dsimp only
    split <;> rfl
  have hnamed : (s.init env).named fd event = s.named fd event := by
    unfold named findEffect
    rw [hslots]
  have hmessage : ∀ k, (s.init env).eventMessage k event = s.eventMessage k event := by
    intro k
    unfold eventMessage scaledByGain
    rw [hslots, hgain]
  show (s.write env fd 4096 (inputEventCodec.enc event) 24).1.log = _
  unfold write
  dsimp only
  rw [hfind]
  dsimp only
  rw [hjoy, if_neg (by decide), hone]
  show ((s.init env).writeEvents fd [event]).1.log = _
  rw [hlast, writeEvent_log, init_log, hnamed, hsends]
  simp only [hmessage]

/-- The rumble the message leaves a client with is the effect as it plays, or none. -/
theorem rumbleAfter_eventMessage (s : Shim) (k : Fin maxEffects) (event : InputEvent) (t : Nat) :
    Bridge.rumbleAfter (s.eventMessage k event) t =
      if event.value ≤ 0 then Rumble.off else s.startedAt k t := by
  unfold eventMessage Bridge.rumbleAfter
  split
  · rfl
  · rw [if_pos rfl]
    unfold startedAt Bridge.commandDuration
    dsimp only
    congr 2
    by_cases hzero : (s.effectSlots k).durationMs = 0
    · rw [if_pos hzero, if_pos hzero]
      rfl
    · have hne : (s.effectSlots k).durationMs.toUInt32 ≠ 0 := fun h => hzero (by
        rw [← UInt16.toNat_inj]
        rw [← UInt32.toNat_inj, UInt16.toNat_toUInt32] at h
        exact h)
      rw [if_neg hzero, if_neg hzero, if_pos (bne_iff_ne.mpr hne), UInt16.toNat_toUInt32]

end Shim

/-! ## 2. Both ends -/

/-- The two ends of the connection under a descriptor: its number, and its record at the bridge. -/
structure Ends where
  fd : Int
  slot : Slot
  conn : Conn

/-- The bytes of the messages that went out whole on a descriptor. -/
def wentOut (fd : Int) (log : List Event) : List UInt8 :=
  log.flatMap fun e =>
    match e with
    | .control fd' m result =>
      if fd' = fd ∧ result = controlMessageCodec.size then controlMessageCodec.enc m else []
    | _ => []

namespace Shim

/-- The socket takes the next message whole, or does not take it. -/
def offered (s : Shim) (taken : Bool) : Shim :=
  { s with sends := [if taken then (controlMessageCodec.size : Int) else -1] }

/-- What a call puts on the socket. -/
def said (env : Env) (s : Shim) (fd : Int) (c : FfCall) : List UInt8 :=
  wentOut fd ((s.call env (c.call fd)).1.log.drop s.log.length)

theorem said_upload (env : Env) {s : Shim} {fd : Int} (h : s.nodeAt fd = some false)
    (memory : List UInt8) : s.said env fd (.upload memory) = [] := by
  unfold said FfCall.call
  rw [ioctl_log h, List.drop_length]
  rfl

theorem said_remove (env : Env) {s : Shim} {fd : Int} (h : s.nodeAt fd = some false)
    (id : UInt64) : s.said env fd (.remove id) = [] := by
  unfold said FfCall.call
  rw [ioctl_log h, List.drop_length]
  rfl

theorem said_write (env : Env) {s : Shim} {fd : Int} (h : s.nodeAt fd = some false) (taken : Bool)
    (event : InputEvent) :
    (s.offered taken).said env fd (.write event) =
      match s.named fd event with
      | none => []
      | some k => if taken then controlMessageCodec.enc (s.eventMessage k event) else [] := by
  have hopen : (s.offered taken).nodeAt fd = some false := h
  have hnamed : (s.offered taken).named fd event = s.named fd event := rfl
  unfold said
  rw [write_log hopen, List.drop_left, hnamed]
  cases s.named fd event with
  | none => rfl
  | some k =>
    show wentOut fd [.control fd (s.eventMessage k event) ((s.offered taken).sends.headD (-1))] = _
    cases taken with
    | false => simp [wentOut, offered]
    | true => simp [wentOut, offered]

end Shim

structure Playback where
  shim : Shim
  bridge : Bridge
  /-- The effects that were started and neither stopped nor removed since, as they play. -/
  playing : Fin maxEffects → Option Rumble

/-- A call of the program, with whether the socket takes a message and what the bridge's clock
    does while it handles it; or anything the bridge does meanwhile. -/
inductive Moment where
  | call (c : FfCall) (taken : Bool) (ticks : List Nat)
  | bridge (inp : Bridge.Input)

/-- The read of a client. -/
def Bridge.Action.reads (i : Slot) : Bridge.Action → Bool
  | .readable j _ => j = i
  | _ => false

namespace Playback

/-- Nothing has been started yet. -/
def start (s : Shim) (b : Bridge) : Playback := { shim := s, bridge := b, playing := fun _ => none }

variable (env : Env) (e : Ends)

/-- The client record is still the descriptor's. -/
def Connected (b : Bridge) : Prop := (b.clients e.slot).fd = some e.conn

instance (b : Bridge) : Decidable (Connected e b) := inferInstanceAs (Decidable (_ = _))

/-- What comes in on the connection is read at once. -/
def arrive (b : Bridge) (r : RecvResult) (ticks : List Nat) : Bridge :=
  if Connected e b then
    b.step { action := .readable e.slot r, sends := [], ticks := ticks, stamps := [] }
  else b

/-- What is to be playing after a call: a start or a stop counts if its message was taken. -/
def play (w : Playback) (c : FfCall) (taken : Bool) (ticks : List Nat) :
    Fin maxEffects → Option Rumble :=
  match c with
  | .upload _ => w.playing
  | .remove id =>
    match w.shim.removed e.fd id with
    | none => w.playing
    | some k => Function.update w.playing k none
  | .write event =>
    match w.shim.named e.fd event with
    | none => w.playing
    | some k =>
      if !taken then w.playing
      else
        Function.update w.playing k
          (if event.value ≤ 0 then none
          else some (w.shim.startedAt k (w.bridge.now + ticks.headD 0)))
  | .close => fun _ => none

/-- What a call said arrives. -/
def deliver (b : Bridge) (bytes : List UInt8) (ticks : List Nat) : Bridge :=
  if bytes = [] then b else arrive e b (.data bytes) ticks

/-- A call on the open descriptor, and what it says; a close ends the connection. -/
def doCall (w : Playback) (c : FfCall) (taken : Bool) (ticks : List Nat) : Playback :=
  let before := w.shim.offered taken
  let bridge := deliver e w.bridge (before.said env e.fd c) ticks
  { shim := (before.call env (c.call e.fd)).1
    bridge := match c with
      | .close => arrive e bridge (.data []) []
      | _ => bridge
    playing := play e w c taken ticks }

/-- A call on a descriptor that is not open, or a read of what was not written, is no input. -/
def step (w : Playback) : Moment → Playback
  | .call c taken ticks =>
    if w.shim.nodeAt e.fd = some false then w.doCall env e c taken ticks else w
  | .bridge inp =>
    if inp.action.reads e.slot ∧ Connected e w.bridge then w
    else { w with bridge := w.bridge.step inp }

/-- The rumble an effect still contributes after time `t`. -/
def still (w : Playback) (t : Nat) (k : Fin maxEffects) : Option Rumble :=
  (w.playing k).bind fun r => r.lasting t

/-- **The effects play independently**: the client's rumble is at least that of every effect that
    is playing, in both motors, and no more than they give together. -/
def Independent (w : Playback) : Prop :=
  Connected e w.bridge →
    (∀ k, ∀ r ∈ w.still w.bridge.now k,
      ∃ l ∈ (w.bridge.clients e.slot).live w.bridge.now,
        r.rumbleLow ≤ l.rumbleLow ∧ r.rumbleHigh ≤ l.rumbleHigh) ∧
    ∀ l ∈ (w.bridge.clients e.slot).live w.bridge.now,
      (∃ k, ∃ r ∈ w.still w.bridge.now k, l.rumbleLow ≤ r.rumbleLow) ∧
      ∃ k, ∃ r ∈ w.still w.bridge.now k, l.rumbleHigh ≤ r.rumbleHigh

/-- No stronger in either motor, and no longer. -/
def Within (r r' : Rumble) : Prop :=
  r.rumbleLow ≤ r'.rumbleLow ∧ r.rumbleHigh ≤ r'.rumbleHigh ∧ r.rumbleExpiresMs ≤ r'.rumbleExpiresMs

instance (r r' : Rumble) : Decidable (Within r r') := inferInstanceAs (Decidable (_ ∧ _ ∧ _))

/-- **What keeps the effects apart**: while another effect plays, none is stopped, and none is
    started that is weaker or ends sooner; one that plays is removed only while another covers it. -/
def Yields (w : Playback) : Moment → Prop
  | .bridge _ => True
  | .call c taken ticks =>
    match c with
    | .upload _ | .close => True
    | .remove id =>
      ∀ k ∈ w.shim.removed e.fd id, ∀ r ∈ w.still w.bridge.now k,
        ∃ j, j ≠ k ∧ ∃ r' ∈ w.still w.bridge.now j, Within r r'
    | .write event =>
      taken = true → ∀ k ∈ w.shim.named e.fd event, ∀ j, j ≠ k →
        ∀ r ∈ w.still (w.bridge.now + ticks.headD 0) j,
          0 < event.value ∧ Within r (w.shim.startedAt k (w.bridge.now + ticks.headD 0))

/-! ## 3. What every step keeps -/

/-- Two descriptions of a rumble cover each other: the effects one by one, and the client's. -/
def Covers (still : Fin maxEffects → Option Rumble) (live : Option Rumble) : Prop :=
  (∀ k, ∀ r ∈ still k, ∃ l ∈ live, Within r l) ∧ ∀ l ∈ live, ∃ k, ∃ r ∈ still k, Within l r

/-- The client's rumble covers the effects, now and for all the time to come. -/
structure Tuned (w : Playback) : Prop where
  seen : e.conn ∈ w.bridge.seen
  control : Connected e w.bridge → (w.bridge.clients e.slot).control = []
  covered : Connected e w.bridge → ∀ t, w.bridge.now ≤ t →
    Covers (w.still t) ((w.bridge.clients e.slot).live t)

variable {env e} {w : Playback}

theorem Within.refl (r : Rumble) : Within r r :=
  ⟨UInt16.le_refl _, UInt16.le_refl _, Nat.le_refl _⟩

theorem Within.trans {r r' r'' : Rumble} (h : Within r r') (h' : Within r' r'') : Within r r'' :=
  ⟨UInt16.le_trans h.1 h'.1, UInt16.le_trans h.2.1 h'.2.1, h.2.2.trans h'.2.2⟩

theorem Tuned.independent (h : w.Tuned e) : w.Independent e := by
  intro hc
  obtain ⟨h1, h2⟩ := h.covered hc w.bridge.now le_rfl
  refine ⟨fun k r hr => ?_, fun l hl => ?_⟩
  · obtain ⟨l, hl, hw⟩ := h1 k r hr
    exact ⟨l, hl, hw.1, hw.2.1⟩
  · obtain ⟨k, r, hr, hw⟩ := h2 l hl
    exact ⟨⟨k, r, hr, hw.1⟩, k, r, hr, hw.2.1⟩

theorem mem_lasting {r l : Rumble} {t : Nat} :
    l ∈ r.lasting t ↔ l = r ∧ r.on = true ∧ t < r.rumbleExpiresMs := by
  unfold Rumble.lasting
  split
  · rename_i h
    simp only [Bool.and_eq_true, decide_eq_true_eq] at h
    simp [h, eq_comm]
  · rename_i h
    simp only [Bool.and_eq_true, decide_eq_true_eq] at h
    simp [h]

theorem mem_still {t : Nat} {k : Fin maxEffects} {r : Rumble} :
    r ∈ w.still t k ↔ w.playing k = some r ∧ r.on = true ∧ t < r.rumbleExpiresMs := by
  unfold still
  rw [Option.mem_def, Option.bind_eq_some_iff]
  constructor
  · rintro ⟨r', hp, hl⟩
    obtain ⟨rfl, hon, ht⟩ := mem_lasting.mp hl
    exact ⟨hp, hon, ht⟩
  · rintro ⟨hp, hon, ht⟩
    exact ⟨r, hp, mem_lasting.mpr ⟨rfl, hon, ht⟩⟩

/-- What plays at a time played before. -/
theorem still_mono {t t' : Nat} (h : t ≤ t') {k : Fin maxEffects} {r : Rumble}
    (hr : r ∈ w.still t' k) : r ∈ w.still t k := by
  obtain ⟨hp, hon, ht⟩ := mem_still.mp hr
  exact mem_still.mpr ⟨hp, hon, by omega⟩

/-- What is at least a rumble that plays, plays. -/
theorem Within.lasting {r r' : Rumble} (h : Within r r') {t : Nat} (hon : r.on = true)
    (ht : t < r.rumbleExpiresMs) : r'.on = true ∧ t < r'.rumbleExpiresMs := by
  refine ⟨?_, Nat.lt_of_lt_of_le ht h.2.2⟩
  unfold Rumble.on at hon ⊢
  have hlow := UInt16.le_iff_toNat_le.mp h.1
  have hhigh := UInt16.le_iff_toNat_le.mp h.2.1
  simp only [Bool.or_eq_true, bne_iff_ne, ne_eq, ← UInt16.toNat_inj, UInt16.toNat_zero] at hon ⊢
  omega

/-- **Time passes.** -/
theorem Tuned.ages (h : w.Tuned e) {b : Bridge} (ha : Bridge.Ages e.slot w.bridge b) :
    Tuned e { w with bridge := b } := by
  refine ⟨ha.seen h.seen, fun hc => ?_, fun hc t ht => ?_⟩ <;>
  obtain ⟨hc', hcontrol, hlive⟩ := ha.stays e.conn h.seen hc
  · exact hcontrol.trans (h.control hc')
  · show Covers (w.still t) ((b.clients e.slot).live t)
    rw [hlive t ht]
    exact h.covered hc' t (ha.now.trans ht)

/-- The client is gone. -/
theorem Tuned.gone {s : Shim} {b : Bridge} {playing : Fin maxEffects → Option Rumble}
    (hseen : e.conn ∈ b.seen) (hgone : ¬Connected e b) : Tuned e ⟨s, b, playing⟩ :=
  ⟨hseen, fun hc => absurd hc hgone, fun hc => absurd hc hgone⟩

/-- **Anything the bridge does meanwhile.** -/
theorem bridge_tuned (h : w.Tuned e) (inp : Bridge.Input)
    (hread : ¬(inp.action.reads e.slot ∧ Connected e w.bridge)) :
    Tuned e { w with bridge := w.bridge.step inp } := by
  have henv : Bridge.Ages e.slot w.bridge (w.bridge.withEnv inp.sends inp.ticks inp.stamps) :=
    .of_eq rfl (List.Subset.refl _) rfl
  by_cases hr : inp.action.reads e.slot = true
  · have hno : ¬Connected e w.bridge := fun hc => hread ⟨hr, hc⟩
    obtain ⟨action, sends, ticks, stamps⟩ := inp
    cases action with
    | readable j r =>
      obtain rfl : j = e.slot := by simpa [Bridge.Action.reads] using hr
      show Tuned e { w with bridge := (w.bridge.withEnv sends ticks stamps).act (.readable e.slot r) }
      unfold Bridge.act
      dsimp only
      split
      · refine .gone ?_ fun hc => ?_
        · rw [(Bridge.serveReadable_frame _ _ _).1.seen]
          exact h.seen
        · have hc : (((w.bridge.withEnv sends ticks stamps).serveReadable e.slot r).clients
              e.slot).fd = some e.conn := hc
          rcases Bridge.serveReadable_fd (w.bridge.withEnv sends ticks stamps) e.slot r e.slot with
            hfd | hfd
          · exact hno (hfd.symm.trans hc)
          · rw [hfd] at hc
            cases hc
      · exact .gone h.seen hno
    | _ => cases hr
  · refine h.ages (henv.trans (Bridge.act_ages _ _ fun r hr' => hr ?_))
    rw [hr']
    simp [Bridge.Action.reads]

theorem arrive_seen (b : Bridge) (r : RecvResult) (ticks : List Nat) :
    (arrive e b r ticks).seen = b.seen := by
  unfold arrive
  split
  · show ((b.withEnv [] ticks []).act (.readable e.slot r)).seen = b.seen
    unfold Bridge.act
    dsimp only
    split
    · exact (Bridge.serveReadable_frame _ _ _).1.seen
    · rfl
  · rfl

/-- The end of the stream. -/
theorem arrive_end (b : Bridge) : ¬Connected e (arrive e b (.data []) []) := by
  unfold arrive
  split
  · rename_i hc
    have hsome : ((b.withEnv [] [] []).clients e.slot).fd.isSome = true := by
      show (b.clients e.slot).fd.isSome = true
      rw [show (b.clients e.slot).fd = some e.conn from hc]
      rfl
    have hfailed : ((b.withEnv [] [] []).receiveControlMessages e.slot (.data [])).2 = false := by
      unfold Bridge.receiveControlMessages
      dsimp only
      split <;> rfl
    intro hc'
    have hgone : ((b.withEnv [] [] []).act (.readable e.slot (.data []))).clients e.slot =
        ((b.withEnv [] [] []).serveReadable e.slot (.data [])).clients e.slot := by
      unfold Bridge.act
      dsimp only
      rw [if_pos hsome]
    have hc' : (((b.withEnv [] [] []).act (.readable e.slot (.data []))).clients e.slot).fd =
      some e.conn := hc'
    rw [hgone] at hc'
    unfold Bridge.serveReadable at hc'
    dsimp only at hc'
    rw [hfailed, if_neg Bool.false_ne_true] at hc'
    exact absurd ((congrArg Link.fd (Bridge.closeClient_toLink_self _ _)).symm.trans hc') (by simp [Link.free])
  · assumption

/-- **A message of the program's own arrives.** -/
theorem arrive_asks {b : Bridge} (hc : Connected e b) (hcontrol : (b.clients e.slot).control = [])
    {m : ControlMessage} (hhead : Bridge.wellHeaded m = true)
    (hm : m.command = controlRumble ∨ m.command = controlStopRumble) (ticks : List Nat) :
    Bridge.Asks e.slot (Bridge.rumbleAfter m (b.now + ticks.headD 0))
      (b.withEnv [] ticks []) (arrive e b (.data (controlMessageCodec.enc m)) ticks) := by
  have hfd : ((b.withEnv [] ticks []).clients e.slot).fd ≠ none := by
    show (b.clients e.slot).fd ≠ none
    rw [show (b.clients e.slot).fd = some e.conn from hc]
    exact Option.some_ne_none _
  unfold arrive
  rw [if_pos hc]
  exact Bridge.readable_asks hfd hcontrol hhead hm

/-- The messages of the events. -/
theorem eventMessage_good (s : Shim) (k : Fin maxEffects) (event : InputEvent) :
    Bridge.wellHeaded (s.eventMessage k event) = true ∧
      ((s.eventMessage k event).command = controlRumble ∨
        (s.eventMessage k event).command = controlStopRumble) := by
  unfold Shim.eventMessage
  split
  · exact ⟨rfl, Or.inr rfl⟩
  · exact ⟨rfl, Or.inl rfl⟩

/-- One effect is written. -/
theorem still_self (s : Shim) (b : Bridge) (p : Fin maxEffects → Option Rumble) (k : Fin maxEffects)
    (x : Option Rumble) (t : Nat) :
    still ⟨s, b, Function.update p k x⟩ t k = x.bind fun r => r.lasting t := by
  show (Function.update p k x k).bind _ = _
  rw [Function.update_self]

theorem still_ne (s : Shim) (b : Bridge) {k j : Fin maxEffects} (hj : j ≠ k) (x : Option Rumble)
    (t : Nat) : still ⟨s, b, Function.update w.playing k x⟩ t j = w.still t j := by
  show (Function.update w.playing k x j).bind _ = _
  rw [Function.update_of_ne hj]
  rfl

/-- A removal. -/
theorem remove_tuned (h : w.Tuned e) {id : UInt64} {taken : Bool} {ticks : List Nat}
    (hy : w.Yields e (.call (.remove id) taken ticks)) (s : Shim) :
    Tuned e ⟨s, w.bridge, w.play e (.remove id) taken ticks⟩ := by
  cases hk : w.shim.removed e.fd id with
  | none =>
    have hplay : w.play e (.remove id) taken ticks = w.playing := by
      simp only [play, hk]
    rw [hplay]
    exact ⟨h.seen, h.control, h.covered⟩
  | some k =>
    have hplay : w.play e (.remove id) taken ticks = Function.update w.playing k none := by
      simp only [play, hk]
    rw [hplay]
    refine ⟨h.seen, h.control, fun hc t ht => ?_⟩
    obtain ⟨h1, h2⟩ := h.covered hc t ht
    refine ⟨fun j r hr => ?_, fun l hl => ?_⟩
    · by_cases hj : j = k
      · rw [hj, still_self] at hr
        cases hr
      · rw [still_ne s w.bridge hj] at hr
        exact h1 j r hr
    · obtain ⟨j, r, hr, hw⟩ := h2 l hl
      by_cases hj : j = k
      · -- the effect that goes is covered by one that stays
        subst hj
        obtain ⟨j', hj', r', hr', hw'⟩ := hy j hk r (still_mono ht hr)
        obtain ⟨-, hon, hlt⟩ := mem_still.mp hr
        obtain ⟨hon', hlt'⟩ := hw'.lasting hon hlt
        refine ⟨j', r', ?_, hw.trans hw'⟩
        rw [still_ne s w.bridge hj']
        exact mem_still.mpr ⟨(mem_still.mp hr').1, hon', hlt'⟩
      · exact ⟨j, r, by rw [still_ne s w.bridge hj]; exact hr, hw⟩

/-- **A start or a stop** that the bridge handles: what it leaves is the one effect, or none. -/
theorem event_tuned (h : w.Tuned e) {event : InputEvent} {ticks : List Nat} {k : Fin maxEffects}
    (hk : w.shim.named e.fd event = some k)
    (hy : w.Yields e (.call (.write event) true ticks)) (s : Shim) :
    Tuned e ⟨s, arrive e w.bridge (.data (controlMessageCodec.enc (w.shim.eventMessage k event))) ticks,
      w.play e (.write event) true ticks⟩ := by
  by_cases hc : Connected e w.bridge
  swap
  · rw [show ∀ r, arrive e w.bridge r ticks = w.bridge from fun r => if_neg hc]
    exact .gone h.seen hc
  obtain ⟨hhead, hm⟩ := eventMessage_good w.shim k event
  have ha := arrive_asks hc (h.control hc) hhead hm ticks
  rw [Shim.rumbleAfter_eventMessage] at ha
  generalize arrive e w.bridge _ ticks = b at ha ⊢
  have hplay : w.play e (.write event) true ticks = Function.update w.playing k
      (if event.value ≤ 0 then none
      else some (w.shim.startedAt k (w.bridge.now + ticks.headD 0))) := by
    simp only [play, hk]
    rfl
  rw [hplay]
  refine ⟨?_, fun _ => ha.control.trans (h.control hc), fun _ t ht => ?_⟩
  · show e.conn ∈ b.seen
    rw [ha.seen]
    exact h.seen
  have hself : ∀ n, (if event.value ≤ 0 then none else some n).bind (fun r => r.lasting t) =
      (if event.value ≤ 0 then Rumble.off else n).lasting t := by
    intro n
    split <;> rfl
  show Covers _ ((b.clients e.slot).live t)
  rw [ha.live t ht]
  refine ⟨fun j r hr => ?_, fun l hl => ⟨k, l, ?_, .refl l⟩⟩
  · by_cases hj : j = k
    · rw [hj, still_self, hself] at hr
      exact ⟨r, hr, .refl r⟩
    · -- another effect that plays lets this one start, and is covered by it
      rw [still_ne s b hj] at hr
      obtain ⟨hpos, hw⟩ := hy rfl k hk j hj r (still_mono (ha.now.trans ht) hr)
      obtain ⟨-, hon, hlt⟩ := mem_still.mp hr
      obtain ⟨hon', hlt'⟩ := hw.lasting hon hlt
      rw [if_neg (Int32.not_le.mpr hpos)]
      exact ⟨_, mem_lasting.mpr ⟨rfl, hon', hlt'⟩, hw⟩
  · rw [still_self, hself]
    exact hl

/-- **Every call.** -/
theorem doCall_tuned (h : w.Tuned e) (hopen : w.shim.nodeAt e.fd = some false) {c : FfCall}
    {taken : Bool} {ticks : List Nat} (hy : w.Yields e (.call c taken ticks)) :
    Tuned e (w.doCall env e c taken ticks) := by
  have hopen' : (w.shim.offered taken).nodeAt e.fd = some false := hopen
  have hsilent : deliver e w.bridge [] ticks = w.bridge := rfl
  unfold doCall
  dsimp only
  cases c with
  | upload memory =>
    dsimp only
    rw [Shim.said_upload env hopen', hsilent]
    exact ⟨h.seen, h.control, h.covered⟩
  | remove id =>
    dsimp only
    rw [Shim.said_remove env hopen', hsilent]
    exact remove_tuned h hy _
  | write event =>
    dsimp only
    rw [Shim.said_write env hopen]
    have hquiet : w.play e (.write event) taken ticks = w.playing →
        Tuned e ⟨((w.shim.offered taken).call env ((FfCall.write event).call e.fd)).1, w.bridge,
          w.play e (.write event) taken ticks⟩ := by
      intro hplay
      rw [hplay]
      exact ⟨h.seen, h.control, h.covered⟩
    cases hk : w.shim.named e.fd event with
    | none => exact hquiet (by simp only [play, hk])
    | some k =>
      cases taken with
      | false => exact hquiet (by simp only [play, hk, Bool.not_false, if_true])
      | true =>
        have hne : controlMessageCodec.enc (w.shim.eventMessage k event) ≠ [] := fun hnil => by
          have hlen := controlMessageCodec.enc_length (w.shim.eventMessage k event)
          rw [hnil] at hlen
          cases hlen
        dsimp only
        rw [if_pos rfl, deliver, if_neg hne]
        exact event_tuned h hk hy _
  | close =>
    have hseen : ∀ bytes, (deliver e w.bridge bytes ticks).seen = w.bridge.seen := by
      intro bytes
      unfold deliver
      split
      · rfl
      · exact arrive_seen ..
    refine .gone ?_ (arrive_end _)
    rw [arrive_seen, hseen]
    exact h.seen

/-- **Every step.** -/
theorem step_tuned (h : w.Tuned e) {m : Moment} (hy : w.Yields e m) : (w.step env e m).Tuned e := by
  cases m with
  | call c taken ticks =>
    unfold step
    dsimp only
    split
    · rename_i hopen
      exact doCall_tuned h hopen hy
    · exact h
  | bridge inp =>
    unfold step
    dsimp only
    split
    · exact h
    · rename_i hread
      exact bridge_tuned h inp hread

/-! ## 4. Runs -/

/-- Every step of a run yields. -/
def Yielding (env : Env) (e : Ends) : Playback → List Moment → Prop
  | _, [] => True
  | w, m :: ms => w.Yields e m ∧ Yielding env e (w.step env e m) ms

theorem run_tuned (h : w.Tuned e) {ms : List Moment} (hy : Yielding env e w ms) :
    (run (step env e) w ms).Tuned e := by
  induction ms generalizing w with
  | nil => exact h
  | cons m ms ih => exact ih (step_tuned h hy.1) hy.2

theorem Yielding.prefix_ {ms ms' : List Moment} (h : Yielding env e w (ms ++ ms')) :
    Yielding env e w ms := by
  induction ms generalizing w with
  | nil => trivial
  | cons m ms ih => exact ⟨h.1, ih h.2⟩

instance (w : Playback) (m : Moment) : Decidable (w.Yields e m) :=
  match m with
  | .bridge _ => isTrue trivial
  | .call (.upload _) _ _ => isTrue trivial
  | .call .close _ _ => isTrue trivial
  | .call (.remove id) _ _ =>
    inferInstanceAs (Decidable (∀ k ∈ w.shim.removed e.fd id, ∀ r ∈ w.still w.bridge.now k,
      ∃ j, j ≠ k ∧ ∃ r' ∈ w.still w.bridge.now j, Within r r'))
  | .call (.write event) taken ticks =>
    inferInstanceAs (Decidable (taken = true → ∀ k ∈ w.shim.named e.fd event, ∀ j, j ≠ k →
      ∀ r ∈ w.still (w.bridge.now + ticks.headD 0) j,
        0 < event.value ∧ Within r (w.shim.startedAt k (w.bridge.now + ticks.headD 0))))

instance decidableYielding (env : Env) (e : Ends) :
    ∀ (ms : List Moment) (w : Playback), Decidable (Yielding env e w ms)
  | [], _ => isTrue trivial
  | m :: ms, w =>
    haveI := decidableYielding env e ms (w.step env e m)
    inferInstanceAs (Decidable (w.Yields e m ∧ Yielding env e (w.step env e m) ms))

instance (w : Playback) : Decidable (w.Independent e) :=
  inferInstanceAs (Decidable (_ → (∀ k, ∀ r ∈ w.still w.bridge.now k, _) ∧ _))

theorem start_tuned {b : Bridge} (hseen : e.conn ∈ b.seen)
    (hcontrol : (b.clients e.slot).control = [])
    (hoff : (b.clients e.slot).toRumble = Rumble.off) (s : Shim) : (start s b).Tuned e := by
  refine ⟨hseen, fun _ => hcontrol, fun _ t _ => ⟨fun k r hr => ?_, fun l hl => ?_⟩⟩
  · cases hr
  have hnone : (b.clients e.slot).live t = none :=
    Bridge.Client.live_of_none (Bridge.holds_of_off (by rw [hoff]; rfl)) t
  rw [show ((start s b).bridge.clients e.slot).live t = none from hnone] at hl
  cases hl

end Playback

/-- **Effects play independently as long as they yield**: in every run on a descriptor that was
    just opened, whatever else the bridge does meanwhile, if no effect is stopped while another
    plays, none is started that is weaker or ends sooner than one that plays, and one that plays is
    removed only while another covers it. -/
theorem effects_independent_of_yielding (env : Env) (e : Ends) (opcode : Int)
    (answer : DeviceAnswer) (inputs : List Bridge.Input) (s : Shim) (moments : List Moment)
    (hfd : ((run Bridge.step (Bridge.boot opcode answer) inputs).clients e.slot).fd = some e.conn)
    (hcontrol : ((run Bridge.step (Bridge.boot opcode answer) inputs).clients e.slot).control = [])
    (hoff : ((run Bridge.step (Bridge.boot opcode answer) inputs).clients e.slot).toRumble =
      Rumble.off)
    (hyield : Playback.Yielding env e
      (.start s (run Bridge.step (Bridge.boot opcode answer) inputs)) moments) :
    ∀ before after, moments = before ++ after →
      (run (Playback.step env e) (.start s (run Bridge.step (Bridge.boot opcode answer) inputs))
        before).Independent e := by
  rintro before after rfl
  have hseen := (Bridge.run_sound opcode answer inputs).tracked.isSeen e.slot e.conn hfd
  exact (Playback.run_tuned (Playback.start_tuned hseen hcontrol hoff s) hyield.prefix_).independent

/-- A descriptor that was just opened, and its client. -/
def onePad : Ends := { fd := 3, slot := Bridge.slot0, conn := 0 }

def onePadOpened : Playback :=
  .start ((Shim.loaded [] [openAnswer 3] []).call plainEnv (.open_ (some fakeDevnode) 0 0)).1
    (run Bridge.step (Bridge.boot 1 Bridge.padAnswer) Bridge.justAccepted)

/-- The upload of a rumble effect under a new id. -/
def uploadMoment (low high durationMs : UInt16) : Moment :=
  .call (.upload (Codec.u16.enc ffRumble ++ Codec.s16.enc (-1) ++ List.replicate 6 0 ++
    Codec.u16.enc durationMs ++ List.replicate 4 0 ++ Codec.u16.enc low ++ Codec.u16.enc high ++
    List.replicate 28 0)) true []

/-- An event about an effect, some time after the last. -/
def eventMoment (id : UInt16) (value : Int32) (elapsed : Nat) : Moment :=
  .call (.write { time := ⟨0, 0⟩, type := evFf, code := id, value := value }) true [elapsed]

/-- A stronger effect starts over a weaker one, and stops when that has ended. -/
def relay : List Moment :=
  [uploadMoment 1000 500 500, uploadMoment 40000 20000 500, eventMoment 0 1 0, eventMoment 1 1 100,
    .bridge (Bridge.quietly .tick), eventMoment 1 0 450]

theorem effects_independent_of_yielding_relay :
    (run (Playback.step plainEnv onePad) onePadOpened relay).Independent onePad :=
  effects_independent_of_yielding plainEnv onePad 1 Bridge.padAnswer Bridge.justAccepted
    ((Shim.loaded [] [openAnswer 3] []).call plainEnv (.open_ (some fakeDevnode) 0 0)).1 relay
    (by decide +kernel) (by decide +kernel) (by decide +kernel) (by decide +kernel) relay []
    (List.append_nil relay).symm

/-- **The stop of one effect silences another, and a removal stops nothing.** -/
theorem effects_not_independent :
    ¬(run (Playback.step plainEnv onePad) onePadOpened
        [uploadMoment 40000 20000 500, uploadMoment 1000 500 500, eventMoment 0 1 0,
          eventMoment 1 1 100, eventMoment 1 0 100]).Independent onePad ∧
      ¬(run (Playback.step plainEnv onePad) onePadOpened
        [uploadMoment 40000 20000 500, eventMoment 0 1 0, .call (.remove 0) true []]).Independent
          onePad := by
  decide +kernel

end TermuxGamepad
