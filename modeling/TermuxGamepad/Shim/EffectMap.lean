/-
  File:      TermuxGamepad/Shim/EffectMap.lean
  Subject:   What the force-feedback calls are for: a map from the ids 0 to 15 to effects, each
             with the open descriptor it belongs to.

  Nothing here is translated from the source. A descriptor is known by the open that made it, so
  a number the kernel hands out again is another descriptor. The requests are decoded as the
  driver interface has them (request 0x80 uploads, 0x81 removes, EV_FF events play), the results
  of the sends are consumed in call order, and `messages` is what was sent on which descriptor.
-/
import TermuxGamepad.Shim.PassThrough

namespace TermuxGamepad

open Wire

/-! ## 1. The strength of an effect -/

/-- A signed level over the whole range of a magnitude. -/
def levelStrength (level : Int16) : Nat := 2 * min level.toInt.natAbs 32767

/-- The strongest part of a condition. -/
def conditionLevel (condition : List UInt8) : Nat :=
  max (max (Codec.u16.dec condition).toNat (Codec.u16.dec (condition.drop 2)).toNat)
    (max (levelStrength (Codec.s16.dec (condition.drop 4)))
      (levelStrength (Codec.s16.dec (condition.drop 6))))

/-- The strengths of the two motors, for each family of effects. -/
def FfEffect.strengths (e : FfEffect) : Nat × Nat :=
  if e.type = ffConstant then
    (levelStrength (Codec.s16.dec e.u), levelStrength (Codec.s16.dec e.u))
  else if e.type = ffPeriodic then
    (levelStrength (Codec.s16.dec (e.u.drop 4)), levelStrength (Codec.s16.dec (e.u.drop 4)))
  else if e.type = ffRamp then
    let strength := max (levelStrength (Codec.s16.dec e.u)) (levelStrength (Codec.s16.dec (e.u.drop 2)))
    (strength, strength)
  else if isConditionEffect e.type then (conditionLevel e.u, conditionLevel (e.u.drop 12))
  else ((Codec.u16.dec e.u).toNat, (Codec.u16.dec (e.u.drop 2)).toNat)

/-- The families that can be uploaded. -/
def FfEffect.supported (e : FfEffect) : Bool :=
  e.type ∈ [ffRumble, ffConstant, ffPeriodic, ffRamp] || isConditionEffect e.type

/-! ## 2. The map -/

structure Effect where
  owner : Nat
  low : Nat
  high : Nat
  durationMs : Nat
  deriving DecidableEq, Repr

structure EffectMap where
  /-- The evdev descriptors that are open, each with the number of its open. -/
  owners : Int → Option Nat
  opens : Nat
  effects : Fin maxEffects → Option Effect
  gain : Nat
  sends : List Int
  messages : List (Int × ControlMessage × Int)

namespace EffectMap

/-- Nothing is open; `sends` is what the sends will come to. -/
def start (sends : List Int) : EffectMap :=
  { owners := fun _ => none, opens := 0, effects := fun _ => none, gain := 65535, sends := sends,
    messages := [] }

def setEffect (m : EffectMap) (i : Fin maxEffects) (e : Option Effect) : EffectMap :=
  { m with effects := Function.update m.effects i e }

/-- The effect an id names. -/
def effect (m : EffectMap) (id : Int) : Option (Fin maxEffects × Effect) :=
  if h : 0 ≤ id ∧ id < maxEffects then
    let i : Fin maxEffects := ⟨id.toNat, effectId_lt h⟩
    (m.effects i).map fun e => (i, e)
  else none

/-- The effect an id names, if it is the owner's. -/
def owned (m : EffectMap) (owner : Nat) (id : Int) : Option (Fin maxEffects × Effect) :=
  (m.effect id).filter fun p => p.2.owner = owner

/-- The id an upload gets: a free one for -1, else the one it names if that is free or the
    owner's. -/
def place (m : EffectMap) (owner : Nat) (id : Int) : Option (Fin maxEffects) :=
  if id = -1 then (List.finRange maxEffects).find? fun i => (m.effects i).isNone
  else if h : 0 ≤ id ∧ id < maxEffects then
    let i : Fin maxEffects := ⟨id.toNat, effectId_lt h⟩
    if (m.effects i).all fun e => e.owner = owner then some i else none
  else none

/-- An upload. -/
def upload (m : EffectMap) (owner : Nat) (e : FfEffect) : EffectMap × Option (Fin maxEffects) :=
  if !e.supported then (m, none)
  else
    match m.place owner e.id.toInt with
    | none => (m, none)
    | some i =>
      (m.setEffect i (some
        { owner := owner, low := e.strengths.1, high := e.strengths.2,
          durationMs := e.replayLength.toNat }), some i)

/-- A removal. -/
def remove (m : EffectMap) (owner : Nat) (id : Int) : EffectMap × Bool :=
  match m.owned owner id with
  | none => (m, false)
  | some p => (m.setEffect p.1 none, true)

/-- A message goes out. -/
def send (m : EffectMap) (fd : Int) (message : ControlMessage) : EffectMap × Bool :=
  let sent := m.sends.headD (-1)
  ({ m with sends := m.sends.tail, messages := m.messages ++ [(fd, message, sent)] },
    sent == controlMessageCodec.size)

def stopMessage : ControlMessage :=
  { magic := controlMagic, version := controlVersion, command := controlStopRumble,
    lowFrequency := 0, highFrequency := 0, durationMs := 0 }

/-- A magnitude under the gain, rounded down. -/
def scaled (m : EffectMap) (magnitude : Nat) : Nat := magnitude * m.gain / 65535

def rumbleMessage (m : EffectMap) (e : Effect) : ControlMessage :=
  { magic := controlMagic, version := controlVersion, command := controlRumble,
    lowFrequency := UInt16.ofNat (m.scaled e.low), highFrequency := UInt16.ofNat (m.scaled e.high),
    durationMs := UInt32.ofNat (if e.durationMs = 0 then 2500 else e.durationMs) }

/-- An event a program writes: the gain, or an effect of its own to start or to stop. -/
def play (m : EffectMap) (fd : Int) (owner : Nat) (event : InputEvent) : EffectMap × Bool :=
  if event.type ≠ evFf then (m, true)
  else if event.code = ffGainCode then
    ({ m with gain := min event.value.toInt.toNat 65535 }, true)
  else
    match m.owned owner event.code.toNat with
    | none => (m, false)
    | some p =>
      if event.value ≤ 0 then m.send fd stopMessage else m.send fd (m.rumbleMessage p.2)

/-- Events in order, up to the first that fails. -/
def playAll (m : EffectMap) (fd : Int) (owner : Nat) : List InputEvent → EffectMap × Bool
  | [] => (m, true)
  | event :: events =>
    let r := m.play fd owner event
    if r.2 then playAll r.1 fd owner events else r

/-- The node is opened. -/
def open_ (m : EffectMap) (fd : Int) : EffectMap :=
  { m with owners := Function.update m.owners fd (some m.opens), opens := m.opens + 1 }

/-- The descriptor is closed: its rumble stops, and its effects are gone. -/
def close (m : EffectMap) (fd : Int) (owner : Nat) : EffectMap :=
  let m := (m.send fd stopMessage).1
  { m with
    owners := Function.update m.owners fd none
    effects := fun i => (m.effects i).filter fun e => e.owner ≠ owner }

/-! ## 3. Calls -/

end EffectMap

/-- The virtual node a call opens, evdev (`false`) or joydev (`true`). -/
def Call.opens (env : Env) : Call → Option Bool
  | .open_ path _ _ | .open64 path _ _ | .open2 path _ =>
    if env.backendEnabled then virtualNode path else none
  | .openat _ path _ _ | .openat2 _ path _ => virtualNode path
  | _ => none

namespace EffectMap

/-- A call of a program that came to `o`: what it does to the map, and, for the calls that are
    about effects, what it must come to. -/
def step (env : Env) (m : EffectMap) (c : Call) (o : Outcome) : EffectMap × Option Outcome :=
  match c with
  | .ioctl fd req arg memory =>
    match m.owners fd with
    | none => (m, none)
    | some owner =>
      if iocNr req = 0x80 ∧ arg ≠ 0 ∧ iocSize req ≥ 48 then
        let r := m.upload owner (FfEffect.ofMemory memory)
        (r.1, some (match r.2 with
          | none => Outcome.failed
          | some i =>
            { result := 0, stored := memory.take 2 ++ Codec.s16.enc (Int16.ofInt i) }))
      else if iocNr req = 0x81 ∧ iocSize req ≥ 4 then
        let r := m.remove owner (Int32.ofNat arg.toNat).toInt
        (r.1, some (if r.2 then { result := 0, stored := [] } else Outcome.failed))
      else (m, none)
  | .write fd buffer content length =>
    match m.owners fd with
    | none => (m, none)
    | some owner =>
      if buffer = 0 ∨ length % inputEventCodec.size ≠ 0 then (m, some Outcome.failed)
      else
        let r := m.playAll fd owner (Shim.recordsOf content (length / inputEventCodec.size))
        (r.1, some (if r.2 then { result := length, stored := [] } else Outcome.failed))
  | .close fd =>
    match m.owners fd with
    | none => (m, none)
    | some owner => (m.close fd owner, none)
  | c =>
    match c.opens env with
    | some false => (if 0 ≤ o.result then m.open_ o.result else m, none)
    | _ => (m, none)

/-! ## 4. Owners keep to themselves -/

/-- What an operation of one owner can do to the effects: those of the others stay. -/
def KeepsOthers (owner : Nat) (m m' : EffectMap) : Prop :=
  ∀ i e, e.owner ≠ owner → (m'.effects i = some e ↔ m.effects i = some e)

variable {m : EffectMap} {owner : Nat}

theorem effect_some {id : Int} {p : Fin maxEffects × Effect} (h : m.effect id = some p) :
    m.effects p.1 = some p.2 ∧ (p.1 : Int) = id := by
  unfold effect at h
  split at h
  · rename_i hid
    obtain ⟨e, he, rfl⟩ := Option.map_eq_some_iff.mp h
    exact ⟨he, Int.toNat_of_nonneg hid.1⟩
  · cases h

theorem owned_some {id : Int} {p : Fin maxEffects × Effect} (h : m.owned owner id = some p) :
    m.effects p.1 = some p.2 ∧ p.2.owner = owner := by
  obtain ⟨he, ho⟩ := Option.filter_eq_some_iff.mp h
  exact ⟨(effect_some he).1, by simpa using ho⟩

theorem place_some {id : Int} {i : Fin maxEffects} (h : m.place owner id = some i) :
    ∀ e, m.effects i = some e → e.owner = owner := by
  intro e he
  unfold place at h
  split at h
  · have hfree := List.find?_some h
    rw [he] at hfree
    cases hfree
  · split at h
    · dsimp only at h
      split at h
      · rename_i hall
        cases h
        rw [he] at hall
        simpa using hall
      · cases h
    · cases h

/-- One cell that is free or the owner's is all that changes. -/
theorem keepsOthers_set {i : Fin maxEffects} (hi : ∀ e, m.effects i = some e → e.owner = owner)
    {x : Option Effect} (hx : ∀ e, x = some e → e.owner = owner) :
    KeepsOthers owner m (m.setEffect i x) := by
  intro j e he
  show Function.update m.effects i x j = some e ↔ _
  by_cases hj : j = i
  · subst hj
    rw [Function.update_self]
    exact ⟨fun h => absurd (hx e h) he, fun h => absurd (hi e h) he⟩
  · rw [Function.update_of_ne hj]

theorem upload_keepsOthers (m : EffectMap) (owner : Nat) (e : FfEffect) :
    KeepsOthers owner m (m.upload owner e).1 := by
  unfold upload
  split
  · exact fun _ _ _ => Iff.rfl
  · split
    · exact fun _ _ _ => Iff.rfl
    · rename_i i hi
      exact keepsOthers_set (place_some hi) fun x hx => by cases hx; rfl

theorem remove_keepsOthers (m : EffectMap) (owner : Nat) (id : Int) :
    KeepsOthers owner m (m.remove owner id).1 := by
  unfold remove
  split
  · exact fun _ _ _ => Iff.rfl
  · rename_i p hp
    obtain ⟨he, ho⟩ := owned_some hp
    exact keepsOthers_set (fun e h => by rw [he] at h; cases h; exact ho) fun x hx => by cases hx

theorem play_effects (m : EffectMap) (fd : Int) (owner : Nat) (event : InputEvent) :
    (m.play fd owner event).1.effects = m.effects := by
  unfold play
  split
  · rfl
  · split
    · rfl
    · split
      · rfl
      · split <;> rfl

theorem playAll_effects (m : EffectMap) (fd : Int) (owner : Nat) (events : List InputEvent) :
    (m.playAll fd owner events).1.effects = m.effects := by
  induction events generalizing m with
  | nil => rfl
  | cons event events ih =>
    unfold playAll
    dsimp only
    split
    · rw [ih, play_effects]
    · exact play_effects ..

theorem close_keepsOthers (m : EffectMap) (fd : Int) (owner : Nat) :
    KeepsOthers owner m (m.close fd owner) := by
  intro i e he
  show (m.effects i).filter (fun e => e.owner ≠ owner) = some e ↔ _
  rw [Option.filter_eq_some_iff]
  exact ⟨fun h => h.1, fun h => ⟨h, by simpa using he⟩⟩

theorem play_owners (m : EffectMap) (fd : Int) (owner : Nat) (event : InputEvent) :
    (m.play fd owner event).1.owners = m.owners := by
  unfold play
  split
  · rfl
  · split
    · rfl
    · split
      · rfl
      · split <;> rfl

theorem playAll_owners (m : EffectMap) (fd : Int) (owner : Nat) (events : List InputEvent) :
    (m.playAll fd owner events).1.owners = m.owners := by
  induction events generalizing m with
  | nil => rfl
  | cons event events ih =>
    unfold playAll
    dsimp only
    split
    · rw [ih, play_owners]
    · exact play_owners ..

/-- A call on one descriptor leaves the others with the owners they have. -/
theorem step_owners (env : Env) (m : EffectMap) (c : Call) (o : Outcome) {fd fd' : Int}
    (hfd : c.fd = some fd) (hne : fd' ≠ fd) : (m.step env c o).1.owners fd' = m.owners fd' := by
  cases c with
  | ioctl fd req arg memory =>
    cases ho : m.owners fd with
    | none => simp only [step, ho]
    | some owner =>
      simp only [step, ho]
      split
      · dsimp only
        unfold upload
        split
        · rfl
        · split <;> rfl
      · split
        · dsimp only
          unfold remove
          split <;> rfl
        · rfl
  | read fd buffer length => rfl
  | write fd buffer content length =>
    cases ho : m.owners fd with
    | none => simp only [step, ho]
    | some owner =>
      simp only [step, ho]
      split
      · rfl
      · rw [playAll_owners]
  | close fd₀ =>
    cases hfd
    cases ho : m.owners fd with
    | none => simp only [step, ho]
    | some owner =>
      simp only [step, ho]
      exact Function.update_of_ne hne ..
  | _ => cases hfd

/-- **No call on one descriptor changes an effect of another.** -/
theorem step_keepsOthers (env : Env) (m : EffectMap) (c : Call) (o : Outcome) {fd : Int}
    (hfd : c.fd = some fd) (i : Fin maxEffects) (e : Effect) (he : m.owners fd ≠ some e.owner) :
    (m.step env c o).1.effects i = some e ↔ m.effects i = some e := by
  have hother : ∀ owner, m.owners fd = some owner → e.owner ≠ owner := fun owner ho heq =>
    he (ho.trans (congrArg some heq.symm))
  cases c with
  | ioctl fd' req arg memory =>
    cases hfd
    cases ho : m.owners fd with
    | none => simp only [step, ho]
    | some owner =>
      simp only [step, ho]
      split
      · exact upload_keepsOthers m owner _ i e (hother owner ho)
      · split
        · exact remove_keepsOthers m owner _ i e (hother owner ho)
        · exact Iff.rfl
  | read fd' buffer length => exact Iff.rfl
  | write fd' buffer content length =>
    cases hfd
    cases ho : m.owners fd with
    | none => simp only [step, ho]
    | some owner =>
      simp only [step, ho]
      split
      · exact Iff.rfl
      · rw [playAll_effects]
  | close fd' =>
    cases hfd
    cases ho : m.owners fd with
    | none => simp only [step, ho]
    | some owner =>
      simp only [step, ho]
      exact close_keepsOthers m fd owner i e (hother owner ho)
  | _ => cases hfd

end EffectMap

end TermuxGamepad
