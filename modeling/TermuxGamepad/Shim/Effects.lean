/-
  File:      TermuxGamepad/Shim/Effects.lean
  Subject:   The sixteen effect slots refine the map from ids to effects and owners.

  A slot knows its owner only as a descriptor number. `Refines` says that the number is open and
  which open it means; with that, every upload, removal, event and close of the shim is that of
  the map (`step_refines`), as long as an evdev node that is opened finds room in the table of
  descriptors.
-/
import TermuxGamepad.Bridge.State
import TermuxGamepad.Shim.EffectMap

namespace TermuxGamepad

open Wire

/-- The control commands of a log, without the queries that open a connection. -/
def controls (log : List Event) : List (Int × ControlMessage × Int) :=
  log.filterMap fun e =>
    match e with
    | .control fd m result => if m.command = controlQueryDescriptor then none else some (fd, m, result)
    | _ => none

theorem controls_append (log log' : List Event) :
    controls (log ++ log') = controls log ++ controls log' := List.filterMap_append

/-- Events other than control commands add none. -/
theorem controls_silent (log : List Event) {es : List Event} (h : ∀ e ∈ es, controls [e] = []) :
    controls (log ++ es) = controls log := by
  have hes : controls es = [] := by
    induction es with
    | nil => rfl
    | cons e es ih =>
      have hsplit : controls (e :: es) = controls [e] ++ controls es := controls_append [e] es
      rw [hsplit, h e List.mem_cons_self, ih fun e' he' => h e' (List.mem_cons_of_mem _ he'),
        List.nil_append]
  rw [controls_append, hes, List.append_nil]

theorem controls_opening {e : Event} (h : e.opening = true) : controls [e] = [] := by
  cases e with
  | control fd m result =>
    have hm : m = Shim.descriptorQuery := by simpa [Event.opening] using h
    rw [hm]
    rfl
  | real c o => cases h
  | nullCall => cases h
  | _ => rfl

/-! ## 1. Strengths -/

theorem scaledAbs_toNat (level : Int16) : (scaledAbs level.toInt).toNat = levelStrength level := by
  have hlow := level.le_toInt
  have hhigh := level.toInt_lt
  unfold scaledAbs levelStrength
  dsimp only
  rw [UInt16.toNat_ofNat']
  split <;> split <;> omega

theorem max_of_if (a b : UInt16) : (if b > a then b else a).toNat = max a.toNat b.toNat := by
  split
  · rename_i h
    have := UInt16.lt_iff_toNat_lt.mp h
    omega
  · rename_i h
    have := mt UInt16.lt_iff_toNat_lt.mpr h
    omega

theorem conditionStrength_toNat (condition : List UInt8) :
    (conditionStrength condition).toNat = conditionLevel condition := by
  unfold conditionStrength conditionLevel
  dsimp only
  rw [max_of_if, max_of_if, max_of_if, scaledAbs_toNat, scaledAbs_toNat, max_assoc]

/-- **Every family's magnitudes** are the strengths, without a wrap. -/
theorem magnitudes_eq (e : FfEffect) :
    e.magnitudes.1.toNat = e.strengths.1 ∧ e.magnitudes.2.toNat = e.strengths.2 := by
  unfold FfEffect.magnitudes FfEffect.strengths
  dsimp only
  split
  · exact ⟨scaledAbs_toNat _, scaledAbs_toNat _⟩
  split
  · exact ⟨scaledAbs_toNat _, scaledAbs_toNat _⟩
  split
  · have h := (max_of_if (scaledAbs (Codec.s16.dec (e.u.drop 2)).toInt)
      (scaledAbs (Codec.s16.dec e.u).toInt)).trans (max_comm _ _)
    rw [scaledAbs_toNat, scaledAbs_toNat] at h
    exact ⟨h, h⟩
  split
  · exact ⟨conditionStrength_toNat _, conditionStrength_toNat _⟩
  · exact ⟨rfl, rfl⟩

/-- The product of a magnitude and the gain fits 32 bits. -/
theorem scaledByGain_eq (s : Shim) (frequency : UInt16) :
    s.scaledByGain frequency = UInt16.ofNat (frequency.toNat * s.ffGain.toNat / 65535) := by
  have hf := frequency.toNat_lt
  have hg := s.ffGain.toNat_lt
  have hmul : frequency.toNat * s.ffGain.toNat ≤ 65535 * 65535 :=
    Nat.mul_le_mul (by omega) (by omega)
  unfold Shim.scaledByGain
  apply UInt16.toNat_inj.mp
  rw [UInt32.toNat_toUInt16, UInt32.toNat_div, UInt32.toNat_mul, UInt16.toNat_toUInt32,
    UInt16.toNat_toUInt32, UInt16.toNat_ofNat', Nat.mod_eq_of_lt (a := _ * _) (by omega)]
  rfl

/-! ## 2. The relation -/

/-- A descriptor's kind, by its number. -/
def FakeFd.node (fake : FakeFd) : Int × Bool := (fake.fd, fake.joydev)

namespace Shim

/-- What is under a descriptor: an evdev node (`false`), a joydev one (`true`), or none. -/
def nodeAt (s : Shim) (fd : Int) : Option Bool := (s.findFakeFd fd).map FakeFd.joydev

/-- The slot has the effect. -/
def Holds (m : EffectMap) (slot : EffectSlot) : Option Effect → Prop
  | none => slot.used = false
  | some e => slot.used = true ∧ m.owners slot.fd = some e.owner ∧
      slot.lowFrequency.toNat = e.low ∧ slot.highFrequency.toNat = e.high ∧
      slot.durationMs.toNat = e.durationMs

/-- **The slots are the map.** -/
structure Refines (s : Shim) (m : EffectMap) : Prop where
  gain : s.ffGain.toNat = m.gain
  sends : s.sends = m.sends
  messages : controls s.log = m.messages
  nodes : ∀ fd, (m.owners fd).isSome = true ↔ s.nodeAt fd = some false
  older : ∀ fd o, m.owners fd = some o → o < m.opens
  distinct : ∀ fd fd' o, m.owners fd = some o → m.owners fd' = some o → fd = fd'
  slots : ∀ i, Holds m (s.effectSlots i) (m.effects i)

variable {env : Env} {s t : Shim} {m : EffectMap}

theorem Holds.owner {slot : EffectSlot} {e : Effect} (h : Holds m slot (some e)) :
    m.owners slot.fd = some e.owner := h.2.1

/-- An effect is in one slot only. -/
theorem Holds.unique {slot slot' : EffectSlot} {e : Effect}
    (hdistinct : ∀ fd fd' o, m.owners fd = some o → m.owners fd' = some o → fd = fd')
    (h : Holds m slot (some e)) (h' : Holds m slot' (some e)) : slot = slot' := by
  obtain ⟨hused, hown, hlow, hhigh, hduration⟩ := h
  obtain ⟨hused', hown', hlow', hhigh', hduration'⟩ := h'
  cases slot
  cases slot'
  simp only [EffectSlot.mk.injEq]
  exact ⟨hused.trans hused'.symm, hdistinct _ _ _ hown hown',
    UInt16.toNat_inj.mp (hlow.trans hlow'.symm), UInt16.toNat_inj.mp (hhigh.trans hhigh'.symm),
    UInt16.toNat_inj.mp (hduration.trans hduration'.symm)⟩

/-- A slot in use holds an effect. -/
theorem Refines.holding (h : Refines s m) {i : Fin maxEffects}
    (hused : (s.effectSlots i).used = true) :
    ∃ e, m.effects i = some e ∧ Holds m (s.effectSlots i) (some e) := by
  have hi := h.slots i
  cases he : m.effects i with
  | none =>
    rw [he] at hi
    exact absurd (hused.symm.trans hi) Bool.noConfusion
  | some e =>
    rw [he] at hi
    exact ⟨e, rfl, hi⟩

/-- Nothing the map is about has changed. -/
structure Idle (s t : Shim) : Prop where
  slots : t.effectSlots = s.effectSlots
  gain : t.ffGain = s.ffGain
  sends : t.sends = s.sends
  messages : controls t.log = controls s.log
  nodes : t.fakeFds.map FakeFd.node = s.fakeFds.map FakeFd.node

theorem Idle.refl (s : Shim) : Idle s s := ⟨rfl, rfl, rfl, rfl, rfl⟩

theorem Idle.trans {u : Shim} (h : Idle s t) (h' : Idle t u) : Idle s u :=
  ⟨h'.slots.trans h.slots, h'.gain.trans h.gain, h'.sends.trans h.sends,
    h'.messages.trans h.messages, h'.nodes.trans h.nodes⟩

theorem nodeAt_of_nodes (h : t.fakeFds.map FakeFd.node = s.fakeFds.map FakeFd.node) (fd : Int) :
    t.nodeAt fd = s.nodeAt fd := by
  have hfind : ∀ u : Shim, u.nodeAt fd =
      ((u.fakeFds.map FakeFd.node).find? fun n => decide (n.1 = fd)).map Prod.snd := by
    intro u
    rw [List.find?_map, Option.map_map]
    rfl
  rw [hfind, hfind, h]

theorem Refines.idle (h : Refines s m) (hi : Idle s t) : Refines t m where
  gain := hi.gain ▸ h.gain
  sends := hi.sends ▸ h.sends
  messages := hi.messages.trans h.messages
  nodes fd := by rw [nodeAt_of_nodes hi.nodes]; exact h.nodes fd
  older := h.older
  distinct := h.distinct
  slots i := by rw [hi.slots]; exact h.slots i

/-! ## 3. What does not touch the effects -/

theorem init_idle (s : Shim) : Idle s (s.init env) := by
  unfold init
  split
  · exact Idle.refl s
  · exact ⟨rfl, rfl, rfl, rfl, rfl⟩

theorem emit_idle (s : Shim) {e : Event} (he : controls [e] = []) : Idle s (s.emit e) :=
  ⟨rfl, rfl, rfl, controls_silent s.log (by simpa using he), rfl⟩

theorem callReal_idle (s : Shim) (c : RealCall) : Idle s (s.callReal c).1 :=
  ⟨rfl, rfl, rfl, @controls_silent s.log [.real c (s.reals.headD Outcome.failed)] (by
    intro e he
    rw [List.mem_singleton.mp he]
    rfl), rfl⟩

theorem debugOpenPath_idle (s : Shim) (path : Path) : Idle s (s.debugOpenPath env path) := by
  unfold debugOpenPath
  split
  · split
    · exact (callReal_idle ..).trans ((callReal_idle ..).trans (callReal_idle ..))
    · exact Idle.refl s
  · exact Idle.refl s

theorem callOpen_idle (s : Shim) (fn : Option RealFn) (path : Path) (flags mode : UInt32) :
    Idle s (s.callOpen fn path flags mode).1 := by
  cases fn with
  | none => exact emit_idle s rfl
  | some fn => exact callReal_idle ..

theorem readReal_idle (s : Shim) (fd : Int) (buffer : UInt64) (length : Nat) :
    Idle s (s.readReal fd buffer length).1 := by
  unfold readReal
  split
  · exact callReal_idle ..
  · exact Idle.refl s

theorem joyLoop_silent (capacity : Nat) (reals : List Outcome) (fake : FakeFd)
    (produced : List JsEvent) : ∀ e ∈ (joyLoop capacity reals fake produced).log, controls [e] = [] := by
  induction reals generalizing fake produced with
  | nil =>
    unfold joyLoop
    split
    · exact fun _ h => by cases h
    · intro e he
      rw [List.mem_singleton.mp he]
      rfl
  | cons o reals ih =>
    unfold joyLoop
    split
    · exact fun _ h => by cases h
    · dsimp only
      split
      · intro e he
        rw [List.mem_singleton.mp he]
        rfl
      · exact List.forall_mem_cons.mpr ⟨rfl, ih _ _⟩

theorem readJoydev_idle {fd : Int} {fake : FakeFd} (h : s.findFakeFd fd = some fake)
    (buffer : UInt64) (length : Nat) : Idle s (s.readJoydev fake buffer length).1 := by
  unfold readJoydev
  split
  · exact Idle.refl s
  · split
    · exact Idle.refl s
    · obtain ⟨hfd, hjoy⟩ := joyLoop_fd (length / jsEventCodec.size) s.reals fake []
      refine ⟨rfl, rfl, rfl, controls_silent s.log (joyLoop_silent _ _ _ _), ?_⟩
      refine Table.map_update FakeFd.node fun old hold => ?_
      have hkey : fake.fd = fd := (Table.lookup_mem h).2
      rw [hfd, hkey] at hold
      obtain rfl := Option.some.inj (hold.symm.trans h)
      exact Prod.ext hfd hjoy

theorem attempted_idle (h : Attempted s t) : Idle s t := by
  obtain ⟨es, hes, hall⟩ := h.log
  have hlog : controls t.log = controls s.log := by
    rw [hes]
    exact controls_silent _ fun e he => controls_opening (hall e he)
  rw [h.same]
  exact ⟨rfl, rfl, rfl, hlog, rfl⟩

/-! ## 4. Operations on the effects -/

theorem Refines.used (h : Refines s m) (i : Fin maxEffects) :
    (s.effectSlots i).used = (m.effects i).isSome := by
  have hi := h.slots i
  cases he : m.effects i with
  | none =>
    rw [he] at hi
    exact hi
  | some e =>
    rw [he] at hi
    exact hi.1

/-- The slot's descriptor is the owner's exactly if the effect is. -/
theorem Refines.mine (h : Refines s m) {fd : Int} {owner : Nat} (ho : m.owners fd = some owner)
    {i : Fin maxEffects} {e : Effect} (he : m.effects i = some e) :
    (s.effectSlots i).fd = fd ↔ e.owner = owner := by
  have hi := h.slots i
  rw [he] at hi
  obtain ⟨-, hown, -⟩ := hi
  constructor
  · intro hfd
    rw [hfd, ho] at hown
    exact (Option.some.inj hown).symm
  · intro hown'
    exact h.distinct _ _ owner (hown.trans (congrArg some hown')) ho

theorem uploadSlot_eq (h : Refines s m) {fd : Int} {owner : Nat} (ho : m.owners fd = some owner)
    (id : Int) : s.uploadSlot fd id = m.place owner id := by
  unfold uploadSlot EffectMap.place
  split
  · have hfree : ∀ i, (!(s.effectSlots i).used) = (m.effects i).isNone := fun i => by
      rw [h.used i, Option.not_isSome]
    simp only [hfree]
  · split
    · rename_i hid
      have hmine : ((s.effectSlots ⟨id.toNat, by omega⟩).used = true ∧
          (s.effectSlots ⟨id.toNat, by omega⟩).fd ≠ fd) ↔
          ¬(m.effects ⟨id.toNat, by omega⟩).all (fun e => e.owner = owner) = true := by
        rw [h.used]
        cases he : m.effects ⟨id.toNat, by omega⟩ with
        | none => simp
        | some e => simp [h.mine ho he]
      dsimp only
      by_cases hall : (m.effects ⟨id.toNat, by omega⟩).all (fun e => e.owner = owner) = true
      · rw [if_neg (fun hc => hmine.mp hc hall), if_pos hall]
      · rw [if_pos (hmine.mpr hall), if_neg hall]
    · rfl

theorem findEffect_eq (h : Refines s m) {fd : Int} {owner : Nat} (ho : m.owners fd = some owner)
    (id : Int) : s.findEffect fd id = (m.owned owner id).map Prod.fst := by
  unfold findEffect EffectMap.owned EffectMap.effect
  split
  · rename_i hid
    dsimp only
    rw [h.used]
    cases he : m.effects ⟨id.toNat, by omega⟩ with
    | none => rfl
    | some e =>
      by_cases hown : e.owner = owner
      · simp [hown, (h.mine ho he).mpr hown, Option.filter]
      · have hne : (s.effectSlots ⟨id.toNat, by omega⟩).fd ≠ fd := fun hc => hown ((h.mine ho he).mp hc)
        simp [hown, hne, Option.filter]
  · rfl

/-- One slot is written, and the map with it. -/
theorem Refines.set (h : Refines s m) (i : Fin maxEffects) {slot : EffectSlot} {x : Option Effect}
    (hx : Holds m slot x) : Refines (s.setEffect i slot) (m.setEffect i x) where
  gain := h.gain
  sends := h.sends
  messages := h.messages
  nodes := h.nodes
  older := h.older
  distinct := h.distinct
  slots j := by
    have hj := h.slots j
    show Holds m (Function.update s.effectSlots i slot j) (Function.update m.effects i x j)
    by_cases hij : j = i
    · subst hij
      rw [Function.update_self, Function.update_self]
      exact hx
    · rw [Function.update_of_ne hij, Function.update_of_ne hij]
      exact hj

/-- **An upload.** -/
theorem upload_refines (h : Refines s m) {fd : Int} {owner : Nat} (ho : m.owners fd = some owner)
    (memory : List UInt8) :
    Refines (s.uploadEffect fd memory).1 (m.upload owner (FfEffect.ofMemory memory)).1 ∧
      (s.uploadEffect fd memory).2 =
        match (m.upload owner (FfEffect.ofMemory memory)).2 with
        | none => Outcome.failed
        | some i => { result := 0, stored := memory.take 2 ++ Codec.s16.enc (Int16.ofInt i) } := by
  unfold uploadEffect EffectMap.upload
  dsimp only
  generalize FfEffect.ofMemory memory = e
  by_cases hsup : e.supported = true
  · have hfam : e.type ∈ [ffRumble, ffConstant, ffPeriodic, ffRamp] ∨ isConditionEffect e.type = true := by
      simpa [FfEffect.supported] using hsup
    rw [if_neg (not_not.mpr hfam), hsup, uploadSlot_eq h ho]
    cases m.place owner e.id.toInt with
    | none => exact ⟨h, rfl⟩
    | some i => exact ⟨h.set i ⟨rfl, ho, (magnitudes_eq e).1, (magnitudes_eq e).2, rfl⟩, rfl⟩
  · have hfam : ¬(e.type ∈ [ffRumble, ffConstant, ffPeriodic, ffRamp] ∨ isConditionEffect e.type = true) := by
      simpa [FfEffect.supported] using hsup
    rw [if_pos hfam, Bool.eq_false_iff.mpr hsup]
    exact ⟨h, rfl⟩

/-- **A removal.** -/
theorem remove_refines (h : Refines s m) {fd : Int} {owner : Nat} (ho : m.owners fd = some owner)
    (id : Int) :
    Refines (s.removeEffect fd id).1 (m.remove owner id).1 ∧
      (s.removeEffect fd id).2 =
        if (m.remove owner id).2 then { result := 0, stored := [] } else Outcome.failed := by
  unfold removeEffect EffectMap.remove
  rw [findEffect_eq h ho]
  cases m.owned owner id with
  | none => exact ⟨h, rfl⟩
  | some p => exact ⟨h.set p.1 rfl, rfl⟩

/-- A command goes out. -/
theorem send_refines (h : Refines s m) (fd : Int) (message : ControlMessage)
    (hcmd : message.command ≠ controlQueryDescriptor) (hmagic : message.magic = controlMagic)
    (hversion : message.version = controlVersion) :
    Refines (s.sendControl fd message.command message.lowFrequency message.highFrequency
        message.durationMs).1 (m.send fd message).1 ∧
      (s.sendControl fd message.command message.lowFrequency message.highFrequency
        message.durationMs).2 = (m.send fd message).2 := by
  obtain ⟨magic, version, command, low, high, durationMs⟩ := message
  obtain rfl : magic = controlMagic := hmagic
  obtain rfl : version = controlVersion := hversion
  have hmsg : controls (s.sendControl fd command low high durationMs).1.log =
      (m.send fd ⟨controlMagic, controlVersion, command, low, high, durationMs⟩).1.messages := by
    show controls (s.log ++ [_]) = m.messages ++ [(fd, _, m.sends.headD (-1))]
    rw [controls_append, h.messages, ← h.sends]
    congr 1
    exact List.filterMap_cons_some (if_neg hcmd)
  refine ⟨⟨h.gain, congrArg List.tail h.sends, hmsg, h.nodes, h.older, h.distinct, h.slots⟩, ?_⟩
  show (s.sends.headD (-1) == _) = (m.sends.headD (-1) == _)
  rw [h.sends]

theorem stop_refines (h : Refines s m) (fd : Int) :
    Refines (s.sendControl fd controlStopRumble 0 0 0).1 (m.send fd EffectMap.stopMessage).1 ∧
      (s.sendControl fd controlStopRumble 0 0 0).2 = (m.send fd EffectMap.stopMessage).2 :=
  send_refines h fd EffectMap.stopMessage (by decide) rfl rfl

/-- **An event a program writes.** -/
theorem writeEvent_refines (h : Refines s m) {fd : Int} {owner : Nat}
    (ho : m.owners fd = some owner) (event : InputEvent) :
    Refines (s.writeEvent fd event).1 (m.play fd owner event).1 ∧
      (s.writeEvent fd event).2 = (m.play fd owner event).2 := by
  unfold writeEvent EffectMap.play
  split
  · exact ⟨h, rfl⟩
  split
  · refine ⟨⟨?_, h.sends, h.messages, h.nodes, h.older, h.distinct, h.slots⟩, rfl⟩
    dsimp only
    rw [UInt16.toNat_ofNat']
    split
    · omega
    · split <;> omega
  rw [findEffect_eq h ho]
  cases hp : m.owned owner event.code.toNat with
  | none => exact ⟨h, rfl⟩
  | some p =>
    dsimp only [Option.map_some]
    split
    · exact stop_refines h fd
    · have hi := h.slots p.1
      rw [(EffectMap.owned_some hp).1] at hi
      obtain ⟨-, -, hlow, hhigh, hdur⟩ := hi
      have hmsg := send_refines h fd (m.rumbleMessage p.2)
        (show controlRumble ≠ controlQueryDescriptor by decide) rfl rfl
      have hl : s.scaledByGain (s.effectSlots p.1).lowFrequency = (m.rumbleMessage p.2).lowFrequency := by
        rw [scaledByGain_eq, hlow, h.gain]
        rfl
      have hh : s.scaledByGain (s.effectSlots p.1).highFrequency = (m.rumbleMessage p.2).highFrequency := by
        rw [scaledByGain_eq, hhigh, h.gain]
        rfl
      have hd : (if (s.effectSlots p.1).durationMs = 0 then 2500
          else (s.effectSlots p.1).durationMs.toUInt32) = (m.rumbleMessage p.2).durationMs := by
        show _ = UInt32.ofNat (if p.2.durationMs = 0 then 2500 else p.2.durationMs)
        have hzero : (s.effectSlots p.1).durationMs = 0 ↔ p.2.durationMs = 0 := by
          rw [← hdur, ← UInt16.toNat_inj]
          rfl
        by_cases h0 : p.2.durationMs = 0
        · rw [if_pos (hzero.mpr h0), if_pos h0]
          rfl
        · rw [if_neg (fun hc => h0 (hzero.mp hc)), if_neg h0, ← hdur]
          apply UInt32.toNat_inj.mp
          have := (s.effectSlots p.1).durationMs.toNat_lt
          rw [UInt16.toNat_toUInt32, UInt32.toNat_ofNat', Nat.mod_eq_of_lt (by omega)]
      rw [hl, hh, hd]
      exact hmsg

theorem play_owners (m : EffectMap) (fd : Int) (owner : Nat) (event : InputEvent) :
    (m.play fd owner event).1.owners = m.owners := by
  unfold EffectMap.play
  split
  · rfl
  · split
    · rfl
    · split
      · rfl
      · split <;> rfl

/-- **The events of a write**, in order. -/
theorem writeEvents_refines {fd : Int} {owner : Nat} (events : List InputEvent) {s : Shim}
    {m : EffectMap} (h : Refines s m) (ho : m.owners fd = some owner) :
    Refines (s.writeEvents fd events).1 (m.playAll fd owner events).1 ∧
      (s.writeEvents fd events).2 = (m.playAll fd owner events).2 := by
  induction events generalizing s m with
  | nil => exact ⟨h, rfl⟩
  | cons event events ih =>
    obtain ⟨hone, hok⟩ := writeEvent_refines h ho event
    unfold writeEvents EffectMap.playAll
    dsimp only
    rw [hok]
    split
    · exact ih hone (by rw [play_owners]; exact ho)
    · exact ⟨hone, hok⟩

/-! ## 5. Descriptors come and go -/

theorem nodeAt_of_fresh {fd : Int} (h : s.findFakeFd fd = none) : s.nodeAt fd = none := by
  rw [nodeAt, h]
  rfl

theorem Refines.unowned (h : Refines s m) {fd : Int} (hfresh : s.findFakeFd fd = none) :
    m.owners fd = none := by
  rw [← Option.not_isSome_iff_eq_none, h.nodes, nodeAt_of_fresh hfresh]
  exact Option.some_ne_none _ ∘ Eq.symm

theorem nodeAt_delFakeFd (hd : s.fds.Nodup) (fd fd' : Int) :
    (s.delFakeFd fd).nodeAt fd' = if fd' = fd then none else s.nodeAt fd' := by
  have hdist : Table.Distinct FakeFd.fd s.fakeFds := hd
  unfold nodeAt findFakeFd delFakeFd
  dsimp only
  rw [Table.lookup_remove hdist]
  split <;> rfl

/-- A descriptor that has no effects goes. -/
theorem Refines.forget (h : Refines s m) (hd : s.fds.Nodup) {fd : Int} (ho : m.owners fd = none) :
    Refines (s.delFakeFd fd) m where
  gain := h.gain
  sends := h.sends
  messages := h.messages
  nodes fd' := by
    rw [nodeAt_delFakeFd hd]
    by_cases hfd : fd' = fd
    · rw [if_pos hfd, hfd, ho]
      simp
    · rw [if_neg hfd]
      exact h.nodes fd'
  older := h.older
  distinct := h.distinct
  slots := h.slots

/-- The effects of a descriptor go, and the descriptor with them. -/
theorem Refines.release (h : Refines s m) (hd : s.fds.Nodup) {fd : Int} {owner : Nat}
    (ho : m.owners fd = some owner) :
    Refines ((s.clearEffects fd).delFakeFd fd)
      { m with
        owners := Function.update m.owners fd none
        effects := fun i => (m.effects i).filter fun e => e.owner ≠ owner } where
  gain := h.gain
  sends := h.sends
  messages := h.messages
  nodes fd' := by
    rw [nodeAt_delFakeFd (s := s.clearEffects fd) hd]
    show (Function.update m.owners fd none fd').isSome = true ↔ _
    by_cases hfd : fd' = fd
    · rw [if_pos hfd, hfd, Function.update_self]
      simp
    · rw [if_neg hfd, Function.update_of_ne hfd]
      exact h.nodes fd'
  older fd' o ho' := by
    dsimp only at ho'
    by_cases hfd : fd' = fd
    · rw [hfd, Function.update_self] at ho'
      cases ho'
    · rw [Function.update_of_ne hfd] at ho'
      exact h.older fd' o ho'
  distinct fd' fd'' o ho' ho'' := by
    dsimp only at ho' ho''
    by_cases hfd : fd' = fd
    · rw [hfd, Function.update_self] at ho'
      cases ho'
    · by_cases hfd' : fd'' = fd
      · rw [hfd', Function.update_self] at ho''
        cases ho''
      · rw [Function.update_of_ne hfd] at ho'
        rw [Function.update_of_ne hfd'] at ho''
        exact h.distinct fd' fd'' o ho' ho''
  slots i := by
    have hi := h.slots i
    show Holds _ (if (s.effectSlots i).used ∧ (s.effectSlots i).fd = fd then
        { s.effectSlots i with used := false } else s.effectSlots i)
      ((m.effects i).filter fun e => e.owner ≠ owner)
    cases he : m.effects i with
    | none =>
      rw [he] at hi
      have hfree : (s.effectSlots i).used = false := hi
      rw [if_neg (by simp [hfree])]
      exact hfree
    | some e =>
      rw [he] at hi
      obtain ⟨hused, hown, hrest⟩ := hi
      by_cases hmine : e.owner = owner
      · rw [if_pos ⟨hused, (h.mine ho he).mpr hmine⟩]
        have hgone : (some e).filter (fun e => decide (e.owner ≠ owner)) = none := by
          simp [Option.filter, hmine]
        rw [hgone]
        rfl
      · have hne : (s.effectSlots i).fd ≠ fd := fun hc => hmine ((h.mine ho he).mp hc)
        have hkept : (some e).filter (fun e => decide (e.owner ≠ owner)) = some e := by
          simp [Option.filter, hmine]
        rw [if_neg (fun hc => hne hc.2), hkept]
        refine ⟨hused, ?_, hrest⟩
        show Function.update m.owners fd none (s.effectSlots i).fd = _
        rw [Function.update_of_ne hne]
        exact hown

/-- **A close.** -/
theorem close_refines (h : Refines s m) (hd : s.fds.Nodup) (fd : Int) :
    Refines (s.close env fd).1
      (match m.owners fd with
        | none => m
        | some owner => m.close fd owner) := by
  have hinit := h.idle (@init_idle env s)
  have hdinit : (s.init env).fds.Nodup := by
    rw [init_keeps_fds]
    exact hd
  have hreal : ∀ {t : Shim} {m' : EffectMap}, Refines t m' →
      Refines (if t.resolved .close then t.callReal (.close fd) else (t, Outcome.failed)).1 m' := by
    intro t m' ht
    split
    · exact ht.idle (callReal_idle ..)
    · exact ht
  refine hreal ?_
  have hnode := hinit.nodes fd
  unfold releaseEffects nodeAt at *
  cases ho : m.owners fd with
  | none =>
    rw [ho] at hnode
    cases hfind : (s.init env).findFakeFd fd with
    | none => exact hinit.forget hdinit ho
    | some fake =>
      have hjoy : fake.joydev = true := by simpa [hfind] using hnode
      dsimp only
      rw [if_pos hjoy]
      exact hinit.forget hdinit ho
  | some owner =>
    rw [ho] at hnode
    obtain ⟨fake, hfind, hjoy⟩ := Option.map_eq_some_iff.mp (hnode.mp rfl)
    rw [hfind]
    dsimp only
    rw [if_neg (by simp [hjoy])]
    exact (stop_refines hinit fd).1.release hdinit ho

/-- A descriptor in the table is no effect. -/
theorem addFakeFd_same (s : Shim) (fd : Int) (joydev : Bool) (d : DeviceDescriptor) :
    (s.addFakeFd fd joydev d).ffGain = s.ffGain ∧ (s.addFakeFd fd joydev d).sends = s.sends ∧
      (s.addFakeFd fd joydev d).log = s.log ∧
      (s.addFakeFd fd joydev d).effectSlots = s.effectSlots := by
  unfold addFakeFd
  split <;> exact ⟨rfl, rfl, rfl, rfl⟩

theorem nodeAt_addFakeFd {fd : Int} (hfresh : s.findFakeFd fd = none) (hfd : 0 ≤ fd)
    (hroom : s.fakeFds.length < maxFakeFds) (joydev : Bool) (d : DeviceDescriptor) (fd' : Int) :
    (s.addFakeFd fd joydev d).nodeAt fd' = if fd' = fd then some joydev else s.nodeAt fd' := by
  have hnot : ¬(fd < 0 ∨ (s.findFakeFd fd).isSome = true ∨ s.fakeFds.length ≥ maxFakeFds) := by
    rw [hfresh]
    simp only [Option.isSome_none, Bool.false_eq_true, false_or, not_or]
    omega
  unfold addFakeFd nodeAt
  rw [if_neg hnot]
  unfold findFakeFd at *
  dsimp only
  rw [Table.lookup_append]
  by_cases hc : fd' = fd
  · rw [if_pos hc, if_pos hc.symm, hc, hfresh]
    rfl
  · rw [if_neg hc, if_neg (fun e => hc e.symm), Option.or_none]

/-- **An evdev node is opened**, and the table has room. -/
theorem Refines.open_ (h : Refines s m) {fd : Int} (hfresh : s.findFakeFd fd = none) (hfd : 0 ≤ fd)
    (hroom : s.fakeFds.length < maxFakeFds) (d : DeviceDescriptor) :
    Refines (s.addFakeFd fd false d) (m.open_ fd) := by
  have hnone := h.unowned hfresh
  obtain ⟨hgain, hsends, hlog, hslots⟩ := addFakeFd_same s fd false d
  refine ⟨hgain ▸ h.gain, hsends ▸ h.sends, hlog ▸ h.messages, fun fd' => ?_, fun fd' o ho => ?_,
    fun fd' fd'' o ho' ho'' => ?_, fun i => ?_⟩
  · rw [nodeAt_addFakeFd hfresh hfd hroom]
    show (Function.update m.owners fd (some m.opens) fd').isSome = true ↔ _
    by_cases hc : fd' = fd
    · rw [if_pos hc, hc, Function.update_self]
      simp
    · rw [if_neg hc, Function.update_of_ne hc]
      exact h.nodes fd'
  · show o < m.opens + 1
    by_cases hc : fd' = fd
    · have ho : Function.update m.owners fd (some m.opens) fd' = some o := ho
      rw [hc, Function.update_self] at ho
      cases ho
      exact Nat.lt_succ_self _
    · have ho : Function.update m.owners fd (some m.opens) fd' = some o := ho
      rw [Function.update_of_ne hc] at ho
      exact Nat.lt_succ_of_lt (h.older fd' o ho)
  · have ho' : Function.update m.owners fd (some m.opens) fd' = some o := ho'
    have ho'' : Function.update m.owners fd (some m.opens) fd'' = some o := ho''
    -- the new open has a number of its own
    by_cases hc : fd' = fd
    · by_cases hc' : fd'' = fd
      · rw [hc, hc']
      · rw [hc, Function.update_self] at ho'
        rw [Function.update_of_ne hc'] at ho''
        have := h.older fd'' o ho''
        cases ho'
        exact absurd this (Nat.lt_irrefl _)
    · rw [Function.update_of_ne hc] at ho'
      by_cases hc' : fd'' = fd
      · rw [hc', Function.update_self] at ho''
        have := h.older fd' o ho'
        cases ho''
        exact absurd this (Nat.lt_irrefl _)
      · rw [Function.update_of_ne hc'] at ho''
        exact h.distinct fd' fd'' o ho' ho''
  · have hi := h.slots i
    rw [hslots]
    show Holds _ (s.effectSlots i) (m.effects i)
    cases he : m.effects i with
    | none =>
      rw [he] at hi
      exact hi
    | some e =>
      rw [he] at hi
      obtain ⟨hused, hown, hrest⟩ := hi
      refine ⟨hused, ?_, hrest⟩
      show Function.update m.owners fd (some m.opens) (s.effectSlots i).fd = _
      rw [Function.update_of_ne (fun e => by rw [e, hnone] at hown; cases hown)]
      exact hown

/-- A joydev node is opened: it has no effects, whether the table has room or not. -/
theorem Refines.openJoydev (h : Refines s m) {fd : Int} (hfresh : s.findFakeFd fd = none)
    (d : DeviceDescriptor) : Refines (s.addFakeFd fd true d) m := by
  by_cases hfull : fd < 0 ∨ s.fakeFds.length ≥ maxFakeFds
  · have hsame : s.addFakeFd fd true d = s := if_pos (by tauto)
    rw [hsame]
    exact h
  · obtain ⟨hgain, hsends, hlog, hslots⟩ := addFakeFd_same s fd true d
    refine ⟨hgain ▸ h.gain, hsends ▸ h.sends, hlog ▸ h.messages, fun fd' => ?_, h.older, h.distinct,
      hslots ▸ h.slots⟩
    rw [nodeAt_addFakeFd hfresh (by omega) (by omega)]
    by_cases hc : fd' = fd
    · rw [if_pos hc, hc, h.unowned hfresh]
      simp
    · rw [if_neg hc]
      exact h.nodes fd'

/-- **Opening a virtual node**, under a number that is not in use. -/
theorem connectDevice_refines (h : Refines s m) (hd : s.fds.Nodup)
    (hfresh : s.findFakeFd s.nextSocket = none) (flags : UInt32) (joydev : Bool)
    (hroom : joydev = false → 0 ≤ (s.connectDevice env flags joydev).2.result →
      s.fakeFds.length < maxFakeFds) :
    Refines (s.connectDevice env flags joydev).1
      (if joydev = false ∧ 0 ≤ (s.connectDevice env flags joydev).2.result then
        m.open_ (s.connectDevice env flags joydev).2.result else m) := by
  have hfailed : ¬(joydev = false ∧ 0 ≤ Outcome.failed.result) := by
    rintro ⟨-, h⟩
    exact absurd h (by decide)
  have htable : ∀ t, Attempted s t → t.findFakeFd s.nextSocket = none ∧
      t.fakeFds.length = s.fakeFds.length ∧ t.fds = s.fds := by
    intro t ht
    rw [ht.same]
    exact ⟨hfresh, rfl, rfl⟩
  rcases @connectDevice_attempt env s flags joydev with ⟨t, ht, e⟩ | ⟨t, ht, e⟩ | ⟨t, d, ht, hfd, e⟩
  · rw [e, if_neg hfailed]
    exact h.idle (attempted_idle ht)
  · obtain ⟨hnone, -, hfds⟩ := htable t ht
    have hm := h.idle (attempted_idle ht)
    have hclosed := @close_refines env t m hm (hfds ▸ hd) s.nextSocket
    rw [hm.unowned hnone] at hclosed
    rw [e, if_neg hfailed]
    exact hclosed
  · obtain ⟨hnone, hlen, -⟩ := htable t ht
    have hm := h.idle (attempted_idle ht)
    rw [e] at hroom ⊢
    cases joydev with
    | true =>
      rw [if_neg (by simp)]
      exact hm.openJoydev hnone d
    | false =>
      rw [if_pos ⟨rfl, hfd⟩]
      exact hm.open_ hnone hfd (hlen ▸ hroom rfl hfd) d

/-! ## 6. One call -/

theorem Idle.fds (h : Idle s t) : t.fds = s.fds := by
  have hfst : ∀ u : Shim, u.fds = (u.fakeFds.map FakeFd.node).map Prod.fst := by
    intro u
    rw [List.map_map]
    rfl
  rw [hfst, hfst, h.nodes]

theorem Idle.length (h : Idle s t) : t.fakeFds.length = s.fakeFds.length := by
  rw [← List.length_map (f := FakeFd.node), h.nodes, List.length_map]

theorem Idle.fresh (h : Idle s t) {fd : Int} (hfd : s.findFakeFd fd = none) :
    t.findFakeFd fd = none := by
  have hnode : t.nodeAt fd = none := (nodeAt_of_nodes h.nodes fd).trans (nodeAt_of_fresh hfd)
  exact Option.map_eq_none_iff.mp hnode

/-- What an open does to the map. -/
def opened (m : EffectMap) (node : Option Bool) (o : Outcome) : EffectMap :=
  match node with
  | some false => if 0 ≤ o.result then m.open_ o.result else m
  | _ => m

/-- `tg_open_common` connects a virtual node, or leaves the effects alone. -/
theorem openCommon_effects (s : Shim) (path : Path) (flags mode : UInt32)
    (fallback : Option RealFn) :
    (Idle s (s.openCommon env path flags mode fallback).1 ∧
      (if env.backendEnabled then virtualNode path else none) = none) ∨
    ∃ t joydev, Idle s t ∧ t.connects = s.connects ∧
      (if env.backendEnabled then virtualNode path else none) = some joydev ∧
      s.openCommon env path flags mode fallback = t.connectDevice env flags joydev := by
  have hinit := @init_idle env s
  have hconn : (s.init env).connects = s.connects := by
    unfold init
    split <;> rfl
  unfold openCommon
  dsimp only
  cases hon : env.backendEnabled with
  | false => exact Or.inl ⟨hinit.trans (callOpen_idle ..), rfl⟩
  | true =>
    have hd := hinit.trans (@debugOpenPath_idle env (s.init env) path)
    have hdconn : ((s.init env).debugOpenPath env path).connects = s.connects := by
      rw [← hconn]
      unfold debugOpenPath
      split
      · split <;> rfl
      · rfl
    cases hv : virtualNode path with
    | some joydev => exact Or.inr ⟨_, joydev, hd, hdconn, rfl, rfl⟩
    | none =>
      refine Or.inl ⟨?_, rfl⟩
      simp only [Bool.not_true, Bool.false_eq_true, if_false]
      split
      · exact hd
      · exact hd.trans (callOpen_idle ..)

/-- The node is connected, or it is none and the effects are left alone. -/
def Opens (env : Env) (s : Shim) (flags : UInt32) (node : Option Bool) (r : Shim × Outcome) : Prop :=
  (Idle s r.1 ∧ node = none) ∨
    ∃ t joydev, Idle s t ∧ t.connects = s.connects ∧ node = some joydev ∧
      r = t.connectDevice env flags joydev

theorem Opens.refines {flags : UInt32} {node : Option Bool} {r : Shim × Outcome}
    (ho : Opens env s flags node r) (h : Refines s m) (hd : s.fds.Nodup)
    (hfresh : node ≠ none → s.findFakeFd s.nextSocket = none)
    (hroom : node = some false → 0 ≤ r.2.result → s.fakeFds.length < maxFakeFds) :
    Refines r.1 (opened m node r.2) := by
  rcases ho with ⟨hidle, rfl⟩ | ⟨t, joydev, hidle, hconn, rfl, rfl⟩
  · exact h.idle hidle
  · have hsock : t.nextSocket = s.nextSocket := by rw [nextSocket, hconn, nextSocket]
    have ht := @connectDevice_refines env t m (h.idle hidle) (hidle.fds ▸ hd)
      (hsock ▸ hidle.fresh (hfresh (Option.some_ne_none _))) flags joydev (fun hj hr => by
        rw [hidle.length]
        exact hroom (congrArg some hj) hr)
    cases joydev with
    | true => simpa [opened] using ht
    | false => simpa [opened] using ht

theorem Opens.init {flags : UInt32} {node : Option Bool} {r : Shim × Outcome}
    (h : Opens env (s.init env) flags node r) : Opens env s flags node r := by
  have hinit := @init_idle env s
  have hconn : (s.init env).connects = s.connects := by
    unfold Shim.init
    split <;> rfl
  rcases h with ⟨hidle, hn⟩ | ⟨t, joydev, hidle, ht, hn, hr⟩
  · exact Or.inl ⟨hinit.trans hidle, hn⟩
  · exact Or.inr ⟨t, joydev, hinit.trans hidle, ht.trans hconn, hn, hr⟩

/-- The calls that are no ioctl, no write and no close. -/
theorem call_opens (s : Shim) (c : Call) (hi : ∀ fd req arg memory, c ≠ .ioctl fd req arg memory)
    (hw : ∀ fd buffer content length, c ≠ .write fd buffer content length)
    (hc : ∀ fd, c ≠ .close fd) :
    ∃ flags, Opens env s flags (c.opens env) (s.call env c) := by
  cases c with
  | open_ path flags mode => exact ⟨flags, openCommon_effects s path flags mode _⟩
  | open64 path flags mode =>
    exact ⟨flags, Opens.init (openCommon_effects (s.init env) path flags mode _)⟩
  | open2 path flags =>
    exact ⟨flags, Opens.init (openCommon_effects (s.init env) path flags 0 _)⟩
  | openat dirfd path flags mode =>
    refine ⟨flags, Opens.init ?_⟩
    show Opens env (s.init env) flags (virtualNode path) (s.openat env dirfd path flags mode)
    unfold openat
    dsimp only
    cases virtualNode path with
    | some joydev => exact Or.inr ⟨_, joydev, Idle.refl _, rfl, rfl, rfl⟩
    | none =>
      refine Or.inl ⟨?_, rfl⟩
      dsimp only
      split
      · exact callReal_idle ..
      · exact Idle.refl _
  | openat2 dirfd path flags =>
    refine ⟨flags, Opens.init ?_⟩
    show Opens env (s.init env) flags (virtualNode path) (s.openat2 env dirfd path flags)
    unfold openat2
    dsimp only
    cases virtualNode path with
    | some joydev => exact Or.inr ⟨_, joydev, Idle.refl _, rfl, rfl, rfl⟩
    | none =>
      refine Or.inl ⟨?_, rfl⟩
      dsimp only
      split
      · exact callReal_idle ..
      · split
        · exact callReal_idle ..
        · exact Idle.refl _
  | ioctl fd req arg memory => exact absurd rfl (hi fd req arg memory)
  | write fd buffer content length => exact absurd rfl (hw fd buffer content length)
  | close fd => exact absurd rfl (hc fd)
  | read fd buffer length =>
    refine ⟨0, Or.inl ⟨(@init_idle env s).trans ?_, rfl⟩⟩
    simp only [call, read]
    cases hfind : (s.init env).findFakeFd fd with
    | none => exact readReal_idle ..
    | some fake =>
      dsimp only
      split
      · exact readJoydev_idle hfind buffer length
      · split
        · exact readReal_idle ..
        · exact readReal_idle ..
  | stat path output =>
    refine ⟨0, Or.inl ⟨(@init_idle env s).trans ?_, rfl⟩⟩
    simp only [call, stat]
    split
    · exact Idle.refl _
    · split
      · exact callReal_idle ..
      · exact Idle.refl _
  | stat64 path output =>
    refine ⟨0, Or.inl ⟨(@init_idle env s).trans ?_, rfl⟩⟩
    simp only [call, stat64]
    split
    · exact Idle.refl _
    · split
      · exact callReal_idle ..
      · split
        · exact callReal_idle ..
        · exact Idle.refl _

/-- The evdev descriptor an owner has. -/
theorem Refines.find (h : Refines s m) {fd : Int} {owner : Nat} (ho : m.owners fd = some owner) :
    ∃ fake, s.findFakeFd fd = some fake ∧ fake.joydev = false := by
  have hnode : s.nodeAt fd = some false := (h.nodes fd).mp (by rw [ho]; rfl)
  exact Option.map_eq_some_iff.mp hnode

/-- No other descriptor is evdev. -/
theorem Refines.joydev (h : Refines s m) {fd : Int} (ho : m.owners fd = none) {fake : FakeFd}
    (hfind : s.findFakeFd fd = some fake) : fake.joydev = true := by
  have hnode : ¬s.nodeAt fd = some false := fun hc => by simpa [ho] using (h.nodes fd).mpr hc
  rw [nodeAt, hfind] at hnode
  simpa using hnode

/-- The map, for the calls that are no ioctl, no write and no close. -/
theorem step_opened (m : EffectMap) (c : Call) (o : Outcome)
    (hi : ∀ fd req arg memory, c ≠ .ioctl fd req arg memory)
    (hw : ∀ fd buffer content length, c ≠ .write fd buffer content length)
    (hc : ∀ fd, c ≠ .close fd) : m.step env c o = (opened m (c.opens env) o, none) := by
  have hnode : ∀ node : Option Bool,
      (match node with
        | some false => (if 0 ≤ o.result then m.open_ o.result else m, none)
        | _ => (m, none)) = (opened m node o, (none : Option Outcome)) := by
    intro node
    cases node with
    | none => rfl
    | some joydev => cases joydev <;> rfl
  cases c with
  | ioctl fd req arg memory => exact absurd rfl (hi fd req arg memory)
  | write fd buffer content length => exact absurd rfl (hw fd buffer content length)
  | close fd => exact absurd rfl (hc fd)
  | read fd buffer length => rfl
  | stat path output => rfl
  | stat64 path output => rfl
  | _ => exact hnode _

/-- **One call** comes to what the map says, and leaves the slots as the map. -/
theorem call_refines (h : Refines s m) (hd : s.fds.Nodup) (c : Call)
    (hfresh : c.opens env ≠ none → s.findFakeFd s.nextSocket = none)
    (hroom : c.opens env = some false → 0 ≤ (s.call env c).2.result →
      s.fakeFds.length < maxFakeFds) :
    Refines (s.call env c).1 (m.step env c (s.call env c).2).1 ∧
      ∀ o, (m.step env c (s.call env c).2).2 = some o → (s.call env c).2 = o := by
  have hinit := h.idle (@init_idle env s)
  have hopen : (∀ fd req arg memory, c ≠ .ioctl fd req arg memory) →
      (∀ fd buffer content length, c ≠ .write fd buffer content length) → (∀ fd, c ≠ .close fd) →
      Refines (s.call env c).1 (m.step env c (s.call env c).2).1 ∧
        ∀ o, (m.step env c (s.call env c).2).2 = some o → (s.call env c).2 = o := by
    intro hi hw hc
    obtain ⟨flags, ho⟩ := @call_opens env s c hi hw hc
    rw [step_opened m c _ hi hw hc]
    exact ⟨ho.refines h hd hfresh hroom, fun o he => by cases he⟩
  cases c with
  | ioctl fd req arg memory =>
    simp only [call, ioctl]
    cases ho : m.owners fd with
    | none =>
      simp only [EffectMap.step, ho]
      refine ⟨?_, fun o he => by cases he⟩
      cases hfind : (s.init env).findFakeFd fd with
      | none =>
        dsimp only
        split
        · exact hinit.idle (callReal_idle ..)
        · exact hinit
      | some fake =>
        dsimp only
        rw [if_pos (hinit.joydev ho hfind)]
        exact hinit
    | some owner =>
      obtain ⟨fake, hfind, hjoy⟩ := hinit.find ho
      simp only [EffectMap.step, ho, hfind, hjoy, Bool.false_eq_true, if_false]
      split
      · obtain ⟨h1, h2⟩ := upload_refines hinit ho memory
        exact ⟨h1, fun o he => h2.trans (Option.some.inj he)⟩
      · split
        · obtain ⟨h1, h2⟩ := remove_refines hinit ho (Int32.ofNat arg.toNat).toInt
          exact ⟨h1, fun o he => h2.trans (Option.some.inj he)⟩
        · exact ⟨hinit, fun o he => by cases he⟩
  | write fd buffer content length =>
    simp only [call, write]
    cases ho : m.owners fd with
    | none =>
      simp only [EffectMap.step, ho]
      refine ⟨?_, fun o he => by cases he⟩
      cases hfind : (s.init env).findFakeFd fd with
      | none =>
        dsimp only
        split
        · exact hinit.idle (callReal_idle ..)
        · exact hinit
      | some fake =>
        dsimp only
        rw [if_pos (Or.inl (hinit.joydev ho hfind))]
        exact hinit
    | some owner =>
      obtain ⟨fake, hfind, hjoy⟩ := hinit.find ho
      simp only [EffectMap.step, ho, hfind, hjoy, Bool.false_eq_true, false_or]
      split
      · exact ⟨hinit, fun o he => Option.some.inj he⟩
      · obtain ⟨h1, h2⟩ := writeEvents_refines
          (recordsOf content (length / inputEventCodec.size)) hinit ho
        refine ⟨h1, fun o he => ?_⟩
        rw [h2]
        exact Option.some.inj he
  | close fd =>
    have hclose := @close_refines env s m h hd fd
    cases ho : m.owners fd with
    | none =>
      rw [ho] at hclose
      simp only [EffectMap.step, ho]
      exact ⟨hclose, fun o he => by cases he⟩
    | some owner =>
      rw [ho] at hclose
      simp only [EffectMap.step, ho]
      exact ⟨hclose, fun o he => by cases he⟩
  | _ =>
    exact hopen (fun _ _ _ _ => Call.noConfusion) (fun _ _ _ _ => Call.noConfusion)
      (fun _ => Call.noConfusion)

theorem loaded_refines (reals : List Outcome) (connects : List ConnectAnswer) (sends : List Int) :
    Refines (loaded reals connects sends) (EffectMap.start sends) where
  gain := rfl
  sends := rfl
  messages := rfl
  nodes _ := by constructor <;> exact fun h => by cases h
  older _ _ h := by cases h
  distinct _ _ _ h := by cases h
  slots _ := rfl

end Shim

/-! ## 7. Runs -/

/-- A session beside the map. -/
structure Watched where
  session : Session
  map : EffectMap

namespace Watched

/-- Nothing has been called yet. -/
def loaded (reals : List Outcome) (connects : List ConnectAnswer) (sends : List Int) : Watched :=
  { session := Session.loaded reals connects sends, map := EffectMap.start sends }

variable (env : Env)

/-- A call, which goes to the shim and to the map. -/
def step (w : Watched) (c : Call) : Watched :=
  { session := w.session.step env c
    map := (w.map.step env c (w.session.shim.call env c).2).1 }

/-- A socket gets a number that is not in use, as POSIX has it. -/
def FreshSocket (w : Watched) (c : Call) : Prop :=
  c.opens env ≠ none → w.session.shim.nextSocket ∉ w.session.opened

/-- An evdev node that is opened finds room in the table of descriptors. -/
def Room (w : Watched) (c : Call) : Prop :=
  c.opens env = some false → 0 ≤ (w.session.shim.call env c).2.result →
    w.session.shim.fakeFds.length < maxFakeFds

/-- Every step of a run meets a condition. -/
def Throughout (P : Watched → Call → Prop) (w : Watched) (calls : List Call) : Prop :=
  ∀ before c after, calls = before ++ c :: after → P (run (step env) w before) c

theorem throughout_nil {P : Watched → Call → Prop} (w : Watched) : Throughout env P w [] :=
  fun before c after h => by cases before <;> cases h

theorem throughout_cons {P : Watched → Call → Prop} (w : Watched) (c : Call) (calls : List Call) :
    Throughout env P w (c :: calls) ↔ P w c ∧ Throughout env P (w.step env c) calls := by
  constructor
  · intro h
    exact ⟨h [] c calls rfl, fun before c' after hc => h (c :: before) c' after (by rw [hc]; rfl)⟩
  · rintro ⟨hc, h⟩ before c' after heq
    cases before with
    | nil =>
      obtain ⟨rfl, rfl⟩ := List.cons.inj heq
      exact hc
    | cons d before =>
      obtain ⟨rfl, rfl⟩ := List.cons.inj heq
      exact h before c' after rfl

instance decidableThroughout (P : Watched → Call → Prop) [∀ w c, Decidable (P w c)] :
    ∀ (calls : List Call) (w : Watched), Decidable (Throughout env P w calls)
  | [], w => isTrue (throughout_nil env w)
  | c :: calls, w =>
    haveI := decidableThroughout P calls (w.step env c)
    decidable_of_iff _ (throughout_cons env w c calls).symm

instance (w : Watched) (c : Call) : Decidable (w.FreshSocket env c) :=
  inferInstanceAs (Decidable (_ → _))

instance (w : Watched) (c : Call) : Decidable (w.Room env c) :=
  inferInstanceAs (Decidable (_ → _ → _))

/-- **A call agrees with the map**: where it is about effects it comes to what the map says. -/
def Agrees (w : Watched) (c : Call) : Prop :=
  ∀ o, (w.map.step env c (w.session.shim.call env c).2).2 = some o →
    (w.session.shim.call env c).2 = o

instance (w : Watched) (c : Call) : Decidable (w.Agrees env c) :=
  decidable_of_iff
    ((w.map.step env c (w.session.shim.call env c).2).2.all
      fun o => decide ((w.session.shim.call env c).2 = o)) (by
    unfold Agrees
    cases (w.map.step env c (w.session.shim.call env c).2).2 <;> simp)

/-- No call on a descriptor changes an effect of another one, in the map or in the table. -/
structure KeepsApart (w : Watched) (c : Call) : Prop where
  map : ∀ fd, c.fd = some fd → ∀ i e, w.map.owners fd ≠ some e.owner →
    ((w.step env c).map.effects i = some e ↔ w.map.effects i = some e)
  slots : ∀ fd, c.fd = some fd → ∀ i slot, slot.used = true → slot.fd ≠ fd →
    ((w.step env c).session.shim.effectSlots i = slot ↔ w.session.shim.effectSlots i = slot)

/-- What every run keeps. -/
structure Kept (w : Watched) : Prop where
  sound : w.session.Sound env
  refines : w.session.shim.Refines w.map

variable {env}

theorem step_kept {w : Watched} {c : Call} (h : w.Kept env) (hfresh : w.FreshSocket env c)
    (hroom : w.Room env c) : (w.step env c).Kept env ∧ w.Agrees env c := by
  have hunused : c.opens env ≠ none →
      w.session.shim.findFakeFd w.session.shim.nextSocket = none := fun ho =>
    Shim.findFakeFd_eq_none h.sound.within (hfresh ho)
  obtain ⟨href, hagree⟩ := Shim.call_refines h.refines h.sound.within.distinct c hunused hroom
  exact ⟨⟨step_sound w.session c h.sound, href⟩, hagree⟩

theorem run_kept {w : Watched} (h : w.Kept env) (calls : List Call)
    (hfresh : Throughout env (FreshSocket env) w calls)
    (hroom : Throughout env (Room env) w calls) : (run (step env) w calls).Kept env := by
  induction calls generalizing w with
  | nil => exact h
  | cons c calls ih =>
    obtain ⟨hf, hfs⟩ := (throughout_cons env w c calls).mp hfresh
    obtain ⟨hr, hrs⟩ := (throughout_cons env w c calls).mp hroom
    exact ih (step_kept h hf hr).1 hfs hrs

/-- **Nor in the table**: the slots are the map before the call and after it. -/
theorem Kept.keepsApart {w : Watched} {c : Call} (h : w.Kept env) (h' : (w.step env c).Kept env) :
    w.KeepsApart env c := by
  have hmap : ∀ fd, c.fd = some fd → ∀ i e, w.map.owners fd ≠ some e.owner →
      ((w.step env c).map.effects i = some e ↔ w.map.effects i = some e) := fun _ hfd i e he =>
    EffectMap.step_keepsOthers env w.map c _ hfd i e he
  refine ⟨hmap, fun fd hfd i slot hused hne => ?_⟩
  have howners : (w.step env c).map.owners slot.fd = w.map.owners slot.fd :=
    EffectMap.step_owners env w.map c _ hfd hne
  have hother : ∀ e : Effect, w.map.owners slot.fd = some e.owner → w.map.owners fd ≠ some e.owner :=
    fun e ho hc => hne (h.refines.distinct _ _ _ ho hc)
  constructor
  · intro hslot
    obtain ⟨e, he, hholds⟩ := h'.refines.holding (hslot ▸ hused)
    rw [hslot] at hholds
    have ho := howners.symm.trans hholds.owner
    have hold := h.refines.slots i
    rw [(hmap fd hfd i e (hother e ho)).mp he] at hold
    exact Shim.Holds.unique (fun _ _ _ => h.refines.distinct _ _ _) hold
      ⟨hused, ho, hholds.2.2⟩
  · intro hslot
    obtain ⟨e, he, hholds⟩ := h.refines.holding (hslot ▸ hused)
    rw [hslot] at hholds
    have hnew := h'.refines.slots i
    rw [(hmap fd hfd i e (hother e hholds.owner)).mpr he] at hnew
    exact Shim.Holds.unique (fun _ _ _ => h'.refines.distinct _ _ _) hnew
      ⟨hused, howners.trans hholds.owner, hholds.2.2⟩

theorem Throughout.prefix_ {P : Watched → Call → Prop} {w : Watched} {before after : List Call}
    (h : Throughout env P w (before ++ after)) : Throughout env P w before :=
  fun pre c post hc => h pre c (post ++ after) (by rw [hc, List.append_assoc]; rfl)

end Watched

/-- **The effect table is the map**, in every run whose opens of the evdev node find room in the
    table of descriptors: the control messages are the map's, every call about effects comes to
    what the map says, and no call on one descriptor changes an effect of another. -/
theorem effect_table_refines (env : Env) (reals : List Outcome) (connects : List ConnectAnswer)
    (sends : List Int) (calls : List Call)
    (hfresh : Watched.Throughout env (Watched.FreshSocket env)
      (Watched.loaded reals connects sends) calls)
    (hroom : Watched.Throughout env (Watched.Room env) (Watched.loaded reals connects sends) calls) :
    let w := run (Watched.step env) (Watched.loaded reals connects sends) calls
    controls w.session.shim.log = w.map.messages ∧
      Watched.Throughout env (Watched.Agrees env) (Watched.loaded reals connects sends) calls ∧
      Watched.Throughout env (Watched.KeepsApart env) (Watched.loaded reals connects sends) calls := by
  have hstart : (Watched.loaded reals connects sends).Kept env :=
    ⟨loaded_sound reals connects sends, Shim.loaded_refines reals connects sends⟩
  refine ⟨(Watched.run_kept hstart calls hfresh hroom).refines.messages, ?_, ?_⟩
  · intro before c after hc
    subst hc
    have hkept := Watched.run_kept hstart before hfresh.prefix_ hroom.prefix_
    exact (Watched.step_kept hkept (hfresh before c after rfl) (hroom before c after rfl)).2
  · intro before c after hc
    subst hc
    have hkept := Watched.run_kept hstart before hfresh.prefix_ hroom.prefix_
    exact hkept.keepsApart
      (Watched.step_kept hkept (hfresh before c after rfl) (hroom before c after rfl)).1

/-- The bridge's answer to an open, under a socket number. -/
def openAnswer (fd : Int) : ConnectAnswer :=
  { socket := fd, connect := 0, send := 16,
    received := deviceDescriptorCodec.enc
      { (Bridge.init 1).deviceDescriptor with present := 1, inputMode := 1 } }

/-- EVIOCSFF of a rumble effect with the given magnitudes, for 500 ms, under a new id. -/
def uploadRumble (fd : Int) (low high : UInt16) : Call :=
  .ioctl fd 0x40304580 4096
    (Codec.u16.enc ffRumble ++ Codec.s16.enc (-1) ++ List.replicate 6 0 ++ Codec.u16.enc 500 ++
      List.replicate 4 0 ++ Codec.u16.enc low ++ Codec.u16.enc high ++ List.replicate 28 0)

/-- A write of one EV_FF event. -/
def playEffect (fd : Int) (code : UInt16) (value : Int32) : Call :=
  .write fd 4096 (inputEventCodec.enc { time := ⟨0, 0⟩, type := evFf, code := code, value := value }) 24

/-- Two descriptors with an effect each; one is closed, and its number comes back. -/
def twoPads : List Call :=
  [.open_ (some fakeDevnode) 0 0, uploadRumble 3 40000 20000, .open_ (some fakeDevnode) 0 0,
    uploadRumble 4 100 200, playEffect 4 ffGainCode 0x8000, playEffect 3 0 1, playEffect 4 0 1,
    .close 3, .open_ (some fakeDevnode) 0 0, playEffect 3 0 1]

theorem effect_table_refines_twoPads :
    let w := run (Watched.step plainEnv)
      (Watched.loaded [⟨0, []⟩] [openAnswer 3, openAnswer 4, openAnswer 3] [16, 16]) twoPads
    controls w.session.shim.log = w.map.messages :=
  (effect_table_refines plainEnv [⟨0, []⟩] [openAnswer 3, openAnswer 4, openAnswer 3] [16, 16] twoPads
    (by decide +kernel) (by decide +kernel)).1

/-- 129 opens of the evdev node, and an upload on the last descriptor. -/
def manyPads : List Call :=
  List.replicate 129 (.open_ (some fakeDevnode) 0 0) ++ [uploadRumble 131 40000 20000]

/-- **The 129th descriptor is not in the table**: its upload goes to the kernel, which knows no
    such request for a socket. -/
theorem effect_table_overflows :
    Watched.Throughout plainEnv (Watched.FreshSocket plainEnv)
        (Watched.loaded [⟨-1, []⟩] ((List.range 129).map fun k : Nat => openAnswer (3 + k)) []) manyPads ∧
      ¬Watched.Throughout plainEnv (Watched.Agrees plainEnv)
        (Watched.loaded [⟨-1, []⟩] ((List.range 129).map fun k : Nat => openAnswer (3 + k)) []) manyPads := by
  decide +kernel

end TermuxGamepad
