/-
  File:      TermuxGamepad/Bridge/Device.lean
  Subject:   What an X event does: to the controller state, to the device, and to every link.

  `refreshLorieDevice_cases` is the inversion of `refresh_lorie_device`: nothing, or a removal
  where there was a device, then perhaps an addition. `processXiEvent_cases` is the inversion of
  `process_xi_event`. A relation over the parts of an operation holds over X events by the rules
  of section 4, and over every action that leaves the device alone (`Parts.act`).
-/
import TermuxGamepad.Bridge.Service

namespace TermuxGamepad

open Wire

namespace Bridge

/-! ## 1. Device events -/

/-- The bridge with another controller state, up to the clock readings used. -/
def SameButState (b b' : Bridge) : Prop := ∃ s ts, b' = { b with state := s, stamps := ts }

theorem SameButState.refl (b : Bridge) : b.SameButState b := ⟨b.state, b.stamps, rfl⟩

theorem SameButState.trans {a b c : Bridge} (h : a.SameButState b) (h' : b.SameButState c) :
    a.SameButState c := by
  obtain ⟨s, ts, rfl⟩ := h
  obtain ⟨s', ts', rfl⟩ := h'
  exact ⟨s', ts', rfl⟩

theorem SameButState.setState (b : Bridge) (s : GamepadState) : b.SameButState (b.setState s) :=
  ⟨s, b.stamps, rfl⟩

theorem SameButState.append (p : Batch) (type code : UInt16) (value : Int) :
    p.1.SameButState (appendEvent p type code value).1 := ⟨p.1.state, _, rfl⟩

theorem motionLoop_same (mask : List Bool) (axis : Nat) (values : List Int) (p : Batch) :
    p.1.SameButState (motionLoop mask axis values p).1 := by
  fun_induction motionLoop mask axis values p with
  | case1 => exact .refl _
  | case2 => assumption
  | case3 mask axis values p p' ih =>
    refine SameButState.trans ?_ ih
    simp only [p']
    split
    · split
      · exact (SameButState.setState ..).trans (.append ..)
      · exact .refl _
    · exact .refl _

theorem updateHatX_same (p : Batch) : p.1.SameButState (updateHatX p).1 := by
  unfold updateHatX
  dsimp only
  split
  · exact (SameButState.setState ..).trans (.append (_, _) ..)
  · exact .refl _

theorem updateHatY_same (p : Batch) : p.1.SameButState (updateHatY p).1 := by
  unfold updateHatY
  dsimp only
  split
  · exact (SameButState.setState ..).trans (.append (_, _) ..)
  · exact .refl _

theorem buttonChange_same (b : Bridge) (detail : Nat) (pressed : Bool) :
    b.SameButState (b.buttonChange detail pressed).1 := by
  have hset := SameButState.setState b (b.state.setButton detail pressed)
  unfold buttonChange
  dsimp only
  split
  · exact .refl b
  split
  · exact hset.trans ((updateHatX_same (_, [])).trans (updateHatY_same _))
  split
  · exact hset.trans (.append (_, []) ..)
  · exact hset

theorem eventBatch_same (b : Bridge) (event : XIDeviceEvent) :
    b.SameButState (b.eventBatch event).1 := by
  unfold eventBatch
  split
  · exact motionLoop_same _ _ _ (b, [])
  · split
    · exact buttonChange_same ..
    · exact .refl b
  · split
    · exact buttonChange_same ..
    · exact .refl b
  · exact .refl b

/-- The record that ends a batch. -/
def synBody : UInt16 × UInt16 × Int32 := (evSyn, synReport, 0)

/-- **The inversion of `process_xi_event`**: an event of another device does nothing; one of the
    current device changes the controller state, and its batch goes to the event clients. -/
theorem processXiEvent_cases (b : Bridge) (event : XIDeviceEvent) (deviceId : Int) :
    b.processXiEvent event deviceId = b ∨
      ((b.eventBatch event).2 = [] ∧
        b.processXiEvent event deviceId = (b.eventBatch event).1) ∨
      ∃ b' evs, (b.eventBatch event).1.SameButStamps b' ∧
        evs.map InputEvent.body = (b.eventBatch event).2.map InputEvent.body ++ [synBody] ∧
        b.processXiEvent event deviceId = b'.broadcastEvents evs := by
  unfold processXiEvent
  dsimp only
  split
  · exact Or.inl rfl
  split
  · rename_i hempty
    exact Or.inr (Or.inl ⟨List.isEmpty_iff.mp hempty, rfl⟩)
  · exact Or.inr (Or.inr ⟨_, _, appendEvent_bridge _ _ _ _, appendEvent_body _ _ _ _, rfl⟩)

/-! ## 2. The device search -/

/-- Only requests that concern no client join the log. -/
def Searched (b b' : Bridge) : Prop :=
  ∃ reqs, b' = { b with log := b.log ++ reqs } ∧
    ∀ o ∈ reqs, ∃ t d, o = .request t (.queryCapabilities d)

theorem Searched.refl (b : Bridge) : b.Searched b := ⟨[], by simp, by simp⟩

theorem Searched.trans {a b c : Bridge} (h : a.Searched b) (h' : b.Searched c) :
    a.Searched c := by
  obtain ⟨l, rfl, hl⟩ := h
  obtain ⟨l', rfl, hl'⟩ := h'
  refine ⟨l ++ l', by simp, fun o ho => ?_⟩
  rcases List.mem_append.mp ho with ho | ho
  · exact hl o ho
  · exact hl' o ho

theorem queryLorieCapabilities_searched (b : Bridge) (d : XIDeviceInfo) :
    b.Searched (b.queryLorieCapabilities d).1 := by
  have h : b.Searched (b.emit (.request b.now (.queryCapabilities (card16 d.deviceid)))) :=
    ⟨[_], rfl, by simp⟩
  unfold queryLorieCapabilities
  dsimp only
  split
  · exact h
  · split <;> exact h

theorem findInDevices_searched (b : Bridge) (ds : List XIDeviceInfo) :
    b.Searched (b.findInDevices ds).1 := by
  induction ds generalizing b with
  | nil => exact .refl b
  | cons d ds ih =>
    have hq := queryLorieCapabilities_searched b d
    unfold findInDevices
    dsimp only
    split
    · split
      · exact hq
      · exact hq.trans (ih _)
    · exact ih b

theorem findLorieDevice_searched (b : Bridge) (answer : DeviceAnswer) :
    b.Searched (b.findLorieDevice answer).1 := by
  unfold findLorieDevice
  split
  · exact .refl b
  · exact findInDevices_searched ..

/-- The search looks at the device alone. -/
theorem findLorieDevice_sameDevice (b : Bridge) (answer : DeviceAnswer) (f : FoundDevice) :
    (b.findLorieDevice answer).1.sameDevice f = b.sameDevice f := by
  obtain ⟨reqs, h, -⟩ := findLorieDevice_searched b answer
  rw [h]
  rfl

/-! ## 3. The device -/

/-- The state in which a device is looked at for addition: the old one is gone. -/
def withoutDevice (b : Bridge) : Bridge := if b.lorieDeviceId ≥ 0 then b.removeDevice else b

/-- **The inversion of `refresh_lorie_device`.** -/
theorem refreshLorieDevice_cases (b : Bridge) (answer : DeviceAnswer) :
    (∃ f, (b.findLorieDevice answer).2 = some f ∧
        (b.findLorieDevice answer).1.sameDevice f = true ∧
        b.refreshLorieDevice answer = (b.findLorieDevice answer).1) ∨
      ((∀ f, (b.findLorieDevice answer).2 = some f →
          (b.findLorieDevice answer).1.sameDevice f = false) ∧
        (b.refreshLorieDevice answer = (b.findLorieDevice answer).1.withoutDevice ∨
          ∃ f, (b.findLorieDevice answer).2 = some f ∧ 0 ≤ f.deviceId ∧ answer.selectOk = true ∧
            b.refreshLorieDevice answer =
              (b.findLorieDevice answer).1.withoutDevice.addDevice f)) := by
  unfold refreshLorieDevice withoutDevice
  dsimp only
  cases hf : (b.findLorieDevice answer).2 with
  | none => exact Or.inr ⟨by simp, Or.inl (by simp)⟩
  | some f =>
    by_cases hsame : (b.findLorieDevice answer).1.sameDevice f = true
    · exact Or.inl ⟨f, rfl, hsame, by simp [hsame]⟩
    · refine Or.inr ⟨fun f' hf' => ?_, ?_⟩
      · cases hf'
        simpa using hsame
      · have hany : (some f).any (b.findLorieDevice answer).1.sameDevice = false := by
          simpa using hsame
        rw [hany]
        by_cases hno : f.deviceId < 0 || !answer.selectOk
        · exact Or.inl (by simp only [Bool.false_eq_true, if_false, hno, if_true])
        · refine Or.inr ⟨f, rfl, ?_, ?_, by simp only [Bool.false_eq_true, if_false, hno]⟩
          · simp only [Bool.or_eq_true, decide_eq_true_eq, not_or, Int.not_lt] at hno
            exact hno.1
          · simp only [Bool.or_eq_true, Bool.not_eq_true', not_or, Bool.not_eq_false] at hno
            exact hno.2

/-- The state from which a removal is broadcast. -/
def gone (b : Bridge) : Bridge :=
  { b.emit (.removed b.lorieDeviceId) with
    lorieDeviceId := -1
    lorieCapabilities := 0
    state := GamepadState.zero
    deviceDescriptor := { b.deviceDescriptor with present := 0, deviceId := -1 } }

/-- The state from which an addition is broadcast. -/
def came (b : Bridge) (f : FoundDevice) : Bridge :=
  { b.emit (.added f.deviceId) with
    lorieDeviceId := f.deviceId
    lorieCapabilities := f.capabilities.capabilities
    deviceDescriptor := foundDescriptor f }

@[simp] theorem gone_deviceId (b : Bridge) : b.gone.lorieDeviceId = -1 := rfl

@[simp] theorem gone_present (b : Bridge) : b.gone.deviceDescriptor.present = 0 := rfl

@[simp] theorem came_present (b : Bridge) (f : FoundDevice) :
    (b.came f).deviceDescriptor.present = 1 := rfl

theorem removeDevice_eq (b : Bridge) : b.removeDevice = b.gone.broadcastHotplug hotplugRemove := rfl

theorem addDevice_eq (b : Bridge) (f : FoundDevice) :
    b.addDevice f = (b.came f).broadcastHotplug hotplugAdd := rfl

theorem removeDevice_deviceId (b : Bridge) : b.removeDevice.lorieDeviceId = -1 :=
  (frame_parts.broadcast b.gone .monitor (.hotplug (b.gone.hotplugMessage hotplugRemove))).deviceId

theorem withoutDevice_deviceId (b : Bridge) : b.withoutDevice.lorieDeviceId < 0 := by
  unfold withoutDevice
  split
  · rw [removeDevice_deviceId]
    decide
  · omega

/-- **The rule for `refresh_lorie_device`**: what the search, a removal and an addition keep. -/
theorem refreshLorieDevice_inv {P : Bridge → Prop} {b : Bridge} (answer : DeviceAnswer)
    (hsearch : ∀ b', b.Searched b' → P b')
    (hremove : ∀ b, 0 ≤ b.lorieDeviceId → P b → P b.removeDevice)
    (hadd : ∀ b f, b.lorieDeviceId < 0 → 0 ≤ f.deviceId → P b → P (b.addDevice f)) :
    P (b.refreshLorieDevice answer) := by
  have h1 : P (b.findLorieDevice answer).1 := hsearch _ (findLorieDevice_searched b answer)
  have h2 : P (b.findLorieDevice answer).1.withoutDevice := by
    unfold withoutDevice
    split
    · rename_i hid
      exact hremove _ hid h1
    · exact h1
  rcases refreshLorieDevice_cases b answer with ⟨f, _, _, he⟩ | ⟨_, he | ⟨f, _, hf, _, he⟩⟩
  · rw [he]
    exact h1
  · rw [he]
    exact h2
  · rw [he]
    exact hadd _ f (withoutDevice_deviceId _) hf h2

/-! ## 4. Relations over an action -/

variable {R : Bridge → Bridge → Prop}

/-- **The rule for device events**, for a relation that allows another controller state. -/
theorem Parts.processXiEvent (h : Parts R) (hstate : ∀ {b b'}, b.SameButState b' → R b b')
    (b : Bridge) (event : XIDeviceEvent) (deviceId : Int) :
    R b (b.processXiEvent event deviceId) := by
  have hbatch := hstate (eventBatch_same b event)
  rcases processXiEvent_cases b event deviceId with he | ⟨_, he⟩ | ⟨b', evs, ⟨ts, rfl⟩, _, he⟩ <;>
    rw [he]
  · exact h.refl b
  · exact hbatch
  · exact h.trans (h.trans hbatch (h.env _ _ _ ts)) (h.broadcast ..)

/-- What follows the search for the device, for a relation that allows it to go and to come. -/
theorem Parts.refreshed (h : Parts R) (hgone : ∀ b, R b b.gone) (hcame : ∀ b f, R b (b.came f))
    (b : Bridge) (answer : DeviceAnswer) :
    R (b.findLorieDevice answer).1 (b.refreshLorieDevice answer) := by
  have hwithout : ∀ c : Bridge, R c c.withoutDevice := by
    intro c
    unfold withoutDevice
    split
    · exact h.trans (hgone c) (h.broadcast ..)
    · exact h.refl c
  rcases refreshLorieDevice_cases b answer with ⟨f, _, _, he⟩ | ⟨_, he | ⟨f, _, _, _, he⟩⟩ <;> rw [he]
  · exact h.refl _
  · exact hwithout _
  · exact h.trans (hwithout _) (h.trans (hcame _ f) (h.broadcast ..))

/-- **The rule for a changed hierarchy.** -/
theorem Parts.refreshLorieDevice (h : Parts R) (hsearch : ∀ {b b'}, b.Searched b' → R b b')
    (hgone : ∀ b, R b b.gone) (hcame : ∀ b f, R b (b.came f)) (b : Bridge) (answer : DeviceAnswer) :
    R b (b.refreshLorieDevice answer) :=
  h.trans (hsearch (findLorieDevice_searched b answer)) (h.refreshed hgone hcame b answer)

/-- **The rule for an action** that leaves the device alone. -/
theorem Parts.act (h : Parts R) (hstate : ∀ {b b'}, b.SameButState b' → R b b')
    (haccept : ∀ b r, R b (b.acceptClient r)) (hmark : ∀ b c, R b (b.emit (.hungUp c)))
    (htick : ∀ b, R b (b.updateRumble false)) (b : Bridge) {a : Action}
    (hspans : ∀ i r, a = .readable i r → Spans R i)
    (ha : ∀ answer, a ≠ .xEvent (.hierarchyChanged answer)) : R b (b.act a) := by
  have hguard : ∀ (i : Slot) (b' : Bridge), R b b' →
      R b (if (b.clients i).fd.isSome then b' else b) := by
    intro i b' hb
    split
    · exact hb
    · exact h.refl b
  cases a with
  | xEvent e =>
    cases e with
    | hierarchyChanged answer => exact absurd rfl (ha answer)
    | device event => exact h.processXiEvent hstate b event _
  | accept r => exact haccept b r
  | writable i =>
    refine hguard i _ ?_
    unfold serveWritable
    dsimp only
    split
    · exact h.flushClient b i
    · exact h.trans (h.flushClient b i) (h.close _ i)
  | readable i r => exact hguard i _ ((hspans i r rfl).serveReadable b r)
  | hangup i => exact hguard i _ (h.trans (emitFor_rel (h.refl b) (hmark b)) (h.close _ i))
  | tick => exact htick b

end Bridge

/-! ## 5. No link is taken over -/

/-- The link kept its connection or was freed, and its buffer did not overflow. -/
def Link.Stays (l l' : Link) : Prop :=
  (l'.fd = l.fd ∨ l'.fd = none) ∧ (l'.control = l.control ∨ l'.control = []) ∧
    (l.output.length ≤ clientBufferSize → l'.output.length ≤ clientBufferSize)

theorem Link.Stays.refl (l : Link) : l.Stays l := ⟨Or.inl rfl, Or.inl rfl, id⟩

theorem Link.Stays.free (l : Link) : l.Stays Link.free :=
  ⟨Or.inr rfl, Or.inr rfl, fun _ => Nat.zero_le _⟩

theorem Link.Grew.stays {l l' : Link} {ms : List Message} (h : l.Grew l' ms) : l.Stays l' :=
  ⟨Or.inl h.fd, Or.inl h.control, h.room⟩

theorem Link.Kept.stays {l l' : Link} {ms : List Message} (h : l.Kept l' ms) : l.Stays l' := by
  rcases h with rfl | h
  · exact .free l
  · exact h.stays

theorem Link.Stays.trans {l l' l'' : Link} (h : l.Stays l') (h' : l'.Stays l'') : l.Stays l'' := by
  refine ⟨?_, ?_, fun hl => h'.2.2 (h.2.2 hl)⟩
  · rcases h'.1 with h1 | h1
    · rw [h1]
      exact h.1
    · exact Or.inr h1
  · rcases h'.2.1 with h1 | h1
    · rw [h1]
      exact h.2.1
    · exact Or.inr h1

namespace Bridge

/-- No link is taken over. -/
def StaysAll (b b' : Bridge) : Prop := ∀ i, (b.clients i).toLink.Stays (b'.clients i).toLink

theorem StaysAll.of_clients {b b' : Bridge} (h : b'.clients = b.clients) : b.StaysAll b' := by
  intro i
  rw [h]
  exact .refl _

theorem StaysAll.refl (b : Bridge) : b.StaysAll b := .of_clients rfl

theorem StaysAll.trans {a b c : Bridge} (h : a.StaysAll b) (h' : b.StaysAll c) : a.StaysAll c :=
  fun i => (h i).trans (h' i)

theorem broadcast_stays (b : Bridge) (kind : ClientKind) (m : Message) :
    b.StaysAll (b.broadcast kind m) := fun i => (broadcast_kept b kind m i).stays

theorem closeClient_stays (b : Bridge) (i : Slot) : b.StaysAll (b.closeClient i) :=
  fun j => (closeClient_kept b i j).stays

theorem flushClient_stays (b : Bridge) (i : Slot) : b.StaysAll (b.flushClient i).1 :=
  fun j => (flushClient_kept b i j).stays

theorem updateRumble_stays (b : Bridge) (force : Bool) : b.StaysAll (b.updateRumble force) := by
  intro i
  rw [updateRumble_toLink]
  exact .refl _

/-- **An X event takes no connection over.** -/
theorem dispatchXEvent_stays (b : Bridge) (e : XEvent) : b.StaysAll (b.dispatchXEvent e) := by
  cases e with
  | hierarchyChanged answer =>
    refine refreshLorieDevice_inv (P := b.StaysAll) answer ?_ ?_ ?_
    · rintro c ⟨reqs, rfl, -⟩
      exact .of_clients rfl
    · exact fun c _ h => h.trans ((show c.StaysAll c.gone from .of_clients rfl).trans
        (broadcast_stays c.gone .monitor (.hotplug (c.gone.hotplugMessage hotplugRemove))))
    · exact fun c f _ _ h => h.trans ((show c.StaysAll (c.came f) from .of_clients rfl).trans
        (broadcast_stays (c.came f) .monitor (.hotplug ((c.came f).hotplugMessage hotplugAdd))))
  | device event =>
    have hb : (b.eventBatch event).1.clients = b.clients := by
      obtain ⟨s, ts, h⟩ := eventBatch_same b event
      rw [h]
    show b.StaysAll (b.processXiEvent event b.lorieDeviceId)
    rcases processXiEvent_cases b event b.lorieDeviceId with h | ⟨_, h⟩ | ⟨b', evs, hb', _, h⟩
    · rw [h]
      exact .refl b
    · rw [h]
      exact .of_clients hb
    · rw [h]
      exact (StaysAll.of_clients (hb'.clients.trans hb)).trans
        (broadcast_stays b' .events (.events evs))

end Bridge

end TermuxGamepad
