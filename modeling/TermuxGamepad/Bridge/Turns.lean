/-
  File:      TermuxGamepad/Bridge/Turns.lean
  Subject:   What an action can do to the controller state, the device and the links.

  An action is a handful of turns: a quiet one (flushes, closes, rumble, requests), a played
  event, an acceptance, a receive call, a removal, an addition. `Keeps` collects what an
  invariant needs for the turns that leave the device alone; `Keeps.act` carries it over every
  action but a device change, `Keeps.run` over runs.
-/
import TermuxGamepad.Bridge.Rounds

namespace TermuxGamepad

open Wire

namespace Bridge

/-! ## 1. Turns -/

/-- State and device stay; a link queues nothing, or is freed. -/
structure Quiet (b b' : Bridge) : Prop where
  state : b'.state = b.state
  descriptor : b'.deviceDescriptor = b.deviceDescriptor
  deviceId : b'.lorieDeviceId = b.lorieDeviceId
  links : ∀ i, (b.clients i).toLink.Kept (b'.clients i).toLink []

/-- What a played event queues on a link. -/
def offeredBatch (evs : List InputEvent) (l : Link) : List Message :=
  if evs = [] then [] else offered .events (.events evs) l

/-- An event of the device is played: the state takes its changes, and the batch, if there is
    any, goes to the event clients with SYN_REPORT behind it. -/
structure Played (b : Bridge) (event : XIDeviceEvent) (evs : List InputEvent) (b' : Bridge) :
    Prop where
  state : b'.state = (b.eventBatch event).1.state
  descriptor : b'.deviceDescriptor = b.deviceDescriptor
  deviceId : b'.lorieDeviceId = b.lorieDeviceId
  batch : evs.map InputEvent.body =
    if (b.eventBatch event).2 = [] then []
    else (b.eventBatch event).2.map InputEvent.body ++ [synBody]
  links : ∀ i, (b.clients i).toLink.Kept (b'.clients i).toLink (offeredBatch evs (b.clients i).toLink)

variable {b b' c : Bridge}

theorem Quiet.refl (b : Bridge) : b.Quiet b := ⟨rfl, rfl, rfl, fun _ => .refl _⟩

theorem Quiet.trans (h : b.Quiet b') (h' : b'.Quiet c) : b.Quiet c where
  state := h'.state.trans h.state
  descriptor := h'.descriptor.trans h.descriptor
  deviceId := h'.deviceId.trans h.deviceId
  links := fun i => by
    rcases h.links i with hfree | hg
    · have hl := h'.links i
      rw [hfree] at hl
      exact Or.inl hl.ofFree
    · rcases h'.links i with hfree | hg'
      · exact Or.inl hfree
      · exact Or.inr (hg.trans hg')

theorem Quiet.of_links (hf : Frame b b')
    (h : ∀ i, (b'.clients i).toLink = (b.clients i).toLink) : b.Quiet b' :=
  ⟨hf.state, hf.descriptor, hf.deviceId, fun i => by rw [h i]; exact .refl _⟩

theorem closeClient_quiet (b : Bridge) (i : Slot) : b.Quiet (b.closeClient i) :=
  have hf := frame_parts.close b i
  ⟨hf.state, hf.descriptor, hf.deviceId, closeClient_kept b i⟩

theorem flushClient_quiet (b : Bridge) (i : Slot) : b.Quiet (b.flushClient i).1 :=
  have hf := frame_parts.flushClient b i
  ⟨hf.state, hf.descriptor, hf.deviceId, flushClient_kept b i⟩

theorem updateRumble_quiet (b : Bridge) (force : Bool) : b.Quiet (b.updateRumble force) :=
  .of_links (frame_blind.updateRumble b force) fun i => updateRumble_toLink b force i

theorem emitFor_quiet (b : Bridge) (i : Slot) (o : Conn → Out) : b.Quiet (b.emitFor i o) :=
  .of_links (emitFor_frame b i o) fun j => by rw [emitFor_clients]

theorem withEnv_quiet (b : Bridge) (sends : List SendResult) (ticks : List Nat)
    (stamps : List Timeval) : b.Quiet (b.withEnv sends ticks stamps) :=
  ⟨rfl, rfl, rfl, fun _ => .refl _⟩

theorem Searched.quiet (h : b.Searched b') : b.Quiet b' := by
  obtain ⟨reqs, rfl, -⟩ := h
  exact ⟨rfl, rfl, rfl, fun _ => .refl _⟩

/-- **`process_xi_event` is a played event, or nothing happened.** -/
theorem processXiEvent_turn (b : Bridge) (event : XIDeviceEvent) (deviceId : Int) :
    b.processXiEvent event deviceId = b ∨
      ∃ evs, b.Played event evs (b.processXiEvent event deviceId) := by
  obtain ⟨s, ts, hb⟩ := eventBatch_same b event
  unfold processXiEvent
  dsimp only
  split
  · exact Or.inl rfl
  right
  split
  · rename_i hempty
    refine ⟨[], rfl, by rw [hb], by rw [hb], by simp [List.isEmpty_iff.mp hempty], fun i => ?_⟩
    rw [hb]
    exact .refl _
  · rename_i hempty
    have happ := appendEvent_bridge (b.eventBatch event) evSyn synReport 0
    have hf := happ.frame.trans (frame_parts.broadcast _ .events
      (.events (appendEvent (b.eventBatch event) evSyn synReport 0).2))
    have hbody := appendEvent_body (b.eventBatch event) evSyn synReport 0
    refine ⟨(appendEvent (b.eventBatch event) evSyn synReport 0).2, hf.state,
      hf.descriptor.trans (by rw [hb]), hf.deviceId.trans (by rw [hb]), ?_, fun i => ?_⟩
    · rw [if_neg (mt List.isEmpty_iff.mpr hempty), hbody]
      rfl
    · have hk := broadcast_kept (appendEvent (b.eventBatch event) evSyn synReport 0).1 .events
        (.events (appendEvent (b.eventBatch event) evSyn synReport 0).2) i
      have hne : (appendEvent (b.eventBatch event) evSyn synReport 0).2 ≠ [] :=
        List.append_ne_nil_of_right_ne_nil _ (List.cons_ne_nil _ _)
      rw [happ.clients, hb] at hk
      rw [offeredBatch, if_neg hne]
      exact hk

/-- The device is looked at again. -/
def Action.looks : Action → Bool
  | .xEvent (.hierarchyChanged _) => true
  | _ => false

theorem Action.looks_eq {a : Action} (ha : a.looks = true) :
    ∃ answer, a = .xEvent (.hierarchyChanged answer) := by
  cases a with
  | xEvent e =>
    cases e with
    | hierarchyChanged answer => exact ⟨answer, rfl⟩
    | device event => cases ha
  | _ => cases ha

/-- **The inversion of an action that leaves the device alone.** -/
theorem act_turn (b : Bridge) {a : Action} (ha : a.looks = false) :
    b.Quiet (b.act a) ∨ (∃ event evs, a = .xEvent (.device event) ∧ b.Played event evs (b.act a)) ∨
      (∃ r, a = .accept r ∧ b.act a = b.acceptClient r) ∨
      ∃ i r, a = .readable i r ∧ (b.clients i).fd.isSome ∧ b.act a = b.serveReadable i r := by
  cases a with
  | xEvent e =>
    cases e with
    | hierarchyChanged answer => cases ha
    | device event =>
      show b.Quiet (b.processXiEvent event b.lorieDeviceId) ∨ _
      rcases processXiEvent_turn b event b.lorieDeviceId with heq | ⟨evs, hp⟩
      · rw [heq]
        exact Or.inl (.refl b)
      · exact Or.inr (Or.inl ⟨event, evs, rfl, hp⟩)
  | accept r => exact Or.inr (Or.inr (Or.inl ⟨r, rfl, rfl⟩))
  | writable i =>
    left
    show b.Quiet (if (b.clients i).fd.isSome then b.serveWritable i else b)
    have hflush := flushClient_quiet b i
    split
    · unfold serveWritable
      dsimp only
      split
      · exact hflush
      · exact hflush.trans (closeClient_quiet _ i)
    · exact .refl b
  | readable i r =>
    by_cases hfd : (b.clients i).fd.isSome
    · exact Or.inr (Or.inr (Or.inr ⟨i, r, rfl, hfd, if_pos hfd⟩))
    · left
      have hact : b.act (.readable i r) = b := if_neg hfd
      rw [hact]
      exact .refl b
  | hangup i =>
    left
    show b.Quiet (if (b.clients i).fd.isSome then b.hangUp i else b)
    split
    · exact (emitFor_quiet b i _).trans (closeClient_quiet _ i)
    · exact .refl b
  | tick => exact Or.inl (updateRumble_quiet b false)

/-! ## 2. The rule -/

/-- **What an invariant needs** to be kept by every action that leaves the device alone. -/
structure Keeps (P : Bridge → Prop) : Prop where
  quiet : ∀ b b', b.Quiet b' → P b → P b'
  played : ∀ b event evs b', b.Played event evs b' → P b → P b'
  accepted : ∀ b r, P b → P (b.acceptClient r)
  served : ∀ b i r, (b.clients i).fd.isSome → P b → P (b.serveReadable i r)

theorem Keeps.act {P : Bridge → Prop} (hk : Keeps P) {a : Action} (ha : a.looks = false)
    (h : P b) : P (b.act a) := by
  rcases act_turn b ha with hq | ⟨event, evs, _, hp⟩ | ⟨r, _, he⟩ | ⟨i, r, _, hfd, he⟩
  · exact hk.quiet _ _ hq h
  · exact hk.played _ _ _ _ hp h
  · rw [he]
    exact hk.accepted b r h
  · rw [he]
    exact hk.served b i r hfd h

/-- **The rule for runs**, for an invariant that device changes keep as well. -/
theorem Keeps.run {P : Bridge → Prop} (hk : Keeps P) (hinit : ∀ opcode, P (Bridge.init opcode))
    (hremove : ∀ b, 0 ≤ b.lorieDeviceId → P b → P b.removeDevice)
    (hadd : ∀ b f, b.lorieDeviceId < 0 → 0 ≤ f.deviceId → P b → P (b.addDevice f))
    (opcode : Int) (answer : DeviceAnswer) (inputs : List Input) :
    P (run step (boot opcode answer) inputs) := by
  refine run_boot_inv hinit (fun b _ _ _ h => hk.quiet _ _ (withEnv_quiet b ..) h) ?_ opcode answer
    inputs
  intro b a h
  by_cases ha : a.looks = true
  · obtain ⟨answer, rfl⟩ := Action.looks_eq ha
    exact refreshLorieDevice_inv answer (fun b' hs => hk.quiet _ _ hs.quiet h) hremove hadd
  · exact hk.act (Bool.not_eq_true _ ▸ ha) h

end Bridge

end TermuxGamepad
