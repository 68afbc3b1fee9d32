/-
  File:      TermuxGamepad/Bridge/Replica.lean
  Subject:   What the event clients see of the controller state.

  A client that asked for the descriptor while a device was there got a snapshot, and a batch for
  every change since: its reports tell the state (`Views`). One place changes the state without a
  batch: a removal clears it. `replica_agrees_iff` says the clients see what the bridge has, in
  every state of a run, exactly if no step of the run clears a state that a client sees.
-/
import TermuxGamepad.Bridge.Rounds
import TermuxGamepad.Bridge.Tracking
import TermuxGamepad.Bridge.Turns

namespace TermuxGamepad

open Wire

/-! ## 1. Event clients -/

/-- The client asked for the descriptor while a device was there, and never for the monitor
    stream: a virtual evdev or joydev descriptor. -/
def EventClient (commands : List (ControlMessage × DeviceDescriptor)) : Prop :=
  (∃ x ∈ commands, x.1.command = controlQueryDescriptor ∧ x.2.present ≠ 0) ∧
    ∀ x ∈ commands, x.1.command ≠ controlMonitor

instance decidableEventClient (commands : List (ControlMessage × DeviceDescriptor)) :
    Decidable (EventClient commands) :=
  inferInstanceAs (Decidable (_ ∧ _))

theorem EventClient.of_concat {commands : List (ControlMessage × DeviceDescriptor)}
    {m : ControlMessage} {d : DeviceDescriptor} (h : EventClient (commands ++ [(m, d)])) :
    m.command ≠ controlMonitor ∧
      (m.command = controlQueryDescriptor ∧ d.present ≠ 0 ∨ EventClient commands) := by
  obtain ⟨⟨x, hx, hq⟩, hno⟩ := h
  refine ⟨hno (m, d) (List.mem_append_right _ (List.mem_singleton.mpr rfl)), ?_⟩
  rcases List.mem_append.mp hx with hx | hx
  · exact Or.inr ⟨⟨x, hx, hq⟩, fun y hy => hno y (List.mem_append_left _ hy)⟩
  · rw [List.mem_singleton.mp hx] at hq
    exact Or.inl hq

/-- The reports of the records among the messages. -/
def reports (ms : List Message) : List ((UInt16 × UInt16) × Int32) :=
  ms.flatMap fun m =>
    match m with
    | .events evs => evs.map InputEvent.report
    | _ => []

theorem reports_append (ms ms' : List Message) : reports (ms ++ ms') = reports ms ++ reports ms' :=
  List.flatMap_append

/-- The value a reader of the messages has for a control: the last one reported. -/
def viewed (ms : List Message) (c : Control) : Int :=
  ((latest (reports ms) c.key).map Int32.toInt).getD 0

theorem viewed_of_tells {s : GamepadState} {ms : List Message} (hs : s.InRange)
    (h : Tells Control.key s.shown (reports ms)) (c : Control) : viewed ms c = s.value c := by
  unfold viewed
  rw [h c]
  exact hs.shown_toInt c

/-! ## 2. Links -/

/-- An event client is connected as one, and its reports tell the state. -/
structure ViewOk (s : GamepadState) (l : Link) : Prop where
  occupied : l.fd ≠ none
  kind : l.kind = .events
  tells : Tells Control.key s.shown (reports l.queued)

def Views (s : GamepadState) (l : Link) : Prop := EventClient l.commands → ViewOk s l

variable {s s' : GamepadState} {d : DeviceDescriptor} {l l' : Link}

theorem views_of_silent (h : l.commands = []) : Views s l := fun hc => by
  obtain ⟨⟨x, hx, -⟩, -⟩ := hc
  rw [h] at hx
  cases hx

/-- Messages that account for the change of the state keep the view. -/
theorem Views.kept {ms : List Message} (h : Views s l) (hk : l.Kept l' ms)
    (hms : l.fd ≠ none → l.kind = .events → Carries Control.key s.shown (reports ms) s'.shown) :
    Views s' l' := by
  rcases hk with rfl | hg
  · exact views_of_silent rfl
  · intro hc
    rw [hg.commands] at hc
    have hok := h hc
    refine ⟨hg.fd ▸ hok.occupied, hg.kind.trans hok.kind, ?_⟩
    rw [hg.queued, reports_append]
    exact hok.tells.carry (hms hok.occupied hok.kind)

/-- **Every handled message keeps it.** -/
theorem Views.handled {m : ControlMessage} (h : Views s l)
    (hh : Link.Handled s d m (l.took m d) l') : Views s l' := by
  cases hh with
  | freed hl =>
    subst hl
    exact views_of_silent rfl
  | rumble hcmd hl =>
    subst hl
    intro hc
    obtain ⟨-, ⟨hq, -⟩ | hc⟩ := hc.of_concat
    · rw [hq] at hcmd
      exact absurd hcmd (by decide)
    · exact ⟨(h hc).occupied, (h hc).kind, (h hc).tells⟩
  | absent hcmd hd hg =>
    intro hc
    rw [hg.commands] at hc
    obtain ⟨-, ⟨-, hp⟩ | hc⟩ := hc.of_concat
    · exact absurd hd hp
    · refine ⟨hg.fd ▸ (h hc).occupied, hg.kind, ?_⟩
      rw [hg.queued, reports_append]
      exact (h hc).tells.carry (Carries.refl _ _)
  | snapshot evs hcmd hd hs hg =>
    intro hc
    refine ⟨fun hfd => ?_, hg.kind, ?_⟩
    · exact List.cons_ne_nil _ _ (hg.connected (hg.fd ▸ hfd))
    · rw [hg.queued, reports_append]
      have hrep : reports [.descriptor d, .events evs] = evs.map InputEvent.report := by
        simp [reports]
      rw [hrep]
      exact snapshot_tells hs _
  | monitor hcmd hg =>
    intro hc
    rw [hg.commands] at hc
    exact absurd hcmd hc.of_concat.1

theorem serveReadable_views (b : Bridge) (i : Slot) (r : RecvResult)
    (h : Views b.state (b.clients i).toLink) :
    Views b.state ((b.serveReadable i r).clients i).toLink :=
  Bridge.serveReadable_inv (P := Views b.state) b i r (fun _ _ hl _ hh => hl.handled hh)
    (views_of_silent rfl) fun hc => ⟨(h hc).occupied, (h hc).kind, (h hc).tells⟩

namespace Bridge

variable {b b' : Bridge}

/-! ## 3. Actions that leave the device alone -/

/-- Every event client sees the state. -/
structure Viewed (b : Bridge) : Prop where
  inRange : b.state.InRange
  views : ∀ i, Views b.state (b.clients i).toLink

/-- The batch of a played event accounts for it. -/
theorem Played.carries {event : XIDeviceEvent} {evs : List InputEvent} (h : b.Played event evs b') :
    Carries Control.key b.state.shown (evs.map InputEvent.report) b'.state.shown := by
  have hb := eventBatch_carries b event
  unfold BatchCarries at hb
  rw [h.state, report_of_body rfl, h.batch]
  split
  · rename_i hnil
    rw [hnil] at hb
    exact hb
  · rw [List.map_append, ← report_of_body rfl]
    exact hb.trans (Carries.mute _ syn_mute 0)

/-- The view of one slot. -/
theorem viewsAt_keeps (i : Slot) :
    Keeps fun b => b.state.InRange ∧ Views b.state (b.clients i).toLink where
  quiet b b' hq h := by
    rw [hq.state]
    exact ⟨h.1, h.2.kept (hq.links i) fun _ _ => Carries.refl _ _⟩
  played b event evs b' hp h := by
    refine ⟨hp.state ▸ eventBatch_inRange h.1 event, h.2.kept (hp.links i) fun hfd hkind => ?_⟩
    have hcarries := hp.carries
    unfold offeredBatch
    split
    · rename_i hnil
      rw [hnil] at hcarries
      exact hcarries
    · have hoff : offered .events (.events evs) (b.clients i).toLink = [.events evs] := by
        unfold offered
        rw [if_pos (by simp [hkind, Option.isSome_iff_ne_none.mpr hfd])]
      rw [hoff]
      simpa [reports] using hcarries
  accepted b r h := by
    obtain ⟨hstate, -⟩ := acceptClient_same b r
    rw [hstate]
    refine ⟨h.1, ?_⟩
    rcases acceptClient_toLink b r i with hl | ⟨c, -, -, -, hl⟩
    · rw [hl]
      exact h.2
    · rw [hl]
      exact views_of_silent rfl
  served b j r _ h := by
    obtain ⟨hframe, hother⟩ := serveReadable_frame b j r
    rw [hframe.state]
    refine ⟨h.1, ?_⟩
    by_cases hj : i = j
    · subst hj
      exact serveReadable_views b i r h.2
    · rw [hother i hj]
      exact h.2

theorem Viewed.of_slots (h : ∀ i, b.state.InRange ∧ Views b.state (b.clients i).toLink) :
    Viewed b := ⟨(h ⟨0, by decide⟩).1, fun i => (h i).2⟩

theorem viewed_keeps : Keeps Viewed where
  quiet b b' hq h := .of_slots fun i => (viewsAt_keeps i).quiet b b' hq ⟨h.inRange, h.views i⟩
  played b event evs b' hp h :=
    .of_slots fun i => (viewsAt_keeps i).played b event evs b' hp ⟨h.inRange, h.views i⟩
  accepted b r h := .of_slots fun i => (viewsAt_keeps i).accepted b r ⟨h.inRange, h.views i⟩
  served b j r hfd h :=
    .of_slots fun i => (viewsAt_keeps i).served b j r hfd ⟨h.inRange, h.views i⟩

/-! ## 4. Device changes -/

/-- A refresh takes the device away: there was one, and it is not the one found. -/
def Takes (b : Bridge) (answer : DeviceAnswer) : Prop :=
  0 ≤ b.lorieDeviceId ∧ ∀ f, (b.findLorieDevice answer).2 = some f → b.sameDevice f = false

/-- A broadcast leaves the clients of other kinds alone. -/
theorem broadcast_other (b : Bridge) {kind : ClientKind} (m : Message) {i : Slot}
    (hk : (b.clients i).kind ≠ kind) :
    ((b.broadcast kind m).clients i).toLink = (b.clients i).toLink := by
  unfold broadcast
  refine sweep_inv (P := fun b' : Bridge => (b'.clients i).toLink = (b.clients i).toLink)
    (fun b' j hb' => ?_) rfl
  split
  · rename_i hif
    have hij : i ≠ j := by
      rintro rfl
      obtain ⟨-, hj⟩ := Bool.and_eq_true_iff.mp hif
      exact hk ((congrArg Link.kind hb').symm.trans (beq_iff_eq.mp hj))
    rw [queueOrClose_toLink_ne b' hij m]
    exact hb'
  · exact hb'

/-- **A device change leaves every client alone that does not monitor.** -/
theorem refresh_other (b : Bridge) (answer : DeviceAnswer) {i : Slot}
    (hk : (b.clients i).kind ≠ .monitor) :
    ((b.refreshLorieDevice answer).clients i).toLink = (b.clients i).toLink := by
  have hkind : ∀ {b' : Bridge}, (b'.clients i).toLink = (b.clients i).toLink →
      (b'.clients i).kind ≠ .monitor := fun h => by
    rw [congrArg Link.kind h]
    exact hk
  refine refreshLorieDevice_inv (P := fun b' => (b'.clients i).toLink = (b.clients i).toLink)
    answer (fun b' hs => ?_) (fun b' _ h => ?_) fun b' f _ _ h => ?_
  · obtain ⟨reqs, rfl, -⟩ := hs
    rfl
  · rw [removeDevice_eq, broadcastHotplug, broadcast_other b'.gone _ (hkind h)]
    exact h
  · rw [addDevice_eq, broadcastHotplug, broadcast_other (b'.came f) _ (hkind h)]
    exact h

/-- A monitor is no event client afterwards. -/
theorem refresh_commands (b : Bridge) (answer : DeviceAnswer) (i : Slot) :
    ((b.refreshLorieDevice answer).clients i).commands = (b.clients i).commands ∨
      ((b.refreshLorieDevice answer).clients i).commands = [] := by
  have hsend : ∀ b' : Bridge, ∀ m, ((b'.broadcast .monitor m).clients i).commands =
      (b'.clients i).commands ∨ ((b'.broadcast .monitor m).clients i).commands = [] := by
    intro b' m
    rcases broadcast_kept b' .monitor m i with h | h
    · exact Or.inr (congrArg Link.commands h)
    · exact Or.inl h.commands
  have hor : ∀ {x y z : List (ControlMessage × DeviceDescriptor)}, x = y ∨ x = [] →
      y = z ∨ y = [] → x = z ∨ x = [] := by
    rintro x y z (rfl | rfl) h
    · exact h
    · exact Or.inr rfl
  refine refreshLorieDevice_inv (P := fun b' => (b'.clients i).commands = (b.clients i).commands ∨
    (b'.clients i).commands = []) answer (fun b' hs => ?_) (fun b' _ h => ?_) fun b' f _ _ h => ?_
  · obtain ⟨reqs, rfl, -⟩ := hs
    exact Or.inl rfl
  · exact hor (hsend b'.gone _) h
  · exact hor (hsend (b'.came f) _) h

theorem withoutDevice_state (b : Bridge) :
    b.withoutDevice.state = if 0 ≤ b.lorieDeviceId then GamepadState.zero else b.state := by
  unfold withoutDevice
  split
  · rw [removeDevice_eq]
    exact (frame_parts.broadcast b.gone ..).state
  · rfl

/-- **A device change clears the state exactly if it takes the device away.** -/
theorem refresh_state (b : Bridge) (answer : DeviceAnswer) :
    (b.Takes answer → (b.refreshLorieDevice answer).state = GamepadState.zero) ∧
      (¬b.Takes answer → (b.refreshLorieDevice answer).state = b.state) := by
  have hsearch : (b.findLorieDevice answer).1.state = b.state ∧
      (b.findLorieDevice answer).1.lorieDeviceId = b.lorieDeviceId := by
    obtain ⟨reqs, h, -⟩ := findLorieDevice_searched b answer
    rw [h]
    exact ⟨rfl, rfl⟩
  have hgone : (b.findLorieDevice answer).1.withoutDevice.state =
      if 0 ≤ b.lorieDeviceId then GamepadState.zero else b.state := by
    rw [withoutDevice_state, hsearch.1, hsearch.2]
  have hadd : ∀ (b' : Bridge) f, (b'.addDevice f).state = b'.state := fun b' f => by
    rw [addDevice_eq]
    exact (frame_parts.broadcast (b'.came f) ..).state
  rcases refreshLorieDevice_cases b answer with ⟨f, hf, hsame, he⟩ | ⟨hno, he⟩
  · rw [findLorieDevice_sameDevice] at hsame
    rw [he, hsearch.1]
    refine ⟨fun ht => ?_, fun _ => rfl⟩
    rw [ht.2 f hf] at hsame
    cases hsame
  · have hstate : (b.refreshLorieDevice answer).state =
        if 0 ≤ b.lorieDeviceId then GamepadState.zero else b.state := by
      rcases he with he | ⟨f, -, -, -, he⟩
      · rw [he, hgone]
      · rw [he, hadd, hgone]
    rw [hstate]
    refine ⟨fun ht => if_pos ht.1, fun ht => if_neg fun hid => ht ⟨hid, fun f hf => ?_⟩⟩
    rw [← findLorieDevice_sameDevice b answer]
    exact hno f hf

/-- At rest every control shows nothing. -/
theorem zero_value (c : Control) : GamepadState.zero.value c = 0 := by
  cases c with
  | axis i => rfl
  | button k => revert k; decide
  | _ => rfl

/-- A device change leaves an event client alone: it sees the state if that shows the same. -/
theorem refresh_views {answer : DeviceAnswer} {i : Slot}
    (h : Views b.state (b.clients i).toLink)
    (hshown : EventClient (b.clients i).commands →
      (b.refreshLorieDevice answer).state.shown = b.state.shown) :
    Views (b.refreshLorieDevice answer).state ((b.refreshLorieDevice answer).clients i).toLink := by
  intro hc
  have hold : EventClient (b.clients i).commands := by
    rcases refresh_commands b answer i with hcmds | hcmds <;> rw [hcmds] at hc
    · exact hc
    · obtain ⟨⟨x, hx, -⟩, -⟩ := hc
      cases hx
  have hok := h hold
  have hlink : ((b.refreshLorieDevice answer).clients i).toLink = (b.clients i).toLink :=
    refresh_other b answer (by rw [hok.kind]; exact ClientKind.noConfusion)
  rw [hlink]
  exact ⟨hok.occupied, hok.kind, hshown hold ▸ hok.tells⟩

/-- A device change that takes no device away, or clears a state nobody sees, or one at rest,
    keeps the views. -/
theorem refresh_viewed (h : Viewed b) {answer : DeviceAnswer}
    (hspares : b.Takes answer → (∃ i, EventClient (b.clients i).commands) →
      ∀ c, b.state.value c = 0) : Viewed (b.refreshLorieDevice answer) := by
  obtain ⟨htakes, hkeeps⟩ := refresh_state b answer
  refine ⟨?_, fun i => refresh_views (h.views i) fun hc => ?_⟩
  · by_cases ht : b.Takes answer
    · rw [htakes ht]
      exact GamepadState.zero_inRange
    · rw [hkeeps ht]
      exact h.inRange
  · by_cases ht : b.Takes answer
    · rw [htakes ht]
      funext c
      unfold GamepadState.shown
      rw [zero_value, hspares ht ⟨i, hc⟩ c]
    · rw [hkeeps ht]

/-! ## 5. Runs -/

/-- For every event client, the records queued for it give every control the value it has. -/
def Agrees (b : Bridge) : Prop :=
  ∀ i, EventClient (b.clients i).commands →
    ∀ c, viewed (b.clients i).queued c = b.state.value c

/-- The step clears no state that an event client sees: it takes no device away, or there is no
    such client, or every control is at rest. -/
def Spares (b : Bridge) (inp : Input) : Prop :=
  ∀ answer, inp.action = .xEvent (.hierarchyChanged answer) →
    (b.withEnv inp.sends inp.ticks inp.stamps).Takes answer →
    (∃ i, EventClient (b.clients i).commands) → ∀ c, b.state.value c = 0

theorem Viewed.agrees (h : Viewed b) : Agrees b := fun i hc c =>
  viewed_of_tells h.inRange (h.views i hc).tells c

/-- **One step.** -/
theorem Viewed.step (h : Viewed b) {inp : Input} (hspares : b.Spares inp) : Viewed (b.step inp) := by
  have h' : Viewed (b.withEnv inp.sends inp.ticks inp.stamps) :=
    viewed_keeps.quiet b _ (withEnv_quiet b ..) h
  show Viewed ((b.withEnv inp.sends inp.ticks inp.stamps).act inp.action)
  by_cases ha : inp.action.looks = true
  · obtain ⟨answer, ha⟩ := Action.looks_eq ha
    rw [ha]
    exact refresh_viewed h' fun ht hclient => hspares answer ha ht hclient
  · exact viewed_keeps.act (Bool.not_eq_true _ ▸ ha) h'

/-- **A client that saw the state sees a removal only if it was at rest.** -/
theorem Viewed.spares (h : Viewed b) {inp : Input} (hagrees : Agrees (b.step inp)) : b.Spares inp := by
  rintro answer ha ht ⟨i, hc⟩ c
  have hok := h.views i hc
  have hstep : b.step inp =
      (b.withEnv inp.sends inp.ticks inp.stamps).refreshLorieDevice answer := by
    rw [Bridge.step, ha]
    rfl
  have hlink : ((b.step inp).clients i).toLink = (b.clients i).toLink := by
    rw [hstep]
    refine refresh_other (b.withEnv inp.sends inp.ticks inp.stamps) answer ?_
    show (b.clients i).kind ≠ .monitor
    rw [hok.kind]
    exact ClientKind.noConfusion
  have hseen := hagrees i (by rw [congrArg Link.commands hlink]; exact hc) c
  rw [congrArg Link.queued hlink, h.agrees i hc c, hstep,
    (refresh_state (b.withEnv inp.sends inp.ticks inp.stamps) answer).1 ht] at hseen
  rw [hseen]
  exact zero_value c

theorem boot_viewed (opcode : Int) (answer : DeviceAnswer) : Viewed (boot opcode answer) := by
  have hinit : Viewed (Bridge.init opcode) :=
    ⟨GamepadState.zero_inRange, fun _ => views_of_silent rfl⟩
  unfold boot
  split
  · refine refresh_viewed hinit ?_
    rintro - ⟨i, ⟨x, hx, -⟩, -⟩
    cases hx
  · exact hinit

/-- Clients see the state all along a run whose steps spare what is seen. -/
theorem run_viewed {opcode : Int} {answer : DeviceAnswer} {inputs : List Input}
    (hspares : ∀ pre inp post, inputs = pre ++ inp :: post →
      Viewed (run step (boot opcode answer) pre) → Spares (run step (boot opcode answer) pre) inp)
    (pre post : List Input) (heq : inputs = pre ++ post) :
    Viewed (run step (boot opcode answer) pre) := by
  induction pre using List.reverseRecOn generalizing post with
  | nil => exact boot_viewed opcode answer
  | append_singleton pre inp ih =>
    have heq' : inputs = pre ++ inp :: post := by rw [heq, List.append_assoc, List.singleton_append]
    have h := ih _ heq'
    rw [run_concat]
    exact h.step (hspares pre inp post heq' h)

/-- **The event clients' replicas**: in every state of a run, the records queued for each event
    client give every axis, hat and button the value the bridge has, exactly if no step of the run
    takes the device away while an event client sees a control that is not at rest. -/
theorem replica_agrees_iff (opcode : Int) (answer : DeviceAnswer) (inputs : List Input) :
    (∀ pre post, inputs = pre ++ post → Agrees (run step (boot opcode answer) pre)) ↔
      ∀ pre inp post, inputs = pre ++ inp :: post →
        Spares (run step (boot opcode answer) pre) inp := by
  constructor
  · intro hagrees
    have hnext : ∀ pre inp post, inputs = pre ++ inp :: post →
        Viewed (run step (boot opcode answer) pre) →
        Spares (run step (boot opcode answer) pre) inp := by
      intro pre inp post heq h
      refine h.spares ?_
      rw [← run_concat step]
      exact hagrees (pre ++ [inp]) post (by rw [heq, List.append_assoc, List.singleton_append])
    exact fun pre inp post heq => hnext pre inp post heq (run_viewed hnext pre _ heq)
  · exact fun hspares pre post heq =>
      (run_viewed (fun pre inp post heq _ => hspares pre inp post heq) pre post heq).agrees

/-- A client asks for the descriptor, the left stick moves, the gamepad is unplugged. -/
def stickUnplugged : List Input :=
  [quietly (.accept (.conn 0 true)),
    quietly (.readable slot0 (.data (commandBytes controlQueryDescriptor))),
    quietly (.xEvent (.device ⟨.motion, 5, 5, 0, [true], [1000]⟩)),
    quietly (.xEvent (.hierarchyChanged noAnswer))]

/-- **The stick stays deflected** for the client, while the bridge has it at rest. -/
theorem replica_stuck :
    EventClient ((run step (boot 1 padAnswer) stickUnplugged).clients slot0).commands ∧
      viewed ((run step (boot 1 padAnswer) stickUnplugged).clients slot0).queued (.axis 0) = 1000 ∧
      (run step (boot 1 padAnswer) stickUnplugged).state.value (.axis 0) = 0 ∧
      ¬ ∀ opcode answer inputs, Agrees (run step (boot opcode answer) inputs) := by
  have hclient : EventClient ((run step (boot 1 padAnswer) stickUnplugged).clients slot0).commands := by
    decide +kernel
  have hseen : viewed ((run step (boot 1 padAnswer) stickUnplugged).clients slot0).queued (.axis 0) =
      1000 := by decide +kernel
  have hstate : (run step (boot 1 padAnswer) stickUnplugged).state.value (.axis 0) = 0 := by
    decide +kernel
  refine ⟨hclient, hseen, hstate, fun h => ?_⟩
  have := h 1 padAnswer stickUnplugged slot0 hclient (.axis 0)
  rw [hseen, hstate] at this
  exact absurd this (by decide)

end Bridge

end TermuxGamepad
