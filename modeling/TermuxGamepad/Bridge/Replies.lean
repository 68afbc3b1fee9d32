/-
  File:      TermuxGamepad/Bridge/Replies.lean
  Subject:   A connection that brings one command, and what the bridge sends on it.

  The library opens a connection for one command, MONITOR or QUERY_DESCRIPTOR. `Link.Serves` says
  what the record of such a connection is, before the command is whole and after: nothing is
  queued, or the descriptor and batches, or hotplug messages. `act_slot` is the inversion of an
  action from the side of one slot; with it every action keeps `Serves`, and no action takes back
  what was queued.
-/
import TermuxGamepad.Bridge.Monitor
import TermuxGamepad.Bridge.Replica

namespace TermuxGamepad

open Wire

variable {l l' : Link}

/-! ## 1. What joins a link -/

/-- What an action other than a receive call queues on a link. -/
inductive Link.Offer (l : Link) : List Message → Prop where
  | nothing : Link.Offer l []
  | batch (evs : List InputEvent) (hkind : l.kind = .events) : Link.Offer l [.events evs]
  | hotplug (ms : List HotplugMessage) (hkind : l.kind = .monitor) :
      Link.Offer l (ms.map .hotplug)

/-- What was sent and what is buffered is what was queued. -/
def Link.Whole (l : Link) : Prop := l.sent ++ l.output = l.queued.flatMap Message.bytes

theorem Link.Whole.grew {ms : List Message} (h : l.Whole) (hg : l.Grew l' ms) : l'.Whole := by
  unfold Whole at h ⊢
  rw [hg.stream, hg.queued, List.flatMap_append, h]

theorem Link.Whole.kept {ms : List Message} (h : l.Whole) (hk : l.Kept l' ms) : l'.Whole := by
  rcases hk with rfl | hg
  · rfl
  · exact h.grew hg

theorem Link.Whole.handled {s : GamepadState} {d : DeviceDescriptor} {m : ControlMessage}
    (h : l.Whole) (hh : Link.Handled s d m (l.took m d) l') : l'.Whole := by
  cases hh with
  | freed hl => subst hl; rfl
  | rumble _ hl => subst hl; exact h
  | absent _ _ hg => exact Link.Whole.grew (l := { l.took m d with kind := .events }) h hg
  | snapshot _ _ _ _ hg => exact Link.Whole.grew (l := { l.took m d with kind := .events }) h hg
  | monitor _ hg => exact Link.Whole.grew (l := { l.took m d with kind := .monitor }) h hg

theorem flatMap_hotplugs (ms : List HotplugMessage) :
    (ms.map Message.hotplug).flatMap Message.bytes = hotplugMessageCodec.encAll ms :=
  List.flatMap_map ..

theorem flatMap_batches (batches : List (List InputEvent)) :
    (batches.map Message.events).flatMap Message.bytes = inputEventCodec.encAll batches.flatten := by
  induction batches with
  | nil => rfl
  | cons evs batches ih =>
    rw [List.map_cons, List.flatMap_cons, ih, List.flatten_cons, inputEventCodec.encAll_append]
    rfl

/-! ## 2. One command -/

/-- The record of a connection on which the bytes `taken` of the command `m` have arrived. -/
inductive Link.Serves (m : ControlMessage) (taken : List UInt8) (l : Link) : Prop where
  | waiting (hcommands : l.commands = []) (hcontrol : l.control = taken)
      (hkind : l.kind = .uninitialized) (hqueued : l.queued = [])
  | stream (d : DeviceDescriptor) (batches : List (List InputEvent))
      (hm : m.command = controlQueryDescriptor) (htaken : taken = controlMessageCodec.enc m)
      (hcommands : l.commands = [(m, d)]) (hcontrol : l.control = []) (hkind : l.kind = .events)
      (hqueued : l.queued = .descriptor d :: batches.map .events)
  | monitor (d : DeviceDescriptor) (ms : List HotplugMessage) (hm : m.command = controlMonitor)
      (htaken : taken = controlMessageCodec.enc m) (hcommands : l.commands = [(m, d)])
      (hcontrol : l.control = []) (hkind : l.kind = .monitor) (hqueued : l.queued = ms.map .hotplug)

variable {m : ControlMessage} {taken : List UInt8}

theorem serves_accepted (m : ControlMessage) (c : Conn) :
    (Bridge.acceptedClient c).toLink.Serves m [] := .waiting rfl rfl rfl rfl

theorem Link.Serves.kept {ms : List Message} (h : l.Serves m taken) (ho : l.Offer ms)
    (hk : l.Kept l' ms) : l' = Link.free ∨ l'.Serves m taken := by
  refine hk.imp_right fun hg => ?_
  have hqueued := hg.queued
  cases h with
  | waiting hcommands hcontrol hkind hq =>
    have hms : ms = [] := by
      cases ho with
      | nothing => rfl
      | batch evs hk' => rw [hkind] at hk'; cases hk'
      | hotplug hs hk' => rw [hkind] at hk'; cases hk'
    rw [hq, hms] at hqueued
    exact .waiting (hg.commands.trans hcommands) (hg.control.trans hcontrol) (hg.kind.trans hkind)
      hqueued
  | stream d batches hm htaken hcommands hcontrol hkind hq =>
    have hms : ∃ more : List (List InputEvent), ms = more.map .events := by
      cases ho with
      | nothing => exact ⟨[], rfl⟩
      | batch evs _ => exact ⟨[evs], rfl⟩
      | hotplug hs hk' => rw [hkind] at hk'; cases hk'
    obtain ⟨more, rfl⟩ := hms
    refine .stream d (batches ++ more) hm htaken (hg.commands.trans hcommands)
      (hg.control.trans hcontrol) (hg.kind.trans hkind) ?_
    rw [hqueued, hq, List.map_append, List.cons_append]
  | monitor d hs hm htaken hcommands hcontrol hkind hq =>
    have hms : ∃ more : List HotplugMessage, ms = more.map .hotplug := by
      cases ho with
      | nothing => exact ⟨[], rfl⟩
      | batch evs hk' => rw [hkind] at hk'; cases hk'
      | hotplug more _ => exact ⟨more, rfl⟩
    obtain ⟨more, rfl⟩ := hms
    refine .monitor d (hs ++ more) hm htaken (hg.commands.trans hcommands)
      (hg.control.trans hcontrol) (hg.kind.trans hkind) ?_
    rw [hqueued, hq, List.map_append]

/-- Sixteen bytes of a command are the command. -/
theorem prefix_whole {bs : List UInt8} (h : bs <+: controlMessageCodec.enc m)
    (hlen : 16 ≤ bs.length) : bs = controlMessageCodec.enc m :=
  h.eq_of_length_le (by rw [controlMessageCodec.enc_length]; exact hlen)

/-- **The command is handled** as soon as it is whole. -/
theorem Link.Serves.handled {s : GamepadState} {d : DeviceDescriptor} (h : l.Serves m taken)
    (hfit : taken <+: controlMessageCodec.enc m) (hlen : 16 ≤ l.control.length)
    (hm : m.command = controlQueryDescriptor ∨ m.command = controlMonitor)
    (hh : Link.Handled s d (controlMessageCodec.dec l.control)
      (l.took (controlMessageCodec.dec l.control) d) l') :
    l' = Link.free ∨ l'.Serves m taken := by
  cases h with
  | waiting hcommands hcontrol hkind hq =>
    have hwhole : taken = controlMessageCodec.enc m := prefix_whole hfit (hcontrol ▸ hlen)
    have hdec : controlMessageCodec.dec l.control = m := by
      rw [hcontrol, hwhole, controlMessageCodec.dec_enc]
    rw [hdec] at hh
    have htook : (l.took m d).commands = [(m, d)] ∧ (l.took m d).control = [] := by
      refine ⟨by rw [Link.took, hcommands]; rfl, ?_⟩
      show l.control.drop 16 = []
      rw [hcontrol, hwhole]
      exact List.drop_eq_nil_of_le (Nat.le_of_eq (controlMessageCodec.enc_length m))
    cases hh with
    | freed hl => exact Or.inl hl
    | rumble hc _ =>
      rcases hm with hm | hm <;> rw [hm] at hc <;> exact absurd hc (by decide)
    | absent hc _ hg =>
      refine Or.inr (.stream d [] hc hwhole (hg.commands.trans htook.1) (hg.control.trans htook.2)
        hg.kind ?_)
      rw [hg.queued]
      exact congrArg (· ++ [Message.descriptor d]) hq
    | snapshot evs hc _ _ hg =>
      refine Or.inr (.stream d [evs] hc hwhole (hg.commands.trans htook.1)
        (hg.control.trans htook.2) hg.kind ?_)
      rw [hg.queued]
      exact congrArg (· ++ [Message.descriptor d, .events evs]) hq
    | monitor hc hg =>
      refine Or.inr (.monitor d [monitorReply d] hc hwhole (hg.commands.trans htook.1)
        (hg.control.trans htook.2) hg.kind ?_)
      rw [hg.queued]
      exact congrArg (· ++ [Message.hotplug (monitorReply d)]) hq
  | stream d' batches hm' htaken hcommands hcontrol hkind hq =>
    rw [hcontrol] at hlen
    exact absurd hlen (by decide)
  | monitor d' ms hm' htaken hcommands hcontrol hkind hq =>
    rw [hcontrol] at hlen
    exact absurd hlen (by decide)

namespace Bridge

variable {b : Bridge} {i : Slot}

/-- **A receive call** on a connection that brings nothing but the command. -/
theorem serveReadable_serves (h : (b.clients i).toLink.Serves m taken)
    (hm : m.command = controlQueryDescriptor ∨ m.command = controlMonitor) (r : RecvResult)
    (hfit : taken ++ received (b.clients i).toLink r <+: controlMessageCodec.enc m) :
    ((b.serveReadable i r).clients i).toLink = Link.free ∨
      ((b.serveReadable i r).clients i).toLink.Serves m
        (taken ++ received (b.clients i).toLink r) := by
  refine serveReadable_inv (P := fun l => l = Link.free ∨
    l.Serves m (taken ++ received (b.clients i).toLink r)) b i r (fun l l' hl hlen hh => ?_)
    (Or.inl rfl) (Or.inr ?_)
  · rcases hl with rfl | hl
    · exact absurd hlen (by decide)
    · exact hl.handled hfit hlen hm hh
  · have hdone : taken = controlMessageCodec.enc m → received (b.clients i).toLink r = [] := by
      intro htaken
      rw [htaken] at hfit
      have hlen := hfit.length_le
      rw [List.length_append] at hlen
      exact List.eq_nil_of_length_eq_zero (by omega)
    cases h with
    | waiting hcommands hcontrol hkind hq =>
      exact .waiting hcommands (congrArg (· ++ received (b.clients i).toLink r) hcontrol) hkind hq
    | stream d batches hm' htaken hcommands hcontrol hkind hq =>
      rw [hdone htaken, List.append_nil, List.append_nil]
      exact .stream d batches hm' htaken hcommands hcontrol hkind hq
    | monitor d ms hm' htaken hcommands hcontrol hkind hq =>
      rw [hdone htaken, List.append_nil, List.append_nil]
      exact .monitor d ms hm' htaken hcommands hcontrol hkind hq

/-! ## 3. An action, seen from one slot -/

/-- A hotplug message that goes to every monitor. -/
theorem broadcastHotplug_kept (b : Bridge) (action : UInt8) (i : Slot) :
    ∃ ms : List HotplugMessage, (b.clients i).toLink.Kept
        ((b.broadcastHotplug action).clients i).toLink (ms.map .hotplug) ∧
      (∀ m ∈ ms, m = b.hotplugMessage action) ∧ (ms ≠ [] → (b.clients i).kind = .monitor) ∧
      ((b.clients i).fd ≠ none → (b.clients i).kind = .monitor → ms ≠ []) := by
  have hk := broadcast_kept b .monitor (.hotplug (b.hotplugMessage action)) i
  unfold offered at hk
  split at hk
  · rename_i hif
    obtain ⟨-, hkind⟩ := Bool.and_eq_true_iff.mp hif
    exact ⟨[b.hotplugMessage action], hk, fun m hm => List.mem_singleton.mp hm,
      fun _ => beq_iff_eq.mp hkind, fun _ _ => List.cons_ne_nil _ _⟩
  · rename_i hif
    refine ⟨[], hk, fun m hm => absurd hm List.not_mem_nil, fun h => absurd rfl h, ?_⟩
    intro hfd hkind
    exact absurd (by simp [Option.isSome_iff_ne_none.mpr hfd, hkind]) hif

/-- **A device change tells the monitors**, and a removal tells them that nothing is there. -/
theorem refresh_kept (b : Bridge) (answer : DeviceAnswer) (i : Slot) :
    ∃ ms : List HotplugMessage, (b.clients i).toLink.Kept
        ((b.refreshLorieDevice answer).clients i).toLink (ms.map .hotplug) ∧
      (ms ≠ [] → (b.clients i).kind = .monitor) ∧
      (b.Takes answer → (b.clients i).fd ≠ none → (b.clients i).kind = .monitor →
        ∃ m ∈ ms, m.descriptor.present = 0) := by
  obtain ⟨reqs, hsearch, -⟩ := findLorieDevice_searched b answer
  have hgone : ∃ ms : List HotplugMessage, (b.clients i).toLink.Kept
        ((b.findLorieDevice answer).1.withoutDevice.clients i).toLink (ms.map .hotplug) ∧
      (ms ≠ [] → (b.clients i).kind = .monitor) ∧
      (b.Takes answer → (b.clients i).fd ≠ none → (b.clients i).kind = .monitor →
        ∃ m ∈ ms, m.descriptor.present = 0) := by
    unfold withoutDevice
    rw [hsearch]
    split
    · obtain ⟨ms, hk, hms, hkind, hfull⟩ :=
        broadcastHotplug_kept (gone { b with log := b.log ++ reqs }) hotplugRemove i
      refine ⟨ms, hk, hkind, fun _ hfd hmon => ?_⟩
      obtain ⟨m, rest, rfl⟩ := List.exists_cons_of_ne_nil (hfull hfd hmon)
      refine ⟨m, List.mem_cons_self, ?_⟩
      rw [hms m List.mem_cons_self]
      rfl
    · rename_i hid
      exact ⟨[], .refl _, fun h => absurd rfl h, fun ht => absurd ht.1 hid⟩
  rcases refreshLorieDevice_cases b answer with ⟨f, hf, hsame, he⟩ | ⟨-, he | ⟨f, -, -, -, he⟩⟩
  · rw [he]
    refine ⟨[], ?_, fun h => absurd rfl h, fun ht => ?_⟩
    · rw [hsearch]
      exact .refl _
    · rw [findLorieDevice_sameDevice, ht.2 f hf] at hsame
      cases hsame
  · rw [he]
    exact hgone
  · obtain ⟨ms, hk, hkind, hnone⟩ := hgone
    obtain ⟨ms', hk', -, hkind', -⟩ := broadcastHotplug_kept
      ((b.findLorieDevice answer).1.withoutDevice.came f) hotplugAdd i
    rw [he, addDevice_eq]
    rcases hk with hfree | hg
    · have hlink : (((b.findLorieDevice answer).1.withoutDevice.came f).clients i).toLink =
          Link.free := hfree
      rw [hlink] at hk'
      exact ⟨ms, Or.inl hk'.ofFree, hkind, hnone⟩
    · refine ⟨ms ++ ms', ?_, fun hne => ?_, fun ht hfd hmon => ?_⟩
      · rw [List.map_append]
        exact hk'.imp_right hg.trans
      · by_cases hms : ms = []
        · have hms' : ms' ≠ [] := fun h => hne (by rw [hms, h]; rfl)
          exact hg.kind.symm.trans (hkind' hms')
        · exact hkind hms
      · obtain ⟨m, hm, hp⟩ := hnone ht hfd hmon
        exact ⟨m, List.mem_append_left _ hm, hp⟩

/-- **The inversion of an action** from the side of one slot: a new connection takes it, a receive
    call is on it, or the connection stays and something joins its queue. -/
theorem act_slot (b : Bridge) (a : Action) (i : Slot) :
    (∃ c, c ∉ b.seen ∧ ((b.act a).clients i).toLink = (acceptedClient c).toLink) ∨
      (∃ r, a = .readable i r ∧ (b.clients i).fd ≠ none ∧ b.act a = b.serveReadable i r) ∨
      ∃ ms, (b.clients i).toLink.Offer ms ∧
        (b.clients i).toLink.Kept ((b.act a).clients i).toLink ms ∧
        ∀ r, a = .readable i r → (b.clients i).fd = none := by
  by_cases hread : ∃ r, a = .readable i r ∧ (b.clients i).fd ≠ none
  · obtain ⟨r, rfl, hfd⟩ := hread
    exact Or.inr (Or.inl ⟨r, rfl, hfd, if_pos (Option.isSome_iff_ne_none.mpr hfd)⟩)
  have hno : ∀ r, a = .readable i r → (b.clients i).fd = none := fun r hr =>
    not_not.mp fun hfd => hread ⟨r, hr, hfd⟩
  by_cases ha : a.looks = true
  · obtain ⟨answer, rfl⟩ := Action.looks_eq ha
    obtain ⟨ms, hk, hkind, -⟩ := refresh_kept b answer i
    refine Or.inr (Or.inr ⟨ms.map .hotplug, ?_, hk, hno⟩)
    by_cases hms : ms = []
    · rw [hms]
      exact .nothing
    · exact .hotplug ms (hkind hms)
  rcases act_turn b (Bool.not_eq_true _ ▸ ha) with hq | ⟨event, evs, -, hp⟩ | ⟨r, -, he⟩ |
    ⟨j, r, rfl, hfd, he⟩
  · exact Or.inr (Or.inr ⟨[], .nothing, hq.links i, hno⟩)
  · refine Or.inr (Or.inr ⟨_, ?_, hp.links i, hno⟩)
    unfold offeredBatch offered
    split
    · exact .nothing
    · split
      · rename_i hif
        obtain ⟨-, hkind⟩ := Bool.and_eq_true_iff.mp hif
        exact .batch evs (beq_iff_eq.mp hkind)
      · exact .nothing
  · rw [he]
    rcases acceptClient_toLink b r i with hl | ⟨c, -, hnew, -, hl⟩
    · exact Or.inr (Or.inr ⟨[], .nothing, by rw [hl]; exact .refl _, hno⟩)
    · exact Or.inl ⟨c, hnew, hl⟩
  · have hj : i ≠ j := by
      rintro rfl
      exact hread ⟨r, rfl, Option.isSome_iff_ne_none.mp hfd⟩
    refine Or.inr (Or.inr ⟨[], .nothing, ?_, hno⟩)
    rw [he, (serveReadable_frame b j r).2 i hj]
    exact .refl _

/-- No connection is forgotten. -/
theorem act_seen (b : Bridge) (a : Action) : b.seen ⊆ (b.act a).seen := by
  have hsame : ∀ {b' : Bridge}, b'.seen = b.seen → b.seen ⊆ b'.seen := fun h => by
    rw [h]
    exact List.Subset.refl _
  have hclose : ∀ (b' : Bridge) j, b'.seen = b.seen → (b'.closeClient j).seen = b.seen :=
    fun b' j h => (frame_parts.close b' j).seen.trans h
  cases a with
  | xEvent e => exact hsame (dispatchXEvent_seen b e)
  | accept r => exact (acceptClient_same b r).2.2.2.2.2
  | writable i =>
    show b.seen ⊆ (if (b.clients i).fd.isSome then b.serveWritable i else b).seen
    split
    · have hflush := (frame_parts.flushClient b i).seen
      unfold serveWritable
      dsimp only
      split
      · exact hsame hflush
      · exact hsame (hclose _ i hflush)
    · exact List.Subset.refl _
  | readable i r =>
    show b.seen ⊆ (if (b.clients i).fd.isSome then b.serveReadable i r else b).seen
    split
    · exact hsame (serveReadable_frame b i r).1.seen
    · exact List.Subset.refl _
  | hangup i =>
    show b.seen ⊆ (if (b.clients i).fd.isSome then b.hangUp i else b).seen
    split
    · exact hsame (hclose _ i (emitFor_frame b i _).seen)
    · exact List.Subset.refl _
  | tick => exact hsame (frame_blind.updateRumble b false).seen

/-! ## 4. Connections -/

/-- The bytes an action takes off a connection. -/
def takes (b : Bridge) (a : Action) (c : Conn) : List UInt8 :=
  match a with
  | .readable i r => if (b.clients i).fd = some c then received (b.clients i).toLink r else []
  | _ => []

/-- The connection has brought the bytes `taken` of the command `m`, and nothing else. -/
structure ServesOn (b : Bridge) (c : Conn) (m : ControlMessage) (taken : List UInt8) : Prop where
  slot : ∀ i, (b.clients i).fd = some c → (b.clients i).toLink.Serves m taken
  unseen : c ∉ b.seen → taken = []

variable {a : Action} {c e : Conn}

theorem takes_unseen (ht : Tracked b) (a : Action) (hc : c ∉ b.seen) : b.takes a c = [] := by
  unfold takes
  split
  · exact if_neg fun hfd => hc (ht.isSeen _ c hfd)
  · rfl

/-- Who is in a slot after an action, and was seen before, was there before. -/
theorem act_stayed (hc : ((b.act a).clients i).fd = some c) (hseen : c ∈ b.seen) :
    (b.clients i).fd = some c ∧ ∃ ms, ((b.act a).clients i).queued = (b.clients i).queued ++ ms := by
  have hold : (b.clients i).fd = some c := by
    by_contra hne
    exact (act_takes hc hne).1 hseen
  refine ⟨hold, ?_⟩
  rcases act_slot b a i with ⟨c', hnew, hl⟩ | ⟨r, -, -, he⟩ | ⟨ms, -, hk, -⟩
  · obtain rfl : c' = c := Option.some.inj ((congrArg Link.fd hl).symm.trans hc)
    exact absurd hseen hnew
  · rw [he] at hc ⊢
    have hgrows := serveReadable_inv (P := fun l => l.fd = some c →
        ∃ ms, l.queued = (b.clients i).queued ++ ms) b i r (fun l l' hl _ hh hfd => ?_)
      (fun h => by cases h) fun _ => ⟨[], (List.append_nil _).symm⟩
    · exact hgrows hc
    · have hmore : ∀ {l₀ : Link} {ms}, l₀.Grew l' ms → l₀.fd = l.fd → l₀.queued = l.queued →
          ∃ ms, l'.queued = (b.clients i).queued ++ ms := by
        intro l₀ ms hg hfd₀ hq₀
        obtain ⟨ms', hms'⟩ := hl (hfd₀.symm.trans (hg.fd.symm.trans hfd))
        exact ⟨ms' ++ ms, by rw [hg.queued, hq₀, hms', List.append_assoc]⟩
      cases hh with
      | freed h => rw [h] at hfd; cases hfd
      | rumble _ h =>
        subst h
        exact hl hfd
      | absent _ _ hg => exact hmore hg rfl rfl
      | snapshot _ _ _ _ hg => exact hmore hg rfl rfl
      | monitor _ hg => exact hmore hg rfl rfl
  · rcases hk with hfree | hg
    · rw [congrArg Link.fd hfree] at hc
      cases hc
    · exact ⟨ms, hg.queued⟩

/-- **Every action keeps it**, as long as the connection brings nothing but the command. -/
theorem ServesOn.act (h : b.ServesOn c m taken) (ht : Tracked b)
    (hm : m.command = controlQueryDescriptor ∨ m.command = controlMonitor)
    (hfit : taken ++ b.takes a c <+: controlMessageCodec.enc m) :
    (b.act a).ServesOn c m (taken ++ b.takes a c) := by
  refine ⟨fun i hc => ?_, fun hc => ?_⟩
  · rcases act_slot b a i with ⟨c', hnew, hl⟩ | ⟨r, ha, hfd, he⟩ | ⟨ms, ho, hk, hno⟩
    · obtain rfl : c' = c := Option.some.inj ((congrArg Link.fd hl).symm.trans hc)
      rw [h.unseen hnew, takes_unseen ht a hnew, hl]
      exact serves_accepted m c'
    · have hold : (b.clients i).fd = some c := by
        rcases serveReadable_fd b i r i with hsame | hnone
        · rw [← hsame, ← he]
          exact hc
        · rw [he, hnone] at hc
          cases hc
      have htakes : b.takes a c = received (b.clients i).toLink r := by
        rw [ha]
        exact if_pos hold
      rw [htakes] at hfit ⊢
      rcases serveReadable_serves (h.slot i hold) hm r hfit with hfree | hs
      · rw [he, congrArg Link.fd hfree] at hc
        cases hc
      · rw [he]
        exact hs
    · have hold : (b.clients i).fd = some c := by
        rcases hk with hfree | hg
        · rw [congrArg Link.fd hfree] at hc
          cases hc
        · exact hg.fd.symm.trans hc
      have htakes : b.takes a c = [] := by
        unfold takes
        split
        · rename_i j r
          refine if_neg fun hfd => ?_
          obtain rfl : j = i := ht.distinct j i c hfd hold
          rw [hno r rfl] at hold
          cases hold
        · rfl
      rw [htakes, List.append_nil]
      rcases (h.slot i hold).kept ho hk with hfree | hs
      · rw [congrArg Link.fd hfree] at hc
        cases hc
      · exact hs
  · have hc' : c ∉ b.seen := fun hs => hc (act_seen b a hs)
    rw [h.unseen hc', takes_unseen ht a hc']
    rfl

/-! ## 5. A stream and the monitor beside it -/

/-- The records queued on the stream tell the controller state, or among the messages queued on
    the monitor, behind the first `n`, one tells of a removal. -/
def Covers (b : Bridge) (e c : Conn) (n : Nat) : Prop :=
  ∀ i j, (b.clients i).fd = some e → (b.clients j).fd = some c →
    Views b.state (b.clients i).toLink ∨
      ∃ x ∈ (hotplugs (b.clients j).queued).drop n, x.descriptor.present = 0

/-- What was queued behind the first `n` messages stays there. -/
theorem pending_append {ms ms' : List Message} {n : Nat}
    (h : ∃ x ∈ (hotplugs ms).drop n, x.descriptor.present = 0) :
    ∃ x ∈ (hotplugs (ms ++ ms')).drop n, x.descriptor.present = 0 := by
  obtain ⟨x, hx, hp⟩ := h
  refine ⟨x, ?_, hp⟩
  rw [hotplugs_append, List.drop_append]
  exact List.mem_append_left _ hx

theorem hotplugs_map (ms : List HotplugMessage) : hotplugs (ms.map .hotplug) = ms := by
  induction ms with
  | nil => rfl
  | cons m ms ih => exact congrArg (m :: ·) ih

/-- **Every action keeps it**: a removal, which clears the state behind the back of the stream,
    is queued on the monitor. -/
theorem Covers.act {n : Nat} (h : b.Covers e c n) (hr : b.state.InRange)
    (hseen : c ∈ b.seen) (hkind : ∀ j, (b.clients j).fd = some c → (b.clients j).kind = .monitor)
    (hn : ∀ j, (b.clients j).fd = some c → n ≤ (hotplugs (b.clients j).queued).length) :
    (b.act a).Covers e c n := by
  intro i j hi hj
  obtain ⟨hjold, ms, hms⟩ := act_stayed hj hseen
  by_cases hnew : (b.clients i).fd = some e
  · rcases h i j hnew hjold with hviews | hpending
    · by_cases ha : a.looks = true
      · obtain ⟨answer, rfl⟩ := Action.looks_eq ha
        by_cases htakes : b.Takes answer
        · right
          obtain ⟨hs, hk, -, hgone⟩ := refresh_kept b answer j
          obtain ⟨x, hx, hp⟩ := hgone htakes (by rw [hjold]; exact nofun) (hkind j hjold)
          have hq : ((b.act (.xEvent (.hierarchyChanged answer))).clients j).queued =
              (b.clients j).queued ++ hs.map .hotplug := by
            rcases hk with hfree | hg
            · rw [show ((b.act (.xEvent (.hierarchyChanged answer))).clients j).fd = none from
                congrArg Link.fd hfree] at hj
              cases hj
            · exact hg.queued
          refine ⟨x, ?_, hp⟩
          rw [hq, hotplugs_append, hotplugs_map, List.drop_append_of_le_length (hn j hjold)]
          exact List.mem_append_right _ hx
        · exact Or.inl (refresh_views hviews fun _ => congrArg _ ((refresh_state b answer).2 htakes))
      · exact Or.inl ((viewsAt_keeps i).act (Bool.not_eq_true _ ▸ ha) ⟨hr, hviews⟩).2
    · right
      rw [hms]
      exact pending_append hpending
  · left
    rw [(act_takes hi hnew).2.2]
    exact views_of_silent rfl

/-! ## 6. Runs -/

/-- **What was sent and what is buffered is what was queued**, on every connection of every run. -/
theorem run_whole (opcode : Int) (answer : DeviceAnswer) (inputs : List Input) (i : Slot) :
    (((run step (boot opcode answer) inputs).clients i).toLink).Whole := by
  refine run_boot_inv (P := fun b => (b.clients i).toLink.Whole) (fun _ => rfl) (fun _ _ _ _ h => h)
    (fun b a h => ?_) opcode answer inputs
  rcases act_slot b a i with ⟨c, -, hl⟩ | ⟨r, -, -, he⟩ | ⟨ms, -, hk, -⟩
  · rw [hl]
    rfl
  · rw [he]
    exact serveReadable_inv (P := Link.Whole) b i r (fun _ _ hl _ hh => hl.handled hh) rfl h
  · exact h.kept hk

/-- The controller state is in range in every run. -/
theorem run_inRange (opcode : Int) (answer : DeviceAnswer) (inputs : List Input) :
    (run step (boot opcode answer) inputs).state.InRange := by
  refine Keeps.run (P := fun b => b.state.InRange) ?_ (fun _ => GamepadState.zero_inRange)
    (fun b _ _ => ?_) (fun b f _ _ h => ?_) opcode answer inputs
  · refine ⟨fun b b' hq h => ?_, fun b event evs b' hp h => ?_, fun b r h => ?_, fun b i r _ h => ?_⟩
    · rw [hq.state]
      exact h
    · rw [hp.state]
      exact eventBatch_inRange h event
    · rw [(acceptClient_same b r).1]
      exact h
    · rw [(serveReadable_frame b i r).1.state]
      exact h
  · rw [removeDevice_eq, broadcastHotplug, (frame_parts.broadcast b.gone ..).state]
    exact GamepadState.zero_inRange
  · rw [addDevice_eq, broadcastHotplug, (frame_parts.broadcast (b.came f) ..).state]
    exact h

end Bridge

end TermuxGamepad
