/-
  File:      TermuxGamepad/Bridge/Aging.lean
  Subject:   The rumble one client holds, while others are served and when it speaks itself.

  `Ages i` is all that the rest of the bridge's work can do to the client in slot `i`: time passes,
  so that its rumble may end, or the client is closed. `rumble_readable` and `stop_readable` are
  the commands of the client itself, which arrive as the bytes of one message.
-/
import TermuxGamepad.Bridge.Arbitration
import TermuxGamepad.Bridge.Decoder

namespace TermuxGamepad

open Wire

/-- What a rumble that was asked for comes to after time `t`. -/
def Rumble.lasting (r : Rumble) (t : Nat) : Option Rumble :=
  if r.on && decide (t < r.rumbleExpiresMs) then some r else none

namespace Bridge

/-! ## 1. Time passes -/

/-- A client that is in slot `i` and is no newcomer was there before, and it has the rumble it
    had, as far as that has not ended. -/
structure Ages (i : Slot) (b b' : Bridge) : Prop where
  now : b.now ≤ b'.now
  seen : b.seen ⊆ b'.seen
  stays : ∀ c ∈ b.seen, (b'.clients i).fd = some c →
    (b.clients i).fd = some c ∧ (b'.clients i).control = (b.clients i).control ∧
      ∀ t, b'.now ≤ t → (b'.clients i).live t = (b.clients i).live t

variable {b b' b'' : Bridge} {i : Slot}

/-- What `live` looks at. -/
theorem live_congr {c c' : Client} (hfd : c'.fd = c.fd) (hr : c'.toRumble = c.toRumble) (t : Nat) :
    c'.live t = c.live t := by
  unfold Client.live Client.holds
  rw [hfd, hr]

theorem Ages.of_client (hnow : b'.now = b.now) (hseen : b.seen ⊆ b'.seen)
    (hfd : (b'.clients i).fd = (b.clients i).fd)
    (hcontrol : (b'.clients i).control = (b.clients i).control)
    (hr : (b'.clients i).toRumble = (b.clients i).toRumble) : Ages i b b' :=
  ⟨le_of_eq hnow.symm, hseen, fun _ _ h => ⟨hfd.symm.trans h, hcontrol, fun t _ => live_congr hfd hr t⟩⟩

theorem Ages.of_eq (hnow : b'.now = b.now) (hseen : b.seen ⊆ b'.seen)
    (h : b'.clients i = b.clients i) : Ages i b b' :=
  .of_client hnow hseen (by rw [h]) (by rw [h]) (by rw [h])

theorem Ages.refl (i : Slot) (b : Bridge) : Ages i b b := .of_eq rfl (List.Subset.refl _) rfl

theorem Ages.trans (h : Ages i b b') (h' : Ages i b' b'') : Ages i b b'' := by
  refine ⟨h.now.trans h'.now, List.Subset.trans h.seen h'.seen, fun c hc hfd => ?_⟩
  obtain ⟨hfd', hcontrol', hlive'⟩ := h'.stays c (h.seen hc) hfd
  obtain ⟨hfd, hcontrol, hlive⟩ := h.stays c hc hfd'
  refine ⟨hfd, hcontrol'.trans hcontrol, fun t ht => ?_⟩
  rw [hlive' t ht, hlive t (h'.now.trans ht)]

/-- The client goes. -/
theorem Ages.of_gone (hnow : b'.now = b.now) (hseen : b.seen ⊆ b'.seen)
    (hfd : (b'.clients i).fd = none) : Ages i b b' :=
  ⟨le_of_eq hnow.symm, hseen, fun c _ h => by rw [hfd] at h; cases h⟩

theorem emit_ages (i : Slot) (b : Bridge) (o : Out) : Ages i b (b.emit o) :=
  .of_eq rfl (List.Subset.refl _) rfl

theorem emitFor_ages (i : Slot) (b : Bridge) (j : Slot) (o : Conn → Out) :
    Ages i b (b.emitFor j o) := emitFor_rel (.refl i b) fun c => emit_ages i b (o c)

theorem setClient_ages {j : Slot} (h : i ≠ j) (b : Bridge) (c : Client) :
    Ages i b (b.setClient j c) := .of_eq rfl (List.Subset.refl _) (setClient_ne b h c)

/-- **An update** clears what has expired, of every client. -/
theorem updateRumble_live (b : Bridge) (force : Bool) (i : Slot) (t : Nat)
    (ht : (b.updateRumble force).now ≤ t) :
    ((b.updateRumble force).clients i).live t = (b.clients i).live t := by
  obtain ⟨low, high, d, hu⟩ := updateRumble_spec b force
  rw [hu.now] at ht
  unfold Client.live
  rw [hu.holds]
  unfold Client.live
  rw [Option.filter_filter]
  congr 1
  funext r
  simp only [Bool.and_eq_decide, decide_eq_decide, decide_eq_true_eq]
  omega

theorem updateRumble_ages (i : Slot) (b : Bridge) (force : Bool) :
    Ages i b (b.updateRumble force) := by
  obtain ⟨low, high, d, hu⟩ := updateRumble_spec b force
  have hlink := updateRumble_toLink b force i
  have hnow : b.now ≤ (b.updateRumble force).now := by
    rw [hu.now]
    exact Nat.le_add_right ..
  exact ⟨hnow, fun c hc => by rw [hu.frame.seen]; exact hc, fun c _ hfd =>
    ⟨(congrArg Link.fd hlink).symm.trans hfd, congrArg Link.control hlink, updateRumble_live b force i⟩⟩

theorem closeClient_ages (i : Slot) (b : Bridge) (j : Slot) : Ages i b (b.closeClient j) := by
  have hfreed : Ages i (b.emitFor j .closed) ((b.emitFor j .closed).setClient j Client.free) := by
    by_cases hij : i = j
    · subst hij
      exact .of_gone rfl (List.Subset.refl _) (by rw [setClient_self]; rfl)
    · exact setClient_ages hij ..
  exact closeClient_rel .trans ((emitFor_ages i b j .closed).trans hfreed)
    fun b => updateRumble_ages i b true

/-- **Time passes over every operation on clients.** -/
theorem ages_parts (i : Slot) : Parts (Ages i) where
  refl := .refl i
  trans := .trans
  emit b o _ := emit_ages i b o
  env _ _ _ _ := .of_eq rfl (List.Subset.refl _) rfl
  record b j l hfd hcontrol := by
    by_cases hij : i = j
    · subst hij
      refine .of_client rfl (List.Subset.refl _) ?_ ?_ ?_ <;> rw [setClient_self]
      · exact hfd
      · exact hcontrol
    · exact setClient_ages hij ..
  close := closeClient_ages i

/-- The branches of another client. -/
theorem ages_spans {j : Slot} (h : i ≠ j) : Spans (Ages i) j := by
  have hclock : ∀ b : Bridge, Ages i b b.monotonicMs.2 := fun b =>
    ⟨Nat.le_add_right .., List.Subset.refl _, fun _ _ h => ⟨h, rfl, fun _ _ => rfl⟩⟩
  have hset : ∀ (b : Bridge) r, Ages i b ((b.setRumble j r).updateRumble true) := fun b r =>
    (setClient_ages h b _).trans (updateRumble_ages ..)
  exact (ages_parts i).spans j (fun b _ _ => setClient_ages h b _)
    (fun b _ r _ => (hclock b).trans (hset _ r)) fun b => hset b _

theorem refreshLorieDevice_ages (i : Slot) (b : Bridge) (answer : DeviceAnswer) :
    Ages i b (b.refreshLorieDevice answer) := by
  refine (ages_parts i).refreshLorieDevice (fun hs => ?_)
    (fun _ => .of_eq rfl (List.Subset.refl _) rfl)
    (fun _ _ => .of_eq rfl (List.Subset.refl _) rfl) b answer
  obtain ⟨reqs, rfl, -⟩ := hs
  exact .of_eq rfl (List.Subset.refl _) rfl

/-- A new connection goes to a free record. -/
theorem acceptClient_ages (i : Slot) (b : Bridge) (r : AcceptResult) :
    Ages i b (b.acceptClient r) := by
  unfold acceptClient
  split
  · exact .refl i b
  rename_i c nonblocking
  dsimp only
  split
  · exact .refl i b
  rename_i hnew
  have hseen : Ages i b { b with seen := c :: b.seen } := .of_eq rfl (List.subset_cons_self ..) rfl
  split
  · exact hseen.trans (emit_ages ..)
  split
  · rename_i j hj
    refine Ages.trans ?_ (emit_ages ..)
    by_cases hij : i = j
    · subst hij
      refine ⟨le_rfl, List.subset_cons_self .., fun c' hc' hfd => ?_⟩
      rw [setClient_self] at hfd
      cases hfd
      exact absurd hc' hnew
    · exact hseen.trans (setClient_ages hij ..)
  · exact hseen.trans (emit_ages ..)

/-- **Whatever the bridge does but read from a client only ages that client's rumble.** -/
theorem act_ages (b : Bridge) (a : Action) (ha : ∀ r, a ≠ .readable i r) : Ages i b (b.act a) := by
  by_cases hlooks : ∀ answer, a ≠ .xEvent (.hierarchyChanged answer)
  · refine (ages_parts i).act (fun hs => ?_) (acceptClient_ages i) (fun b _ => emit_ages i b _)
      (fun b => updateRumble_ages i b false) b (fun j r hread => ?_) hlooks
    · obtain ⟨s, ts, rfl⟩ := hs
      exact .of_eq rfl (List.Subset.refl _) rfl
    · exact ages_spans fun hij => ha r (hij ▸ hread)
  · obtain ⟨answer, rfl⟩ := not_forall_not.mp hlooks
    exact refreshLorieDevice_ages i b answer

/-! ## 2. The client speaks -/

/-- The client in slot `i` holds `r`, as long as that lasts. -/
structure Asks (i : Slot) (r : Rumble) (b b' : Bridge) : Prop where
  now : b.clock ≤ b'.now
  seen : b'.seen = b.seen
  fd : (b'.clients i).fd = (b.clients i).fd
  control : (b'.clients i).control = (b.clients i).control
  live : ∀ t, b'.now ≤ t → (b'.clients i).live t = r.lasting t

theorem live_eq_lasting {c : Client} (hfd : c.fd ≠ none) (t : Nat) :
    c.live t = c.toRumble.lasting t := by
  have hsome : c.fd.isSome = true := Option.isSome_iff_ne_none.mpr hfd
  unfold Client.live Client.holds Rumble.lasting
  rw [hsome, Bool.true_and]
  cases c.toRumble.on with
  | false => rfl
  | true => simp [Option.filter]

/-- What is set is what the client holds after the update that follows. -/
theorem setRumble_asks (b : Bridge) (hfd : (b.clients i).fd ≠ none) (r : Rumble) :
    Asks i r b ((b.setRumble i r).updateRumble true) := by
  obtain ⟨low, high, d, hu⟩ := updateRumble_spec (b.setRumble i r) true
  have hlink := (updateRumble_toLink (b.setRumble i r) true i).trans (setRumble_toLink b i i r)
  refine ⟨le_of_eq hu.now.symm, hu.frame.seen, congrArg Link.fd hlink, congrArg Link.control hlink,
    fun t ht => ?_⟩
  have hset : (b.setRumble i r).clients i = { b.clients i with toRumble := r } := setClient_self ..
  rw [updateRumble_live _ _ _ t ht, live_eq_lasting (by rw [hset]; exact hfd), hset]

/-- The rumble a command leaves the client with, where the clock stands at `t`. -/
def rumbleAfter (m : ControlMessage) (t : Nat) : Rumble :=
  if m.command = controlRumble then
    { rumbleLow := m.lowFrequency, rumbleHigh := m.highFrequency,
      rumbleExpiresMs := t + commandDuration m }
  else Rumble.off

/-- **RUMBLE and STOP_RUMBLE.** -/
theorem handleCommand_asks (hfd : (b.clients i).fd ≠ none) {m : ControlMessage}
    (hm : m.command = controlRumble ∨ m.command = controlStopRumble) :
    (b.handleCommand i m).2 = true ∧ Asks i (rumbleAfter m b.clock) b (b.handleCommand i m).1 := by
  unfold handleCommand rumbleAfter
  dsimp only
  rcases hm with hm | hm
  · rw [hm, if_pos rfl, if_pos (beq_self_eq_true _)]
    have h := setRumble_asks b.monotonicMs.2 (i := i) hfd
      { rumbleLow := m.lowFrequency, rumbleHigh := m.highFrequency,
        rumbleExpiresMs := b.monotonicMs.1 + commandDuration m }
    exact ⟨rfl, (Nat.le_add_right ..).trans h.now, h.seen, h.fd, h.control, h.live⟩
  · have hne : ¬controlStopRumble = controlRumble := by decide
    rw [hm, if_neg hne, if_neg (fun h => hne (beq_iff_eq.mp h)), if_pos (beq_self_eq_true _)]
    exact ⟨rfl, setRumble_asks b hfd Rumble.off⟩

/-- **One message of a client**, whose control buffer is empty. -/
theorem readable_asks (hfd : (b.clients i).fd ≠ none) (hcontrol : (b.clients i).control = [])
    {m : ControlMessage} (hhead : wellHeaded m = true)
    (hm : m.command = controlRumble ∨ m.command = controlStopRumble) :
    Asks i (rumbleAfter m b.clock) b (b.act (.readable i (.data (controlMessageCodec.enc m)))) := by
  have hlen : (controlMessageCodec.enc m).length = 16 := controlMessageCodec.enc_length m
  have hne : controlMessageCodec.enc m ≠ [] := fun h => by rw [h] at hlen; cases hlen
  obtain ⟨hrec, hrem⟩ := controlMessageCodec.records_enc (by decide) m
  have hthere : ¬(b.clients i).fd.isNone = true := by rwa [Option.isNone_iff_eq_none]
  have hnoted : (b.setClient i (noted (b.clients i) m b.deviceDescriptor)).clients i =
      noted (b.clients i) m b.deviceDescriptor := setClient_self ..
  obtain ⟨hok, h⟩ := @handleCommand_asks
    (b.setClient i (noted (b.clients i) m b.deviceDescriptor)) i (by rw [hnoted]; exact hfd) m hm
  have hexec : b.execute i m =
      (b.setClient i (noted (b.clients i) m b.deviceDescriptor)).handleCommand i m := by
    unfold execute
    rw [hhead]
    rfl
  rw [← hexec] at hok h
  have hstays : ¬((b.execute i m).1.clients i).fd.isNone = true := by
    rw [h.fd, hnoted]
    exact hthere
  rw [readable_decodes hne (by rw [hlen, hcontrol]; decide) hfd, decodeWhole_eq _ hfd, hcontrol,
    List.nil_append, hrec, hrem]
  unfold executeAll executeAll settled
  rw [if_neg hthere, if_pos hok]
  dsimp only
  rw [Bool.not_true, if_neg Bool.false_ne_true, if_neg hstays]
  refine ⟨h.now, h.seen, ?_, ?_, fun t ht => ?_⟩
  · rw [setControl_self, h.fd, hnoted]
    rfl
  · rw [setControl_self, hcontrol]
  · rw [setControl_self]
    exact (live_congr rfl rfl t).trans (h.live t ht)

end Bridge

end TermuxGamepad
