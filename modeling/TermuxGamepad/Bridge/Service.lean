/-
  File:      TermuxGamepad/Bridge/Service.lean
  Subject:   What serving a client does to its link: commands, snapshots, acceptance.

  `Link.Handled s d m l l'` is the effect of one handled message `m` on the link it came on,
  while the controller state is `s` and the descriptor `d`. `serveReadable_inv` is the rule for
  the poll-in branch: what every handled message keeps, the whole receive call keeps, and a
  failed call frees the record.
-/
import TermuxGamepad.Bridge.Frame

namespace TermuxGamepad

open Wire

/-! ## 1. Records appended to a batch -/

/-- A record without its time stamp. -/
def InputEvent.body (e : InputEvent) : UInt16 × UInt16 × Int32 := (e.type, e.code, e.value)

/-- The batch stays with the same bridge, up to the clock readings it used. -/
def Bridge.SameButStamps (b b' : Bridge) : Prop := ∃ ts, b' = { b with stamps := ts }

theorem appendEvent_bridge (p : Batch) (type code : UInt16) (value : Int) :
    p.1.SameButStamps (appendEvent p type code value).1 := ⟨_, rfl⟩

theorem appendEvent_body (p : Batch) (type code : UInt16) (value : Int) :
    (appendEvent p type code value).2.map InputEvent.body =
      p.2.map InputEvent.body ++ [(type, code, Int32.ofInt value)] := by
  simp [appendEvent, InputEvent.body]

namespace Bridge

theorem SameButStamps.trans {a b c : Bridge} (h : a.SameButStamps b) (h' : b.SameButStamps c) :
    a.SameButStamps c := by
  obtain ⟨ts, rfl⟩ := h
  obtain ⟨ts', rfl⟩ := h'
  exact ⟨ts', rfl⟩

theorem SameButStamps.frame {b b' : Bridge} (h : b.SameButStamps b') : Frame b b' := by
  obtain ⟨ts, rfl⟩ := h
  exact ⟨rfl, rfl, rfl, rfl, rfl, rfl⟩

theorem SameButStamps.clients {b b' : Bridge} (h : b.SameButStamps b') : b'.clients = b.clients := by
  obtain ⟨ts, rfl⟩ := h
  rfl

theorem SameButStamps.log {b b' : Bridge} (h : b.SameButStamps b') : b'.log = b.log := by
  obtain ⟨ts, rfl⟩ := h
  rfl

theorem appendRecords_spec (records : List (UInt16 × UInt16 × Int)) (p : Batch) :
    p.1.SameButStamps (appendRecords p records).1 ∧
      (appendRecords p records).2.map InputEvent.body =
        p.2.map InputEvent.body ++ records.map fun r => (r.1, r.2.1, Int32.ofInt r.2.2) := by
  induction records generalizing p with
  | nil => exact ⟨⟨_, rfl⟩, by simp [appendRecords]⟩
  | cons r rs ih =>
    obtain ⟨h1, h2⟩ := ih (appendEvent p r.1 r.2.1 r.2.2)
    refine ⟨(appendEvent_bridge p ..).trans h1, ?_⟩
    rw [appendRecords, List.foldl_cons]
    rw [appendRecords] at h2
    rw [h2, appendEvent_body, List.append_assoc]
    rfl

/-! ## 2. Snapshots -/

/-- The records report the whole state. -/
def IsSnapshot (s : GamepadState) (evs : List InputEvent) : Prop :=
  evs.map InputEvent.body = (snapshotRecords s).map fun r => (r.1, r.2.1, Int32.ofInt r.2.2)

theorem sendSnapshot_toLink_ne (b : Bridge) {i j : Slot} (h : j ≠ i) :
    ((b.sendSnapshot i).clients j).toLink = (b.clients j).toLink := by
  unfold sendSnapshot
  rw [queueOrClose_toLink_ne _ h, (appendRecords_spec _ (b, [])).1.clients]

/-- **`send_snapshot` queues one batch with the whole state, or closes.** -/
theorem sendSnapshot_kept (b : Bridge) (i : Slot) :
    ∃ evs, IsSnapshot b.state evs ∧
      (b.clients i).toLink.Kept ((b.sendSnapshot i).clients i).toLink [.events evs] := by
  obtain ⟨h1, h2⟩ := appendRecords_spec (snapshotRecords b.state) (b, [])
  refine ⟨(appendRecords (b, []) (snapshotRecords b.state)).2, by simpa [IsSnapshot] using h2, ?_⟩
  have h := queueOrClose_kept (appendRecords (b, []) (snapshotRecords b.state)).1 i
    (.events (appendRecords (b, []) (snapshotRecords b.state)).2)
  rw [h1.clients] at h
  exact h

end Bridge

/-! ## 3. One command -/

/-- A message taken off the control buffer of a link. -/
def Link.took (l : Link) (m : ControlMessage) (d : DeviceDescriptor) : Link :=
  { l with control := l.control.drop 16, commands := l.commands ++ [(m, d)] }

/-- The reply to MONITOR. -/
def monitorReply (d : DeviceDescriptor) : HotplugMessage :=
  { magic := hotplugMagic, version := controlVersion,
    action := if d.present != 0 then hotplugAdd else hotplugRemove, descriptor := d }

/-- **The effect of a handled message on the link it came on.** -/
inductive Link.Handled (s : GamepadState) (d : DeviceDescriptor) (m : ControlMessage) (l l' : Link) :
    Prop where
  | freed (h : l' = Link.free)
  | rumble (hc : m.command = controlRumble ∨ m.command = controlStopRumble) (h : l' = l)
  | absent (hc : m.command = controlQueryDescriptor) (hd : d.present = 0)
      (h : Link.Grew { l with kind := .events } l' [.descriptor d])
  | snapshot (evs : List InputEvent) (hc : m.command = controlQueryDescriptor) (hd : d.present ≠ 0)
      (hs : Bridge.IsSnapshot s evs)
      (h : Link.Grew { l with kind := .events } l' [.descriptor d, .events evs])
  | monitor (hc : m.command = controlMonitor)
      (h : Link.Grew { l with kind := .monitor } l' [.hotplug (monitorReply d)])

theorem Link.Handled.fd {s : GamepadState} {d : DeviceDescriptor} {m : ControlMessage}
    {l l' : Link} (h : Link.Handled s d m l l') : l'.fd = l.fd ∨ l'.fd = none := by
  cases h with
  | freed h => exact Or.inr (congrArg Link.fd h)
  | rumble _ h => exact Or.inl (congrArg Link.fd h)
  | absent _ _ h => exact Or.inl h.fd
  | snapshot _ _ _ _ h => exact Or.inl h.fd
  | monitor _ h => exact Or.inl h.fd

/-- A handled message leaves the client there with its control buffer, or frees the record. -/
theorem Link.Handled.stays {s : GamepadState} {d : DeviceDescriptor} {m : ControlMessage}
    {l l' : Link} (h : Link.Handled s d m l l') :
    l' = Link.free ∨ (l'.fd = l.fd ∧ l'.control = l.control) := by
  cases h with
  | freed h => exact Or.inl h
  | rumble _ h => exact Or.inr ⟨congrArg Link.fd h, congrArg Link.control h⟩
  | absent _ _ h => exact Or.inr ⟨h.fd, h.control⟩
  | snapshot _ _ _ _ h => exact Or.inr ⟨h.fd, h.control⟩
  | monitor _ h => exact Or.inr ⟨h.fd, h.control⟩

theorem Link.Handled.control {s : GamepadState} {d : DeviceDescriptor} {m : ControlMessage}
    {l l' : Link} (h : Link.Handled s d m l l') : l'.control = l.control ∨ l'.control = [] := by
  cases h with
  | freed h => exact Or.inr (congrArg Link.control h)
  | rumble _ h => exact Or.inl (congrArg Link.control h)
  | absent _ _ h => exact Or.inl h.control
  | snapshot _ _ _ _ h => exact Or.inl h.control
  | monitor _ h => exact Or.inl h.control

namespace Bridge

theorem setRumble_toLink (b : Bridge) (i j : Slot) (r : Rumble) :
    ((b.setRumble i r).clients j).toLink = (b.clients j).toLink := by
  by_cases h : j = i
  · subst h
    simp [setRumble]
  · simp [setRumble, h]

theorem setKind_toLink_ne (b : Bridge) {i j : Slot} (h : j ≠ i) (k : ClientKind) :
    ((b.setKind i k).clients j).toLink = (b.clients j).toLink := by
  simp [setKind, h]

/-- The message queued by QUERY_DESCRIPTOR and MONITOR, on a link whose kind was just set. -/
theorem setKind_queueBytes (b : Bridge) (i : Slot) (k : ClientKind) (m : Message)
    (hok : ((b.setKind i k).queueBytes i m).2 = true) :
    Link.Grew { (b.clients i).toLink with kind := k }
      ((((b.setKind i k).queueBytes i m).1.clients i).toLink) [m] := by
  rcases queueBytes_grew (b.setKind i k) i m with h | ⟨hf, _⟩
  · simpa [setKind] using h
  · rw [hf] at hok
    cases hok

theorem handleCommand_frame (b : Bridge) (i : Slot) (m : ControlMessage) :
    Frame b (b.handleCommand i m).1 :=
  (frame_blind.spans (fun b o _ => emit_frame b o) i).command b m

theorem handleCommand_toLink_ne (b : Bridge) {i j : Slot} (h : j ≠ i) (m : ControlMessage) :
    ((b.handleCommand i m).1.clients j).toLink = (b.clients j).toLink := by
  have hq : ∀ k msg, ((((b.setKind i k).queueBytes i msg).1.clients j).toLink)
      = (b.clients j).toLink := fun k msg => by
    rw [queueBytes_clients_ne _ h, setKind_toLink_ne b h]
  unfold handleCommand
  dsimp only
  split
  · rw [updateRumble_toLink, setRumble_toLink]; rfl
  split
  · rw [updateRumble_toLink, setRumble_toLink]
  split
  · split
    · exact hq ..
    · split
      · rw [sendSnapshot_toLink_ne _ h]; exact hq ..
      · exact hq ..
  split
  · exact hq ..
  · rw [emitFor_clients]

/-- **Every command the bridge accepts does to its link what `Handled` says.** -/
theorem handleCommand_handled (b : Bridge) (i : Slot) (m : ControlMessage)
    (hok : (b.handleCommand i m).2 = true) :
    Link.Handled b.state b.deviceDescriptor m (b.clients i).toLink
      ((b.handleCommand i m).1.clients i).toLink := by
  unfold handleCommand at hok ⊢
  dsimp only at hok ⊢
  split at hok
  · rename_i hc
    rw [if_pos hc]
    refine .rumble (Or.inl (by simpa using hc)) ?_
    rw [updateRumble_toLink, setRumble_toLink]
    rfl
  rename_i h1
  rw [if_neg h1]
  split at hok
  · rename_i hc
    rw [if_pos hc]
    refine .rumble (Or.inr (by simpa using hc)) ?_
    rw [updateRumble_toLink, setRumble_toLink]
  rename_i h2
  rw [if_neg h2]
  split at hok
  · rename_i hc
    rw [if_pos hc]
    have hc' : m.command = controlQueryDescriptor := by simpa using hc
    split at hok
    · cases hok
    · rename_i hq
      rw [if_neg hq]
      have hgrew := setKind_queueBytes b i .events _ (by simpa using hq)
      have hdesc : ((b.setKind i .events).queueBytes i
          (.descriptor b.deviceDescriptor)).1.deviceDescriptor = b.deviceDescriptor :=
        ((setClient_frame ..).trans (frame_parts.queueBytes ..)).descriptor
      have hstate : ((b.setKind i .events).queueBytes i
          (.descriptor b.deviceDescriptor)).1.state = b.state :=
        ((setClient_frame ..).trans (frame_parts.queueBytes ..)).state
      rw [hdesc]
      split
      · rename_i hp
        obtain ⟨evs, hs, hk⟩ := sendSnapshot_kept ((b.setKind i .events).queueBytes i
          (.descriptor b.deviceDescriptor)).1 i
        rw [hstate] at hs
        rcases hk with hfree | hk
        · exact .freed hfree
        · exact .snapshot evs hc' (by simpa using hp) hs (hgrew.trans hk)
      · rename_i hp
        exact .absent hc' (by simpa using hp) hgrew
  rename_i h3
  rw [if_neg h3]
  split at hok
  · rename_i hc
    rw [if_pos hc]
    exact .monitor (by simpa using hc) (setKind_queueBytes b i .monitor _ hok)
  · cases hok

/-! ## 4. The receive call -/

theorem setClient_toLink_ne (b : Bridge) {i j : Slot} (h : j ≠ i) (c : Client) :
    ((b.setClient i c).clients j).toLink = (b.clients j).toLink := by rw [setClient_ne b h]

theorem frame_spans (i : Slot) :
    Spans (fun b b' => Frame b b' ∧ ∀ j, j ≠ i → (b'.clients j).toLink = (b.clients j).toLink) i where
  refl b := ⟨.refl b, fun _ _ => rfl⟩
  trans h h' := ⟨h.1.trans h'.1, fun j hj => (h'.2 j hj).trans (h.2 j hj)⟩
  flush b := ⟨frame_parts.flushClient b i, fun j hj => by rw [flushClient_clients_ne b hj]⟩
  mark b e _ := ⟨emitFor_frame b i e, fun j _ => by rw [emitFor_clients]⟩
  record b _ _ := ⟨setClient_frame b i _, fun j hj => setClient_toLink_ne b hj _⟩
  command b m := ⟨handleCommand_frame b i m, fun j hj => handleCommand_toLink_ne b hj m⟩
  close b := ⟨frame_parts.close b i, fun j hj => closeClient_toLink_ne b hj⟩

/-- **The rule for the message loop**: an invariant of the link that every handled message keeps
    holds when the loop ends with 0. -/
theorem messageLoop_inv {P : Link → Prop} {s : GamepadState} {d : DeviceDescriptor}
    (hcmd : ∀ l l', P l → 16 ≤ l.control.length →
      Link.Handled s d (controlMessageCodec.dec l.control)
        (l.took (controlMessageCodec.dec l.control) d) l' → P l')
    (fuel : Nat) (b : Bridge) (i : Slot) (hs : b.state = s) (hd : b.deviceDescriptor = d)
    (h : P (b.clients i).toLink) (hok : (messageLoop fuel b i).2 = true) :
    P ((messageLoop fuel b i).1.clients i).toLink := by
  induction fuel generalizing b with
  | zero => exact h
  | succ fuel ih =>
    unfold messageLoop at hok ⊢
    dsimp only at hok ⊢
    split at hok
    · rename_i hlt
      rw [if_pos hlt]
      exact h
    rename_i hlen
    rw [if_neg hlen]
    split at hok
    · cases hok
    rename_i hvalid
    rw [if_neg hvalid]
    split at hok
    · rename_i hr
      rw [if_pos hr]
      have hh := handleCommand_handled _ i _ hr
      have hf := (setClient_frame b i (takeMessage (b.clients i)
        (controlMessageCodec.dec (b.clients i).control) b.deviceDescriptor)).trans
        (handleCommand_frame _ i (controlMessageCodec.dec (b.clients i).control))
      refine ih _ (hf.state.trans hs) (hf.descriptor.trans hd) ?_ hok
      refine hcmd _ _ h (Nat.not_lt.mp hlen) ?_
      rw [setClient_self] at hh
      subst hs hd
      exact hh
    · rename_i hr
      exact absurd hok hr

theorem serveReadable_frame (b : Bridge) (i : Slot) (r : RecvResult) :
    Frame b (b.serveReadable i r) ∧ ∀ j, j ≠ i →
      ((b.serveReadable i r).clients j).toLink = (b.clients j).toLink :=
  (frame_spans i).serveReadable b r

/-- The bytes one `recv` adds to the control buffer. -/
def received (l : Link) : RecvResult → List UInt8
  | .data bs => bs.take (controlBufferSize - l.control.length)
  | _ => []

/-- **The rule for the poll-in branch.** -/
theorem serveReadable_inv {P : Link → Prop} (b : Bridge) (i : Slot) (r : RecvResult)
    (hcmd : ∀ l l', P l → 16 ≤ l.control.length →
      Link.Handled b.state b.deviceDescriptor (controlMessageCodec.dec l.control)
        (l.took (controlMessageCodec.dec l.control) b.deviceDescriptor) l' → P l')
    (hfree : P Link.free)
    (hrecv : P { (b.clients i).toLink with
      control := (b.clients i).control ++ received (b.clients i).toLink r }) :
    P ((b.serveReadable i r).clients i).toLink := by
  unfold serveReadable
  dsimp only
  split
  · rename_i hok
    unfold receiveControlMessages at hok ⊢
    dsimp only at hok ⊢
    split at hok
    · cases hok
    rename_i hfull
    rw [if_neg hfull]
    split at hok
    · cases hok
    · simpa [received] using hrecv
    · cases hok
    · rename_i x bs
      refine messageLoop_inv hcmd _ _ i rfl rfl ?_ hok
      simpa [received] using hrecv
  · rw [closeClient_toLink_self]
    exact hfree

/-- A receive call keeps the connection of its slot or frees the record. -/
theorem serveReadable_fd (b : Bridge) (i : Slot) (r : RecvResult) (j : Slot) :
    ((b.serveReadable i r).clients j).fd = (b.clients j).fd ∨
      ((b.serveReadable i r).clients j).fd = none := by
  by_cases hj : j = i
  · subst hj
    refine serveReadable_inv (P := fun l => l.fd = (b.clients j).fd ∨ l.fd = none) b j r
      (fun l l' hl _ hh => ?_) (Or.inr rfl) (Or.inl rfl)
    rcases hh.fd with h | h
    · rw [h]
      exact hl
    · exact Or.inr h
  · exact Or.inl (congrArg Link.fd ((serveReadable_frame b i r).2 j hj))

/-! ## 5. Acceptance -/

/-- **A new connection takes a free record and touches no other.** -/
theorem acceptClient_toLink (b : Bridge) (r : AcceptResult) (i : Slot) :
    ((b.acceptClient r).clients i).toLink = (b.clients i).toLink ∨
      ∃ c, (b.clients i).fd = none ∧ c ∉ b.seen ∧ c ∈ (b.acceptClient r).seen ∧
        ((b.acceptClient r).clients i).toLink = (acceptedClient c).toLink := by
  unfold acceptClient
  split
  · exact Or.inl rfl
  · rename_i c nonblocking
    dsimp only
    split
    · exact Or.inl rfl
    rename_i hnew
    split
    · exact Or.inl rfl
    split
    · rename_i k hk
      by_cases hik : i = k
      · subst hik
        refine Or.inr ⟨c, ?_, hnew, List.mem_cons_self, ?_⟩
        · simpa using List.find?_some hk
        · simp
      · exact Or.inl (by simp [hik])
    · exact Or.inl rfl

/-- Acceptance changes the table and the set of connections seen, nothing else. -/
theorem acceptClient_same (b : Bridge) (r : AcceptResult) :
    (b.acceptClient r).state = b.state ∧
      (b.acceptClient r).lorieDeviceId = b.lorieDeviceId ∧
      (b.acceptClient r).lorieCapabilities = b.lorieCapabilities ∧
      (b.acceptClient r).lorieControllerOpcode = b.lorieControllerOpcode ∧
      (b.acceptClient r).deviceDescriptor = b.deviceDescriptor ∧
      b.seen ⊆ (b.acceptClient r).seen := by
  unfold acceptClient
  split
  · simp
  · dsimp only
    split
    · simp
    split
    · simp [emit]
    split <;> simp [emit, setClient]

end Bridge

end TermuxGamepad
