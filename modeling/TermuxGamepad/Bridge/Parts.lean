/-
  File:      TermuxGamepad/Bridge/Parts.lean
  Subject:   Relations that hold over an operation because they hold over what it is made of.

  The operations on clients are put together of a few parts: an event joins the history, an answer
  of the environment is used up, a record is rewritten, a client is closed.

  * `Parts R` -- `R` is reflexive, transitive and holds over these parts. It then holds over
    flushing, queueing, broadcasts, snapshots and commands, and over the branches of one client.
  * `Blind R` -- `R` looks at no record, at no clock and at no answer. It then holds over
    `update_rumble` too, and `Blind.parts` asks for the events alone.

  The relations of the modules below are instances of these, and need no lemma for each operation.
-/
import TermuxGamepad.Bridge.Loop

namespace TermuxGamepad

open Wire

/-- An event that serving a client puts into the history: no acceptance and no hang-up. -/
def Out.ofClient : Out → Bool
  | .queued .. | .overflow _ | .sent .. | .sendFailed _ | .recvEnded _ | .invalid _ | .closed _ => true
  | _ => false

namespace Bridge

variable {R : Bridge → Bridge → Prop}

theorem emitFor_rel {b : Bridge} {i : Slot} {e : Conn → Out} (hrefl : R b b)
    (hemit : ∀ c, R b (b.emit (e c))) : R b (b.emitFor i e) := by
  unfold emitFor
  split
  · exact hemit _
  · exact hrefl

theorem sendLorieRumble_rel {b : Bridge} (hrefl : R b b) (hrequest : ∀ t r, R b (b.emit (.request t r)))
    (low high : UInt16) (d : UInt32) : R b (b.sendLorieRumble low high d) := by
  unfold sendLorieRumble
  split
  · exact hrefl
  · split <;> exact hrequest ..

theorem closeClient_rel (htrans : ∀ {b b' b''}, R b b' → R b' b'' → R b b'') {b : Bridge} {i : Slot}
    (hfree : R b ((b.emitFor i .closed).setClient i Client.free))
    (hupdate : ∀ b, R b (b.updateRumble true)) : R b (b.closeClient i) := by
  unfold closeClient
  dsimp only
  split
  · exact htrans hfree (hupdate _)
  · exact hfree

/-- A flush moves bytes of one record to its socket, and ends with an event or two. -/
theorem flushClient_rel (hrefl : ∀ b, R b b) (htrans : ∀ {b b' b''}, R b b' → R b' b'' → R b b'')
    (hmove : ∀ b i sends l, l.fd = (b.clients i).fd → l.control = (b.clients i).control →
      R b ({ b with sends := sends }.setClient i { b.clients i with toLink := l }))
    (hsent : ∀ b c bs, R b (b.emit (.sent c bs))) (hfailed : ∀ b c, R b (b.emit (.sendFailed c)))
    (b : Bridge) (i : Slot) : R b (b.flushClient i).1 := by
  unfold flushClient
  dsimp only
  split
  · exact hrefl b
  · next conn _ =>
    let r := flushLoop b.sends (b.clients i).output []
    have hmoved := hmove b i r.sends { (b.clients i).toLink with
      output := r.output, sent := (b.clients i).sent ++ r.accepted } rfl rfl
    have hflushed := htrans hmoved (hsent _ conn r.accepted)
    split
    · exact hflushed
    · exact htrans hflushed (hfailed _ conn)

/-! ## 1. The parts of an operation -/

/-- What a relation needs to hold over the operations on clients. -/
structure Parts (R : Bridge → Bridge → Prop) : Prop where
  refl : ∀ b, R b b
  trans : ∀ {b b' b''}, R b b' → R b' b'' → R b b''
  emit : ∀ b o, o.ofClient = true → R b (b.emit o)
  env : ∀ b sends ticks stamps, R b (b.withEnv sends ticks stamps)
  /-- The record of a slot, without its connection, its control buffer and its rumble. -/
  record : ∀ b i l, l.fd = (b.clients i).fd → l.control = (b.clients i).control →
    R b (b.setClient i { b.clients i with toLink := l })
  close : ∀ b i, R b (b.closeClient i)

theorem Parts.emitFor (h : Parts R) (b : Bridge) (i : Slot) {e : Conn → Out}
    (he : ∀ c, (e c).ofClient = true) : R b (b.emitFor i e) :=
  emitFor_rel (h.refl b) fun c => h.emit b (e c) (he c)

theorem Parts.flushClient (h : Parts R) (b : Bridge) (i : Slot) : R b (b.flushClient i).1 :=
  flushClient_rel h.refl h.trans
    (fun b i sends l hfd hcontrol => h.trans (h.env b sends b.ticks b.stamps)
      (h.record (b.withEnv sends b.ticks b.stamps) i l hfd hcontrol))
    (fun b c bs => h.emit b (.sent c bs) rfl) (fun b c => h.emit b (.sendFailed c) rfl) b i

theorem Parts.queueBytes (h : Parts R) (b : Bridge) (i : Slot) (m : Message) :
    R b (b.queueBytes i m).1 := by
  unfold Bridge.queueBytes
  dsimp only
  split
  · exact h.refl b
  split
  · exact h.emit b _ rfl
  · have hcopied := h.record b i { (b.clients i).toLink with
      output := (b.clients i).output ++ m.bytes, queued := (b.clients i).queued ++ [m] } rfl rfl
    exact h.trans (h.trans hcopied (h.emit _ (.queued _ m) rfl)) (h.flushClient _ i)

theorem Parts.queueOrClose (h : Parts R) (b : Bridge) (i : Slot) (m : Message) :
    R b (b.queueOrClose i m) := by
  unfold Bridge.queueOrClose
  dsimp only
  split
  · exact h.queueBytes b i m
  · exact h.trans (h.queueBytes b i m) (h.close _ i)

theorem Parts.sweep (h : Parts R) {f : Bridge → Slot → Bridge} (hf : ∀ b i, R b (f b i))
    (b : Bridge) : R b (sweep maxClients f b) :=
  sweep_rel h.refl (fun _ _ _ => h.trans) hf b

theorem Parts.broadcast (h : Parts R) (b : Bridge) (kind : ClientKind) (m : Message) :
    R b (b.broadcast kind m) := by
  refine h.sweep (fun b i => ?_) b
  split
  · exact h.queueOrClose b i m
  · exact h.refl b

theorem Parts.appendRecords (h : Parts R) (records : List (UInt16 × UInt16 × Int)) (p : Batch) :
    R p.1 (appendRecords p records).1 := by
  induction records generalizing p with
  | nil => exact h.refl p.1
  | cons r rs ih =>
    have hstamp : R p.1 (appendEvent p r.1 r.2.1 r.2.2).1 :=
      h.env p.1 p.1.sends p.1.ticks p.1.stamps.tail
    exact h.trans hstamp (ih _)

theorem Parts.sendSnapshot (h : Parts R) (b : Bridge) (i : Slot) : R b (b.sendSnapshot i) :=
  h.trans (h.appendRecords (snapshotRecords b.state) (b, [])) (h.queueOrClose _ i _)

/-- **The rule for commands**: RUMBLE and STOP_RUMBLE change what the client asks for, which is no
    part. -/
theorem Parts.handleCommand (h : Parts R) (b : Bridge) (i : Slot) (m : ControlMessage)
    (hrumble : m.command = controlRumble → ∀ r,
      r.rumbleExpiresMs = b.monotonicMs.1 + commandDuration m →
        R b ((b.monotonicMs.2.setRumble i r).updateRumble true))
    (hstop : m.command = controlStopRumble → R b ((b.setRumble i Rumble.off).updateRumble true)) :
    R b (b.handleCommand i m).1 := by
  have hq : ∀ k msg, R b ((b.setKind i k).queueBytes i msg).1 := fun k msg =>
    h.trans (h.record b i { (b.clients i).toLink with kind := k } rfl rfl) (h.queueBytes _ i msg)
  unfold Bridge.handleCommand
  dsimp only
  split
  · next hcommand => exact hrumble (beq_iff_eq.mp hcommand) _ rfl
  split
  · next hcommand => exact hstop (beq_iff_eq.mp hcommand)
  split
  · split
    · exact hq ..
    · split
      · exact h.trans (hq ..) (h.sendSnapshot _ i)
      · exact hq ..
  split
  · exact hq ..
  · exact h.emitFor b i fun _ => rfl

theorem Parts.spans (h : Parts R) (i : Slot)
    (hrecord : ∀ b control commands,
      R b (b.setClient i { b.clients i with control := control, commands := commands }))
    (hrumble : ∀ b m r, r.rumbleExpiresMs = b.monotonicMs.1 + commandDuration m →
      R b ((b.monotonicMs.2.setRumble i r).updateRumble true))
    (hstop : ∀ b, R b ((b.setRumble i Rumble.off).updateRumble true)) : Spans R i where
  refl := h.refl
  trans := h.trans
  flush b := h.flushClient b i
  mark b e he := by rcases he with rfl | rfl <;> exact h.emitFor b i fun _ => rfl
  record := hrecord
  command b m := h.handleCommand b i m (fun _ => hrumble b m) fun _ => hstop b
  close b := h.close b i

/-! ## 2. Relations that look at no record -/

/-- The static variables no output operation writes. -/
structure Frame (b b' : Bridge) : Prop where
  state : b'.state = b.state
  opcode : b'.lorieControllerOpcode = b.lorieControllerOpcode
  deviceId : b'.lorieDeviceId = b.lorieDeviceId
  capabilities : b'.lorieCapabilities = b.lorieCapabilities
  descriptor : b'.deviceDescriptor = b.deviceDescriptor
  seen : b'.seen = b.seen

theorem Frame.refl (b : Bridge) : Frame b b := ⟨rfl, rfl, rfl, rfl, rfl, rfl⟩

theorem Frame.trans {a b c : Bridge} (h : Frame a b) (h' : Frame b c) : Frame a c :=
  ⟨h'.state.trans h.state, h'.opcode.trans h.opcode, h'.deviceId.trans h.deviceId,
    h'.capabilities.trans h.capabilities, h'.descriptor.trans h.descriptor, h'.seen.trans h.seen⟩

theorem emit_frame (b : Bridge) (o : Out) : Frame b (b.emit o) := ⟨rfl, rfl, rfl, rfl, rfl, rfl⟩

theorem setClient_frame (b : Bridge) (i : Slot) (c : Client) : Frame b (b.setClient i c) :=
  ⟨rfl, rfl, rfl, rfl, rfl, rfl⟩

theorem monotonicMs_frame (b : Bridge) : Frame b b.monotonicMs.2 := ⟨rfl, rfl, rfl, rfl, rfl, rfl⟩

/-- What a relation needs to hold over `update_rumble`: it looks at nothing but the frame and the
    history, and allows the requests and the mark of the update. -/
structure Blind (R : Bridge → Bridge → Prop) : Prop where
  trans : ∀ {b b' b''}, R b b' → R b' b'' → R b b''
  unseen : ∀ {b b'}, Frame b b' → b'.log = b.log → R b b'
  /-- What is asked of a motor is some strength for some time, or a stop. -/
  send : ∀ b low high d, (low ≠ 0 ∨ high ≠ 0 → 1 ≤ d) → R b (b.sendLorieRumble low high d)
  mark : ∀ b t held, R b (b.emit (.rumbleUpdated t held))

theorem one_le_rumbleDuration (n : Nat) : 1 ≤ rumbleDuration n := by
  unfold rumbleDuration
  have hlt : (if n > 0xffffffff then 0xffffffff else n) < 2 ^ 32 := by
    split <;> omega
  generalize (if n > 0xffffffff then 0xffffffff else n) = duration at hlt
  dsimp only
  split
  · exact UInt32.le_refl 1
  · next h =>
    rw [UInt32.le_iff_toNat_le, UInt32.toNat_ofNat_of_lt' hlt]
    exact Nat.one_le_iff_ne_zero.mpr h

theorem Blind.refl (h : Blind R) (b : Bridge) : R b b := h.unseen (.refl b) rfl

theorem Blind.setClient (h : Blind R) (b : Bridge) (i : Slot) (c : Client) :
    R b (b.setClient i c) := h.unseen (setClient_frame b i c) rfl

theorem Blind.decideRumble (h : Blind R) (b : Bridge) (s : RumbleScan) (force : Bool) :
    R b (b.decideRumble s force) := by
  unfold Bridge.decideRumble
  split <;> split
  · exact h.send b 0 0 0 (by simp)
  · exact h.refl b
  · exact h.send b _ _ _ fun _ => one_le_rumbleDuration _
  · exact h.refl b

theorem Blind.updateRumble (h : Blind R) (b : Bridge) (force : Bool) :
    R b (b.updateRumble force) := by
  unfold Bridge.updateRumble
  dsimp only
  have hscanned : R b { b.monotonicMs.2 with
      clients := (b.monotonicMs.2.scanClients b.monotonicMs.1).clients } :=
    h.unseen ⟨rfl, rfl, rfl, rfl, rfl, rfl⟩ rfl
  have hdecided := h.trans hscanned
    (h.decideRumble _ (b.monotonicMs.2.scanClients b.monotonicMs.1) force)
  refine h.trans (h.trans hdecided ?_) (h.mark ..)
  exact h.unseen ⟨rfl, rfl, rfl, rfl, rfl, rfl⟩ rfl

theorem Blind.closeClient (h : Blind R) (hclosed : ∀ b c, R b (b.emit (.closed c))) (b : Bridge)
    (i : Slot) : R b (b.closeClient i) :=
  closeClient_rel (R := R) h.trans (h.trans (emitFor_rel (h.refl b) (hclosed b)) (h.setClient ..))
    fun b => h.updateRumble b true

theorem Blind.parts (h : Blind R) (hemit : ∀ b o, o.ofClient = true → R b (b.emit o)) : Parts R where
  refl := h.refl
  trans := h.trans
  emit := hemit
  env _ _ _ _ := h.unseen ⟨rfl, rfl, rfl, rfl, rfl, rfl⟩ rfl
  record b i _ _ _ := h.setClient b i _
  close := h.closeClient fun b c => hemit b (.closed c) rfl

theorem Blind.spans (h : Blind R) (hemit : ∀ b o, o.ofClient = true → R b (b.emit o)) (i : Slot) :
    Spans R i := by
  have hset : ∀ b r, R b ((b.setRumble i r).updateRumble true) := fun b r =>
    h.trans (h.setClient b i _) (h.updateRumble _ true)
  exact (h.parts hemit).spans i (fun b _ _ => h.setClient b i _)
    (fun b _ r _ => h.trans (h.unseen (monotonicMs_frame b) rfl) (hset _ r)) fun b => hset b _

/-- **The rule for the shutdown**: a direct stop, then every client is closed. -/
theorem Blind.shutdown (h : Blind R) (hemit : ∀ b o, o.ofClient = true → R b (b.emit o))
    (b : Bridge) (ticks : List Nat) : R b (b.shutdown ticks) := by
  have hticks : R b { b with ticks := ticks } := h.unseen ⟨rfl, rfl, rfl, rfl, rfl, rfl⟩ rfl
  have hstop := h.trans hticks (h.send { b with ticks := ticks } 0 0 0 (by simp))
  exact h.trans hstop ((h.parts hemit).sweep (h.parts hemit).close _)

/-! ## 3. The history grows -/

/-- The history grew, by events with `P`. -/
def Joins (P : Out → Prop) (b b' : Bridge) : Prop := ∃ l, b'.log = b.log ++ l ∧ ∀ o ∈ l, P o

section History

variable {P : Out → Prop} {b b' b'' : Bridge}

theorem Joins.of_log (h : b'.log = b.log) : Joins P b b' :=
  ⟨[], by rw [h, List.append_nil], fun _ ho => absurd ho List.not_mem_nil⟩

theorem Joins.trans (h : Joins P b b') (h' : Joins P b' b'') : Joins P b b'' := by
  obtain ⟨l, hl, hp⟩ := h
  obtain ⟨l', hl', hp'⟩ := h'
  refine ⟨l ++ l', by rw [hl', hl, List.append_assoc], fun o ho => ?_⟩
  rcases List.mem_append.mp ho with ho | ho
  · exact hp o ho
  · exact hp' o ho

theorem Joins.emit (b : Bridge) {o : Out} (h : P o) : Joins P b (b.emit o) :=
  ⟨[o], rfl, fun _ ho => List.mem_singleton.mp ho ▸ h⟩

theorem joins_blind (hrequest : ∀ t r, P (.request t r)) (hmark : ∀ t held, P (.rumbleUpdated t held)) :
    Blind (Joins P) where
  trans := .trans
  unseen _ h := .of_log h
  send b low high d _ := sendLorieRumble_rel (.of_log rfl) (fun t r => .emit b (hrequest t r)) low high d
  mark b _ _ := .emit b (hmark ..)

end History

/-! ## 4. New connections -/

theorem freeSlot_fd {b : Bridge} {i : Slot} (hi : b.freeSlot = some i) : (b.clients i).fd = none := by
  simpa using List.find?_some hi

/-- **The rule for `accept_clients`**: a connection is taken into a free record or turned away. -/
theorem acceptClient_rel (hrefl : ∀ b, R b b) (htrans : ∀ {b b' b''}, R b b' → R b' b'' → R b b'')
    (hseen : ∀ b c, R b { b with seen := c :: b.seen })
    (htake : ∀ b i c, (b.clients i).fd = none → R b (b.setClient i (acceptedClient c)))
    (hemit : ∀ b c, R b (b.emit (.connected c)) ∧ R b (b.emit (.turnedAway c)))
    (b : Bridge) (r : AcceptResult) : R b (b.acceptClient r) := by
  unfold acceptClient
  split
  · exact hrefl b
  dsimp only
  split
  · exact hrefl b
  split
  · exact htrans (hseen b _) (hemit _ _).2
  split
  · rename_i i hi
    exact htrans (htrans (hseen b _) (htake _ i _ (freeSlot_fd hi))) (hemit _ _).1
  · exact htrans (hseen b _) (hemit _ _).2

end Bridge

end TermuxGamepad
