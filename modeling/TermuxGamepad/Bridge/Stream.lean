/-
  File:      TermuxGamepad/Bridge/Stream.lean
  Subject:   The byte stream of a client, from acceptance to close.

  `Tracks` ties the life of each connection (History.lean) to the client table: a connection in
  the table is open and owes exactly the bytes of its output buffer, one that has left the table
  is closed, and nothing ever happened on one not accepted yet. An operation that fails leaves
  the connection of its slot broken, and every caller closes it (`Settles.close`).
-/
import TermuxGamepad.Bridge.History
import TermuxGamepad.Bridge.Device

namespace TermuxGamepad

open Wire

/-! ## 1. The table and the automaton -/

namespace Bridge

/-- Every connection in the table is open and owes its output buffer -- the one in slot `o`, if
    any, is broken instead; one that left the table is closed; one not seen yet is fresh. -/
structure Tracks (o : Option Slot) (b : Bridge) : Prop where
  isOpen : ∀ i c, (b.clients i).fd = some c →
    phase c b.log = if o = some i then .broken else .open (b.clients i).sent (b.clients i).output
  isSeen : ∀ i c, (b.clients i).fd = some c → c ∈ b.seen
  distinct : ∀ i j c, (b.clients i).fd = some c → (b.clients j).fd = some c → i = j
  gone : ∀ c ∈ b.seen, (∀ i, (b.clients i).fd ≠ some c) → phase c b.log = .closed
  fresh : ∀ c, c ∉ b.seen → phase c b.log = .fresh

/-- No slot is broken. -/
abbrev Tracked (b : Bridge) : Prop := Tracks none b

theorem tracked_init (opcode : Int) : Tracked (Bridge.init opcode) where
  isOpen _ _ h := by cases h
  isSeen _ _ h := by cases h
  distinct _ _ _ h := by cases h
  gone _ h := absurd h List.not_mem_nil
  fresh _ _ := rfl

variable {b b' : Bridge} {o : Option Slot} {i : Slot}

/-- What an operation keeps that leaves connections, their bytes and phases alone. -/
theorem Tracks.quiet (h : Tracks o b) (hfd : ∀ j, (b'.clients j).fd = (b.clients j).fd)
    (hsent : ∀ j, (b'.clients j).sent = (b.clients j).sent)
    (hout : ∀ j, (b'.clients j).output = (b.clients j).output)
    (hseen : b'.seen = b.seen) (hphase : ∀ c, phase c b'.log = phase c b.log) : Tracks o b' := by
  constructor
  · intro i c hc
    rw [hphase, hsent, hout]
    exact h.isOpen i c (hfd i ▸ hc)
  · intro i c hc
    rw [hseen]
    exact h.isSeen i c (hfd i ▸ hc)
  · intro i j c hi hj
    exact h.distinct i j c (hfd i ▸ hi) (hfd j ▸ hj)
  · intro c hc hno
    rw [hphase]
    exact h.gone c (hseen ▸ hc) fun i => hfd i ▸ hno i
  · intro c hc
    rw [hphase]
    exact h.fresh c (hseen ▸ hc)

/-- Rewriting a record without its connection and its bytes. -/
theorem Tracks.setClient (h : Tracks o b) {i : Slot} {c : Client} (hfd : c.fd = (b.clients i).fd)
    (hsent : c.sent = (b.clients i).sent) (hout : c.output = (b.clients i).output) :
    Tracks o (b.setClient i c) := by
  refine h.quiet (fun j => ?_) (fun j => ?_) (fun j => ?_) rfl fun _ => rfl <;>
  · by_cases hj : j = i
    · subst hj
      rwa [setClient_self]
    · rw [setClient_ne b hj]

/-- **What an operation on one slot has to show**: its connection is still there in the phase the
    record asks for, or the record is free and the connection closed. -/
theorem Tracks.slot {o' : Option Slot} (h : Tracks o b) {c₀ : Conn}
    (hfd : (b.clients i).fd = some c₀)
    (hlink : ∀ j, j ≠ i → (b'.clients j).toLink = (b.clients j).toLink)
    (hseen : b'.seen = b.seen) (hphase : ∀ c, c ≠ c₀ → phase c b'.log = phase c b.log)
    (ho : ∀ j, j ≠ i → (o = some j ↔ o' = some j))
    (hi : ((b'.clients i).fd = some c₀ ∧
        phase c₀ b'.log = if o' = some i then .broken else .open (b'.clients i).sent (b'.clients i).output) ∨
      ((b'.clients i).fd = none ∧ phase c₀ b'.log = .closed)) : Tracks o' b' := by
  have hback : ∀ j c, (b'.clients j).fd = some c → (b.clients j).fd = some c := by
    intro j c hc
    by_cases hj : j = i
    · subst hj
      rcases hi with ⟨h1, _⟩ | ⟨h1, _⟩
      · rw [hfd, ← h1, hc]
      · rw [h1] at hc
        cases hc
    · rw [← congrArg Link.fd (hlink j hj)]
      exact hc
  constructor
  · intro j c hc
    by_cases hj : j = i
    · subst hj
      have hcc : c = c₀ := Option.some.inj ((hback j c hc).symm.trans hfd)
      subst hcc
      rcases hi with ⟨_, h2⟩ | ⟨h1, _⟩
      · exact h2
      · rw [h1] at hc
        cases hc
    · have hcc : c ≠ c₀ := fun e => hj (h.distinct j i c (hback j c hc) (e ▸ hfd))
      rw [hphase c hcc, congrArg Link.output (hlink j hj), congrArg Link.sent (hlink j hj),
        h.isOpen j c (hback j c hc)]
      simp only [ho j hj]
  · intro j c hc
    rw [hseen]
    exact h.isSeen j c (hback j c hc)
  · intro j j' c hj hj'
    exact h.distinct j j' c (hback j c hj) (hback j' c hj')
  · intro c hc hno
    by_cases hcc : c = c₀
    · subst hcc
      rcases hi with ⟨h1, _⟩ | ⟨_, h2⟩
      · exact absurd h1 (hno i)
      · exact h2
    · rw [hphase c hcc]
      refine h.gone c (hseen ▸ hc) fun j hj => ?_
      by_cases hji : j = i
      · subst hji
        exact hcc (Option.some.inj (hj.symm.trans hfd))
      · exact hno j (by rw [congrArg Link.fd (hlink j hji)]; exact hj)
  · intro c hc
    have hcc : c ≠ c₀ := fun e => hc (hseen ▸ h.isSeen i c (e ▸ hfd))
    rw [hphase c hcc]
    exact h.fresh c (hseen ▸ hc)

/-- Which free slot is called broken does not matter. -/
theorem Tracks.ofFree {o' : Option Slot} (h : Tracks o b) (hi : (b.clients i).fd = none)
    (ho : ∀ j, j ≠ i → (o = some j ↔ o' = some j)) : Tracks o' b := by
  refine ⟨fun j c hc => ?_, h.isSeen, h.distinct, h.gone, h.fresh⟩
  have hj : j ≠ i := by
    rintro rfl
    rw [hi] at hc
    cases hc
  rw [h.isOpen j c hc]
  simp only [ho j hj]

/-! ## 2. Every operation keeps it -/

theorem emit_phase_ne (b : Bridge) {e : Out} {c : Conn} (h : e.conn ≠ some c) :
    phase c (b.emit e).log = phase c b.log := by
  rw [emit_log, phase_concat, Phase.see_of_ne h]

theorem phase_blind (c : Conn) : Blind fun b b' => phase c b'.log = phase c b.log where
  trans h h' := h'.trans h
  unseen _ h := by rw [h]
  send b low high d _ := sendLorieRumble_rel (R := fun b b' => phase c b'.log = phase c b.log) rfl
    (fun _ _ => emit_phase_ne b (by simp [Out.conn])) low high d
  mark b _ _ := emit_phase_ne b (by simp [Out.conn])

theorem updateRumble_tracks (h : Tracks o b) (force : Bool) : Tracks o (b.updateRumble force) :=
  h.quiet (fun j => congrArg Link.fd (updateRumble_toLink b force j))
    (fun j => congrArg Link.sent (updateRumble_toLink b force j))
    (fun j => congrArg Link.output (updateRumble_toLink b force j)) (frame_blind.updateRumble b force).seen
    fun c => (phase_blind c).updateRumble b force

theorem emitFor_some {c : Conn} (h : (b.clients i).fd = some c) (e : Conn → Out) :
    b.emitFor i e = b.emit (e c) := by
  unfold emitFor
  rw [h]

theorem emitFor_none (h : (b.clients i).fd = none) (e : Conn → Out) : b.emitFor i e = b := by
  unfold emitFor
  rw [h]

/-- A fault breaks the connection it is about. -/
theorem emitFor_breaks {e : Conn → Out} (he : ∀ c, (e c).conn = some c)
    (hnext : ∀ c sent owed, (Phase.open sent owed).next (e c) = .broken) (h : Tracked b) (i : Slot) :
    Tracks (some i) (b.emitFor i e) := by
  cases hfd : (b.clients i).fd with
  | none =>
    rw [emitFor_none hfd]
    exact h.ofFree hfd (by simp; tauto)
  | some c₀ =>
    rw [emitFor_some hfd]
    refine h.slot hfd (fun _ _ => rfl) rfl (fun c hc => emit_phase_ne b ?_) (by simp; tauto)
      (Or.inl ⟨hfd, ?_⟩)
    · rw [he]
      exact fun hcc => hc (Option.some.inj hcc).symm
    · rw [emit_log, phase_concat, Phase.see_of_eq (he c₀), h.isOpen i c₀ hfd]
      simp [hnext]

/-- **Closing settles a broken slot.** -/
theorem closeClient_tracks (h : Tracks (some i) b) : Tracked (b.closeClient i) := by
  have hcl : Tracked ((b.emitFor i .closed).setClient i Client.free) := by
    cases hfd : (b.clients i).fd with
    | none =>
      rw [emitFor_none hfd]
      have hback : ∀ j, ((b.setClient i Client.free).clients j).fd = (b.clients j).fd ∧
          (j ≠ i → ((b.setClient i Client.free).clients j) = b.clients j) := by
        intro j
        by_cases hj : j = i
        · subst hj
          rw [setClient_self, hfd]
          exact ⟨rfl, fun hne => absurd rfl hne⟩
        · rw [setClient_ne b hj]
          exact ⟨rfl, fun _ => rfl⟩
      refine ⟨fun j c hc => ?_, fun j c hc => ?_, fun j j' c hj hj' => ?_, fun c hc hno => ?_,
        h.fresh⟩
      · rw [(hback j).1] at hc
        have hj : j ≠ i := by
          rintro rfl
          rw [hfd] at hc
          cases hc
        rw [(hback j).2 hj, setClient_log, h.isOpen j c hc]
        simp [Ne.symm hj]
      · rw [(hback j).1] at hc
        exact h.isSeen j c hc
      · rw [(hback j).1] at hj
        rw [(hback j').1] at hj'
        exact h.distinct j j' c hj hj'
      · exact h.gone c hc fun j => (hback j).1 ▸ hno j
    | some c₀ =>
      rw [emitFor_some hfd]
      refine h.slot hfd (fun j hj => by rw [setClient_ne _ hj]; rfl) rfl
        (fun c hc => emit_phase_ne b (by simpa [Out.conn] using Ne.symm hc))
        (by simp; tauto) (Or.inr ⟨by rw [setClient_self]; rfl, ?_⟩)
      rw [setClient_log, emit_log, phase_concat, Phase.see_of_eq rfl, h.isOpen i c₀ hfd, if_pos rfl]
      rfl
  unfold closeClient
  dsimp only
  split
  · exact updateRumble_tracks hcl true
  · exact hcl

/-- What an operation with a result keeps: where it fails, it leaves its slot broken. -/
abbrev Settles (i : Slot) (r : Bridge × Bool) : Prop := Tracks (if r.2 then none else some i) r.1

/-- The state after the send loop of `flush_client`. -/
def afterSend (b : Bridge) (i : Slot) (c : Conn) : Bridge :=
  let r := flushLoop b.sends (b.clients i).output []
  ({ b with sends := r.sends }.setClient i
    { b.clients i with output := r.output, sent := (b.clients i).sent ++ r.accepted }).emit
    (.sent c r.accepted)

theorem flushClient_cases (b : Bridge) (i : Slot) :
    b.flushClient i = (b, true) ∨ ∃ c, (b.clients i).fd = some c ∧
      (b.flushClient i = (b.afterSend i c, true) ∨
        b.flushClient i = ((b.afterSend i c).emitFor i .sendFailed, false)) := by
  cases hfd : (b.clients i).fd with
  | none =>
    left
    unfold flushClient
    simp only [hfd]
  | some c =>
    refine Or.inr ⟨c, rfl, ?_⟩
    have hfd' : ((b.afterSend i c).clients i).fd = some c := by
      unfold afterSend
      dsimp only
      rw [emit_clients, setClient_self]
      exact hfd
    rw [emitFor_some hfd']
    unfold flushClient afterSend
    simp only [hfd]
    by_cases hok : (flushLoop b.sends (b.clients i).output []).ok = true
    · exact Or.inl (if_pos hok)
    · exact Or.inr (if_neg hok)

theorem afterSend_tracks (h : Tracked b) {c : Conn} (hfd : (b.clients i).fd = some c) :
    Tracked (b.afterSend i c) := by
  obtain ⟨hstream, -⟩ := flushLoop_stream b.sends (b.clients i).output []
  rw [List.nil_append] at hstream
  unfold afterSend
  dsimp only
  refine h.slot hfd (fun j hj => by rw [emit_clients, setClient_ne _ hj]) rfl
    (fun c' hc => emit_phase_ne _ (by simpa [Out.conn] using Ne.symm hc)) (by simp)
    (Or.inl ⟨by rw [emit_clients, setClient_self]; exact hfd, ?_⟩)
  rw [emit_log, setClient_log, phase_concat, Phase.see_of_eq rfl, h.isOpen i c hfd,
    if_neg (by simp), if_neg (by simp), emit_clients, setClient_self]
  have hpre : (flushLoop b.sends (b.clients i).output []).accepted.isPrefixOf
      (b.clients i).output := List.isPrefixOf_iff_prefix.mpr ⟨_, hstream⟩
  have hrest : (b.clients i).output.drop
      (flushLoop b.sends (b.clients i).output []).accepted.length =
        (flushLoop b.sends (b.clients i).output []).output := by
    have hdrop := congrArg (List.drop (flushLoop b.sends (b.clients i).output []).accepted.length)
      hstream
    rw [List.drop_left] at hdrop
    exact hdrop.symm
  simp only [Phase.next, if_pos hpre, hrest]

/-- **A flush keeps the account**, and breaks the connection where it fails. -/
theorem flushClient_settles (h : Tracked b) (i : Slot) : Settles i (b.flushClient i) := by
  rcases flushClient_cases b i with h1 | ⟨c, hfd, h1 | h1⟩
  · rw [h1]
    exact h
  · rw [h1]
    exact afterSend_tracks h hfd
  · rw [h1]
    exact emitFor_breaks (fun _ => rfl) (fun _ _ _ => rfl) (afterSend_tracks h hfd) i

theorem queueBytes_settles (h : Tracked b) (i : Slot) (m : Message) :
    Settles i (b.queueBytes i m) := by
  cases hfd : (b.clients i).fd with
  | none =>
    have hq : b.queueBytes i m = (b, false) := by
      unfold queueBytes
      simp only [hfd]
    rw [hq]
    exact h.ofFree hfd (by simp; tauto)
  | some c =>
    unfold queueBytes
    simp only [hfd]
    split
    · rw [← emitFor_some hfd]
      exact emitFor_breaks (fun _ => rfl) (fun _ _ _ => rfl) h i
    · refine flushClient_settles ?_ i
      refine h.slot hfd (fun j hj => by rw [emit_clients, setClient_ne _ hj]) rfl
        (fun c' hc => emit_phase_ne _ (by simpa [Out.conn] using Ne.symm hc)) (by simp)
        (Or.inl ⟨by rw [emit_clients, setClient_self], ?_⟩)
      rw [emit_log, setClient_log, phase_concat, Phase.see_of_eq rfl, h.isOpen i c hfd,
        if_neg (by simp), if_neg (by simp), emit_clients, setClient_self, Phase.next]

/-- A caller that closes on failure settles everything. -/
theorem Settles.close {r : Bridge × Bool} (h : Settles i r) :
    Tracked (if r.2 then r.1 else r.1.closeClient i) := by
  unfold Settles at h
  split
  · rename_i hok
    simpa [hok] using h
  · rename_i hfail
    simp only [hfail, Bool.false_eq_true, if_false] at h
    exact closeClient_tracks h

theorem queueOrClose_tracks (h : Tracked b) (i : Slot) (m : Message) :
    Tracked (b.queueOrClose i m) := (queueBytes_settles h i m).close

theorem broadcast_tracks (h : Tracked b) (kind : ClientKind) (m : Message) :
    Tracked (b.broadcast kind m) := by
  refine sweep_inv (P := Tracked) (fun b i hb => ?_) h
  split
  · exact queueOrClose_tracks hb i m
  · exact hb

theorem Tracks.sameButStamps (h : Tracks o b) (hb : b.SameButStamps b') : Tracks o b' := by
  obtain ⟨ts, rfl⟩ := hb
  exact h.quiet (fun _ => rfl) (fun _ => rfl) (fun _ => rfl) rfl fun _ => rfl

theorem sendSnapshot_tracks (h : Tracked b) (i : Slot) : Tracked (b.sendSnapshot i) :=
  queueOrClose_tracks (h.sameButStamps (appendRecords_spec _ (b, [])).1) i _

theorem setRumble_tracks (h : Tracked b) (i : Slot) (r : Rumble) : Tracked (b.setRumble i r) := by
  unfold setRumble
  exact h.setClient rfl rfl rfl

theorem setKind_tracks (h : Tracked b) (i : Slot) (k : ClientKind) : Tracked (b.setKind i k) := by
  unfold setKind
  exact h.setClient rfl rfl rfl

theorem monotonicMs_tracks (h : Tracked b) : Tracked b.monotonicMs.2 :=
  h.quiet (fun _ => rfl) (fun _ => rfl) (fun _ => rfl) rfl fun _ => rfl

theorem handleCommand_settles (h : Tracked b) (i : Slot) (m : ControlMessage) :
    Settles i (b.handleCommand i m) := by
  unfold handleCommand
  dsimp only
  split
  · exact updateRumble_tracks (setRumble_tracks (monotonicMs_tracks h) ..) true
  split
  · exact updateRumble_tracks (setRumble_tracks h ..) true
  split
  · have hq := queueBytes_settles (setKind_tracks h i .events) i (.descriptor b.deviceDescriptor)
    split
    · rename_i hfail
      have hf : ((b.setKind i .events).queueBytes i (.descriptor b.deviceDescriptor)).2 = false := by
        simpa using hfail
      simpa [Settles, hf] using hq
    · rename_i hok
      have ht : ((b.setKind i .events).queueBytes i (.descriptor b.deviceDescriptor)).2 = true := by
        simpa using hok
      rw [Settles, ht] at hq
      split
      · exact sendSnapshot_tracks hq i
      · exact hq
  split
  · exact queueBytes_settles (setKind_tracks h i .monitor) i _
  · exact emitFor_breaks (fun _ => rfl) (fun _ _ _ => rfl) h i

theorem messageLoop_settles (fuel : Nat) (h : Tracked b) (i : Slot) :
    Settles i (messageLoop fuel b i) := by
  induction fuel generalizing b with
  | zero => exact h
  | succ fuel ih =>
    unfold messageLoop
    dsimp only
    split
    · exact h
    split
    · exact emitFor_breaks (fun _ => rfl) (fun _ _ _ => rfl) h i
    have hcmd := handleCommand_settles (Tracks.setClient (i := i) (c := takeMessage (b.clients i)
      (controlMessageCodec.dec (b.clients i).control) b.deviceDescriptor) h rfl rfl rfl) i
      (controlMessageCodec.dec (b.clients i).control)
    split
    · rename_i hok
      rw [Settles, hok] at hcmd
      exact ih hcmd
    · exact hcmd

/-- A receive call with room in the control buffer. -/
theorem receiveControlMessages_settles (h : Tracked b) (i : Slot) (r : RecvResult)
    (hroom : (b.clients i).control.length ≠ controlBufferSize) :
    Settles i (b.receiveControlMessages i r) := by
  unfold receiveControlMessages
  dsimp only
  rw [if_neg hroom]
  split
  · exact emitFor_breaks (fun _ => rfl) (fun _ _ _ => rfl) h i
  · exact h
  · exact emitFor_breaks (fun _ => rfl) (fun _ _ _ => rfl) h i
  · refine messageLoop_settles _ ?_ i
    exact h.setClient rfl rfl rfl

theorem serveReadable_tracks (h : Tracked b) (i : Slot) (r : RecvResult)
    (hroom : (b.clients i).control.length ≠ controlBufferSize) : Tracked (b.serveReadable i r) :=
  (receiveControlMessages_settles h i r hroom).close

theorem serveWritable_tracks (h : Tracked b) (i : Slot) : Tracked (b.serveWritable i) :=
  (flushClient_settles h i).close

theorem hangUp_tracks (h : Tracked b) (i : Slot) : Tracked (b.hangUp i) :=
  closeClient_tracks (emitFor_breaks (fun _ => rfl) (fun _ _ _ => rfl) h i)

/-- Where a connection is turned away. -/
theorem turnAway_tracks (h : Tracked b) {c : Conn} (hc : c ∉ b.seen) :
    Tracked ({ b with seen := c :: b.seen }.emit (.turnedAway c)) := by
  have hne : ∀ {c'}, c' ∈ b.seen → (Out.turnedAway c).conn ≠ some c' := fun hc' he =>
    hc (Option.some.inj he ▸ hc')
  refine ⟨fun i c' hc' => ?_, fun i c' hc' => List.mem_cons_of_mem _ (h.isSeen i c' hc'),
    h.distinct, fun c' hc' hno => ?_, fun c' hc' => ?_⟩
  · rw [emit_phase_ne _ (hne (h.isSeen i c' hc'))]
    exact h.isOpen i c' hc'
  · rcases List.mem_cons.mp hc' with rfl | hc'
    · rw [emit_log, phase_concat, Phase.see_of_eq rfl]
      exact congrArg (fun p => Phase.next p _) (h.fresh c' hc)
    · rw [emit_phase_ne _ (hne hc')]
      exact h.gone c' hc' hno
  · obtain ⟨hcc, hc'⟩ := not_or.mp (mt List.mem_cons.mpr hc')
    rw [emit_phase_ne _ (by simpa [Out.conn] using Ne.symm hcc)]
    exact h.fresh c' hc'

/-- Where a connection is taken in. -/
theorem takeIn_tracks (h : Tracked b) {c : Conn} (hc : c ∉ b.seen)
    (hfree : (b.clients i).fd = none) :
    Tracked (({ b with seen := c :: b.seen }.setClient i (acceptedClient c)).emit
      (.connected c)) := by
  have hne : ∀ {c'}, c' ∈ b.seen → (Out.connected c).conn ≠ some c' := fun hc' he =>
    hc (Option.some.inj he ▸ hc')
  have hcl : ∀ j c', ((Function.update b.clients i (acceptedClient c)) j).fd = some c' →
      (j = i ∧ c' = c) ∨ (j ≠ i ∧ (b.clients j).fd = some c') := by
    intro j c' hj
    by_cases hji : j = i
    · subst hji
      rw [Function.update_self] at hj
      exact Or.inl ⟨rfl, (Option.some.inj hj).symm⟩
    · rw [Function.update_of_ne hji] at hj
      exact Or.inr ⟨hji, hj⟩
  constructor
  · intro j c' hj
    rcases hcl j c' hj with ⟨rfl, rfl⟩ | ⟨hji, hj'⟩
    · rw [emit_log, phase_concat, Phase.see_of_eq rfl, emit_clients, setClient_self]
      exact congrArg (fun p => Phase.next p _) (h.fresh c' hc)
    · rw [emit_phase_ne _ (hne (h.isSeen j c' hj')), emit_clients, setClient_ne _ hji]
      exact h.isOpen j c' hj'
  · intro j c' hj
    rcases hcl j c' hj with ⟨_, rfl⟩ | ⟨_, hj'⟩
    · exact List.mem_cons_self
    · exact List.mem_cons_of_mem _ (h.isSeen j c' hj')
  · intro j j' c' hj hj'
    rcases hcl j c' hj with ⟨rfl, rfl⟩ | ⟨_, h1⟩ <;> rcases hcl j' c' hj' with ⟨h2, h2'⟩ | ⟨_, h2⟩
    · exact h2.symm
    · exact absurd (h.isSeen j' c' h2) hc
    · exact absurd (h2' ▸ h.isSeen j c' h1) hc
    · exact h.distinct j j' c' h1 h2
  · intro c' hc' hno
    rcases List.mem_cons.mp hc' with rfl | hc'
    · exact absurd (by rw [emit_clients, setClient_self]; rfl) (hno i)
    · rw [emit_phase_ne _ (hne hc')]
      refine h.gone c' hc' fun j hj => ?_
      have hji : j ≠ i := by
        rintro rfl
        rw [hfree] at hj
        cases hj
      exact hno j (by rw [emit_clients, setClient_ne _ hji]; exact hj)
  · intro c' hc'
    obtain ⟨hcc, hc'⟩ := not_or.mp (mt List.mem_cons.mpr hc')
    rw [emit_phase_ne _ (by simpa [Out.conn] using Ne.symm hcc)]
    exact h.fresh c' hc'

theorem acceptClient_tracks (h : Tracked b) (r : AcceptResult) : Tracked (b.acceptClient r) := by
  unfold acceptClient
  split
  · exact h
  dsimp only
  split
  · exact h
  rename_i c _ hc
  split
  · exact turnAway_tracks h hc
  split
  · rename_i i hi
    exact takeIn_tracks h hc (freeSlot_fd hi)
  · exact turnAway_tracks h hc

theorem SameButState.tracks (h : Tracks o b) (hb : b.SameButState b') : Tracks o b' := by
  obtain ⟨s, ts, rfl⟩ := hb
  exact h.quiet (fun _ => rfl) (fun _ => rfl) (fun _ => rfl) rfl fun _ => rfl

theorem dispatchXEvent_tracks (h : Tracked b) (e : XEvent) : Tracked (b.dispatchXEvent e) := by
  cases e with
  | hierarchyChanged answer =>
    refine refreshLorieDevice_inv (P := Tracked) answer ?_ ?_ ?_
    · rintro c ⟨reqs, rfl, hreqs⟩
      refine h.quiet (fun _ => rfl) (fun _ => rfl) (fun _ => rfl) rfl fun c' => phase_silent b.log fun o ho => ?_
      obtain ⟨t, d, rfl⟩ := hreqs o ho
      simp [Out.conn]
    · intro c _ hc
      have hgone : Tracked c.gone := hc.quiet (fun _ => rfl) (fun _ => rfl) (fun _ => rfl) rfl fun c' =>
        emit_phase_ne c (by simp [Out.conn])
      exact broadcast_tracks hgone ..
    · intro c f _ _ hc
      have hcame : Tracked (c.came f) := hc.quiet (fun _ => rfl) (fun _ => rfl) (fun _ => rfl) rfl fun c' =>
        emit_phase_ne c (by simp [Out.conn])
      exact broadcast_tracks hcame ..
  | device event =>
    have hb := (eventBatch_same b event).tracks h
    show Tracked (b.processXiEvent event b.lorieDeviceId)
    rcases processXiEvent_cases b event b.lorieDeviceId with h1 | ⟨_, h1⟩ | ⟨b', evs, hb', _, h1⟩
    · rw [h1]
      exact h
    · rw [h1]
      exact hb
    · rw [h1]
      exact broadcast_tracks (hb.sameButStamps hb') ..

/-! ## 3. Runs -/

/-- Between two steps no message is left in a control buffer. -/
def Short (b : Bridge) : Prop := ∀ i, (b.clients i).control.length < 16

theorem Short.stays (h : Short b) (hb : b.StaysAll b') : Short b' := by
  intro i
  rcases (hb i).2.1 with h1 | h1
  · rw [h1]
    exact h i
  · rw [h1]
    exact Nat.zero_lt_succ _

/-- The loop of `receive_control_messages` leaves less than one message. -/
theorem messageLoop_short (fuel : Nat) (b : Bridge) (i : Slot)
    (hlen : (b.clients i).control.length ≤ fuel) (hok : (messageLoop fuel b i).2 = true) :
    ((messageLoop fuel b i).1.clients i).control.length < 16 := by
  induction fuel generalizing b with
  | zero => exact Nat.lt_of_le_of_lt hlen (by decide)
  | succ fuel ih =>
    unfold messageLoop at hok ⊢
    dsimp only at hok ⊢
    split at hok
    · rename_i hlt
      rwa [if_pos hlt]
    rename_i hge
    rw [if_neg hge]
    split at hok
    · cases hok
    rename_i hvalid
    rw [if_neg hvalid]
    split at hok
    · rename_i hr
      rw [if_pos hr]
      refine ih _ ?_ hok
      have hctl := (handleCommand_handled _ i _ hr).control
      rw [setClient_self] at hctl
      rcases hctl with hctl | hctl
      · rw [hctl]
        simp only [takeMessage, List.length_drop]
        omega
      · rw [hctl]
        exact Nat.zero_le _
    · rename_i hr
      exact absurd hok hr

theorem serveReadable_short (h : Short b) (i : Slot) (r : RecvResult) :
    Short (b.serveReadable i r) := by
  intro j
  by_cases hj : j = i
  · subst hj
    unfold serveReadable
    dsimp only
    split
    · rename_i hok
      unfold receiveControlMessages at hok ⊢
      dsimp only at hok ⊢
      split at hok
      · cases hok
      rename_i hfull
      rw [if_neg hfull]
      split at hok
      · cases hok
      · exact h j
      · cases hok
      · exact messageLoop_short _ _ j (by simp) hok
    · rw [congrArg Link.control (closeClient_toLink_self _ j)]
      exact Nat.zero_lt_succ _
  · rw [congrArg Link.control ((serveReadable_frame b i r).2 j hj)]
    exact h j

theorem Short.room (h : Short b) (i : Slot) : (b.clients i).control.length ≠ controlBufferSize := by
  have := h i
  unfold controlBufferSize
  omega

theorem acceptClient_short (h : Short b) (r : AcceptResult) : Short (b.acceptClient r) := by
  intro i
  rcases acceptClient_toLink b r i with h1 | ⟨c, _, _, _, h1⟩
  · rw [congrArg Link.control h1]
    exact h i
  · rw [congrArg Link.control h1]
    exact Nat.zero_lt_succ _

/-- No output buffer is over its size. -/
def Roomy (b : Bridge) : Prop := ∀ i, (b.clients i).output.length ≤ clientBufferSize

theorem Roomy.stays (h : Roomy b) (hb : b.StaysAll b') : Roomy b' := fun i => (hb i).2.2 (h i)

theorem serveReadable_roomy (h : Roomy b) (i : Slot) (r : RecvResult) :
    Roomy (b.serveReadable i r) := by
  intro j
  by_cases hj : j = i
  · subst hj
    refine serveReadable_inv (P := fun l : Link => l.output.length ≤ clientBufferSize) b j r
      (fun l l' hl _ hh => ?_) (Nat.zero_le _) (h j)
    cases hh with
    | freed h => rw [h]; exact Nat.zero_le _
    | rumble _ h => rw [h]; exact hl
    | absent _ _ h => exact h.room hl
    | snapshot _ _ _ _ h => exact h.room hl
    | monitor _ h => exact h.room hl
  · rw [congrArg Link.output ((serveReadable_frame b i r).2 j hj)]
    exact h j

theorem acceptClient_roomy (h : Roomy b) (r : AcceptResult) : Roomy (b.acceptClient r) := by
  intro i
  rcases acceptClient_toLink b r i with h1 | ⟨c, _, _, _, h1⟩
  · rw [congrArg Link.output h1]
    exact h i
  · rw [congrArg Link.output h1]
    exact Nat.zero_le _

/-- What every reachable bridge satisfies between two steps. -/
structure Sound (b : Bridge) : Prop where
  tracked : Tracked b
  short : Short b
  roomy : Roomy b

/-- An action is an acceptance, a receive call, or takes no link over. -/
theorem act_stays (b : Bridge) (a : Action) :
    b.StaysAll (b.act a) ∨ (∃ r, a = .accept r) ∨ ∃ i r, a = .readable i r := by
  cases a with
  | xEvent e => exact Or.inl (dispatchXEvent_stays b e)
  | accept r => exact Or.inr (Or.inl ⟨r, rfl⟩)
  | writable i =>
    left
    show b.StaysAll (if (b.clients i).fd.isSome then b.serveWritable i else b)
    split
    · unfold serveWritable
      dsimp only
      split
      · exact flushClient_stays b i
      · exact (flushClient_stays b i).trans (closeClient_stays _ i)
    · exact .refl b
  | readable i r => exact Or.inr (Or.inr ⟨i, r, rfl⟩)
  | hangup i =>
    left
    show b.StaysAll (if (b.clients i).fd.isSome then b.hangUp i else b)
    split
    · exact (StaysAll.of_clients (emitFor_clients b i _)).trans (closeClient_stays _ i)
    · exact .refl b
  | tick => exact Or.inl (updateRumble_stays b false)

theorem act_tracks (h : Sound b) (a : Action) : Tracked (b.act a) := by
  cases a with
  | xEvent e => exact dispatchXEvent_tracks h.tracked e
  | accept r => exact acceptClient_tracks h.tracked r
  | writable i =>
    show Tracked (if (b.clients i).fd.isSome then b.serveWritable i else b)
    split
    · exact serveWritable_tracks h.tracked i
    · exact h.tracked
  | readable i r =>
    show Tracked (if (b.clients i).fd.isSome then b.serveReadable i r else b)
    split
    · exact serveReadable_tracks h.tracked i r (h.short.room i)
    · exact h.tracked
  | hangup i =>
    show Tracked (if (b.clients i).fd.isSome then b.hangUp i else b)
    split
    · exact hangUp_tracks h.tracked i
    · exact h.tracked
  | tick => exact updateRumble_tracks h.tracked false

theorem act_sound (h : Sound b) (a : Action) : Sound (b.act a) := by
  refine ⟨act_tracks h a, ?_, ?_⟩
  · rcases act_stays b a with hs | ⟨r, rfl⟩ | ⟨i, r, rfl⟩
    · exact h.short.stays hs
    · exact acceptClient_short h.short r
    · show Short (if (b.clients i).fd.isSome then b.serveReadable i r else b)
      split
      · exact serveReadable_short h.short i r
      · exact h.short
  · rcases act_stays b a with hs | ⟨r, rfl⟩ | ⟨i, r, rfl⟩
    · exact h.roomy.stays hs
    · exact acceptClient_roomy h.roomy r
    · show Roomy (if (b.clients i).fd.isSome then b.serveReadable i r else b)
      split
      · exact serveReadable_roomy h.roomy i r
      · exact h.roomy

/-- The answers of the environment matter to no invariant of the table. -/
theorem Sound.env (h : Sound b) (sends : List SendResult) (ticks : List Nat)
    (stamps : List Timeval) : Sound (b.withEnv sends ticks stamps) :=
  ⟨h.tracked.quiet (fun _ => rfl) (fun _ => rfl) (fun _ => rfl) rfl fun _ => rfl, h.short, h.roomy⟩

theorem init_sound (opcode : Int) : Sound (Bridge.init opcode) :=
  ⟨tracked_init opcode, fun _ => Nat.zero_lt_succ _, fun _ => Nat.zero_le _⟩

/-- **Every run keeps the account of every connection.** -/
theorem run_sound (opcode : Int) (answer : DeviceAnswer) (inputs : List Input) :
    Sound (run step (boot opcode answer) inputs) :=
  run_boot_inv init_sound (fun _ sends ticks stamps h => h.env sends ticks stamps)
    (fun _ a h => act_sound h a) opcode answer inputs

/-! ## 4. The stream of every client -/

theorem Tracks.settled (h : Tracked b) (c : Conn) :
    phase c b.log ≠ .bad ∧ phase c b.log ≠ .broken := by
  by_cases hs : c ∈ b.seen
  · by_cases hi : ∃ i, (b.clients i).fd = some c
    · obtain ⟨i, hi⟩ := hi
      rw [h.isOpen i c hi, if_neg (by simp)]
      exact ⟨Phase.noConfusion, Phase.noConfusion⟩
    · rw [h.gone c hs fun i hc => hi ⟨i, hc⟩]
      exact ⟨Phase.noConfusion, Phase.noConfusion⟩
  · rw [h.fresh c hs]
    exact ⟨Phase.noConfusion, Phase.noConfusion⟩

/-- The record knows what was sent on its connection. -/
theorem Tracks.sent_eq (h : Tracked b) {c : Conn} (hc : (b.clients i).fd = some c) :
    sentOn c b.log = (b.clients i).sent := by
  have hacc := phase_accounts c b.log
  rw [h.isOpen i c hc, if_neg (by simp)] at hacc
  exact hacc.1

/-- On a connection nobody accepted yet nothing is sent. -/
theorem Tracks.unseen_sent (h : Tracked b) {c : Conn} (hc : c ∉ b.seen) : sentOn c b.log = [] := by
  have hacc := phase_accounts c b.log
  rw [h.fresh c hc] at hacc
  exact hacc.1

theorem Tracks.unseen_queued (h : Tracked b) {c : Conn} (hc : c ∉ b.seen) :
    queuedOn c b.log = [] := by
  have hacc := phase_accounts c b.log
  rw [h.fresh c hc] at hacc
  exact hacc.2

/-- **Only an acceptance puts a connection into a slot**, and the record is empty then. -/
theorem act_takes {a : Action} {c : Conn} (hc : ((b.act a).clients i).fd = some c)
    (hnew : (b.clients i).fd ≠ some c) :
    c ∉ b.seen ∧ (∃ r, a = .accept r) ∧ ((b.act a).clients i).toLink = (acceptedClient c).toLink := by
  rcases act_stays b a with hs | ⟨r, rfl⟩ | ⟨j, r, rfl⟩
  · rcases (hs i).1 with h1 | h1
    · exact absurd (h1 ▸ hc) hnew
    · rw [h1] at hc
      cases hc
  · rcases acceptClient_toLink b r i with h1 | ⟨c', _, h2, _, h4⟩
    · exact absurd ((congrArg Link.fd h1).symm.trans hc) hnew
    · have hcc : c' = c := Option.some.inj ((congrArg Link.fd h4).symm.trans hc)
      subst hcc
      exact ⟨h2, ⟨r, rfl⟩, h4⟩
  · have hfd : ((b.act (.readable j r)).clients i).fd = (b.clients i).fd ∨
        ((b.act (.readable j r)).clients i).fd = none := by
      have hact : b.act (.readable j r) =
          if (b.clients j).fd.isSome then b.serveReadable j r else b := rfl
      rw [hact]
      split
      · exact serveReadable_fd b j r i
      · exact Or.inl rfl
    rcases hfd with h1 | h1
    · exact absurd (h1 ▸ hc) hnew
    · rw [h1] at hc
      cases hc

/-- Acceptance sends and queues nothing. -/
theorem acceptClient_quiet (b : Bridge) (r : AcceptResult) (c : Conn) :
    sentOn c (b.acceptClient r).log = sentOn c b.log ∧
      queuedOn c (b.acceptClient r).log = queuedOn c b.log := by
  unfold acceptClient
  split
  · exact ⟨rfl, rfl⟩
  dsimp only
  split
  · exact ⟨rfl, rfl⟩
  split
  · simp [sentOn, queuedOn]
  split <;> simp [sentOn, queuedOn]

/-- What one step guarantees about a connection it puts into a slot. -/
theorem step_takes (h : Sound b) {inp : Input} {c : Conn}
    (hc : ((b.step inp).clients i).fd = some c) (hnew : (b.clients i).fd ≠ some c) :
    ((b.step inp).clients i).output = [] ∧ sentOn c (b.step inp).log = [] ∧
      queuedOn c (b.step inp).log = [] := by
  obtain ⟨hseen, ⟨r, ha⟩, hlink⟩ :=
    act_takes (b := b.withEnv inp.sends inp.ticks inp.stamps) (a := inp.action) hc hnew
  have hacc := phase_accounts c b.log
  rw [h.tracked.fresh c hseen] at hacc
  have hq := acceptClient_quiet (b.withEnv inp.sends inp.ticks inp.stamps) r c
  refine ⟨congrArg Link.output hlink, ?_, ?_⟩ <;> rw [step, ha]
  · exact hq.1.trans hacc.1
  · exact hq.2.trans hacc.2

/-- What was sent on a connection is a beginning of what was queued on it. -/
theorem sentOn_prefix (opcode : Int) (answer : DeviceAnswer) (inputs : List Input) (c : Conn) :
    sentOn c (run step (boot opcode answer) inputs).log <+:
      (queuedOn c (run step (boot opcode answer) inputs).log).flatMap Message.bytes :=
  (phase_accounts c _).isPrefix ((run_sound opcode answer inputs).tracked.settled c).1

/-- **Output stream integrity.** In every run, at every moment of the history, what was sent on a
    connection is a beginning of what was queued on it; a client in the table is owed exactly its
    output buffer, which is never over its size; after an overflow or a failed send the
    connection is closed, nothing more is sent on it, and no slot holds it; and a slot's next
    occupant starts with nothing sent, nothing queued and nothing buffered. -/
theorem stream_integrity (opcode : Int) (answer : DeviceAnswer) (inputs : List Input) :
    let b := run step (boot opcode answer) inputs
    (∀ c pre post, b.log = pre ++ post →
      sentOn c pre <+: (queuedOn c pre).flatMap Message.bytes) ∧
    (∀ i c, (b.clients i).fd = some c →
      sentOn c b.log ++ (b.clients i).output = (queuedOn c b.log).flatMap Message.bytes ∧
        (b.clients i).output.length ≤ clientBufferSize) ∧
    (∀ c pre post, b.log = pre ++ .overflow c :: post ∨ b.log = pre ++ .sendFailed c :: post →
      .closed c ∈ post ∧ sentOn c post = [] ∧ ∀ i, (b.clients i).fd ≠ some c) ∧
    (∀ inp i c, ((b.step inp).clients i).fd = some c → (b.clients i).fd ≠ some c →
      ((b.step inp).clients i).output = [] ∧ sentOn c (b.step inp).log = [] ∧
        queuedOn c (b.step inp).log = []) := by
  have h := run_sound opcode answer inputs
  dsimp only
  generalize run step (boot opcode answer) inputs = b at h
  refine ⟨fun c pre post hlog => ?_, fun i c hc => ?_, fun c pre post hlog => ?_,
    fun inp i c hc hnew => step_takes h hc hnew⟩
  · have hbad := (h.tracked.settled c).1
    rw [hlog] at hbad
    exact (phase_accounts c pre).isPrefix (phase_prefix_ne_bad hbad)
  · have hacc := phase_accounts c b.log
    rw [h.tracked.isOpen i c hc, if_neg (by simp)] at hacc
    exact ⟨hacc.2, h.roomy i⟩
  · obtain ⟨o, ho, hb, hoc⟩ : ∃ o, b.log = pre ++ o :: post ∧ o.breaks = true ∧ o.conn = some c := by
      rcases hlog with hlog | hlog <;> exact ⟨_, hlog, rfl, rfl⟩
    obtain ⟨hbad, hbroken⟩ := h.tracked.settled c
    rw [ho] at hbad hbroken
    obtain ⟨hclosed, honly, hphase⟩ := fault_then_closed hb hoc hbad hbroken
    refine ⟨hclosed, sentOn_silent fun e he bs hs => ?_, fun i hi => ?_⟩
    · have := honly e he (hs ▸ rfl)
      rw [hs] at this
      cases this
    · rw [← ho, h.tracked.isOpen i c hi, if_neg (by simp)] at hphase
      cases hphase

end Bridge

end TermuxGamepad
