/-
  File:      TermuxGamepad/Bridge/Queueing.lean
  Subject:   What every operation adds to the messages queued on a connection, as the history
             tells it.

  The links forget a connection when they are freed; the history does not. `Adds b b' c ms` says
  the history of `c` grew by the messages `ms`, and a receive call adds replies to commands
  (`Replies`). `Opened` is what follows for a client that has a kind: its first command was
  answered, and a QUERY_DESCRIPTOR for a device that is there with descriptor and snapshot.
-/
import TermuxGamepad.Bridge.Turns

namespace TermuxGamepad

open Wire

namespace Bridge

variable {b b' b'' : Bridge} {i : Slot} {c : Conn} {ms ms' : List Message}

/-! ## 1. Additions -/

/-- The messages `ms` joined those queued on the connection. -/
def Adds (b b' : Bridge) (c : Conn) (ms : List Message) : Prop :=
  queuedOn c b'.log = queuedOn c b.log ++ ms

/-- Nothing is queued on any connection. -/
def Silent (b b' : Bridge) : Prop := ∀ c, Adds b b' c []

theorem Adds.trans (h : Adds b b' c ms) (h' : Adds b' b'' c ms') : Adds b b'' c (ms ++ ms') := by
  unfold Adds at h h' ⊢
  rw [h', h, List.append_assoc]

theorem Silent.of_log (h : b'.log = b.log) : Silent b b' := fun c => by
  unfold Adds
  rw [h, List.append_nil]

theorem Silent.refl (b : Bridge) : Silent b b := .of_log rfl

theorem Silent.trans (h : Silent b b') (h' : Silent b' b'') : Silent b b'' := fun c =>
  (h c).trans (h' c)

theorem Silent.adds (h : Silent b b') (h' : Adds b' b'' c ms) : Adds b b'' c ms := (h c).trans h'

theorem Adds.silent (h : Adds b b' c ms) (h' : Silent b' b'') : Adds b b'' c ms := by
  have h'' := h.trans (h' c)
  rwa [List.append_nil] at h''

/-- The event is no mark of a queued message. -/
def unqueuing : Out → Bool
  | .queued .. => false
  | _ => true

theorem queuedOn_unqueuing {o : Out} (ho : unqueuing o = true) (c : Conn) : queuedOn c [o] = [] := by
  cases o with
  | queued c' m => cases ho
  | _ => rfl

theorem emit_silent (b : Bridge) {o : Out} (ho : unqueuing o = true) : Silent b (b.emit o) := by
  intro c
  unfold Adds
  rw [emit_log, queuedOn_append, queuedOn_unqueuing ho]

theorem emitFor_silent (b : Bridge) (i : Slot) {e : Conn → Out} (he : ∀ c, unqueuing (e c) = true) :
    Silent b (b.emitFor i e) := emitFor_rel (.refl b) fun c => emit_silent b (he c)

theorem silent_blind : Blind Silent where
  trans := .trans
  unseen _ h := .of_log h
  send b low high d _ := sendLorieRumble_rel (.refl b) (fun _ _ => emit_silent b rfl) low high d
  mark b _ _ := emit_silent b rfl

theorem closeClient_silent (b : Bridge) (i : Slot) : Silent b (b.closeClient i) :=
  silent_blind.closeClient (fun b _ => emit_silent b rfl) b i

theorem flushClient_silent (b : Bridge) (i : Slot) : Silent b (b.flushClient i).1 :=
  flushClient_rel .refl .trans (fun _ _ _ _ _ _ => .of_log rfl) (fun b _ _ => emit_silent b rfl)
    (fun b _ => emit_silent b rfl) b i

theorem acceptClient_silent (b : Bridge) (r : AcceptResult) : Silent b (b.acceptClient r) := by
  intro c
  unfold Adds
  rw [(acceptClient_quiet b r c).2, List.append_nil]

theorem Searched.silent (h : b.Searched b') : Silent b b' := by
  obtain ⟨reqs, rfl, hreqs⟩ := h
  intro c
  unfold Adds
  rw [queuedOn_append]
  congr 1
  refine List.flatMap_eq_nil_iff.mpr fun o ho => ?_
  obtain ⟨t, d, rfl⟩ := hreqs o ho
  rfl

/-! ## 2. Queueing -/

/-- **A message is queued on the connection of its slot, or `queue_bytes` fails.** -/
theorem queueBytes_adds (b : Bridge) (i : Slot) (m : Message) (c : Conn) :
    ((b.clients i).fd = some c ∧ Adds b (b.queueBytes i m).1 c [m]) ∨
      (Adds b (b.queueBytes i m).1 c [] ∧
        ((b.clients i).fd = some c → (b.queueBytes i m).2 = false)) := by
  cases hfd : (b.clients i).fd with
  | none =>
    have he : b.queueBytes i m = (b, false) := by
      unfold queueBytes
      simp only [hfd]
    rw [he]
    exact Or.inr ⟨Silent.refl b c, fun _ => rfl⟩
  | some conn =>
    by_cases hfull : m.bytes.length > clientBufferSize - (b.clients i).output.length
    · have he : b.queueBytes i m = (b.emit (.overflow conn), false) := by
        unfold queueBytes
        simp only [hfd, if_pos hfull]
      rw [he]
      exact Or.inr ⟨emit_silent b rfl c, fun _ => rfl⟩
    · have he : b.queueBytes i m = ((b.setClient i
          { b.clients i with
            output := (b.clients i).output ++ m.bytes
            queued := (b.clients i).queued ++ [m] }).emit (.queued conn m)).flushClient i := by
        unfold queueBytes
        simp only [hfd, if_neg hfull]
      rw [he]
      by_cases hc : conn = c
      · subst hc
        refine Or.inl ⟨rfl, Adds.silent ?_ (flushClient_silent _ i)⟩
        unfold Adds
        rw [emit_log, queuedOn_append]
        simp [queuedOn]
      · refine Or.inr ⟨Adds.silent ?_ (flushClient_silent _ i), fun h => absurd (Option.some.inj h) hc⟩
        unfold Adds
        rw [emit_log, queuedOn_append]
        simp [queuedOn, hc]

theorem queueOrClose_adds (b : Bridge) (i : Slot) (m : Message) (c : Conn) :
    ((b.clients i).fd = some c ∧ Adds b (b.queueOrClose i m) c [m]) ∨
      (Adds b (b.queueOrClose i m) c [] ∧
        ((b.clients i).fd = some c → ((b.queueOrClose i m).clients i).fd = none)) := by
  have hclosed : (((b.queueBytes i m).1.closeClient i).clients i).fd = none :=
    congrArg Link.fd (closeClient_toLink_self _ i)
  unfold queueOrClose
  dsimp only
  split
  · rename_i hok
    refine (queueBytes_adds b i m c).imp id fun ⟨h, hf⟩ => ⟨h, fun hc => ?_⟩
    rw [hf hc] at hok
    cases hok
  · exact (queueBytes_adds b i m c).imp (fun ⟨hc, h⟩ => ⟨hc, h.silent (closeClient_silent _ i)⟩)
      fun ⟨h, _⟩ => ⟨h.silent (closeClient_silent _ i), fun _ => hclosed⟩

/-- Connections and kinds stay, or a record is freed. -/
def Holds (b b' : Bridge) : Prop :=
  ∀ i c, (b'.clients i).fd = some c →
    (b.clients i).fd = some c ∧ (b'.clients i).kind = (b.clients i).kind

theorem Holds.refl (b : Bridge) : Holds b b := fun _ _ h => ⟨h, rfl⟩

theorem Holds.trans (h : Holds b b') (h' : Holds b' b'') : Holds b b'' := fun i c hc =>
  have h2 := h' i c hc
  have h1 := h i c h2.1
  ⟨h1.1, h2.2.trans h1.2⟩

theorem kept_holds {l l' : Link} {ms : List Message} (h : l.Kept l' ms) {c : Conn}
    (hc : l'.fd = some c) : l.fd = some c ∧ l'.kind = l.kind := by
  rcases h with rfl | h
  · cases hc
  · exact ⟨h.fd ▸ hc, h.kind⟩

theorem queueOrClose_holds (b : Bridge) (i : Slot) (m : Message) : Holds b (b.queueOrClose i m) := by
  intro j c hc
  by_cases hj : j = i
  · subst hj
    exact (queueOrClose_kept b j m).elim (fun h => by rw [congrArg Link.fd h] at hc; cases hc)
      fun h => ⟨h.fd ▸ hc, h.kind⟩
  · have h := queueOrClose_toLink_ne b hj m
    exact ⟨(congrArg Link.fd h) ▸ hc, congrArg Link.kind h⟩

/-- **A broadcast adds its message, to connections of its kind.** -/
theorem broadcast_adds (b : Bridge) (kind : ClientKind) (m : Message) (c : Conn) :
    ∃ ms, Adds b (b.broadcast kind m) c ms ∧
      ∀ x ∈ ms, x = m ∧ ∃ i, (b.clients i).fd = some c ∧ (b.clients i).kind = kind := by
  have h := sweep_rel (n := maxClients)
    (R := fun b b' : Bridge => Holds b b' ∧ ∃ ms, Adds b b' c ms ∧
      ∀ x ∈ ms, x = m ∧ ∃ i, (b.clients i).fd = some c ∧ (b.clients i).kind = kind)
    (f := fun b i =>
      if (b.clients i).fd.isSome && (b.clients i).kind == kind then b.queueOrClose i m else b)
    (fun b => ⟨.refl b, [], Silent.refl b c, by simp⟩) ?_ ?_ b
  · exact h.2
  · rintro b b' b'' ⟨h1, ms, hms, hx⟩ ⟨h2, ms', hms', hx'⟩
    refine ⟨h1.trans h2, ms ++ ms', hms.trans hms', fun x hmem => ?_⟩
    rcases List.mem_append.mp hmem with hmem | hmem
    · exact hx x hmem
    · obtain ⟨he, i, hfd, hk⟩ := hx' x hmem
      exact ⟨he, i, (h1 i c hfd).1, (h1 i c hfd).2.symm.trans hk⟩
  · intro b i
    split
    · rename_i hif
      obtain ⟨_, hk⟩ := Bool.and_eq_true_iff.mp hif
      refine ⟨queueOrClose_holds b i m, ?_⟩
      rcases queueOrClose_adds b i m c with ⟨hc, h⟩ | ⟨h, _⟩
      · exact ⟨[m], h, fun x hx => ⟨List.mem_singleton.mp hx, i, hc, beq_iff_eq.mp hk⟩⟩
      · exact ⟨[], h, by simp⟩
    · exact ⟨.refl b, [], Silent.refl b c, by simp⟩

/-- A snapshot is queued, or the record is freed. -/
theorem sendSnapshot_adds (b : Bridge) (i : Slot) (c : Conn) :
    ∃ evs, IsSnapshot b.state evs ∧
      (((b.clients i).fd = some c ∧ Adds b (b.sendSnapshot i) c [.events evs]) ∨
        (Adds b (b.sendSnapshot i) c [] ∧
          ((b.clients i).fd = some c → ((b.sendSnapshot i).clients i).fd = none))) := by
  obtain ⟨h1, h2⟩ := appendRecords_spec (snapshotRecords b.state) (b, [])
  have hs : Silent b (appendRecords (b, []) (snapshotRecords b.state)).1 := .of_log h1.log
  refine ⟨(appendRecords (b, []) (snapshotRecords b.state)).2, by simpa [IsSnapshot] using h2, ?_⟩
  have h := queueOrClose_adds (appendRecords (b, []) (snapshotRecords b.state)).1 i
    (.events (appendRecords (b, []) (snapshotRecords b.state)).2) c
  rw [h1.clients] at h
  rcases h with ⟨hc, ha⟩ | ⟨ha, hf⟩
  · exact Or.inl ⟨hc, hs.adds ha⟩
  · exact Or.inr ⟨hs.adds ha, hf⟩

/-! ## 3. Replies -/

/-- What the commands of one receive call are answered with: the answer to the last one may be
    cut. -/
inductive Replies (s : GamepadState) (d : DeviceDescriptor) : List Message → Prop
  | nil : Replies s d []
  | absent (hd : d.present = 0) {ms : List Message} (h : Replies s d ms) :
      Replies s d (.descriptor d :: ms)
  | cut : Replies s d [.descriptor d]
  | snapshot {evs : List InputEvent} (hs : IsSnapshot s evs) {ms : List Message}
      (h : Replies s d ms) : Replies s d (.descriptor d :: .events evs :: ms)
  | monitor {ms : List Message} (h : Replies s d ms) :
      Replies s d (.hotplug (monitorReply d) :: ms)

/-- The first command of the client was answered in full. -/
def Answered (ms : List Message) : Prop :=
  ∃ m rest, ms = m :: rest ∧ ∀ d, m = .descriptor d → d.present ≠ 0 → rest ≠ []

theorem Answered.append (h : Answered ms) (ms' : List Message) : Answered (ms ++ ms') := by
  obtain ⟨m, rest, rfl, hm⟩ := h
  exact ⟨m, rest ++ ms', rfl, fun d hd hp he => hm d hd hp (List.append_eq_nil_iff.mp he).1⟩

/-- More behind an answer in full. -/
theorem Answered.behind (h : Answered ms') (ms : List Message) : Answered (ms ++ ms') := by
  cases ms with
  | nil => exact h
  | cons m ms =>
    obtain ⟨m', rest, rfl, -⟩ := h
    exact ⟨m, ms ++ m' :: rest, rfl, fun _ _ _ => List.append_ne_nil_of_right_ne_nil _
      (List.cons_ne_nil _ _)⟩

/-- **Every client that has a kind was answered**, and one that has none was sent nothing. -/
def Opened (b : Bridge) : Prop :=
  ∀ i c, (b.clients i).fd = some c →
    ((b.clients i).kind = .uninitialized ∧ queuedOn c b.log = []) ∨ Answered (queuedOn c b.log)

theorem Opened.mono (h : Opened b) (hh : Holds b b') (ha : ∀ c, ∃ ms, Adds b b' c ms ∧
    ∀ i, (b.clients i).fd = some c → (b.clients i).kind = .uninitialized → ms = []) : Opened b' := by
  intro i c hc
  obtain ⟨hfd, hk⟩ := hh i c hc
  obtain ⟨ms, hms, hnone⟩ := ha c
  rw [hk, hms]
  rcases h i c hfd with ⟨huninit, hq⟩ | ha
  · rw [hnone i hfd huninit, hq]
    exact Or.inl ⟨huninit, rfl⟩
  · exact Or.inr (ha.append ms)

/-- What a client is sent that asks for the descriptor once: at most the descriptor, and batches
    behind it. -/
def Greets (ms : List Message) : Prop :=
  ms = [] ∨ ∃ d, ∃ batches : List (List InputEvent), ms = .descriptor d :: batches.map .events

/-- What a command adds on its connection, and when more can follow. -/
structure CommandAdds (b : Bridge) (i : Slot) (m : ControlMessage) (r : Bridge × Bool) (c : Conn)
    (ms : List Message) : Prop where
  adds : Adds b r.1 c ms
  replies : Replies b.state b.deviceDescriptor ms
  whole : (∀ rest, Replies b.state b.deviceDescriptor rest →
      Replies b.state b.deviceDescriptor (ms ++ rest)) ∨
    ((b.clients i).fd = some c → r.2 = false ∨ (r.1.clients i).fd = none)
  own : (b.clients i).fd ≠ some c → ms = []
  answered : (b.clients i).fd = some c → r.2 = true → (r.1.clients i).fd = some c →
    ((r.1.clients i).kind = (b.clients i).kind ∧ ms = []) ∨ Answered ms
  greets : m.command = controlQueryDescriptor → Greets ms

theorem CommandAdds.of_silent {m : ControlMessage} {r : Bridge × Bool} (hs : Silent b r.1)
    (hk : (r.1.clients i).kind = (b.clients i).kind) : CommandAdds b i m r c [] :=
  ⟨hs c, .nil, Or.inl fun _ h => h, fun _ => rfl, fun _ _ _ => Or.inl ⟨hk, rfl⟩, fun _ => Or.inl rfl⟩

/-- **A command adds its reply.** -/
theorem handleCommand_adds (b : Bridge) (i : Slot) (m : ControlMessage) (c : Conn) :
    ∃ ms, CommandAdds b i m (b.handleCommand i m) c ms := by
  have hset : ∀ k, Silent b (b.setKind i k) := fun k => .of_log rfl
  have hfd : ∀ k, ((b.setKind i k).clients i).fd = (b.clients i).fd := fun k => by simp [setKind]
  have hone : Greets [.descriptor b.deviceDescriptor] := Or.inr ⟨_, [], rfl⟩
  have hqueue : ∀ k msg, ((b.clients i).fd = some c ∧
      Adds b ((b.setKind i k).queueBytes i msg).1 c [msg]) ∨
      (Adds b ((b.setKind i k).queueBytes i msg).1 c [] ∧
        ((b.clients i).fd = some c → ((b.setKind i k).queueBytes i msg).2 = false)) := by
    intro k msg
    rw [← hfd k]
    rcases queueBytes_adds (b.setKind i k) i msg c with ⟨hc, h⟩ | ⟨h, hf⟩
    · exact Or.inl ⟨hc, (hset k).adds h⟩
    · exact Or.inr ⟨(hset k).adds h, hf⟩
  unfold handleCommand
  dsimp only
  split
  · refine ⟨[], .of_silent (silent_blind.updateRumble _ true) ?_⟩
    rw [updateRumble_toLink, setRumble_toLink]
    rfl
  split
  · refine ⟨[], .of_silent (silent_blind.updateRumble _ true) ?_⟩
    rw [updateRumble_toLink, setRumble_toLink]
  split
  · split
    · -- the descriptor does not fit, or its flush fails
      rcases hqueue .events (.descriptor b.deviceDescriptor) with ⟨hc, h⟩ | ⟨h, _⟩
      · exact ⟨_, h, .cut, Or.inr fun _ => Or.inl rfl, fun hn => absurd hc hn,
          fun _ ht => Bool.noConfusion ht, fun _ => hone⟩
      · exact ⟨_, h, .nil, Or.inl fun _ h => h, fun _ => rfl, fun _ ht => Bool.noConfusion ht,
          fun _ => Or.inl rfl⟩
    · rename_i hok
      have htrue : ((b.setKind i .events).queueBytes i (.descriptor b.deviceDescriptor)).2 = true := by
        simpa using hok
      have hframe : Frame b ((b.setKind i .events).queueBytes i (.descriptor b.deviceDescriptor)).1 :=
        (setClient_frame ..).trans (frame_parts.queueBytes ..)
      have hq : ((b.clients i).fd = some c ∧
          Adds b ((b.setKind i .events).queueBytes i (.descriptor b.deviceDescriptor)).1 c
            [.descriptor b.deviceDescriptor]) ∨
          ((b.clients i).fd ≠ some c ∧
            Adds b ((b.setKind i .events).queueBytes i (.descriptor b.deviceDescriptor)).1 c []) := by
        rcases hqueue .events (.descriptor b.deviceDescriptor) with h | ⟨h, hf⟩
        · exact Or.inl h
        · refine Or.inr ⟨fun hc => ?_, h⟩
          rw [hf hc] at htrue
          cases htrue
      have hfd' : (((b.setKind i .events).queueBytes i (.descriptor b.deviceDescriptor)).1.clients i).fd
          = (b.clients i).fd := (setKind_queueBytes b i .events _ htrue).fd
      split
      · rename_i hp
        rw [hframe.descriptor] at hp
        obtain ⟨evs, hs, hsnap⟩ := sendSnapshot_adds
          ((b.setKind i .events).queueBytes i (.descriptor b.deviceDescriptor)).1 i c
        rw [hfd'] at hsnap
        rw [hframe.state] at hs
        rcases hq with ⟨hc, hq⟩ | ⟨hc, hq⟩
        · rcases hsnap with ⟨_, ha⟩ | ⟨ha, hgone⟩
          · exact ⟨_, hq.trans ha, .snapshot hs .nil, Or.inl fun _ h => .snapshot hs h,
              fun hn => absurd hc hn, fun _ _ _ => Or.inr ⟨_, _, rfl, fun _ _ _ => List.cons_ne_nil _ _⟩,
              fun _ => Or.inr ⟨_, [evs], rfl⟩⟩
          · refine ⟨_, hq.trans ha, .cut, Or.inr fun _ => Or.inr (hgone hc), fun hn => absurd hc hn,
              fun _ _ hheld => ?_, fun _ => hone⟩
            rw [hgone hc] at hheld
            cases hheld
        · rcases hsnap with ⟨hc', _⟩ | ⟨ha, _⟩
          · exact absurd hc' hc
          · exact ⟨_, hq.trans ha, .nil, Or.inl fun _ h => h, fun _ => rfl, fun hc' => absurd hc' hc,
              fun _ => Or.inl rfl⟩
      · rename_i hp
        have habsent : b.deviceDescriptor.present = 0 := by
          rw [hframe.descriptor] at hp
          simpa using hp
        rcases hq with ⟨hc, hq⟩ | ⟨hc, hq⟩
        · exact ⟨_, hq, .cut, Or.inl fun _ h => .absent habsent h, fun hn => absurd hc hn,
            fun _ _ _ => Or.inr ⟨_, _, rfl, fun d hd hp' => absurd (by cases hd; exact habsent) hp'⟩,
            fun _ => hone⟩
        · exact ⟨_, hq, .nil, Or.inl fun _ h => h, fun _ => rfl, fun hc' => absurd hc' hc,
            fun _ => Or.inl rfl⟩
  split
  · rename_i hmonitor
    have hreply : b.hotplugMessage (if b.deviceDescriptor.present != 0 then hotplugAdd else hotplugRemove)
        = monitorReply b.deviceDescriptor := rfl
    rw [hreply]
    rcases hqueue .monitor (.hotplug (monitorReply b.deviceDescriptor)) with ⟨hc, h⟩ | ⟨h, hf⟩
    · refine ⟨_, h, .monitor .nil, Or.inl fun _ h => .monitor h, fun hn => absurd hc hn,
        fun _ _ _ => Or.inr ⟨_, _, rfl, fun d hd => by cases hd⟩, fun hquery => ?_⟩
      rw [hquery] at hmonitor
      exact absurd hmonitor (by decide)
    · refine ⟨_, h, .nil, Or.inl fun _ h => h, fun _ => rfl, fun hc ht => ?_, fun _ => Or.inl rfl⟩
      rw [hf hc] at ht
      cases ht
  · exact ⟨[], .of_silent (emitFor_silent b i fun _ => rfl) (by rw [emitFor_clients])⟩

/-- What a receive call adds: replies, on the connection of its slot. -/
structure CallAdds (b : Bridge) (i : Slot) (b' : Bridge) (c : Conn) (ms : List Message) : Prop where
  adds : Adds b b' c ms
  replies : Replies b.state b.deviceDescriptor ms
  own : (b.clients i).fd ≠ some c → ms = []

theorem messageLoop_adds (fuel : Nat) (b : Bridge) (i : Slot) (c : Conn) :
    ∃ ms, CallAdds b i (messageLoop fuel b i).1 c ms ∧
      ((b.clients i).fd = some c → (messageLoop fuel b i).2 = true →
        ((messageLoop fuel b i).1.clients i).fd = some c →
        (((messageLoop fuel b i).1.clients i).kind = (b.clients i).kind ∧ ms = []) ∨ Answered ms) := by
  induction fuel generalizing b with
  | zero => exact ⟨[], ⟨Silent.refl b c, .nil, fun _ => rfl⟩, fun _ _ _ => Or.inl ⟨rfl, rfl⟩⟩
  | succ fuel ih =>
    unfold messageLoop
    dsimp only
    split
    · exact ⟨[], ⟨Silent.refl b c, .nil, fun _ => rfl⟩, fun _ _ _ => Or.inl ⟨rfl, rfl⟩⟩
    split
    · exact ⟨[], ⟨emitFor_silent b i (fun _ => rfl) c, .nil, fun _ => rfl⟩, fun _ ht => by cases ht⟩
    · generalize hm : controlMessageCodec.dec (b.clients i).control = m
      generalize hb₁ : b.setClient i (takeMessage (b.clients i) m b.deviceDescriptor) = b₁
      have hsilent : Silent b b₁ := .of_log (hb₁ ▸ rfl)
      have hstate : b₁.state = b.state := hb₁ ▸ rfl
      have hdesc : b₁.deviceDescriptor = b.deviceDescriptor := hb₁ ▸ rfl
      have hfd : (b₁.clients i).fd = (b.clients i).fd := by
        rw [← hb₁, setClient_self]
        rfl
      have hkind : (b₁.clients i).kind = (b.clients i).kind := by
        rw [← hb₁, setClient_self]
        rfl
      obtain ⟨ms, hms⟩ := handleCommand_adds b₁ i m c
      have hframe := handleCommand_frame b₁ i m
      have hreplies := hms.replies
      have hwhole := hms.whole
      have hanswered := hms.answered
      rw [hstate, hdesc] at hreplies
      rw [hstate, hdesc, hfd] at hwhole
      rw [hfd, hkind] at hanswered
      split
      · rename_i hok
        obtain ⟨ms', hms', hlast⟩ := ih (b₁.handleCommand i m).1
        have hreplies' := hms'.replies
        rw [hframe.state, hframe.descriptor, hstate, hdesc] at hreplies'
        have hfd' : ((b₁.handleCommand i m).1.clients i).fd = (b.clients i).fd ∨
            ((b₁.handleCommand i m).1.clients i).fd = none := by
          rw [← hfd]
          exact (handleCommand_handled b₁ i m hok).fd
        refine ⟨ms ++ ms', ⟨hsilent.adds (hms.adds.trans hms'.adds), ?_, fun hn => ?_⟩,
          fun hc ht hheld => ?_⟩
        · rcases hwhole with hwhole | hcut
          · exact hwhole ms' hreplies'
          · have hms'_nil : ms' = [] ∨ ms = [] := by
              by_cases hc : (b.clients i).fd = some c
              · rcases hcut hc with hf | hgone
                · rw [hf] at hok
                  cases hok
                · exact Or.inl (hms'.own (by rw [hgone]; exact (Option.some_ne_none c).symm))
              · exact Or.inr (hms.own (by rw [hfd]; exact hc))
            rcases hms'_nil with rfl | rfl
            · rw [List.append_nil]
              exact hreplies
            · exact hreplies'
        · rw [hms.own (by rw [hfd]; exact hn), hms'.own, List.append_nil]
          rcases hfd' with h | h
          · rw [h]
            exact hn
          · rw [h]
            exact (Option.some_ne_none c).symm
        · rcases hfd' with h | h
          · rcases hlast (h.trans hc) ht hheld with ⟨hk, rfl⟩ | ha
            · rw [hk, List.append_nil]
              exact hanswered hc hok (h.trans hc)
            · exact Or.inr (ha.behind ms)
          · -- the command freed the record, and nothing can occupy it again
            have hstill := messageLoop_inv (P := fun l => l.fd = none)
              (fun l l' hl _ hh => hh.fd.elim (fun h => h.trans hl) id) fuel
              (b₁.handleCommand i m).1 i rfl rfl h ht
            rw [hheld] at hstill
            cases hstill
      · rename_i hok
        exact ⟨ms, ⟨hsilent.adds hms.adds, hreplies, fun hn => hms.own (by rw [hfd]; exact hn)⟩,
          fun _ ht => absurd ht hok⟩

/-- **A receive call adds replies.** -/
theorem serveReadable_adds (b : Bridge) (i : Slot) (r : RecvResult) (c : Conn) :
    ∃ ms, CallAdds b i (b.serveReadable i r) c ms ∧
      ((b.clients i).fd = some c → ((b.serveReadable i r).clients i).fd = some c →
        (((b.serveReadable i r).clients i).kind = (b.clients i).kind ∧ ms = []) ∨ Answered ms) := by
  have hcall : ∃ ms, CallAdds b i (b.receiveControlMessages i r).1 c ms ∧
      ((b.clients i).fd = some c → (b.receiveControlMessages i r).2 = true →
        ((b.receiveControlMessages i r).1.clients i).fd = some c →
        (((b.receiveControlMessages i r).1.clients i).kind = (b.clients i).kind ∧ ms = []) ∨
          Answered ms) := by
    have hsilent : ∀ b', Silent b b' → ∃ ms, CallAdds b i b' c ms ∧ ms = [] := fun b' h =>
      ⟨[], ⟨h c, .nil, fun _ => rfl⟩, rfl⟩
    unfold receiveControlMessages
    dsimp only
    split
    · obtain ⟨ms, h, -⟩ := hsilent b (.refl b)
      exact ⟨ms, h, fun _ ht => by cases ht⟩
    split
    · obtain ⟨ms, h, -⟩ := hsilent _ (emitFor_silent b i (e := .recvEnded) fun _ => rfl)
      exact ⟨ms, h, fun _ ht => by cases ht⟩
    · obtain ⟨ms, h, hnil⟩ := hsilent b (.refl b)
      exact ⟨ms, h, fun _ _ _ => Or.inl ⟨rfl, hnil⟩⟩
    · obtain ⟨ms, h, -⟩ := hsilent _ (emitFor_silent b i (e := .recvEnded) fun _ => rfl)
      exact ⟨ms, h, fun _ ht => by cases ht⟩
    · rename_i x bs
      generalize hb₁ : b.setClient i { b.clients i with
        control := (b.clients i).control ++ (x :: bs).take
          (controlBufferSize - (b.clients i).control.length) } = b₁
      have hfd : (b₁.clients i).fd = (b.clients i).fd := by rw [← hb₁, setClient_self]
      have hkind : (b₁.clients i).kind = (b.clients i).kind := by rw [← hb₁, setClient_self]
      have hstate : b₁.state = b.state := hb₁ ▸ rfl
      have hdesc : b₁.deviceDescriptor = b.deviceDescriptor := hb₁ ▸ rfl
      obtain ⟨ms, hms, hlast⟩ := messageLoop_adds ((b.clients i).control ++ (x :: bs).take
        (controlBufferSize - (b.clients i).control.length)).length b₁ i c
      rw [hfd, hkind] at hlast
      refine ⟨ms, ⟨(Silent.of_log (hb₁ ▸ rfl)).adds hms.adds, ?_, fun hn => ?_⟩, hlast⟩
      · have hr := hms.replies
        rwa [hstate, hdesc] at hr
      · exact hms.own (by rw [hfd]; exact hn)
  obtain ⟨ms, hms, hlast⟩ := hcall
  unfold serveReadable
  dsimp only
  split
  · rename_i hok
    exact ⟨ms, hms, fun hc => hlast hc hok⟩
  · refine ⟨ms, ⟨hms.adds.silent (closeClient_silent _ i), hms.replies, hms.own⟩, fun _ hheld => ?_⟩
    rw [congrArg Link.fd (closeClient_toLink_self _ i)] at hheld
    cases hheld

/-! ## 4. Actions -/

theorem Quiet.holds (h : b.Quiet b') : Holds b b' := fun i _ hc => kept_holds (h.links i) hc

theorem broadcast_holds (b : Bridge) (kind : ClientKind) (m : Message) :
    Holds b (b.broadcast kind m) := fun i _ hc => kept_holds (broadcast_kept b kind m i) hc

/-- The records of a batch, closed by SYN_REPORT. -/
def IsBatch (b : Bridge) (event : XIDeviceEvent) (evs : List InputEvent) : Prop :=
  evs.map InputEvent.body = (b.eventBatch event).2.map InputEvent.body ++ [synBody]

theorem processXiEvent_adds (b : Bridge) (event : XIDeviceEvent) (deviceId : Int) (c : Conn) :
    ∃ ms, Adds b (b.processXiEvent event deviceId) c ms ∧ ∀ x ∈ ms, ∃ evs, x = .events evs ∧
      b.IsBatch event evs ∧ ∃ i, (b.clients i).fd = some c ∧ (b.clients i).kind = .events := by
  obtain ⟨s, ts, hb⟩ := eventBatch_same b event
  rcases processXiEvent_cases b event deviceId with h | ⟨_, h⟩ | ⟨b', evs, hb', hbody, h⟩
  · rw [h]
    exact ⟨[], Silent.refl b c, by simp⟩
  · rw [h]
    exact ⟨[], Silent.of_log (by rw [hb]) c, by simp⟩
  · have hsilent : Silent b b' := .of_log (hb'.log.trans (by rw [hb]))
    have hclients : b'.clients = b.clients := hb'.clients.trans (by rw [hb])
    obtain ⟨ms, hms, hx⟩ := broadcast_adds b' .events (.events evs) c
    rw [h]
    refine ⟨ms, hsilent.adds hms, fun x hmem => ?_⟩
    obtain ⟨he, i, hfd, hk⟩ := hx x hmem
    rw [hclients] at hfd hk
    exact ⟨evs, he, hbody, i, hfd, hk⟩

/-- **What an action adds that leaves the device alone**: replies where it is a receive call, a
    batch where it is an event, else nothing. -/
theorem act_adds (b : Bridge) {a : Action} (ha : a.looks = false) (c : Conn) :
    Adds b (b.act a) c [] ∨
      (∃ i r ms, a = .readable i r ∧ (b.clients i).fd = some c ∧ CallAdds b i (b.act a) c ms) ∨
      ∃ event ms, a = .xEvent (.device event) ∧ Adds b (b.act a) c ms ∧
        ∀ x ∈ ms, ∃ evs, x = .events evs ∧ b.IsBatch event evs ∧
          ∃ i, (b.clients i).fd = some c ∧ (b.clients i).kind = .events := by
  cases a with
  | xEvent e =>
    cases e with
    | hierarchyChanged answer => cases ha
    | device event =>
      obtain ⟨ms, hms, hx⟩ := processXiEvent_adds b event b.lorieDeviceId c
      exact Or.inr (Or.inr ⟨event, ms, rfl, hms, hx⟩)
  | accept r => exact Or.inl (acceptClient_silent b r c)
  | writable i =>
    show Adds b (if (b.clients i).fd.isSome then b.serveWritable i else b) c [] ∨ _
    split
    · left
      unfold serveWritable
      dsimp only
      split
      · exact flushClient_silent b i c
      · exact (flushClient_silent b i).trans (closeClient_silent _ i) c
    · exact Or.inl (Silent.refl b c)
  | readable i r =>
    have hact : b.act (.readable i r) = if (b.clients i).fd.isSome then b.serveReadable i r else b :=
      rfl
    by_cases hc : (b.clients i).fd = some c
    · obtain ⟨ms, hms, -⟩ := serveReadable_adds b i r c
      refine Or.inr (Or.inl ⟨i, r, ms, rfl, hc, ?_⟩)
      rw [hact, hc]
      exact hms
    · left
      rw [hact]
      split
      · obtain ⟨ms, hms, -⟩ := serveReadable_adds b i r c
        have h := hms.adds
        rwa [hms.own hc] at h
      · exact Silent.refl b c
  | hangup i =>
    show Adds b (if (b.clients i).fd.isSome then b.hangUp i else b) c [] ∨ _
    split
    · exact Or.inl ((emitFor_silent b i fun _ => rfl).trans (closeClient_silent _ i) c)
    · exact Or.inl (Silent.refl b c)
  | tick => exact Or.inl (silent_blind.updateRumble b false c)

/-- A look at the device adds hotplug messages, to monitors. -/
theorem refreshLorieDevice_adds (b : Bridge) (answer : DeviceAnswer) (c : Conn) :
    Holds b (b.refreshLorieDevice answer) ∧ ∃ ms, Adds b (b.refreshLorieDevice answer) c ms ∧
      ∀ x ∈ ms, (∃ m, x = .hotplug m) ∧
        ∃ i, (b.clients i).fd = some c ∧ (b.clients i).kind = .monitor := by
  have hsend : ∀ b' b'' : Bridge, ∀ m, b''.clients = b'.clients → Silent b' b'' →
      (Holds b b' ∧ ∃ ms, Adds b b' c ms ∧ ∀ x ∈ ms, (∃ m, x = .hotplug m) ∧
        ∃ i, (b.clients i).fd = some c ∧ (b.clients i).kind = .monitor) →
      Holds b (b''.broadcast .monitor (.hotplug m)) ∧
        ∃ ms, Adds b (b''.broadcast .monitor (.hotplug m)) c ms ∧
          ∀ x ∈ ms, (∃ m, x = .hotplug m) ∧
            ∃ i, (b.clients i).fd = some c ∧ (b.clients i).kind = .monitor := by
    rintro b' b'' m hclients hs ⟨hh, ms, hms, hx⟩
    have hh'' : Holds b b'' := fun i c hc => hh i c (hclients ▸ hc) |>.imp id fun h => hclients ▸ h
    obtain ⟨ms', hms', hx'⟩ := broadcast_adds b'' .monitor (.hotplug m) c
    refine ⟨hh''.trans (broadcast_holds b'' .monitor (.hotplug m)), ms ++ ms',
      (hms.silent hs).trans hms', fun x hmem => ?_⟩
    rcases List.mem_append.mp hmem with hmem | hmem
    · exact hx x hmem
    · obtain ⟨rfl, i, hfd, hk⟩ := hx' x hmem
      obtain ⟨h1, h2⟩ := hh'' i c hfd
      exact ⟨⟨m, rfl⟩, i, h1, h2 ▸ hk⟩
  refine refreshLorieDevice_inv (P := fun b' => Holds b b' ∧ ∃ ms, Adds b b' c ms ∧
    ∀ x ∈ ms, (∃ m, x = .hotplug m) ∧
      ∃ i, (b.clients i).fd = some c ∧ (b.clients i).kind = .monitor) answer ?_ ?_ ?_
  · exact fun b' hs => ⟨hs.quiet.holds, [], hs.silent c, by simp⟩
  · intro b' _ h
    rw [removeDevice_eq]
    exact hsend b' b'.gone _ rfl (emit_silent b' (o := .removed b'.lorieDeviceId) rfl) h
  · intro b' f _ _ h
    rw [addDevice_eq]
    exact hsend b' (b'.came f) _ rfl (emit_silent b' (o := .added f.deviceId) rfl) h

/-! ## 5. Clients with a kind were answered -/

theorem serveReadable_opened
    (hdistinct : ∀ i j c, (b.clients i).fd = some c → (b.clients j).fd = some c → i = j)
    (h : Opened b) (i : Slot) (r : RecvResult) : Opened (b.serveReadable i r) := by
  intro j c hc
  by_cases hj : j = i
  · subst hj
    have hfd : (b.clients j).fd = some c := by
      rcases serveReadable_fd b j r j with h' | h'
      · exact h' ▸ hc
      · rw [h'] at hc
        cases hc
    obtain ⟨ms, hms, hlast⟩ := serveReadable_adds b j r c
    rw [hms.adds]
    rcases hlast hfd hc with ⟨hk, rfl⟩ | ha
    · rw [hk, List.append_nil]
      exact h j c hfd
    · exact Or.inr (ha.behind _)
  · have hlink := (serveReadable_frame b i r).2 j hj
    have hfd : (b.clients j).fd = some c := congrArg Link.fd hlink ▸ hc
    obtain ⟨ms, hms, -⟩ := serveReadable_adds b i r c
    rw [congrArg Link.kind hlink, hms.adds]
    rcases h j c hfd with ⟨hk, hq⟩ | ha
    · by_cases hi : (b.clients i).fd = some c
      · exact absurd (hdistinct j i c hfd hi) hj
      · rw [hms.own hi, hq]
        exact Or.inl ⟨hk, rfl⟩
    · exact Or.inr (ha.append ms)

/-- **One action.** -/
theorem act_opened (hs : Sound b) (h : Opened b) (a : Action) : Opened (b.act a) := by
  have hnone : ∀ {kind c} {ms : List Message}, kind ≠ .uninitialized →
      (∀ x ∈ ms, ∃ i, (b.clients i).fd = some c ∧ (b.clients i).kind = kind) →
      ∀ i, (b.clients i).fd = some c → (b.clients i).kind = .uninitialized → ms = [] := by
    intro kind c ms hkind hx i hi hk
    refine List.eq_nil_iff_forall_not_mem.mpr fun x hmem => ?_
    obtain ⟨j, hj, hjk⟩ := hx x hmem
    rw [hs.tracked.distinct j i c hj hi, hk] at hjk
    exact hkind hjk.symm
  by_cases ha : a.looks = true
  · obtain ⟨answer, rfl⟩ := Action.looks_eq ha
    refine h.mono (fun i c => (refreshLorieDevice_adds b answer c).1 i c) fun c => ?_
    obtain ⟨ms, hms, hx⟩ := (refreshLorieDevice_adds b answer c).2
    exact ⟨ms, hms, hnone (by decide) fun x hmem => (hx x hmem).2⟩
  · have ha' : a.looks = false := Bool.not_eq_true _ ▸ ha
    have hmono : Holds b (b.act a) → (∀ i r, a ≠ .readable i r) → Opened (b.act a) := by
      intro hh hr
      refine h.mono hh fun c => ?_
      rcases act_adds b ha' c with h' | ⟨i, r, _, rfl, _⟩ | ⟨_, ms, _, h', hx⟩
      · exact ⟨[], h', fun _ _ _ => rfl⟩
      · exact absurd rfl (hr i r)
      · exact ⟨ms, h', hnone (by decide) fun x hmem => let ⟨_, _, _, hi⟩ := hx x hmem; hi⟩
    cases a with
    | readable i r =>
      show Opened (if (b.clients i).fd.isSome then b.serveReadable i r else b)
      split
      · exact serveReadable_opened hs.tracked.distinct h i r
      · exact h
    | accept r =>
      show Opened (b.acceptClient r)
      intro i c hc
      rw [(acceptClient_quiet b r c).2]
      rcases acceptClient_toLink b r i with h1 | ⟨c', _, hnew, _, h1⟩
      · rw [congrArg Link.kind h1]
        exact h i c (congrArg Link.fd h1 ▸ hc)
      · have hcc : c' = c := Option.some.inj ((congrArg Link.fd h1).symm.trans hc)
        exact Or.inl ⟨congrArg Link.kind h1, hs.tracked.unseen_queued (hcc ▸ hnew)⟩
    | _ =>
      refine hmono ?_ fun _ _ => Action.noConfusion
      rcases act_turn b ha' with hq | ⟨event, evs, _, hp⟩ | ⟨r, hr, _⟩ | ⟨i, r, hr, _, _⟩
      · exact hq.holds
      · exact fun i c hc => kept_holds (hp.links i) hc
      · cases hr
      · cases hr

/-- What start-up and every step keep. -/
theorem run_opened (opcode : Int) (answer : DeviceAnswer) (inputs : List Input) :
    Opened (run step (boot opcode answer) inputs) := by
  have h : Sound (run step (boot opcode answer) inputs) ∧
      Opened (run step (boot opcode answer) inputs) :=
    run_boot_inv (P := fun b => Sound b ∧ Opened b)
      (fun opcode => ⟨init_sound opcode, fun _ _ hc => by cases hc⟩)
      (fun b sends ticks stamps h => ⟨h.1.env sends ticks stamps, h.2⟩)
      (fun b a h => ⟨act_sound h.1 a, act_opened h.1 h.2 a⟩) opcode answer inputs
  exact h.2

end Bridge

end TermuxGamepad
