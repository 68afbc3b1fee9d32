/-
  File:      TermuxGamepad/Bridge/Frame.lean
  Subject:   What each output operation does to each client's link, and what it leaves alone.

  Every operation below queueing is described once, slot by slot, by two relations:

  * `Link.Grew l l' ms` -- the link kept its connection, and exactly the messages `ms` joined its
    byte stream (accepted bytes followed by buffered bytes);
  * `Link.Kept l l' ms` -- that, or the record was freed.

  The static variables no output operation writes are those of `Frame`, which holds over every
  operation on clients (`frame_parts`). The callers' proofs use these lemmas and never unfold an
  operation of Output.lean.
-/
import TermuxGamepad.Bridge.Parts

namespace TermuxGamepad

open Wire

/-! ## 1. Links -/

/-- The link kept its connection and queued exactly `ms`. -/
structure Link.Grew (l l' : Link) (ms : List Message) : Prop where
  fd : l'.fd = l.fd
  kind : l'.kind = l.kind
  control : l'.control = l.control
  commands : l'.commands = l.commands
  queued : l'.queued = l.queued ++ ms
  stream : l'.sent ++ l'.output = l.sent ++ l.output ++ ms.flatMap Message.bytes
  room : l.output.length ≤ clientBufferSize → l'.output.length ≤ clientBufferSize
  connected : l.fd = none → ms = []

theorem Link.Grew.refl (l : Link) : l.Grew l [] :=
  ⟨rfl, rfl, rfl, rfl, by simp, by simp, id, fun _ => rfl⟩

theorem Link.Grew.trans {l l' l'' : Link} {ms ms' : List Message} (h : l.Grew l' ms)
    (h' : l'.Grew l'' ms') : l.Grew l'' (ms ++ ms') where
  fd := h'.fd.trans h.fd
  kind := h'.kind.trans h.kind
  control := h'.control.trans h.control
  commands := h'.commands.trans h.commands
  queued := by rw [h'.queued, h.queued, List.append_assoc]
  stream := by rw [h'.stream, h.stream, List.flatMap_append, List.append_assoc]
  room := fun hl => h'.room (h.room hl)
  connected := fun hl => by rw [h.connected hl, h'.connected (h.fd.trans hl), List.append_nil]

/-- Nothing joins a free record. -/
theorem Link.Grew.ofFree {l' : Link} {ms : List Message} (h : Link.free.Grew l' ms) :
    l' = Link.free := by
  have hms := h.connected rfl
  subst hms
  have hstream : l'.sent ++ l'.output = [] := h.stream
  obtain ⟨hsent, hout⟩ := List.append_eq_nil_iff.mp hstream
  have hq : l'.queued = [] := h.queued
  cases l' with
  | mk fd output control kind sent queued commands =>
    have h1 := h.fd
    have h2 := h.kind
    have h3 := h.control
    have h4 := h.commands
    simp_all [Link.free]

/-- The link was freed, or kept its connection and queued exactly `ms`. -/
def Link.Kept (l l' : Link) (ms : List Message) : Prop := l' = Link.free ∨ l.Grew l' ms

theorem Link.Kept.refl (l : Link) : l.Kept l [] := Or.inr (.refl l)

theorem Link.Kept.ofFree {l' : Link} {ms : List Message} (h : Link.free.Kept l' ms) :
    l' = Link.free := h.elim id Link.Grew.ofFree

/-! ## 2. Frames -/

namespace Bridge

@[simp] theorem emitFor_clients (b : Bridge) (i : Slot) (o : Conn → Out) :
    (b.emitFor i o).clients = b.clients := by
  unfold emitFor
  split <;> rfl

theorem emitFor_frame (b : Bridge) (i : Slot) (o : Conn → Out) : Frame b (b.emitFor i o) :=
  emitFor_rel (.refl b) fun c => emit_frame b (o c)

/-! ## 3. Rumble leaves the links alone -/

@[simp] theorem sendLorieRumble_clients (b : Bridge) (low high : UInt16) (d : UInt32) :
    (b.sendLorieRumble low high d).clients = b.clients := by
  unfold sendLorieRumble
  split
  · rfl
  · split <;> rfl

theorem sendLorieRumble_frame (b : Bridge) (low high : UInt16) (d : UInt32) :
    Frame b (b.sendLorieRumble low high d) :=
  sendLorieRumble_rel (.refl b) (fun _ _ => emit_frame b _) low high d

theorem decideRumble_clients (b : Bridge) (s : RumbleScan) (force : Bool) :
    (b.decideRumble s force).clients = b.clients := by
  unfold decideRumble
  split
  · split <;> simp
  · split <;> simp

theorem frame_blind : Blind Frame where
  trans := .trans
  unseen h _ := h
  send b low high d _ := sendLorieRumble_frame b low high d
  mark b _ _ := emit_frame b _

/-- **No operation on clients writes a static variable of the frame.** -/
theorem frame_parts : Parts Frame := frame_blind.parts fun b o _ => emit_frame b o

theorem scanRumble_toLink (now : Nat) (s : RumbleScan) (i j : Slot) :
    ((scanRumble now s i).clients j).toLink = (s.clients j).toLink := by
  unfold scanRumble
  dsimp only
  split
  · rfl
  · split
    · by_cases h : j = i
      · subst h
        simp
      · simp [Function.update_of_ne h]
    · rfl

theorem scanClients_toLink (b : Bridge) (now : Nat) (j : Slot) :
    ((b.scanClients now).clients j).toLink = (b.clients j).toLink :=
  sweep_inv (P := fun s : RumbleScan => (s.clients j).toLink = (b.clients j).toLink)
    (fun s i h => (scanRumble_toLink now s i j).trans h) rfl

/-- **`update_rumble` writes rumble fields only.** -/
@[simp] theorem updateRumble_toLink (b : Bridge) (force : Bool) (j : Slot) :
    ((b.updateRumble force).clients j).toLink = (b.clients j).toLink := by
  unfold updateRumble
  simp only [emit_clients, decideRumble_clients]
  exact scanClients_toLink _ _ j

/-! ## 4. Closing and flushing -/

theorem closeClient_toLink_self (b : Bridge) (i : Slot) :
    ((b.closeClient i).clients i).toLink = Link.free := by
  unfold closeClient
  dsimp only
  split <;> simp [Client.free]

theorem closeClient_toLink_ne (b : Bridge) {i j : Slot} (h : j ≠ i) :
    ((b.closeClient i).clients j).toLink = (b.clients j).toLink := by
  unfold closeClient
  dsimp only
  split <;> simp [h]

/-- The send loop keeps the bytes in order: what it accepted, then what it left. -/
theorem flushLoop_stream (sends : List SendResult) (output acc : List UInt8) :
    (flushLoop sends output acc).accepted ++ (flushLoop sends output acc).output = acc ++ output ∧
      (flushLoop sends output acc).output.length ≤ output.length := by
  fun_induction flushLoop sends output acc with
  | case1 => simp
  | case2 => simp
  | case3 acc n sends output hne ih =>
    refine ⟨?_, ?_⟩
    · rw [ih.1, List.append_assoc, List.take_append_drop]
    · refine ih.2.trans ?_
      rw [List.length_drop]
      exact Nat.sub_le ..
  | case4 _ _ _ _ ih => exact ih
  | case5 => simp
  | case6 => simp

theorem flushClient_clients_ne (b : Bridge) {i j : Slot} (h : j ≠ i) :
    ((b.flushClient i).1.clients j) = b.clients j := by
  unfold flushClient
  dsimp only
  split
  · rfl
  · split <;> simp [h]

/-- **`flush_client` moves bytes from the buffer to the socket and drops none.** -/
theorem flushClient_grew (b : Bridge) (i : Slot) :
    (b.clients i).toLink.Grew ((b.flushClient i).1.clients i).toLink [] := by
  unfold flushClient
  dsimp only
  split
  · exact .refl _
  · obtain ⟨hstream, hlen⟩ := flushLoop_stream b.sends (b.clients i).output []
    have h : (b.clients i).toLink.Grew
        { (b.clients i).toLink with
          output := (flushLoop b.sends (b.clients i).output []).output
          sent := (b.clients i).sent ++ (flushLoop b.sends (b.clients i).output []).accepted } [] := by
      refine ⟨rfl, rfl, rfl, rfl, by simp, ?_, fun hr => hlen.trans hr, fun _ => rfl⟩
      simp only [List.append_assoc, hstream, List.flatMap_nil, List.append_nil, List.nil_append]
    split <;> simpa using h

/-- Closing queues nothing. -/
theorem closeClient_kept (b : Bridge) (i j : Slot) :
    (b.clients j).toLink.Kept ((b.closeClient i).clients j).toLink [] := by
  by_cases hj : j = i
  · subst hj
    exact Or.inl (closeClient_toLink_self b j)
  · rw [closeClient_toLink_ne b hj]
    exact .refl _

theorem flushClient_kept (b : Bridge) (i j : Slot) :
    (b.clients j).toLink.Kept ((b.flushClient i).1.clients j).toLink [] := by
  by_cases hj : j = i
  · subst hj
    exact Or.inr (flushClient_grew b j)
  · rw [flushClient_clients_ne b hj]
    exact .refl _

/-! ## 5. Queueing -/

/-- The record once the message is copied into the buffer. -/
def enqueued (c : Client) (m : Message) : Client :=
  { c with output := c.output ++ m.bytes, queued := c.queued ++ [m] }

theorem enqueued_grew {c : Client} {conn : Conn} (hfd : c.fd = some conn) (m : Message)
    (h : m.bytes.length ≤ clientBufferSize - c.output.length) :
    c.toLink.Grew (enqueued c m).toLink [m] := by
  refine ⟨rfl, rfl, rfl, rfl, rfl, by simp [enqueued], fun hr => ?_, fun hn => by simp [hn] at hfd⟩
  simp only [enqueued, List.length_append]
  omega

theorem queueBytes_clients_ne (b : Bridge) {i j : Slot} (h : j ≠ i) (m : Message) :
    ((b.queueBytes i m).1.clients j) = b.clients j := by
  unfold queueBytes
  dsimp only
  split
  · rfl
  · split
    · rfl
    · rw [flushClient_clients_ne _ h, emit_clients, setClient_ne _ h]

/-- **`queue_bytes` appends the whole message or nothing**; where it succeeds, the message is in
    the stream. -/
theorem queueBytes_grew (b : Bridge) (i : Slot) (m : Message) :
    ((b.clients i).toLink.Grew ((b.queueBytes i m).1.clients i).toLink [m]) ∨
      ((b.queueBytes i m).2 = false ∧
        ((b.queueBytes i m).1.clients i).toLink = (b.clients i).toLink) := by
  unfold queueBytes
  dsimp only
  split
  · exact Or.inr ⟨rfl, rfl⟩
  · rename_i conn hfd
    split
    · exact Or.inr ⟨rfl, rfl⟩
    · rename_i hroom
      left
      have hflush := flushClient_grew
        ((b.setClient i (enqueued (b.clients i) m)).emit (.queued conn m)) i
      rw [emit_clients, setClient_self] at hflush
      exact (enqueued_grew hfd m (Nat.not_lt.mp hroom)).trans hflush

theorem queueOrClose_toLink_ne (b : Bridge) {i j : Slot} (h : j ≠ i) (m : Message) :
    ((b.queueOrClose i m).clients j).toLink = (b.clients j).toLink := by
  unfold queueOrClose
  dsimp only
  split
  · rw [queueBytes_clients_ne _ h]
  · rw [closeClient_toLink_ne _ h, queueBytes_clients_ne _ h]

/-- A caller that closes on failure leaves the message in the stream, or no client. -/
theorem queueOrClose_kept (b : Bridge) (i : Slot) (m : Message) :
    (b.clients i).toLink.Kept ((b.queueOrClose i m).clients i).toLink [m] := by
  unfold queueOrClose
  dsimp only
  split
  · rename_i hok
    rcases queueBytes_grew b i m with h | ⟨hf, _⟩
    · exact Or.inr h
    · rw [hf] at hok
      cases hok
  · exact Or.inl (closeClient_toLink_self _ _)

/-! ## 6. Broadcasts -/

/-- What a broadcast queues on a link. -/
def offered (kind : ClientKind) (m : Message) (l : Link) : List Message :=
  if l.fd.isSome && l.kind == kind then [m] else []

/-- **A broadcast reaches exactly the clients of its kind**, slot by slot. -/
theorem broadcast_kept (b : Bridge) (kind : ClientKind) (m : Message) (i : Slot) :
    (b.clients i).toLink.Kept ((b.broadcast kind m).clients i).toLink
      (offered kind m (b.clients i).toLink) := by
  unfold broadcast
  refine sweep_each (v := fun (b : Bridge) i => (b.clients i).toLink) (I := fun _ => True)
    (R := fun _ (l l' : Link) => l.Kept l' (offered kind m l))
    (fun _ _ _ => trivial) (fun b i j _ hj => ?_) (fun b i _ => ?_) trivial i
  · split
    · exact queueOrClose_toLink_ne b hj m
    · rfl
  · unfold offered
    split
    · exact queueOrClose_kept b i m
    · exact .refl _

end Bridge

end TermuxGamepad
