/-
  File:      TermuxGamepad/Feedback.lean
  Subject:   Rumble, from the calls of the library to what the bridge holds for its client.

  `Heeds` says what a receive call does to the rumble of its client: the last RUMBLE or
  STOP_RUMBLE among the messages it completes counts, from the time it was handled; whatever else
  the bridge does only ages it (`Ages`). `Feedback` runs a handle of the library and the bridge
  over the socket of the event stream, in any order. The bridge holds what one of the first
  commands that went out left, and the last one if nothing is on its way (`rumble_arrives`).
-/
import TermuxGamepad.Bridge.Aging
import TermuxGamepad.Bridge.Replies
import TermuxGamepad.Framing

namespace TermuxGamepad

open Wire

/-! ## 1. Messages -/

/-- The messages that say what the motors shall do. -/
def motorCommands (ms : List ControlMessage) : List ControlMessage :=
  ms.filter fun m => m.command == controlRumble || m.command == controlStopRumble

/-- What a client holds at time `t` once the messages were handled, the last that counts at time
    `handled`; without one it is as before. -/
def heldAfter (ms : List ControlMessage) (handled : Nat) (before : Option Rumble) (t : Nat) :
    Option Rumble :=
  (motorCommands ms).getLast?.elim before fun m => (Bridge.rumbleAfter m handled).lasting t

theorem motorCommands_append (ms ms' : List ControlMessage) :
    motorCommands (ms ++ ms') = motorCommands ms ++ motorCommands ms' := List.filter_append ..

theorem heldAfter_of_nil {ms : List ControlMessage} (h : motorCommands ms = []) (handled : Nat)
    (before : Option Rumble) (t : Nat) : heldAfter ms handled before t = before := by
  unfold heldAfter
  rw [h]
  rfl

/-- What came before does not count if a message counts, -/
theorem heldAfter_append_of_ne {ms ms' : List ControlMessage} (h : motorCommands ms' ≠ [])
    (handled : Nat) (before before' : Option Rumble) (t : Nat) :
    heldAfter (ms ++ ms') handled before t = heldAfter ms' handled before' t := by
  obtain ⟨m, hm⟩ := Option.ne_none_iff_exists'.mp (mt List.getLast?_eq_none_iff.mp h)
  unfold heldAfter
  rw [motorCommands_append, List.getLast?_append, hm]
  rfl

/-- and alone counts otherwise. -/
theorem heldAfter_append_of_nil {ms ms' : List ControlMessage} (h : motorCommands ms' = [])
    (handled : Nat) (before : Option Rumble) (t : Nat) :
    heldAfter (ms ++ ms') handled before t = heldAfter ms handled before t := by
  unfold heldAfter
  rw [motorCommands_append, h, List.append_nil]

namespace Bridge

variable {b b' b'' : Bridge} {i : Slot} {ms ms' : List ControlMessage}

/-- The client in slot `i`, if it is still there, holds what the messages leave. -/
structure Heeds (i : Slot) (ms : List ControlMessage) (b b' : Bridge) : Prop where
  now : b.now ≤ b'.now
  seen : b.seen ⊆ b'.seen
  stays : ∀ c ∈ b.seen, (b'.clients i).fd = some c → (b.clients i).fd = some c ∧
    ∃ handled, b.now ≤ handled ∧ handled ≤ b'.now ∧ ∀ t, b'.now ≤ t →
      (b'.clients i).live t = heldAfter ms handled ((b.clients i).live t) t

theorem Heeds.of_gone (hnow : b.now ≤ b'.now) (hseen : b.seen ⊆ b'.seen)
    (hfd : (b'.clients i).fd = none) : Heeds i ms b b' :=
  ⟨hnow, hseen, fun c _ h => by rw [hfd] at h; cases h⟩

theorem Ages.heeds (h : Ages i b b') (hms : motorCommands ms = []) : Heeds i ms b b' := by
  refine ⟨h.now, h.seen, fun c hc hfd => ?_⟩
  obtain ⟨hold, -, hlive⟩ := h.stays c hc hfd
  refine ⟨hold, b.now, Nat.le_refl _, h.now, fun t ht => ?_⟩
  rw [heldAfter_of_nil hms, hlive t ht]

theorem Heeds.trans (h : Heeds i ms b b') (h' : Heeds i ms' b' b'') :
    Heeds i (ms ++ ms') b b'' := by
  refine ⟨h.now.trans h'.now, List.Subset.trans h.seen h'.seen, fun c hc hfd => ?_⟩
  obtain ⟨hmid, handled', hlow', hhigh', hlive'⟩ := h'.stays c (h.seen hc) hfd
  obtain ⟨hold, handled, hlow, hhigh, hlive⟩ := h.stays c hc hmid
  refine ⟨hold, ?_⟩
  by_cases hms : motorCommands ms' = []
  · refine ⟨handled, hlow, hhigh.trans h'.now, fun t ht => ?_⟩
    rw [hlive' t ht, heldAfter_of_nil hms, hlive t (h'.now.trans ht), heldAfter_append_of_nil hms]
  · refine ⟨handled', h.now.trans hlow', hhigh', fun t ht => ?_⟩
    rw [hlive' t ht]
    exact (heldAfter_append_of_ne hms ..).symm

/-! ## 2. A receive call -/

/-- A command that says nothing of the motors. -/
theorem handleCommand_ages_self (b : Bridge) {m : ControlMessage} (hm : motorCommands [m] = []) :
    Ages i b (b.handleCommand i m).1 := by
  have hno : m.command ≠ controlRumble ∧ m.command ≠ controlStopRumble := by
    simpa [motorCommands] using hm
  exact (ages_parts i).handleCommand b i m (fun h => absurd h hno.1) fun h => absurd h hno.2

/-- **One message.** -/
theorem execute_heeds (hfd : (b.clients i).fd ≠ none) {m : ControlMessage}
    (hok : (b.execute i m).2 = true) : Heeds i [m] b (b.execute i m).1 := by
  unfold execute at hok ⊢
  split at hok
  · cases hok
  rename_i hhead
  rw [if_neg hhead]
  have hself : (b.setClient i (noted (b.clients i) m b.deviceDescriptor)).clients i =
      noted (b.clients i) m b.deviceDescriptor := setClient_self ..
  have hnoted : Ages i b (b.setClient i (noted (b.clients i) m b.deviceDescriptor)) :=
    .of_client rfl (List.Subset.refl _) (by rw [hself]; rfl) (by rw [hself]; rfl) (by rw [hself]; rfl)
  by_cases hm : motorCommands [m] = []
  · exact (hnoted.trans (handleCommand_ages_self _ hm)).heeds hm
  · have hcommand : m.command = controlRumble ∨ m.command = controlStopRumble := by
      by_contra hno
      exact hm (by simpa [motorCommands] using hno)
    obtain ⟨-, h⟩ := @handleCommand_asks
      (b.setClient i (noted (b.clients i) m b.deviceDescriptor)) i (by rw [hself]; exact hfd) m
      hcommand
    refine ⟨(Nat.le_add_right ..).trans h.now, fun c hc => by rw [h.seen]; exact hc,
      fun c _ hc => ⟨?_, b.clock, Nat.le_add_right .., h.now, fun t ht => ?_⟩⟩
    · rw [← hc, h.fd, hself]
      rfl
    · have hlast : motorCommands [m] = [m] :=
        List.filter_eq_self.mpr fun x hx => by
          rw [List.mem_singleton.mp hx]
          simpa using hcommand
      rw [h.live t ht, heldAfter, hlast]
      rfl

/-- **Messages in order.** -/
theorem executeAll_heeds (hok : (executeAll i b ms).2 = true) :
    Heeds i ms b (executeAll i b ms).1 := by
  induction ms generalizing b with
  | nil => exact (Ages.refl i b).heeds rfl
  | cons m ms ih =>
    unfold executeAll at hok ⊢
    by_cases hgone : (b.clients i).fd = none
    · rw [hgone, Option.isNone_none, if_pos rfl]
      exact .of_gone (Nat.le_refl _) (List.Subset.refl _) hgone
    rw [if_neg (by rwa [Option.isNone_iff_eq_none])] at hok ⊢
    split at hok
    · rename_i hthis
      rw [if_pos hthis]
      exact (execute_heeds hgone hthis).trans (ih hok)
    · rename_i hthis
      exact absurd hok hthis

/-- The client is left alone, but for its control buffer. -/
theorem Heeds.of_client (hnow : b.now ≤ b'.now) (hseen : b.seen ⊆ b'.seen)
    (hfd : (b'.clients i).fd = (b.clients i).fd)
    (hr : (b'.clients i).toRumble = (b.clients i).toRumble) : Heeds i [] b b' :=
  ⟨hnow, hseen, fun _ _ h => ⟨hfd.symm.trans h, b.now, Nat.le_refl _, hnow,
    fun t _ => live_congr hfd hr t⟩⟩

/-- The clock does not go back. -/
theorem act_now (b : Bridge) (a : Action) : b.now ≤ (b.act a).now := by
  by_cases ha : ∀ answer, a ≠ .xEvent (.hierarchyChanged answer)
  · refine (act_moves b ha).inv (P := fun b' => b.now ≤ b'.now) (fun b₁ b₂ hmove h => ?_)
      (Nat.le_refl _)
    have hupdate : ∀ (b' : Bridge) force, b'.now ≤ (b'.updateRumble force).now := fun b' force =>
      (updateRumble_ages slot0 b' force).now
    cases hmove with
    | quiet hq => exact h.trans (Nat.le_of_eq hq.now.symm)
    | forced he => exact h.trans (he.now.trans (hupdate ..))
    | tick => exact h.trans (hupdate ..)
  · obtain ⟨answer, rfl⟩ := not_forall_not.mp ha
    exact (refreshLorieDevice_ages slot0 b answer).now

/-- What a receive call makes of the bytes, if the client is still there. -/
theorem readable_heeds (h : Short b) (i : Slot) (r : RecvResult) :
    let stream := (b.clients i).control ++ received (b.clients i).toLink r
    Heeds i (controlMessageCodec.records stream) b (b.act (.readable i r)) ∧
      (((b.act (.readable i r)).clients i).fd ≠ none →
        ((b.act (.readable i r)).clients i).control = controlMessageCodec.remainder stream) := by
  intro stream
  have hnow := act_now b (.readable i r)
  have hseen := act_seen b (.readable i r)
  have hgone : ((b.act (.readable i r)).clients i).fd = none →
      Heeds i (controlMessageCodec.records stream) b (b.act (.readable i r)) ∧
        (((b.act (.readable i r)).clients i).fd ≠ none →
          ((b.act (.readable i r)).clients i).control = controlMessageCodec.remainder stream) :=
    fun hfd => ⟨.of_gone hnow hseen hfd, fun hne => absurd hfd hne⟩
  by_cases hfd : (b.clients i).fd = none
  · refine hgone ?_
    show ((if (b.clients i).fd.isSome then b.serveReadable i r else b).clients i).fd = none
    rw [hfd]
    exact hfd
  have hsome : (b.clients i).fd.isSome = true := Option.isSome_iff_ne_none.mpr hfd
  have hact : b.act (.readable i r) = b.serveReadable i r := if_pos hsome
  have hroom : (b.clients i).control.length < controlBufferSize := Nat.lt_trans (h i) (by decide)
  have hfull : ¬(b.clients i).control.length = controlBufferSize := Nat.ne_of_lt hroom
  have hfailed : (b.receiveControlMessages i r).2 = false →
      ((b.act (.readable i r)).clients i).fd = none := by
    intro hfalse
    rw [hact, serveReadable, hfalse, if_neg Bool.false_ne_true]
    exact congrArg Link.fd (closeClient_toLink_self _ i)
  cases r with
  | again =>
    have hsame : b.act (.readable i .again) = b := by
      rw [hact, serveReadable, receiveControlMessages, if_neg hfull]
      rfl
    have hstream : stream = (b.clients i).control := List.append_nil _
    obtain ⟨hrec, hrem⟩ := controlMessageCodec.records_of_lt (h i)
    rw [hsame, hstream, hrec, hrem]
    exact ⟨(Ages.refl i b).heeds rfl, fun _ => rfl⟩
  | failed =>
    refine hgone (hfailed ?_)
    rw [receiveControlMessages, if_neg hfull]
  | data bs =>
    cases bs with
    | nil =>
      refine hgone (hfailed ?_)
      rw [receiveControlMessages, if_neg hfull]
    | cons x bs =>
      -- what does not fit is left to the next call
      obtain ⟨p, hp, hreceived, hlen, hsame⟩ : ∃ p, p ≠ [] ∧
          received (b.clients i).toLink (.data (x :: bs)) = p ∧
          p.length ≤ controlBufferSize - (b.clients i).control.length ∧
          b.act (.readable i (.data (x :: bs))) = b.act (.readable i (.data p)) := by
        obtain ⟨n, hn⟩ : ∃ n, controlBufferSize - (b.clients i).control.length = n + 1 :=
          ⟨_, (Nat.succ_pred_eq_of_pos (Nat.sub_pos_of_lt hroom)).symm⟩
        have htake : received (b.clients i).toLink (.data (x :: bs)) = x :: bs.take n := by
          unfold received
          rw [show (b.clients i).toLink.control = (b.clients i).control from rfl, hn]
          rfl
        refine ⟨x :: bs.take n, List.cons_ne_nil _ _, htake, ?_, ?_⟩
        · rw [hn, List.length_cons]
          exact Nat.succ_le_succ (List.length_take_le ..)
        · rw [hact, show b.act (.readable i (.data (x :: bs.take n))) =
            b.serveReadable i (.data (x :: bs.take n)) from if_pos hsome]
          unfold serveReadable receiveControlMessages
          rw [if_neg hfull, if_neg hfull]
          dsimp only
          rw [hn, List.take_succ_cons, List.take_succ_cons, List.take_take, Nat.min_self]
      have hstream : stream = (b.clients i).control ++ p := congrArg _ hreceived
      rw [hsame] at hgone hnow hseen ⊢
      rw [hstream] at hgone ⊢
      rw [readable_decodes hp hlen hfd, decodeWhole_eq p hfd] at hgone hnow hseen ⊢
      generalize controlMessageCodec.records ((b.clients i).control ++ p) = ms at hgone hnow hseen ⊢
      by_cases hok : (executeAll i b ms).2 = true
      · have hall := executeAll_heeds hok
        by_cases hstays : ((executeAll i b ms).1.clients i).fd = none
        · refine hgone ?_
          unfold settled
          rw [hok, Bool.not_true, if_neg Bool.false_ne_true, hstays, Option.isNone_none, if_pos rfl]
          exact hstays
        · have hset : ∀ rest, settled i (executeAll i b ms) rest =
              (executeAll i b ms).1.setControl i rest := by
            intro rest
            unfold settled
            rw [hok, Bool.not_true, if_neg Bool.false_ne_true,
              if_neg (by rwa [Option.isNone_iff_eq_none])]
          rw [hset]
          refine ⟨?_, fun _ => by rw [setControl_self]⟩
          have hrest : Heeds i [] (executeAll i b ms).1 ((executeAll i b ms).1.setControl i
              (controlMessageCodec.remainder ((b.clients i).control ++ p))) :=
            .of_client (Nat.le_refl _) (List.Subset.refl _) (by rw [setControl_self])
              (by rw [setControl_self])
          have := hall.trans hrest
          rwa [List.append_nil] at this
      · refine hgone ?_
        unfold settled
        rw [(Bool.not_eq_true _).mp hok, Bool.not_false, if_pos rfl]
        exact congrArg Link.fd (closeClient_toLink_self _ i)

/-! ## 3. A connection -/

/-- What the action brings on the connection, with the bytes before, has a message that counts. -/
def moved (b : Bridge) (a : Action) (c : Conn) (taken : List UInt8) : Bool :=
  !(motorCommands (controlMessageCodec.records
    (controlMessageCodec.remainder taken ++ b.takes a c))).isEmpty

/-- The client of the connection holds what the bytes `taken` of it leave; the last message that
    counts was handled between `heard` and `heeded`. -/
structure HeedsOn (b : Bridge) (c : Conn) (taken : List UInt8) (heard heeded : Nat) : Prop where
  order : heard ≤ heeded
  past : heeded ≤ b.now
  unseen : c ∉ b.seen → taken = []
  slot : ∀ i, (b.clients i).fd = some c →
    (b.clients i).control = controlMessageCodec.remainder taken ∧
      ∃ handled, heard ≤ handled ∧ handled ≤ heeded ∧ ∀ t, b.now ≤ t →
        (b.clients i).live t = heldAfter (controlMessageCodec.records taken) handled none t

variable {a : Action} {c : Conn} {taken : List UInt8} {heard heeded : Nat}

/-- A new client holds nothing. -/
theorem accepted_live {r : AcceptResult} (hc : ((b.acceptClient r).clients i).fd = some c)
    (hnew : (b.clients i).fd ≠ some c) (t : Nat) : ((b.acceptClient r).clients i).live t = none := by
  unfold acceptClient at hc ⊢
  split
  · exact absurd hc hnew
  rename_i c' nonblocking
  dsimp only at hc ⊢
  by_cases hseen : c' ∈ b.seen
  · rw [if_pos hseen] at hc
    exact absurd hc hnew
  rw [if_neg hseen] at hc ⊢
  cases nonblocking with
  | false => exact absurd hc hnew
  | true =>
    rw [Bool.not_true, if_neg Bool.false_ne_true] at hc ⊢
    cases hfree : freeSlot { b with seen := c' :: b.seen } with
    | none =>
      rw [hfree] at hc
      exact absurd hc hnew
    | some j =>
      rw [hfree] at hc
      by_cases hij : i = j
      · subst hij
        show ((({ b with seen := c' :: b.seen } : Bridge).setClient i
          (acceptedClient c')).clients i).live t = none
        rw [setClient_self]
        rfl
      · have hsame : (({ b with seen := c' :: b.seen } : Bridge).setClient j
            (acceptedClient c')).clients i = b.clients i := setClient_ne _ hij _
        exact absurd ((congrArg (fun c => c.fd) hsame).symm.trans hc) hnew

/-- **Every action keeps it**: one that brings a message that counts handles it between its start
    and its end. -/
theorem HeedsOn.act (h : b.HeedsOn c taken heard heeded) (hs : Sound b) (a : Action) :
    (b.act a).HeedsOn c (taken ++ b.takes a c) (if b.moved a c taken then b.now else heard)
      (if b.moved a c taken then (b.act a).now else heeded) := by
  have hnow := act_now b a
  obtain ⟨hrec, hrem⟩ := controlMessageCodec.records_append (by decide) taken (b.takes a c)
  refine ⟨?_, ?_, fun hc => ?_, fun i hc => ?_⟩
  · split
    · exact hnow
    · exact h.order
  · split
    · exact Nat.le_refl _
    · exact h.past.trans hnow
  · have hc' : c ∉ b.seen := fun hseen => hc (act_seen b a hseen)
    rw [h.unseen hc', takes_unseen hs.tracked a hc']
    rfl
  by_cases hold : (b.clients i).fd = some c
  · obtain ⟨hcontrol, handled, hlow, hhigh, hlive⟩ := h.slot i hold
    have hseen : c ∈ b.seen := hs.tracked.isSeen i c hold
    -- what the action does to the client, whether it reads from it or not
    have hheeds : Heeds i (controlMessageCodec.records
          (controlMessageCodec.remainder taken ++ b.takes a c)) b (b.act a) ∧
        ((b.act a).clients i).control = controlMessageCodec.remainder (taken ++ b.takes a c) := by
      by_cases hread : ∃ r, a = .readable i r
      · obtain ⟨r, rfl⟩ := hread
        have htakes : b.takes (.readable i r) c = received (b.clients i).toLink r := if_pos hold
        obtain ⟨hheeds, hrest⟩ := readable_heeds hs.short i r
        rw [hrem, htakes, ← hcontrol]
        exact ⟨hheeds, hrest (by rw [hc]; exact nofun)⟩
      · have hages : Ages i b (b.act a) := act_ages b a fun r hr => hread ⟨r, hr⟩
        have htakes : b.takes a c = [] := by
          unfold takes
          split
          · rename_i j r
            refine if_neg fun hfd => hread ⟨r, ?_⟩
            rw [hs.tracked.distinct j i c hfd hold]
          · rfl
        have hshort : (controlMessageCodec.remainder taken).length < controlMessageCodec.size :=
          controlMessageCodec.remainder_length (by decide) taken
        rw [hrem, htakes, List.append_nil, (controlMessageCodec.records_of_lt hshort).1,
          (controlMessageCodec.records_of_lt hshort).2, ← hcontrol]
        exact ⟨hages.heeds rfl, (hages.stays c hseen hc).2.1⟩
    refine ⟨hheeds.2, ?_⟩
    obtain ⟨-, handled', hlow', hhigh', hlive'⟩ := hheeds.1.stays c hseen hc
    rw [hrec]
    by_cases hms : motorCommands (controlMessageCodec.records
        (controlMessageCodec.remainder taken ++ b.takes a c)) = []
    · refine ⟨handled, ?_, ?_, fun t ht => ?_⟩
      · rw [moved, hms]
        exact hlow
      · rw [moved, hms]
        exact hhigh
      · rw [hlive' t ht, heldAfter_of_nil hms, heldAfter_append_of_nil hms, hlive t (hnow.trans ht)]
    · refine ⟨handled', ?_, ?_, fun t ht => ?_⟩
      · rw [moved, List.isEmpty_eq_false_iff.mpr hms]
        exact hlow'
      · rw [moved, List.isEmpty_eq_false_iff.mpr hms]
        exact hhigh'
      · rw [hlive' t ht]
        exact (heldAfter_append_of_ne hms ..).symm
  · obtain ⟨hunseen, ⟨r, rfl⟩, hlink⟩ := act_takes hc hold
    have hnone : taken = [] := h.unseen hunseen
    have hnothing : b.takes (.accept r) c = [] := rfl
    subst hnone
    obtain ⟨hrec', hrem'⟩ := @Codec.records_of_lt _ controlMessageCodec [] (by decide)
    rw [moved, hnothing, List.append_nil, hrem', hrec', List.append_nil]
    refine ⟨(congrArg Link.control hlink).trans hrem'.symm, heard, Nat.le_refl _, h.order,
      fun t _ => ?_⟩
    exact accepted_live hc hold t

end Bridge

/-- Bytes only join, unless a new stream is opened. -/
theorem Line.step_bytes (l : Line) (inp : Handle.Input)
    (hno : ∀ site fd, l.handle.pc = .connect (.stream site) → inp ≠ .answer (.connected fd)) :
    l.bytes <+: (l.step inp).bytes := by
  unfold Line.step
  dsimp only
  split
  · rename_i site fd hpc
    exact absurd rfl (hno site fd hpc)
  · split
    · exact List.prefix_append ..
    · exact List.prefix_rfl
  · split
    · split <;> exact List.prefix_rfl
    · exact List.prefix_rfl
  · exact List.prefix_rfl

/-! ## 4. The handle and the bridge -/

/-- The bridge, a handle, and the connection of its event stream since `connect`, with the bytes
    the bridge took off it, and the times of the bridge before and after the step in which it took
    the end of the last message that counts. -/
structure Feedback where
  bridge : Bridge
  line : Line
  stream : Option Conn
  taken : List UInt8
  heard : Nat
  heeded : Nat

namespace Feedback

def start (opcode : Int) (answer : DeviceAnswer) : Feedback :=
  { bridge := Bridge.boot opcode answer, line := Line.create, stream := none, taken := [],
    heard := 0, heeded := 0 }

/-- A step of the bridge, or one of the handle: a call of the application, or what a system call of
    the handle comes to. -/
inductive Input where
  | bridge (inp : Bridge.Input)
  | handle (inp : Handle.Input)

/-- The connection a `connect` of the event stream makes. -/
def opens (w : Feedback) (inp : Handle.Input) : Option Conn :=
  match w.line.handle.pc, inp with
  | .connect (.stream _), .answer (.connected c) => some c
  | _, _ => none

/-- One step of either. The stream brings the bridge what went out on it, in order, and a new one
    is none that was accepted before; anything else is no input. What the bridge sends the handle
    does not matter here, and other connections bring anything. -/
def step (w : Feedback) (inp : Input) : Feedback :=
  match inp with
  | .bridge inp =>
    match w.stream with
    | none => { w with bridge := w.bridge.step inp }
    | some c =>
      let taken := w.taken ++ w.bridge.takes inp.action c
      if decide (taken <+: w.line.bytes) then
        { w with
          bridge := w.bridge.step inp
          taken := taken
          heard := if w.bridge.moved inp.action c w.taken then w.bridge.now else w.heard
          heeded :=
            if w.bridge.moved inp.action c w.taken then (w.bridge.step inp).now else w.heeded }
      else w
  | .handle inp =>
    match w.opens inp with
    | none => { w with line := w.line.step inp }
    | some c =>
      if c ∈ w.bridge.seen then w
      else { w with line := w.line.step inp, stream := some c, taken := [], heard := 0, heeded := 0 }

/-- **The invariant**: the bridge has taken a beginning of what went out, and heeds it. -/
structure Linked (w : Feedback) : Prop where
  sound : Bridge.Sound w.bridge
  lined : w.line.Lined
  taken : w.taken <+: w.line.bytes
  heeds : ∀ c, w.stream = some c → w.bridge.HeedsOn c w.taken w.heard w.heeded

variable {w : Feedback}

theorem bridge_linked (h : w.Linked) (inp : Bridge.Input) : (w.step (.bridge inp)).Linked := by
  have hsound : Bridge.Sound (w.bridge.step inp) :=
    Bridge.act_sound (h.sound.env inp.sends inp.ticks inp.stamps) inp.action
  unfold step
  dsimp only
  split
  · rename_i hstream
    refine ⟨hsound, h.lined, h.taken, fun c hc => ?_⟩
    rw [hstream] at hc
    cases hc
  · rename_i c hstream
    split
    · rename_i htaken
      refine ⟨hsound, h.lined, of_decide_eq_true htaken, fun c' hc => ?_⟩
      obtain rfl : c = c' := Option.some.inj (hstream.symm.trans hc)
      have hheeds := h.heeds c hstream
      have henv : (w.bridge.withEnv inp.sends inp.ticks inp.stamps).HeedsOn c w.taken w.heard
          w.heeded := ⟨hheeds.order, hheeds.past, hheeds.unseen, hheeds.slot⟩
      exact henv.act (h.sound.env inp.sends inp.ticks inp.stamps) inp.action
    · exact h

theorem handle_linked (h : w.Linked) (inp : Handle.Input) : (w.step (.handle inp)).Linked := by
  have hlined := Line.step_lined w.line inp h.lined
  unfold step
  dsimp only
  split
  · rename_i hopens
    refine ⟨h.sound, hlined, h.taken.trans (Line.step_bytes _ _ fun site fd hpc hinp => ?_), h.heeds⟩
    subst hinp
    unfold opens at hopens
    rw [hpc] at hopens
    cases hopens
  · rename_i c hopens
    split
    · exact h
    · rename_i hnew
      refine ⟨h.sound, hlined, List.nil_prefix, fun c' hc => ?_⟩
      obtain rfl : c = c' := Option.some.inj hc
      exact ⟨Nat.le_refl _, Nat.zero_le _, fun _ => rfl, fun i hi =>
        absurd (h.sound.tracked.isSeen i c hi) hnew⟩

theorem run_linked (opcode : Int) (answer : DeviceAnswer) (inputs : List Input) :
    (run step (start opcode answer) inputs).Linked := by
  refine run_inv (P := Linked) (fun w inp h => ?_) ?_ inputs
  · cases inp with
    | bridge inp => exact bridge_linked h inp
    | handle inp => exact handle_linked h inp
  · exact ⟨Bridge.run_sound opcode answer [], Line.run_lined [], List.nil_prefix, nofun⟩

/-- **Rumble arrives, in order.** In every run of a handle and the bridge, in any order of their
    steps, as long as no command on the event stream was cut short before another: what the bridge
    holds for the handle is what the first `n` commands that went out whole left, the last RUMBLE or
    STOP_RUMBLE of them counting from the time it was handled, inside the step that took its end,
    until it expires; and these are all commands if nothing is on its way. -/
theorem rumble_arrives (opcode : Int) (answer : DeviceAnswer) (inputs : List Input) (c : Conn)
    (i : Slot) (hstream : (run step (start opcode answer) inputs).stream = some c)
    (hslot : ((run step (start opcode answer) inputs).bridge.clients i).fd = some c)
    (hwhole : Send.Unbroken (run step (start opcode answer) inputs).line.calls) :
    let w := run step (start opcode answer) inputs
    ∃ n handled, w.heard ≤ handled ∧ handled ≤ w.heeded ∧
      (∀ t, w.bridge.now ≤ t → (w.bridge.clients i).live t =
        heldAfter ((Send.whole w.line.calls).take n) handled none t) ∧
      (w.taken = w.line.bytes → (Send.whole w.line.calls).length ≤ n) := by
  intro w
  have h : w.Linked := run_linked opcode answer inputs
  have hstream : w.stream = some c := hstream
  have hslot : (w.bridge.clients i).fd = some c := hslot
  have hwhole : Send.Unbroken w.line.calls := hwhole
  have hrecords : controlMessageCodec.records w.line.bytes = Send.whole w.line.calls := by
    rw [h.lined.bytes]
    exact hwhole.records (by decide)
  obtain ⟨-, handled, hlow, hhigh, hlive⟩ := (h.heeds c hstream).slot i hslot
  have htaken := controlMessageCodec.records_prefix (by decide) h.taken
  rw [hrecords] at htaken
  refine ⟨(controlMessageCodec.records w.taken).length, handled, hlow, hhigh, fun t ht => ?_,
    fun hall => ?_⟩
  · rw [← List.prefix_iff_eq_take.mp htaken]
    exact hlive t ht
  · rw [hall, hrecords]

/-- A handle opens its stream and asks for rumble; the bridge accepts and reads all of it. -/
def oneRumble : List Input :=
  Handle.padSession.map .handle ++
    [.bridge (Bridge.quietly (.accept (.conn 2 true))),
      .bridge (Bridge.quietly (.readable Bridge.slot0 (.data (Bridge.commandBytes
        controlQueryDescriptor ++ Bridge.rumbleBytes 100 200 50))))]

theorem rumble_arrives_once : ∃ handled, ∀ t,
    (run step (start 1 Bridge.padAnswer) oneRumble).bridge.now ≤ t →
      ((run step (start 1 Bridge.padAnswer) oneRumble).bridge.clients Bridge.slot0).live t =
        (Bridge.rumbleAfter (Handle.commandMessage controlRumble 100 200 50) handled).lasting t := by
  have hwhole : ∀ s ∈ (run step (start 1 Bridge.padAnswer) oneRumble).line.calls,
      s.sent = controlMessageCodec.size := by decide +kernel
  have hunbroken : Send.Unbroken (run step (start 1 Bridge.padAnswer) oneRumble).line.calls :=
    fun pre s post heq _ hlt =>
      absurd (hwhole s (heq ▸ List.mem_append_right _ List.mem_cons_self)) (Nat.ne_of_lt hlt)
  obtain ⟨n, handled, -, -, hlive, hall⟩ := rumble_arrives 1 Bridge.padAnswer oneRumble 2
    Bridge.slot0 (by decide +kernel) (by decide +kernel) hunbroken
  have hlast : (motorCommands (Send.whole
      (run step (start 1 Bridge.padAnswer) oneRumble).line.calls)).getLast? =
      some (Handle.commandMessage controlRumble 100 200 50) := by decide +kernel
  have hlength := hall (by decide +kernel)
  refine ⟨handled, fun t ht => ?_⟩
  rw [hlive t ht, List.take_of_length_le hlength, heldAfter, hlast]
  rfl

end Feedback

end TermuxGamepad
