/-
  File:      TermuxGamepad/Bridge/Delivery.lean
  Subject:   What is queued for a client goes out.

  That nothing else is sent is a matter of the stream (Bridge/Stream.lean). Here that it is sent
  at all: a send that takes a byte brings the buffer forward, and no other step of the bridge takes
  it back. So a client that stays has everything queued for it so far, once its socket took
  something at as many POLLOUT turns as bytes were buffered (`delivered`), whatever is queued in
  between, and whatever the other clients do.
-/
import TermuxGamepad.Bridge.Replies

namespace TermuxGamepad

open Wire

namespace Bridge

/-! ## 1. A turn -/

/-- The socket takes something at the first send that is not interrupted. -/
def takesSome : List SendResult → Bool
  | .sent _ :: _ => true
  | .intr :: sends => takesSome sends
  | _ => false

/-- A POLLOUT turn of the client in slot `i`, at which its socket takes something. -/
def Input.turn (i : Slot) (inp : Input) : Bool :=
  match inp.action with
  | .writable j => j == i && takesSome inp.sends
  | _ => false

theorem turn_eq {i : Slot} {inp : Input} (h : inp.turn i = true) :
    inp.action = .writable i ∧ takesSome inp.sends = true := by
  unfold Input.turn at h
  split at h
  · rename_i j hj
    obtain ⟨hji, htakes⟩ := Bool.and_eq_true_iff.mp h
    exact ⟨hj.trans (congrArg Action.writable (beq_iff_eq.mp hji)), htakes⟩
  · cases h

/-- The number of such turns. -/
def turns (i : Slot) (inputs : List Input) : Nat := inputs.countP (Input.turn i)

theorem flushLoop_length_le (sends : List SendResult) (output acc : List UInt8) :
    acc.length ≤ (flushLoop sends output acc).accepted.length := by
  fun_induction flushLoop sends output acc with
  | case3 n sends output acc _ ih =>
    rw [List.length_append] at ih
    exact (Nat.le_add_right ..).trans ih
  | case4 _ _ _ _ ih => exact ih
  | _ => exact Nat.le_refl _

/-- A send that takes something brings the buffer forward. -/
theorem flushLoop_takes {sends : List SendResult} (h : takesSome sends = true)
    (output acc : List UInt8) :
    output = [] ∨ acc.length < (flushLoop sends output acc).accepted.length := by
  fun_induction flushLoop sends output acc with
  | case1 => exact Or.inl rfl
  | case2 => cases h
  | case3 n sends output acc hne _ =>
    refine Or.inr (Nat.lt_of_lt_of_le ?_ (flushLoop_length_le ..))
    cases output with
    | nil => exact absurd rfl hne
    | cons x output =>
      rw [List.length_append, List.take_succ_cons, List.length_cons]
      omega
  | case4 output acc sends hne ih => exact ih h
  | case5 => cases h
  | case6 => cases h

variable {b : Bridge} {i : Slot} {c : Conn}

/-- The turn of a client that stays. -/
theorem writable_sends (hc : (b.clients i).fd = some c)
    (hstays : ((b.act (.writable i)).clients i).fd = some c) (htakes : takesSome b.sends = true) :
    (b.clients i).output = [] ∨
      (b.clients i).sent.length < ((b.act (.writable i)).clients i).sent.length := by
  have hact : b.act (.writable i) = b.serveWritable i := if_pos (by rw [hc]; rfl)
  have hok : (b.flushClient i).2 = true := by
    by_contra hno
    rw [hact, serveWritable, if_neg hno] at hstays
    rw [congrArg Link.fd (closeClient_toLink_self (b.flushClient i).1 i)] at hstays
    cases hstays
  have hsent : ((b.flushClient i).1.clients i).sent =
      (b.clients i).sent ++ (flushLoop b.sends (b.clients i).output []).accepted := by
    unfold flushClient
    simp only [hc]
    split <;> rw [emit_clients]
    · rw [setClient_self]
    · rw [emit_clients, setClient_self]
  refine (flushLoop_takes htakes (b.clients i).output []).imp_right fun hlt => ?_
  rw [hact, serveWritable, if_pos hok, hsent, List.length_append]
  exact Nat.lt_add_of_pos_right hlt

/-! ## 2. Runs -/

/-- What was sent stays sent. -/
theorem sentOn_act (b : Bridge) (a : Action) (c : Conn) : sentOn c b.log <+: sentOn c (b.act a).log := by
  obtain ⟨l, hl⟩ := act_log b a
  rw [hl, sentOn_append]
  exact List.prefix_append ..

/-- A connection that was seen is never new again. -/
theorem run_seen (b : Bridge) (inputs : List Input) : b.seen ⊆ (run step b inputs).seen := by
  refine run_inv (P := fun b' : Bridge => b.seen ⊆ b'.seen) (fun b' inp h => ?_)
    (List.Subset.refl _) inputs
  exact List.Subset.trans h (act_seen (b'.withEnv inp.sends inp.ticks inp.stamps) inp.action)

variable {opcode : Int} {answer : DeviceAnswer} {before after : List Input}

/-- What went out after some turns, if the client is still there: a byte at each, or all that was
    queued at first. -/
theorem run_sends (hthere : ((run step (boot opcode answer) before).clients i).fd = some c)
    (hstays : ((run step (boot opcode answer) (before ++ after)).clients i).fd = some c) :
    (∃ more, ((run step (boot opcode answer) (before ++ after)).clients i).queued =
        ((run step (boot opcode answer) before).clients i).queued ++ more) ∧
      (((run step (boot opcode answer) before).clients i).sent.length + turns i after ≤
          ((run step (boot opcode answer) (before ++ after)).clients i).sent.length ∨
        (((run step (boot opcode answer) before).clients i).queued.flatMap Message.bytes).length ≤
          ((run step (boot opcode answer) (before ++ after)).clients i).sent.length) := by
  have hseen : c ∈ (run step (boot opcode answer) before).seen :=
    (run_sound opcode answer before).tracked.isSeen i c hthere
  induction after using List.reverseRecOn with
  | nil =>
    rw [List.append_nil]
    exact ⟨⟨[], (List.append_nil _).symm⟩, Or.inl (Nat.le_refl _)⟩
  | append_singleton after inp ih =>
    rw [← List.append_assoc, run_concat] at hstays ⊢
    have hlater : c ∈ (run step (boot opcode answer) (before ++ after)).seen := by
      rw [run_append]
      exact run_seen _ after hseen
    have hwhole := run_whole opcode answer (before ++ after) i
    have hsound := run_sound opcode answer (before ++ after)
    have hsound' := run_sound opcode answer (before ++ after ++ [inp])
    rw [run_concat] at hsound'
    generalize run step (boot opcode answer) (before ++ after) = b at *
    -- the client was there before the last step
    obtain ⟨hold, ms, hms⟩ := act_stayed (b := b.withEnv inp.sends inp.ticks inp.stamps) hstays hlater
    obtain ⟨⟨more, hmore⟩, hsent⟩ := ih hold
    refine ⟨⟨more ++ ms, by rw [← List.append_assoc, ← hmore]; exact hms⟩, ?_⟩
    have hstep : (b.clients i).sent.length ≤ ((b.step inp).clients i).sent.length := by
      rw [← hsound.tracked.sent_eq hold, ← hsound'.tracked.sent_eq hstays]
      exact (sentOn_act (b.withEnv inp.sends inp.ticks inp.stamps) inp.action c).length_le
    have hturns : turns i (after ++ [inp]) = turns i after + if inp.turn i then 1 else 0 := by
      unfold turns
      rw [List.countP_append, List.countP_singleton]
    rcases hsent with hsent | hall
    · by_cases hturn : inp.turn i = true
      · obtain ⟨haction, htakes⟩ := turn_eq hturn
        have hstep' : b.step inp =
            (b.withEnv inp.sends inp.ticks inp.stamps).act (.writable i) := by
          rw [← haction]
          rfl
        rw [hstep'] at hstays hstep ⊢
        rcases writable_sends (b := b.withEnv inp.sends inp.ticks inp.stamps) hold hstays htakes with
          hempty | hmoved
        · -- nothing is buffered: all is sent
          have hall : (b.clients i).sent ++ (b.clients i).output =
              (b.clients i).queued.flatMap Message.bytes := hwhole
          rw [show (b.clients i).output = [] from hempty, List.append_nil, hmore,
            List.flatMap_append] at hall
          refine Or.inr (Nat.le_trans ?_ hstep)
          rw [hall, List.length_append]
          exact Nat.le_add_right ..
        · rw [hturns, if_pos hturn]
          exact Or.inl (Nat.le_trans (Nat.succ_le_succ hsent) hmoved)
      · rw [hturns, if_neg hturn]
        exact Or.inl (hsent.trans hstep)
    · exact Or.inr (hall.trans hstep)

/-- **Delivery**: a client has all that was queued for it up to some moment, once its socket took
    something at as many POLLOUT turns as bytes were buffered then; if the client is still there,
    and whatever else happened in between. -/
theorem delivered (opcode : Int) (answer : DeviceAnswer) (before after : List Input) (i : Slot)
    (c : Conn) (hthere : ((run step (boot opcode answer) before).clients i).fd = some c)
    (hstays : ((run step (boot opcode answer) (before ++ after)).clients i).fd = some c)
    (hturns : ((run step (boot opcode answer) before).clients i).output.length ≤ turns i after) :
    ((run step (boot opcode answer) before).clients i).queued.flatMap Message.bytes <+:
      sentOn c (run step (boot opcode answer) (before ++ after)).log := by
  obtain ⟨⟨more, hmore⟩, hsent⟩ := run_sends hthere hstays
  have hbefore : _ ++ _ = _ := run_whole opcode answer before i
  have hafter : _ ++ _ = _ := run_whole opcode answer (before ++ after) i
  rw [(run_sound opcode answer (before ++ after)).tracked.sent_eq hstays]
  generalize run step (boot opcode answer) before = b at *
  generalize run step (boot opcode answer) (before ++ after) = b' at *
  have hfront : (b.clients i).queued.flatMap Message.bytes <+:
      (b'.clients i).queued.flatMap Message.bytes := by
    rw [hmore, List.flatMap_append]
    exact List.prefix_append ..
  have hlength := congrArg List.length hbefore
  rw [List.length_append] at hlength
  refine List.prefix_of_prefix_length_le hfront ⟨_, hafter⟩ ?_
  rcases hsent with hsent | hall
  · rw [← hlength]
    exact Nat.le_trans (Nat.add_le_add_left hturns _) hsent
  · exact hall

/-- A monitor whose socket takes all of the first message but five bytes, -/
def slowMonitor : List Input :=
  [quietly (.accept (.conn 0 true)),
    { quietly (.readable slot0 (.data (commandBytes controlMonitor))) with sends := [.sent 90] }]

/-- and one byte at a time later, while the gamepad is unplugged. -/
def fiveTurns : List Input :=
  quietly (.xEvent (.hierarchyChanged noAnswer)) ::
    List.replicate 5 { quietly (.writable slot0) with sends := [.intr, .sent 0] }

theorem delivered_slowly :
    ((run step (boot 1 padAnswer) slowMonitor).clients slot0).output.length = 5 ∧
      ((run step (boot 1 padAnswer) slowMonitor).clients slot0).queued.flatMap Message.bytes <+:
        sentOn 0 (run step (boot 1 padAnswer) (slowMonitor ++ fiveTurns)).log :=
  ⟨by decide +kernel, delivered 1 padAnswer slowMonitor fiveTurns slot0 0 (by decide +kernel)
    (by decide +kernel) (by decide +kernel)⟩

end Bridge

end TermuxGamepad
