/-
  File:      TermuxGamepad/Client/Line.lean
  Subject:   The commands a handle sends on one connection, and what goes out of each.

  `Line` watches the connection of the event stream: the bytes `send` accepted on it since it
  was opened, and the commands issued on it, QUERY_DESCRIPTOR first. What went out is, command
  after command, the beginning of each (`run_lined`). A monitor connection carries one command,
  and its `send_all` is the same.
-/
import TermuxGamepad.Client.Handle
import TermuxGamepad.Lib.Sends
import TermuxGamepad.Lib.Slots

namespace TermuxGamepad

open Wire

/-- A control command of which a part went out. -/
abbrev SendCall := Send controlMessageCodec

/-- A command of which nothing went out yet. -/
def SendCall.issue (m : ControlMessage) : SendCall :=
  { record := m, sent := 0, sent_le := Nat.zero_le _ }

/-- More bytes of the last command go out. -/
def growLast (n : Nat) : List SendCall → List SendCall
  | [] => []
  | [s] => [s.more n]
  | s :: l => s :: growLast n l

theorem growLast_concat (n : Nat) (l : List SendCall) (s : SendCall) :
    growLast n (l ++ [s]) = l ++ [s.more n] := by
  induction l with
  | nil => rfl
  | cons t l ih =>
    have hne : l ++ [s] ≠ [] := List.append_ne_nil_of_right_ne_nil l (List.cons_ne_nil s [])
    rw [List.cons_append, growLast, ih, List.cons_append]
    exact hne

/-- The send goes over the event stream. -/
def SendSite.onStream : SendSite → Bool
  | .opening (.monitor _) _ => false
  | .opening (.stream _) _ => true
  | .control => true

/-- The send the handle is in, and the bytes it has still to get out. -/
def Pc.sending : Pc → Option (SendSite × List UInt8)
  | .send site unsent => some (site, unsent)
  | .poll site unsent => some (site, unsent)
  | _ => none

/-- The command a call of the application asks for. -/
def Handle.asked : Handle.Input → Option ControlMessage
  | .rumble low high durationMs =>
    if low = 0 ∧ high = 0 then some (commandMessage controlStopRumble 0 0 0)
    else some (commandMessage controlRumble low high durationMs)
  | .stopRumble => some (commandMessage controlStopRumble 0 0 0)
  | _ => none

/-- A handle, the bytes that went out on the connection of its event stream, and the commands
    issued on it. -/
structure Line where
  handle : Handle
  bytes : List UInt8
  calls : List SendCall

def Line.create : Line := { handle := Handle.create, bytes := [], calls := [] }

/-- One step of the handle. -/
def Line.step (l : Line) (inp : Handle.Input) : Line :=
  let h := l.handle.step inp
  match l.handle.pc, inp with
  | .connect (.stream site), .answer (.connected _) =>
    { handle := h, bytes := [], calls := [.issue (Handle.command (.stream site))] }
  | .send site unsent, .answer (.accepted n) =>
    if site.onStream then
      { handle := h, bytes := l.bytes ++ unsent.take (n + 1), calls := growLast (n + 1) l.calls }
    else { l with handle := h }
  | .idle, inp =>
    match Handle.asked inp with
    | some m =>
      if l.handle.eventFd.isSome then { l with handle := h, calls := l.calls ++ [.issue m] }
      else { l with handle := h }
    | none => { l with handle := h }
  | _, _ => { l with handle := h }

namespace Handle

variable {h : Handle}

/-! ## 1. Where the handle sends nothing -/

/-- The handle is in no send. -/
def Silent (h : Handle) : Prop := h.pc.sending = none

theorem afterStream_silent (refreshed : Int) : (h.afterStream refreshed).Silent := by
  unfold afterStream
  split <;> rfl

theorem afterRefresh_silent (caller : Caller) (result : Int) :
    (h.afterRefresh caller result).Silent := by
  cases caller with
  | create => rfl
  | application => rfl
  | update =>
    unfold afterRefresh
    dsimp only
    split
    · rfl
    · exact afterStream_silent _

theorem applied_silent (site : HotplugSite) (result : Int) : (h.applied site result).Silent := by
  cases site with
  | monitor caller => exact afterRefresh_silent caller result
  | drain caller changed =>
    unfold applied
    dsimp only
    split
    · exact afterRefresh_silent caller result
    · rfl

theorem streamReturned_silent (site : StreamSite) : (h.streamReturned site).Silent := by
  cases site with
  | hotplug site => exact applied_silent site 1
  | update refreshed => exact afterStream_silent refreshed

theorem applyHotplug_silent (m : HotplugMessage) (site : HotplugSite) :
    (h.applyHotplug m site).Silent := by
  unfold applyHotplug
  split
  · exact applied_silent ..
  · dsimp only
    split
    · exact applied_silent ..
    · split
      · rfl
      · exact applied_silent ..

theorem openFailed_silent (t : Task) (e : Errno) : (h.openFailed t e).Silent := by
  cases t with
  | monitor caller => exact afterRefresh_silent ..
  | stream site => exact streamReturned_silent site

theorem sendFailed_silent (site : SendSite) (e : Errno) : (h.sendFailed site e).Silent := by
  cases site with
  | opening t fd => exact openFailed_silent t e
  | control => rfl

theorem sendDone_silent (site : SendSite) : (h.sendDone site).Silent := by
  cases site <;> rfl

theorem received_silent (t : Task) (fd : Nat) (got : List UInt8) :
    (h.received t fd got).Silent := by
  cases t with
  | monitor caller => rfl
  | stream site =>
    unfold received
    dsimp only
    split
    · rfl
    · exact openFailed_silent ..

theorem opened_silent (t : Task) (fd : Nat) (got : List UInt8) : (h.opened t fd got).Silent := by
  cases t with
  | monitor caller => exact applyHotplug_silent ..
  | stream site => exact streamReturned_silent site

theorem monitorLost_silent (caller : Caller) (result : Int) :
    (h.monitorLost caller result).Silent := by
  unfold monitorLost
  dsimp only
  split <;> exact afterRefresh_silent ..

theorem refresh_silent (caller : Caller) : (h.refresh caller).Silent := by
  unfold refresh
  dsimp only
  split <;> rfl

/-- Receiving, `fcntl` and draining do not send. -/
theorem answer_silent (hs : h.Silent) (hc : ∀ t, h.pc ≠ .connect t) (a : SysAnswer) :
    (h.answer a).Silent := by
  unfold answer
  cases hpc : h.pc with
  | idle => exact hs
  | connect t => exact absurd hpc (hc t)
  | send site unsent => rw [Silent, hpc] at hs; cases hs
  | poll site unsent => rw [Silent, hpc] at hs; cases hs
  | receive t fd got =>
    cases a with
    | bytes bs =>
      unfold receiveAnswer
      dsimp only
      split
      · exact received_silent ..
      · rfl
    | ended => exact openFailed_silent ..
    | again => exact openFailed_silent ..
    | failed e => exact openFailed_silent ..
    | _ => exact hs
  | setNonblock t fd got =>
    cases a with
    | done => exact opened_silent ..
    | failed e => exact openFailed_silent ..
    | _ => exact hs
  | refreshRecv caller changed =>
    cases a with
    | bytes bs =>
      unfold refreshAnswer
      dsimp only
      split
      · exact applyHotplug_silent ..
      · exact hs
    | ended => exact monitorLost_silent ..
    | failed e => exact monitorLost_silent ..
    | again => exact afterRefresh_silent ..
    | _ => exact hs
  | eventRecv reports =>
    cases a with
    | bytes bs =>
      unfold eventAnswer
      dsimp only
      split
      · rfl
      · exact hs
    | ended => rfl
    | failed e => rfl
    | again => rfl
    | _ => exact hs

end Handle

/-! ## 2. What went out -/

/-- The bytes that went out are the beginnings of the commands, and a send on the event stream
    has the rest of the last one to get out. -/
structure Line.Lined (l : Line) : Prop where
  bytes : l.bytes = Send.stream l.calls
  sending : ∀ site unsent, l.handle.pc.sending = some (site, unsent) → site.onStream = true →
    ∃ pre s, l.calls = pre ++ [s] ∧ unsent = (controlMessageCodec.enc s.record).drop s.sent

namespace Line

variable {l : Line}

/-- A step that puts nothing on the connection and ends in no send. -/
theorem Lined.quiet (h : l.Lined) {g : Handle} (hg : g.Silent) : Lined { l with handle := g } :=
  ⟨h.bytes, fun _ _ hsend => by rw [hg] at hsend; cases hsend⟩

/-- A step that stays in its send. -/
theorem Lined.stay (h : l.Lined) {g : Handle} (hg : g.pc.sending = l.handle.pc.sending) :
    Lined { l with handle := g } :=
  ⟨h.bytes, fun site unsent hsend => h.sending site unsent (hg ▸ hsend)⟩

/-- A command is issued. -/
theorem Lined.issue (h : l.Lined) (m : ControlMessage) {g : Handle}
    (hg : g.pc = .send .control (controlMessageCodec.enc m)) :
    Lined { l with handle := g, calls := l.calls ++ [.issue m] } := by
  constructor
  · show l.bytes = Send.stream (l.calls ++ [.issue m])
    rw [h.bytes, Send.stream_append, Send.stream_cons, Send.stream_nil, List.append_nil,
      Send.bytes_of_zero rfl, List.append_nil]
  · intro site unsent hsend _
    show ∃ pre s, l.calls ++ [.issue m] = pre ++ [s] ∧ _
    rw [show g.pc.sending = _ from congrArg Pc.sending hg] at hsend
    obtain ⟨rfl, rfl⟩ := Prod.mk.inj (Option.some.inj hsend)
    exact ⟨l.calls, .issue m, rfl, rfl⟩

/-- `send` accepts bytes of the last command. -/
theorem Lined.accept (h : l.Lined) {site : SendSite} {unsent : List UInt8}
    (hpc : l.handle.pc = .send site unsent) (hsite : site.onStream = true) (n : Nat) {g : Handle}
    (hg : g.Silent ∨ g.pc = .send site (unsent.drop (n + 1))) :
    Lined { handle := g, bytes := l.bytes ++ unsent.take (n + 1), calls := growLast (n + 1) l.calls } := by
  obtain ⟨pre, s, hcalls, hunsent⟩ := h.sending site unsent (by rw [hpc]; rfl) hsite
  constructor
  · show l.bytes ++ unsent.take (n + 1) = Send.stream (growLast (n + 1) l.calls)
    rw [h.bytes, hcalls, growLast_concat, Send.stream_append, Send.stream_append, Send.stream_cons,
      Send.stream_cons, Send.stream_nil, List.append_nil, List.append_nil, Send.bytes_more, hunsent,
      List.append_assoc]
  · intro site' unsent' hsend _
    show ∃ pre s, growLast (n + 1) l.calls = pre ++ [s] ∧ _
    rcases hg with hg | hg
    · rw [hg] at hsend
      cases hsend
    · rw [show g.pc.sending = _ from congrArg Pc.sending hg] at hsend
      obtain ⟨rfl, rfl⟩ := Prod.mk.inj (Option.some.inj hsend)
      refine ⟨pre, s.more (n + 1), by rw [hcalls, growLast_concat], ?_⟩
      have hlen : (controlMessageCodec.enc s.record).length = controlMessageCodec.size :=
        controlMessageCodec.enc_length _
      show unsent.drop (n + 1) =
        (controlMessageCodec.enc s.record).drop (min (s.sent + (n + 1)) controlMessageCodec.size)
      rw [hunsent, List.drop_drop]
      rcases Nat.le_total (s.sent + (n + 1)) controlMessageCodec.size with hle | hle
      · rw [Nat.min_eq_left hle]
      · rw [Nat.min_eq_right hle, List.drop_eq_nil_of_le (by omega), List.drop_eq_nil_of_le (by omega)]

/-- A call of the application while no call is running. -/
theorem idle_lined (h : l.Lined) (hpc : l.handle.pc = .idle) (inp : Handle.Input) :
    (l.step inp).Lined := by
  have hsend : ∀ low high durationMs command,
      (if l.handle.eventFd.isSome then
          { l with
            handle := l.handle.sendControl command low high durationMs
            calls := l.calls ++ [.issue (Handle.commandMessage command low high durationMs)] }
        else { l with handle := l.handle.sendControl command low high durationMs } : Line).Lined := by
    intro low high durationMs command
    unfold Handle.sendControl
    cases l.handle.eventFd with
    | none => exact h.quiet rfl
    | some fd => exact h.issue _ rfl
  have hstep : l.step inp =
      match Handle.asked inp with
      | some m =>
        if l.handle.eventFd.isSome then
          { l with handle := l.handle.step inp, calls := l.calls ++ [.issue m] }
        else { l with handle := l.handle.step inp }
      | none => { l with handle := l.handle.step inp } := by
    unfold step
    rw [hpc]
  rw [hstep]
  cases inp with
  | refresh =>
    show Lined { l with handle := if l.handle.pc = .idle then _ else _ }
    rw [if_pos hpc]
    exact h.quiet (Handle.refresh_silent _)
  | update =>
    show Lined { l with handle := if l.handle.pc = .idle then _ else _ }
    rw [if_pos hpc]
    exact h.quiet (Handle.refresh_silent _)
  | answer a =>
    have hstay : l.handle.step (.answer a) = l.handle := by
      unfold Handle.step Handle.answer
      rw [hpc]
    rw [hstay]
    exact h
  | stopRumble =>
    have hcall : l.handle.step .stopRumble = l.handle.stopRumble := if_pos hpc
    rw [hcall]
    exact hsend ..
  | rumble low high durationMs =>
    have hcall : l.handle.step (.rumble low high durationMs) = l.handle.rumble low high durationMs :=
      if_pos hpc
    rw [hcall]
    by_cases hoff : low = 0 ∧ high = 0
    · have hasked : Handle.asked (.rumble low high durationMs) =
          some (Handle.commandMessage controlStopRumble 0 0 0) := if_pos hoff
      rw [hasked, Handle.rumble, if_pos hoff]
      exact hsend ..
    · have hasked : Handle.asked (.rumble low high durationMs) =
          some (Handle.commandMessage controlRumble low high durationMs) := if_neg hoff
      rw [hasked, Handle.rumble, if_neg hoff]
      exact hsend ..

/-- One result of the system call the handle is in. -/
theorem answer_lined (h : l.Lined) (hidle : l.handle.pc ≠ .idle) (a : SysAnswer) :
    (l.step (.answer a)).Lined := by
  cases hpc : l.handle.pc with
  | idle => exact absurd hpc hidle
  | connect t =>
    have hs : l.handle.Silent := by rw [Handle.Silent, hpc]; rfl
    have hstep : l.handle.step (.answer a) = l.handle.connectAnswer t a := by
      simp only [Handle.step, Handle.answer, hpc]
    unfold step
    rw [hpc]
    dsimp only
    rw [hstep]
    cases a with
    | connected fd =>
      cases t with
      | monitor caller =>
        exact ⟨h.bytes, fun site unsent hsend hsite => by
          obtain ⟨rfl, -⟩ := Prod.mk.inj (Option.some.inj hsend)
          cases hsite⟩
      | stream site =>
        refine ⟨rfl, fun site' unsent hsend _ => ⟨[], _, rfl, ?_⟩⟩
        obtain ⟨-, rfl⟩ := Prod.mk.inj (Option.some.inj hsend)
        rfl
    | failed e => cases t <;> exact h.quiet (Handle.openFailed_silent _ e)
    | _ => cases t <;> exact h.quiet hs
  | send site unsent =>
    have hstep : l.handle.step (.answer a) = l.handle.sendAnswer site unsent a := by
      simp only [Handle.step, Handle.answer, hpc]
    unfold step
    rw [hpc]
    dsimp only
    rw [hstep]
    cases a with
    | accepted n =>
      have hg : (l.handle.sendAnswer site unsent (.accepted n)).Silent ∨
          (l.handle.sendAnswer site unsent (.accepted n)).pc = .send site (unsent.drop (n + 1)) := by
        unfold Handle.sendAnswer
        dsimp only
        split
        · exact Or.inl (Handle.sendDone_silent site)
        · exact Or.inr rfl
      dsimp only
      split
      · rename_i hsite
        exact h.accept hpc hsite n hg
      · rename_i hsite
        refine ⟨h.bytes, fun site' unsent' hsend hsite' => ?_⟩
        rcases hg with hg | hg
        · rw [hg] at hsend
          cases hsend
        · rw [show Pc.sending _ = _ from congrArg Pc.sending hg] at hsend
          obtain ⟨rfl, -⟩ := Prod.mk.inj (Option.some.inj hsend)
          exact absurd hsite' hsite
    | again => exact h.stay (by rw [hpc]; rfl)
    | ended => exact h.quiet (Handle.sendFailed_silent site _)
    | failed e => exact h.quiet (Handle.sendFailed_silent site e)
    | _ => exact h
  | poll site unsent =>
    have hstep : l.handle.step (.answer a) = l.handle.pollAnswer site unsent a := by
      simp only [Handle.step, Handle.answer, hpc]
    unfold step
    rw [hpc]
    dsimp only
    rw [hstep]
    cases a with
    | done => exact h.stay (by rw [hpc]; rfl)
    | again => exact h.quiet (Handle.sendFailed_silent site _)
    | failed e => exact h.quiet (Handle.sendFailed_silent site e)
    | _ => exact h
  | _ =>
    have hs : l.handle.Silent := by rw [Handle.Silent, hpc]; rfl
    have hg := Handle.answer_silent hs (by rw [hpc]; intro t; exact Pc.noConfusion) a
    unfold step
    rw [hpc]
    exact h.quiet hg

/-- While a call is running the application waits. -/
theorem step_busy (hidle : l.handle.pc ≠ .idle) {inp : Handle.Input}
    (hinp : ∀ a, inp ≠ .answer a) : l.step inp = l := by
  have hsame : l.handle.step inp = l.handle := by
    cases inp with
    | answer a => exact absurd rfl (hinp a)
    | _ => exact if_neg hidle
  unfold step
  rw [hsame]
  cases hpc : l.handle.pc with
  | idle => exact absurd hpc hidle
  | connect t =>
    cases t <;> cases inp with
    | answer a => exact absurd rfl (hinp a)
    | _ => rfl
  | _ =>
    cases inp with
    | answer a => exact absurd rfl (hinp a)
    | _ => rfl

/-- **Every step** keeps the account of the connection. -/
theorem step_lined (l : Line) (inp : Handle.Input) (h : l.Lined) : (l.step inp).Lined := by
  by_cases hidle : l.handle.pc = .idle
  · exact idle_lined h hidle inp
  · cases inp with
    | answer a => exact answer_lined h hidle a
    | _ =>
      rw [step_busy hidle fun a => Handle.Input.noConfusion]
      exact h

/-- **In every run** the connection of the event stream has carried, command after command, the
    beginning of each that was issued on it. -/
theorem run_lined (inputs : List Handle.Input) : (run step create inputs).Lined :=
  run_inv step_lined ⟨rfl, fun _ _ hsend hsite => by
    cases hsend⟩ inputs

end Line

end TermuxGamepad
