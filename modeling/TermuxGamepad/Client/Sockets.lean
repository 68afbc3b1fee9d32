/-
  File:      TermuxGamepad/Client/Sockets.lean
  Subject:   A handle together with what its connections have carried.

  `Peer` is a handle with, for every connection it made, the command the connection was made for
  and the bytes that went either way. In any run of refreshes and updates, whatever arrives in
  whatever pieces, the handle is what the bytes it received make of it (`Kept`): the descriptor is
  that of the last hotplug message, the state the fold of the records behind the descriptor of the
  stream, and what is buffered is the rest. `Goes` also says how the two connections move:
  no stream is opened under another monitor, and none outlives a removal.
-/
import Mathlib.Logic.Function.Basic
import TermuxGamepad.Client.Consistency
import TermuxGamepad.Client.Readout
import TermuxGamepad.Client.Returns

namespace TermuxGamepad

open Wire

/-! ## 1. The sockets of a handle -/

def monitorCommand : ControlMessage := Handle.commandMessage controlMonitor 0 0 0
def queryCommand : ControlMessage := Handle.commandMessage controlQueryDescriptor 0 0 0

/-- The connection the handle is opening, and what for. -/
def Pc.opening : Pc → Option (Task × Nat)
  | .send (.opening t fd) _ | .poll (.opening t fd) _ | .receive t fd _ | .setNonblock t fd _ =>
    some (t, fd)
  | _ => none

namespace Handle

/-- The connection a `recv` of the handle reads from, and how many bytes it asks for. -/
def reads (h : Handle) : Option (Nat × Nat) :=
  match h.pc with
  | .receive t fd got => some (fd, replySize t - got.length)
  | .refreshRecv _ _ =>
    h.monitorFd.map fun fd => (fd, hotplugMessageCodec.size - h.monitorBuffer.length)
  | .eventRecv _ => h.eventFd.map fun fd => (fd, inputEventCodec.size - h.eventBuffer.length)
  | _ => none

/-- A call that reads: everything but rumble. -/
def Input.reading : Input → Bool
  | .rumble .. | .stopRumble => false
  | _ => true

end Handle

/-- A handle, the command each of its connections was made for, and the bytes it gave them and got
    from them. -/
structure Peer where
  handle : Handle
  asked : Nat → Option ControlMessage
  given : Nat → List UInt8
  got : Nat → List UInt8

namespace Handle

/-- A connection is opened only where the handle has none for that purpose. -/
def Vacant (h : Handle) : Task → Prop
  | .monitor _ => h.monitorFd = none
  | .stream _ => h.eventFd = none

/-- A whole reply, as the opening of a connection accepts it. -/
def Replied (t : Task) (got : List UInt8) : Prop :=
  got.length = replySize t ∧
    ∀ site, t = .stream site → usable (deviceDescriptorCodec.dec got) = true

end Handle

namespace Peer

def create : Peer :=
  { handle := Handle.create, asked := fun _ => none, given := fun _ => [], got := fun _ => [] }

/-- One step of the handle. The kernel hands out no connection twice: a repeated one is no
    input. -/
def step (p : Peer) (inp : Handle.Input) : Peer :=
  let h := p.handle.step inp
  match p.handle.pc, inp with
  | .connect t, .answer (.connected fd) =>
    if (p.asked fd).isSome then p
    else { p with handle := h, asked := Function.update p.asked fd (some (Handle.command t)) }
  | .send (.opening _ fd) unsent, .answer (.accepted n) =>
    { p with handle := h, given := Function.update p.given fd (p.given fd ++ unsent.take (n + 1)) }
  | _, .answer (.bytes bs) =>
    match p.handle.reads with
    | some (fd, room) =>
      { p with handle := h, got := Function.update p.got fd (p.got fd ++ bs.take room) }
    | none => { p with handle := h }
  | _, _ => { p with handle := h }

/-! ## 2. The invariant -/

/-- The connection of the monitor: whole messages were applied, the last one is the descriptor. -/
structure Monitors (p : Peer) (c : Nat) : Prop where
  asked : p.asked c = some monitorCommand
  buffer : p.handle.monitorBuffer = hotplugMessageCodec.remainder (p.got c)
  descriptor : (∀ m ∈ hotplugMessageCodec.records (p.got c), Handle.wellFormed m = true) →
    (hotplugMessageCodec.records (p.got c)).getLast?.map (fun m => copyDescriptor m.descriptor) =
      some p.handle.descriptor

/-- The connection of the event stream: a descriptor came first, and the records behind it are
    applied. -/
structure Streams (p : Peer) (e : Nat) : Prop where
  asked : p.asked e = some queryCommand
  length : deviceDescriptorCodec.size ≤ (p.got e).length
  usable : Handle.usable (deviceDescriptorCodec.dec (p.got e)) = true
  state : p.handle.state = LibraryState.replayed
    (inputEventCodec.records ((p.got e).drop deviceDescriptorCodec.size))
  buffer : p.handle.eventBuffer =
    inputEventCodec.remainder ((p.got e).drop deviceDescriptorCodec.size)

/-- The connection is being opened: its command is known. -/
structure Opening (p : Peer) (t : Task) (fd : Nat) : Prop where
  vacant : p.handle.Vacant t
  asked : p.asked fd = some (Handle.command t)

/-- What a position in a call knows of the connection it works on. -/
def Stands (p : Peer) : Pc → Prop
  | .connect t => p.handle.Vacant t
  | .send (.opening t fd) unsent | .poll (.opening t fd) unsent =>
    p.Opening t fd ∧ p.given fd ++ unsent = controlMessageCodec.enc (Handle.command t) ∧
      p.got fd = []
  | .receive t fd got => p.Opening t fd ∧ p.got fd = got
  | .setNonblock t fd got => p.Opening t fd ∧ p.got fd = got ∧ Handle.Replied t got
  | .send .control _ | .poll .control _ => False
  | _ => True

/-- **A handle is what its connections carried.** -/
structure Kept (p : Peer) : Prop where
  settled : p.handle.Settled
  stands : p.Stands p.handle.pc
  versions : p.handle.descriptor.abiVersion = abiVersion ∧
    p.handle.descriptor.structSize = descriptorSize
  monitor : ∀ c, p.handle.monitorFd = some c → p.Monitors c
  stream : ∀ e, p.handle.eventFd = some e → p.Streams e
  commands : ∀ c m, p.asked c = some m →
    (m = monitorCommand ∨ m = queryCommand) ∧ p.given c <+: controlMessageCodec.enc m
  fresh : ∀ c, p.asked c = none → p.given c = [] ∧ p.got c = []

/-- The connection is the event stream, or the one that is opened as such. -/
def HasStream (p : Peer) (e : Nat) : Prop :=
  p.handle.eventFd = some e ∨ ∃ site, p.handle.pc.opening = some (.stream site, e)

/-- **What a step does**: the invariant is kept; a stream is old, or was connected just now; and
    while there is one, the monitor stays the same, and a message that arrives on it tells of no
    removal. -/
structure Goes (p : Peer) (inp : Handle.Input) (q : Peer) : Prop where
  kept : q.Kept
  streams : ∀ e, q.HasStream e → p.HasStream e ∨ inp = .answer (.connected e)
  monitor : ∀ e c, q.HasStream e → q.handle.monitorFd = some c → p.handle.monitorFd = some c ∧
    (hotplugMessageCodec.records (q.got c) = hotplugMessageCodec.records (p.got c) ∨
      ∃ m, hotplugMessageCodec.records (q.got c) = hotplugMessageCodec.records (p.got c) ++ [m] ∧
        (Handle.wellFormed m = true → m.descriptor.present ≠ 0))

end Peer

/-! ## 3. Where a return leads -/

namespace Handle

variable {h : Handle}

/-- The handle is at rest, in a drain, or about to open a connection it has not. -/
def Landed (h : Handle) : Prop :=
  match h.pc with
  | .idle | .refreshRecv _ _ | .eventRecv _ => True
  | .connect t => h.Vacant t
  | _ => False

theorem Landed.opening (hl : h.Landed) : h.pc.opening = none := by
  unfold Landed at hl
  unfold Pc.opening
  split <;> simp_all

theorem afterStream_landed (h : Handle) (refreshed : Int) : (h.afterStream refreshed).Landed := by
  unfold afterStream
  split <;> trivial

theorem afterRefresh_landed (h : Handle) (caller : Caller) (result : Int) :
    (h.afterRefresh caller result).Landed := by
  unfold afterRefresh
  cases caller with
  | create => trivial
  | application => trivial
  | update =>
    dsimp only
    split
    · rename_i hnone
      exact Option.isNone_iff_eq_none.mp hnone.1
    · exact afterStream_landed _ _

theorem applied_landed (h : Handle) (site : HotplugSite) (result : Int) :
    (h.applied site result).Landed := by
  cases site with
  | monitor caller => exact afterRefresh_landed h caller result
  | drain caller changed =>
    unfold applied
    dsimp only
    split
    · exact afterRefresh_landed h caller result
    · trivial

theorem streamReturned_landed (h : Handle) (site : StreamSite) : (h.streamReturned site).Landed := by
  cases site with
  | hotplug site => exact applied_landed h site 1
  | update refreshed => exact afterStream_landed h refreshed

theorem openFailed_landed (h : Handle) (t : Task) (e : Errno) : (h.openFailed t e).Landed := by
  cases t with
  | monitor caller => exact afterRefresh_landed h caller _
  | stream site => exact streamReturned_landed h site

theorem applyHotplug_landed (h : Handle) (m : HotplugMessage) (site : HotplugSite) :
    (h.applyHotplug m site).Landed := by
  rcases applyHotplug_cases h m site with ⟨_, he⟩ | ⟨_, _, he⟩ | ⟨_, _, ⟨_, he⟩ | ⟨_, he⟩⟩ <;> rw [he]
  · exact applied_landed h site _
  · exact applied_landed h site _
  · rfl
  · exact applied_landed _ site 1

theorem monitorLost_landed (h : Handle) (caller : Caller) (result : Int) :
    (h.monitorLost caller result).Landed := by
  unfold monitorLost
  dsimp only
  split
  · exact afterRefresh_landed _ caller 1
  · exact afterRefresh_landed _ caller result

end Handle

namespace Peer

variable {p q : Peer} {inp : Handle.Input} {c e fd : Nat} {t : Task}

theorem vacant_same {h g : Handle} (hv : h.Vacant t) (hm : g.monitorFd = h.monitorFd)
    (he : g.eventFd = h.eventFd) : g.Vacant t := by
  cases t with
  | monitor caller => exact hm.trans hv
  | stream site => exact he.trans hv

theorem Opening.same (h : p.Opening t fd) (hm : q.handle.monitorFd = p.handle.monitorFd)
    (he : q.handle.eventFd = p.handle.eventFd) (hasked : q.asked fd = p.asked fd) :
    q.Opening t fd := ⟨vacant_same h.vacant hm he, hasked.trans h.asked⟩

/-- Nobody asked for anything on the connection: it is another one. -/
theorem Opening.ne (h : p.Opening t fd) (hc : p.asked c = none) : c ≠ fd := by
  rintro rfl
  rw [h.asked] at hc
  cases hc

theorem command_cases (t : Task) :
    Handle.command t = monitorCommand ∨ Handle.command t = queryCommand := by
  cases t with
  | monitor caller => exact Or.inl rfl
  | stream site => exact Or.inr rfl

/-- What a position knows does not depend on the rest of the handle. -/
theorem Stands.goto {pc : Pc} (h : p.Stands pc) :
    Stands { p with handle := { p.handle with pc := pc } } pc := by
  unfold Stands at h ⊢
  split at h
  · exact vacant_same h rfl rfl
  · exact ⟨h.1.same rfl rfl rfl, h.2⟩
  · exact ⟨h.1.same rfl rfl rfl, h.2⟩
  · exact ⟨h.1.same rfl rfl rfl, h.2⟩
  · exact ⟨h.1.same rfl rfl rfl, h.2⟩
  · exact h
  · exact h
  · trivial

theorem stands_of_landed (p : Peer) (hl : p.handle.Landed) : p.Stands p.handle.pc := by
  unfold Handle.Landed at hl
  unfold Stands
  split <;> simp_all

/-- The handle holds the connection. -/
def Held (p : Peer) (c : Nat) : Prop := p.handle.monitorFd = some c ∨ p.handle.eventFd = some c

theorem Monitors.same (h : p.Monitors c) (hasked : q.asked c = p.asked c) (hgot : q.got c = p.got c)
    (hbuffer : q.handle.monitorBuffer = p.handle.monitorBuffer)
    (hdescriptor : q.handle.descriptor = p.handle.descriptor) : q.Monitors c where
  asked := hasked.trans h.asked
  buffer := by rw [hbuffer, hgot, h.buffer]
  descriptor := by rw [hgot, hdescriptor]; exact h.descriptor

theorem Streams.same (h : p.Streams e) (hasked : q.asked e = p.asked e) (hgot : q.got e = p.got e)
    (hbuffer : q.handle.eventBuffer = p.handle.eventBuffer)
    (hstate : q.handle.state = p.handle.state) : q.Streams e where
  asked := hasked.trans h.asked
  length := hgot ▸ h.length
  usable := by rw [hgot]; exact h.usable
  state := by rw [hstate, hgot, h.state]
  buffer := by rw [hbuffer, hgot, h.buffer]

theorem monitor_ne_query : monitorCommand ≠ queryCommand := by decide

/-- Monitor and event stream are two connections. -/
theorem Kept.distinct (hk : p.Kept) (hc : p.handle.monitorFd = some c)
    (he : p.handle.eventFd = some e) : c ≠ e := by
  rintro rfl
  have h := (hk.monitor c hc).asked
  rw [(hk.stream c he).asked] at h
  exact monitor_ne_query (Option.some.inj h).symm

/-- A connection that is opened is none that is held. -/
theorem Kept.apart (hk : p.Kept) (ho : p.Opening t fd) (hc : p.Held c) : c ≠ fd := by
  rintro rfl
  cases t with
  | monitor caller =>
    have hnone := (hk.settled.monitor ho.vacant).2
    rcases hc with hc | hc
    · rw [show p.handle.monitorFd = none from ho.vacant] at hc
      cases hc
    · rw [hnone] at hc
      cases hc
  | stream site =>
    rcases hc with hc | hc
    · have h := (hk.monitor c hc).asked
      rw [ho.asked] at h
      exact monitor_ne_query (Option.some.inj h).symm
    · rw [show p.handle.eventFd = none from ho.vacant] at hc
      cases hc

/-- What was held has been asked for. -/
theorem Kept.held_asked (hk : p.Kept) (hc : p.Held c) : p.asked c ≠ none := by
  rcases hc with hc | hc
  · rw [(hk.monitor c hc).asked]
    exact nofun
  · rw [(hk.stream c hc).asked]
    exact nofun

/-- Bytes on a connection that was asked for are none on a new one. -/
theorem Kept.fresh_received (hk : p.Kept) (hc : p.asked c ≠ none) (bs : List UInt8) (c' : Nat)
    (hnone : p.asked c' = none) :
    p.given c' = [] ∧ Function.update p.got c (p.got c ++ bs) c' = [] := by
  have hne : c' ≠ c := by
    rintro rfl
    exact hc hnone
  rw [Function.update_of_ne hne]
  exact hk.fresh c' hnone

/-! ## 4. Steps -/

/-- Nothing happened. -/
theorem Goes.refl (hk : p.Kept) : p.Goes inp p :=
  ⟨hk, fun _ he => Or.inl he, fun _ _ _ hc => ⟨hc, Or.inl rfl⟩⟩

/-- The held connections are left alone. -/
theorem Goes.carried (hk : p.Kept) (hs : q.handle.Settled) (hst : q.Stands q.handle.pc)
    (hc : Handle.Carried p.handle q.handle)
    (hheld : ∀ c, p.Held c → q.asked c = p.asked c ∧ q.got c = p.got c)
    (hcommands : ∀ c m, q.asked c = some m →
      (m = monitorCommand ∨ m = queryCommand) ∧ q.given c <+: controlMessageCodec.enc m)
    (hfresh : ∀ c, q.asked c = none → q.given c = [] ∧ q.got c = [])
    (hopening : ∀ site e, q.handle.pc.opening = some (.stream site, e) →
      p.handle.pc.opening = some (.stream site, e) ∨ inp = .answer (.connected e)) :
    p.Goes inp q := by
  refine ⟨⟨hs, hst, ?_, fun c hm => ?_, fun e he => ?_, hcommands, hfresh⟩, ?_, ?_⟩
  · rw [hc.descriptor]
    exact hk.versions
  · have hm' := hc.monitorFd.symm.trans hm
    obtain ⟨h1, h2⟩ := hheld c (Or.inl hm')
    exact (hk.monitor c hm').same h1 h2 hc.monitorBuffer hc.descriptor
  · have he' := hc.eventFd.symm.trans he
    obtain ⟨h1, h2⟩ := hheld e (Or.inr he')
    exact (hk.stream e he').same h1 h2 hc.eventBuffer hc.state
  · rintro e (he | ⟨site, he⟩)
    · exact Or.inl (Or.inl (hc.eventFd.symm.trans he))
    · exact (hopening site e he).imp_left fun h => Or.inr ⟨site, h⟩
  · intro e c _ hm
    have hm' := hc.monitorFd.symm.trans hm
    exact ⟨hm', Or.inl (by rw [(hheld c (Or.inl hm')).2])⟩

/-- A return that leaves connections and bytes alone. -/
theorem landed_goes (hk : p.Kept) {g : Handle} (hs : g.Settled) (hc : Handle.Carried p.handle g)
    (hl : g.Landed) : p.Goes inp { p with handle := g } :=
  .carried hk hs (stands_of_landed { p with handle := g } hl) hc (fun _ _ => ⟨rfl, rfl⟩) hk.commands
    hk.fresh fun site e he => by
      rw [show g.pc.opening = none from hl.opening] at he
      cases he

/-- A position of the same opening. -/
theorem goto_goes (hk : p.Kept) {pc : Pc} (hs : Handle.Settled { p.handle with pc := pc })
    (hst : p.Stands pc)
    (hopening : ∀ site e, pc.opening = some (.stream site, e) →
      p.handle.pc.opening = some (.stream site, e)) :
    p.Goes inp { p with handle := { p.handle with pc := pc } } :=
  .carried hk hs hst.goto (Handle.goto_carried _ _) (fun _ _ => ⟨rfl, rfl⟩) hk.commands
    hk.fresh fun site e he => Or.inl (hopening site e he)

/-- A connection is made. -/
theorem connected_goes (hk : p.Kept) (hpc : p.handle.pc = .connect t) (hnew : p.asked fd = none)
    (hs : Handle.Settled { p.handle with
      pc := .send (.opening t fd) (controlMessageCodec.enc (Handle.command t)) }) :
    p.Goes (.answer (.connected fd))
      { p with
        handle := { p.handle with
          pc := .send (.opening t fd) (controlMessageCodec.enc (Handle.command t)) }
        asked := Function.update p.asked fd (some (Handle.command t)) } := by
  obtain ⟨hgiven, hgot⟩ := hk.fresh fd hnew
  have hvacant : p.handle.Vacant t := by
    have h := hk.stands
    rw [hpc] at h
    exact h
  refine .carried hk hs ⟨⟨vacant_same hvacant rfl rfl, Function.update_self ..⟩, ?_, hgot⟩
    (Handle.goto_carried _ _) (fun c hc => ⟨?_, rfl⟩) (fun c m hm => ?_) (fun c hc => ?_) ?_
  · show p.given fd ++ _ = _
    rw [hgiven, List.nil_append]
  · refine Function.update_of_ne ?_ ..
    rintro rfl
    exact hk.held_asked hc hnew
  · replace hm : Function.update p.asked fd (some (Handle.command t)) c = some m := hm
    by_cases hcfd : c = fd
    · subst hcfd
      rw [Function.update_self] at hm
      obtain rfl := Option.some.inj hm
      refine ⟨command_cases t, ?_⟩
      show p.given c <+: _
      rw [hgiven]
      exact List.nil_prefix
    · rw [Function.update_of_ne hcfd] at hm
      exact hk.commands c m hm
  · replace hc : Function.update p.asked fd (some (Handle.command t)) c = none := hc
    by_cases hcfd : c = fd
    · subst hcfd
      rw [Function.update_self] at hc
      cases hc
    · rw [Function.update_of_ne hcfd] at hc
      exact hk.fresh c hc
  · intro site e he
    obtain ⟨-, rfl⟩ := Prod.mk.inj (Option.some.inj he)
    exact Or.inr rfl

/-- A part of the command goes out. -/
theorem sent_goes (hk : p.Kept) {unsent : List UInt8}
    (hpc : p.handle.pc = .send (.opening t fd) unsent) (n : Nat)
    (hs : (p.handle.sendAnswer (.opening t fd) unsent (.accepted n)).Settled) :
    p.Goes inp
      { p with
        handle := p.handle.sendAnswer (.opening t fd) unsent (.accepted n)
        given := Function.update p.given fd (p.given fd ++ unsent.take (n + 1)) } := by
  obtain ⟨ho, hgiven, hgot⟩ : p.Opening t fd ∧
      p.given fd ++ unsent = controlMessageCodec.enc (Handle.command t) ∧ p.got fd = [] := by
    have h := hk.stands
    rw [hpc] at h
    exact h
  have hrest : (p.given fd ++ unsent.take (n + 1)) ++ unsent.drop (n + 1) =
      controlMessageCodec.enc (Handle.command t) := by
    rw [List.append_assoc, List.take_append_drop, hgiven]
  have hcarried := Handle.sendAnswer_carried p.handle (.opening t fd) unsent (.accepted n)
  have hasked : ∀ c m, p.asked c = some m → (m = monitorCommand ∨ m = queryCommand) ∧
      Function.update p.given fd (p.given fd ++ unsent.take (n + 1)) c <+:
        controlMessageCodec.enc m := by
    intro c m hm
    by_cases hcfd : c = fd
    · subst hcfd
      rw [Function.update_self]
      rw [ho.asked] at hm
      obtain rfl := Option.some.inj hm
      exact ⟨(hk.commands c _ ho.asked).1, ⟨_, hrest⟩⟩
    · rw [Function.update_of_ne hcfd]
      exact hk.commands c m hm
  refine .carried hk hs ?_ hcarried (fun _ _ => ⟨rfl, rfl⟩) hasked (fun c hc => ?_) ?_
  · have ho' : Opening { p with
        handle := p.handle.sendAnswer (.opening t fd) unsent (.accepted n)
        given := Function.update p.given fd (p.given fd ++ unsent.take (n + 1)) } t fd :=
      ho.same hcarried.monitorFd hcarried.eventFd rfl
    unfold Handle.sendAnswer at ho' ⊢
    dsimp only at ho' ⊢
    split at ho'
    · rename_i hdone
      rw [if_pos hdone]
      exact ⟨ho', hgot⟩
    · rename_i hmore
      rw [if_neg hmore]
      refine ⟨ho', ?_, hgot⟩
      show Function.update p.given fd _ fd ++ _ = _
      rw [Function.update_self]
      exact hrest
  · have hne : c ≠ fd := ho.ne hc
    show Function.update p.given fd _ c = [] ∧ _
    rw [Function.update_of_ne hne]
    exact hk.fresh c hc
  · intro site e he
    left
    rw [hpc]
    have hsame : (p.handle.sendAnswer (.opening t fd) unsent (.accepted n)).pc.opening =
        some (t, fd) := by
      unfold Handle.sendAnswer
      dsimp only
      split <;> rfl
    exact hsame.symm.trans he

/-- Bytes arrive on a connection that is being opened. -/
theorem replied_goes (hk : p.Kept) {got : List UInt8} (hpc : p.handle.pc = .receive t fd got)
    (bs : List UInt8) (hs : (p.handle.receiveAnswer t fd got (.bytes bs)).Settled) :
    p.Goes inp
      { p with
        handle := p.handle.receiveAnswer t fd got (.bytes bs)
        got := Function.update p.got fd
          (p.got fd ++ bs.take (Handle.replySize t - got.length)) } := by
  obtain ⟨ho, hgot⟩ : p.Opening t fd ∧ p.got fd = got := by
    have h := hk.stands
    rw [hpc] at h
    exact h
  have hcarried := Handle.receiveAnswer_carried p.handle t fd got (.bytes bs)
  set q : Peer := { p with
    handle := p.handle.receiveAnswer t fd got (.bytes bs)
    got := Function.update p.got fd (p.got fd ++ bs.take (Handle.replySize t - got.length)) } with hq
  have ho' : q.Opening t fd := ho.same hcarried.monitorFd hcarried.eventFd rfl
  have hgot' : q.got fd = got ++ bs.take (Handle.replySize t - got.length) := by
    show Function.update p.got fd _ fd = _
    rw [Function.update_self, hgot]
  -- the reply is whole and accepted, whole and refused, or not whole
  have hcases : (q.handle.pc = .setNonblock t fd (q.got fd) ∧ Handle.Replied t (q.got fd)) ∨
      q.handle.Landed ∨ q.handle.pc = .receive t fd (q.got fd) := by
    rw [hgot']
    show ((p.handle.receiveAnswer t fd got (.bytes bs)).pc = _ ∧ _) ∨
      (p.handle.receiveAnswer t fd got (.bytes bs)).Landed ∨
      (p.handle.receiveAnswer t fd got (.bytes bs)).pc = _
    unfold Handle.receiveAnswer
    dsimp only
    split
    · rename_i hfull
      cases t with
      | monitor caller => exact Or.inl ⟨rfl, hfull, nofun⟩
      | stream site =>
        unfold Handle.received
        dsimp only
        split
        · rename_i husable
          exact Or.inl ⟨rfl, hfull, fun _ _ => husable⟩
        · exact Or.inr (Or.inl (Handle.openFailed_landed _ _ _))
    · exact Or.inr (Or.inr rfl)
  have hasked : p.asked fd ≠ none := by
    rw [ho.asked]
    exact nofun
  refine .carried hk hs ?_ hcarried (fun c hc => ⟨rfl, ?_⟩) hk.commands
    (hk.fresh_received hasked _) ?_
  · rcases hcases with ⟨hpc', hr⟩ | hl | hpc'
    · rw [hpc']
      exact ⟨ho', rfl, hr⟩
    · exact stands_of_landed q hl
    · rw [hpc']
      exact ⟨ho', rfl⟩
  · exact Function.update_of_ne (hk.apart ho hc) ..
  · intro site e he
    left
    rw [hpc]
    rcases hcases with ⟨hpc', -⟩ | hl | hpc'
    · rw [hpc'] at he
      exact he
    · rw [hl.opening] at he
      cases he
    · rw [hpc'] at he
      exact he

/-- **An event stream is open**: nothing but its descriptor has arrived. -/
theorem opened_goes (hk : p.Kept) {site : StreamSite} {got : List UInt8}
    (hpc : p.handle.pc = .setNonblock (.stream site) fd got)
    (hs : (p.handle.opened (.stream site) fd got).Settled) :
    p.Goes inp { p with handle := p.handle.opened (.stream site) fd got } := by
  obtain ⟨ho, hgot, hlength, husable⟩ : p.Opening (.stream site) fd ∧ p.got fd = got ∧
      Handle.Replied (.stream site) got := by
    have h := hk.stands
    rw [hpc] at h
    exact h
  have hcarried := Handle.opened_stream p.handle site fd got
  have hlanded : (p.handle.opened (.stream site) fd got).Landed := Handle.streamReturned_landed _ site
  have hrest : (p.got fd).drop deviceDescriptorCodec.size = [] :=
    List.drop_eq_nil_of_le (by rw [hgot]; exact Nat.le_of_eq hlength)
  obtain ⟨hrecords, hremainder⟩ := @Codec.records_of_lt _ inputEventCodec [] (by decide)
  refine ⟨⟨hs, stands_of_landed { p with handle := _ } hlanded, ?_, fun c hm => ?_, fun e he => ?_,
    hk.commands, hk.fresh⟩, ?_, ?_⟩
  · show (p.handle.opened (.stream site) fd got).descriptor.abiVersion = _ ∧ _
    rw [hcarried.descriptor]
    exact hk.versions
  · have hm' : p.handle.monitorFd = some c := hcarried.monitorFd.symm.trans hm
    exact (hk.monitor c hm').same rfl rfl hcarried.monitorBuffer hcarried.descriptor
  · obtain rfl : fd = e := Option.some.inj (hcarried.eventFd.symm.trans he)
    refine ⟨ho.asked, by rw [hgot]; exact Nat.le_of_eq hlength.symm, ?_, ?_, ?_⟩
    · rw [hgot]
      exact husable site rfl
    · rw [hrest, hrecords]
      exact hcarried.state
    · rw [hrest, hremainder]
      exact hcarried.eventBuffer
  · rintro e (he | ⟨site', he⟩)
    · obtain rfl : fd = e := Option.some.inj (hcarried.eventFd.symm.trans he)
      exact Or.inl (Or.inr ⟨site, by rw [hpc]; rfl⟩)
    · rw [show (p.handle.opened (.stream site) fd got).pc.opening = none from hlanded.opening] at he
      cases he
  · intro e c _ hm
    exact ⟨hcarried.monitorFd.symm.trans hm, Or.inl rfl⟩

/-! ## 5. Hotplug messages -/

/-- The last message on the monitor has been applied: the descriptor is its. -/
theorem applied_kept {site : HotplugSite} {m : HotplugMessage} {front : List HotplugMessage}
    (hs : (p.handle.applyHotplug m site).Settled)
    (hversions : p.handle.descriptor.abiVersion = abiVersion ∧
      p.handle.descriptor.structSize = descriptorSize)
    (hc : p.handle.monitorFd = some c) (hasked : p.asked c = some monitorCommand)
    (hbuffer : p.handle.monitorBuffer = [])
    (hrecords : hotplugMessageCodec.records (p.got c) = front ++ [m])
    (hrest : hotplugMessageCodec.remainder (p.got c) = [])
    (hstream : ∀ e, p.handle.eventFd = some e → p.Streams e)
    (hcommands : ∀ c m, p.asked c = some m →
      (m = monitorCommand ∨ m = queryCommand) ∧ p.given c <+: controlMessageCodec.enc m)
    (hfresh : ∀ c, p.asked c = none → p.given c = [] ∧ p.got c = []) :
    Kept { p with handle := p.handle.applyHotplug m site } := by
  have hlanded := Handle.applyHotplug_landed p.handle m site
  -- `base` is the handle as the return finds it
  have hgoal : ∀ base : Handle, Handle.Carried base (p.handle.applyHotplug m site) →
      base.monitorFd = some c → base.monitorBuffer = [] →
      base.descriptor.abiVersion = abiVersion ∧ base.descriptor.structSize = descriptorSize →
      (Handle.wellFormed m = true → copyDescriptor m.descriptor = base.descriptor) →
      (∀ e, base.eventFd = some e → p.handle.eventFd = some e ∧
        base.eventBuffer = p.handle.eventBuffer ∧ base.state = p.handle.state) →
      Kept { p with handle := p.handle.applyHotplug m site } := by
    intro base hcar hfd hbuf hver hdesc hevents
    refine ⟨hs, stands_of_landed { p with handle := _ } hlanded, ?_, fun c' hm => ?_, fun e he => ?_,
      hcommands, hfresh⟩
    · show (p.handle.applyHotplug m site).descriptor.abiVersion = _ ∧ _
      rw [hcar.descriptor]
      exact hver
    · obtain rfl : c = c' := Option.some.inj (hfd.symm.trans (hcar.monitorFd.symm.trans hm))
      refine ⟨hasked, ?_, fun hwell => ?_⟩
      · rw [hrest]
        exact hcar.monitorBuffer.trans hbuf
      · have hm : m ∈ hotplugMessageCodec.records (p.got c) := by
          rw [hrecords]
          exact List.mem_append_right _ (List.mem_singleton_self m)
        rw [hrecords, List.getLast?_concat, Option.map_some, hdesc (hwell m hm)]
        exact congrArg some hcar.descriptor.symm
    · obtain ⟨hfd', hbuf', hstate'⟩ := hevents e (hcar.eventFd.symm.trans he)
      exact (hstream e hfd').same rfl rfl (hcar.eventBuffer.trans hbuf') (hcar.state.trans hstate')
  have hclosed : ∀ base : Handle, base.eventFd = none → ∀ e, base.eventFd = some e →
      p.handle.eventFd = some e ∧ base.eventBuffer = p.handle.eventBuffer ∧
        base.state = p.handle.state := fun base hnone e he => by
    rw [hnone] at he
    cases he
  rcases Handle.applyHotplug_cases p.handle m site with ⟨hw, he⟩ | ⟨hw, hd, he⟩ |
    ⟨hw, hd, ⟨hp, he⟩ | ⟨hp, he⟩⟩
  · refine hgoal p.handle (by rw [he]; exact Handle.applied_carried _ _ _) hc hbuffer hversions
      (fun h => ?_) fun e he => ⟨he, rfl, rfl⟩
    rw [hw] at h
    cases h
  · refine hgoal p.handle (by rw [he]; exact Handle.applied_carried _ _ _) hc hbuffer hversions
      (fun _ => ?_) fun e he => ⟨he, rfl, rfl⟩
    exact (Handle.descriptorEqual_eq hversions.1 hversions.2 hd).symm
  · exact hgoal { p.handle with descriptor := copyDescriptor m.descriptor }.closeEventStream
      (by rw [he]; exact Handle.goto_carried _ _) hc hbuffer ⟨rfl, rfl⟩ (fun _ => rfl)
      (hclosed _ rfl)
  · exact hgoal { p.handle with descriptor := copyDescriptor m.descriptor }.closeEventStream
      (by rw [he]; exact Handle.applied_carried _ _ _) hc hbuffer ⟨rfl, rfl⟩ (fun _ => rfl)
      (hclosed _ rfl)

/-- **What `apply_hotplug` leaves of an event stream**: it is closed, or the message told of the
    device that was there. -/
theorem applyHotplug_stream (h : Handle) (m : HotplugMessage) (site : HotplugSite) :
    (h.applyHotplug m site).eventFd = none ∨
      (h.applyHotplug m site).eventFd = h.eventFd ∧
        (h.applyHotplug m site).monitorFd = h.monitorFd ∧
        (Handle.wellFormed m = true → m.descriptor.present = h.descriptor.present) := by
  rcases Handle.applyHotplug_cases h m site with ⟨hw, he⟩ | ⟨hw, hd, he⟩ |
    ⟨hw, hd, ⟨hp, he⟩ | ⟨hp, he⟩⟩ <;> rw [he]
  · have hc := Handle.applied_carried h site eproto.result
    refine Or.inr ⟨hc.eventFd, hc.monitorFd, fun h => ?_⟩
    rw [hw] at h
    cases h
  · have hc := Handle.applied_carried h site 0
    refine Or.inr ⟨hc.eventFd, hc.monitorFd, fun _ => ?_⟩
    simp only [descriptorEqual, Bool.and_eq_true, beq_iff_eq] at hd
    exact hd.1.1.1.1.1.1.symm
  · exact Or.inl rfl
  · exact Or.inl (Handle.applied_carried _ site 1).eventFd

/-- No stream is left. -/
theorem Goes.closed (hk : q.Kept) (hnone : q.handle.eventFd = none)
    (hopening : q.handle.pc.opening = none) : p.Goes inp q := by
  have hno : ∀ e, ¬q.HasStream e := by
    rintro e (he | ⟨site, he⟩)
    · rw [hnone] at he
      cases he
    · rw [hopening] at he
      cases he
  exact ⟨hk, fun e he => absurd he (hno e), fun e _ he => absurd he (hno e)⟩

/-- **The monitor is open**: its first message is applied. -/
theorem monitored_goes (hk : p.Kept) {caller : Caller} {got : List UInt8}
    (hpc : p.handle.pc = .setNonblock (.monitor caller) fd got)
    (hs : (p.handle.opened (.monitor caller) fd got).Settled) :
    p.Goes inp { p with handle := p.handle.opened (.monitor caller) fd got } := by
  obtain ⟨ho, hgot, hlength, -⟩ : p.Opening (.monitor caller) fd ∧ p.got fd = got ∧
      Handle.Replied (.monitor caller) got := by
    have h := hk.stands
    rw [hpc] at h
    exact h
  have hnone : p.handle.eventFd = none := (hk.settled.monitor ho.vacant).2
  have hsize : 0 < hotplugMessageCodec.size := by decide
  replace hlength : got.length = hotplugMessageCodec.size := hlength
  obtain ⟨hrecords, hrest⟩ := hotplugMessageCodec.records_of_le hsize (Nat.le_of_eq hlength.symm)
  obtain ⟨hnil, hnil'⟩ := @Codec.records_of_lt _ hotplugMessageCodec [] hsize
  rw [List.drop_eq_nil_of_le (Nat.le_of_eq hlength)] at hrecords hrest
  rw [hnil] at hrecords
  rw [hnil'] at hrest
  set base : Peer := { p with
    handle := { p.handle with monitorFd := some fd, monitorBuffer := [] } } with hbase
  have hkept : Kept { base with
      handle := base.handle.applyHotplug (hotplugMessageCodec.dec got) (.monitor caller) } := by
    have hone : hotplugMessageCodec.records (base.got fd) = [] ++ [hotplugMessageCodec.dec got] := by
      show hotplugMessageCodec.records (p.got fd) = _
      rw [hgot, hrecords]
      rfl
    refine applied_kept hs hk.versions rfl ho.asked rfl hone ?_ (fun e he => ?_) hk.commands hk.fresh
    · show hotplugMessageCodec.remainder (p.got fd) = []
      rw [hgot, hrest]
    · rw [show base.handle.eventFd = none from hnone] at he
      cases he
  refine .closed hkept ?_ (Handle.applyHotplug_landed _ _ _).opening
  rcases applyHotplug_stream base.handle (hotplugMessageCodec.dec got) (.monitor caller) with h | h
  · exact h
  · exact h.1.trans hnone

/-- Bytes on the monitor that do not make its message whole. -/
theorem drained_part (hk : p.Kept) {caller : Caller} {changed : Bool}
    (hpc : p.handle.pc = .refreshRecv caller changed) (hc : p.handle.monitorFd = some c)
    {piece : List UInt8}
    (hs : Handle.Settled { p.handle with monitorBuffer := p.handle.monitorBuffer ++ piece })
    (hrecords : hotplugMessageCodec.records (p.got c ++ piece) =
      hotplugMessageCodec.records (p.got c))
    (hrest : hotplugMessageCodec.remainder (p.got c ++ piece) =
      hotplugMessageCodec.remainder (p.got c) ++ piece) :
    p.Goes inp
      { p with
        handle := { p.handle with monitorBuffer := p.handle.monitorBuffer ++ piece }
        got := Function.update p.got c (p.got c ++ piece) } := by
  have hmon := hk.monitor c hc
  have hself : Function.update p.got c (p.got c ++ piece) c = p.got c ++ piece :=
    Function.update_self ..
  refine ⟨⟨hs, ?_, hk.versions, fun c' hm => ?_, fun e he => ?_, hk.commands,
    hk.fresh_received (hk.held_asked (Or.inl hc)) piece⟩, fun e he => Or.inl he,
    fun e c' _ hm => ?_⟩
  · show Stands _ p.handle.pc
    rw [hpc]
    trivial
  · obtain rfl : c = c' := Option.some.inj (hc.symm.trans hm)
    refine ⟨hmon.asked, ?_, ?_⟩
    · show p.handle.monitorBuffer ++ piece =
        hotplugMessageCodec.remainder (Function.update p.got c _ c)
      rw [hself, hrest, hmon.buffer]
    · show (∀ m ∈ hotplugMessageCodec.records (Function.update p.got c _ c), _) →
        (hotplugMessageCodec.records (Function.update p.got c _ c)).getLast?.map _ = _
      rw [hself, hrecords]
      exact hmon.descriptor
  · exact (hk.stream e he).same rfl (Function.update_of_ne (hk.distinct hc he).symm ..) rfl rfl
  · obtain rfl : c = c' := Option.some.inj (hc.symm.trans hm)
    refine ⟨hc, Or.inl ?_⟩
    show hotplugMessageCodec.records (Function.update p.got c _ c) = _
    rw [hself, hrecords]

/-- Bytes on the monitor that make its message whole. -/
theorem drained_whole (hk : p.Kept) {caller : Caller} {changed : Bool}
    (hc : p.handle.monitorFd = some c) {m : HotplugMessage} {piece : List UInt8}
    (hs : ({ p.handle with monitorBuffer := [] }.applyHotplug m (.drain caller changed)).Settled)
    (hrecords : hotplugMessageCodec.records (p.got c ++ piece) =
      hotplugMessageCodec.records (p.got c) ++ [m])
    (hrest : hotplugMessageCodec.remainder (p.got c ++ piece) = []) :
    p.Goes inp
      { p with
        handle := { p.handle with monitorBuffer := [] }.applyHotplug m (.drain caller changed)
        got := Function.update p.got c (p.got c ++ piece) } := by
  have hself : Function.update p.got c (p.got c ++ piece) c = p.got c ++ piece :=
    Function.update_self ..
  set base : Peer := { p with
    handle := { p.handle with monitorBuffer := [] }
    got := Function.update p.got c (p.got c ++ piece) } with hbase
  have hmore : hotplugMessageCodec.records (base.got c) =
      hotplugMessageCodec.records (p.got c) ++ [m] := by
    show hotplugMessageCodec.records (Function.update p.got c _ c) = _
    rw [hself, hrecords]
  have hkept : Kept { base with
      handle := base.handle.applyHotplug m (.drain caller changed) } := by
    refine applied_kept hs hk.versions hc (hk.monitor c hc).asked rfl hmore ?_ (fun e he => ?_)
      hk.commands (hk.fresh_received (hk.held_asked (Or.inl hc)) piece)
    · show hotplugMessageCodec.remainder (Function.update p.got c _ c) = []
      rw [hself, hrest]
    · exact (hk.stream e he).same rfl (Function.update_of_ne (hk.distinct hc he).symm ..) rfl rfl
  have hopening : (base.handle.applyHotplug m (.drain caller changed)).pc.opening = none :=
    (Handle.applyHotplug_landed base.handle m (.drain caller changed)).opening
  rcases applyHotplug_stream base.handle m (.drain caller changed) with hnone | ⟨hfd, hmfd, hp⟩
  · exact .closed hkept hnone hopening
  -- the stream outlives the message: it told of the device that was there
  have hheld : ∀ e, HasStream { base with
      handle := base.handle.applyHotplug m (.drain caller changed) } e →
      p.handle.eventFd = some e := by
    rintro e (he | ⟨site, he⟩)
    · exact hfd.symm.trans he
    · rw [hopening] at he
      cases he
  refine ⟨hkept, fun e he => Or.inl (Or.inl (hheld e he)), fun e c' he hm' => ?_⟩
  obtain rfl : c = c' := Option.some.inj (hc.symm.trans (hmfd.symm.trans hm'))
  refine ⟨hc, Or.inr ⟨m, hmore, fun hwell => ?_⟩⟩
  rw [hp hwell]
  refine hk.settled.stream ?_
  rw [hheld e he]
  exact nofun

/-- **Bytes arrive on the monitor**: a message that is whole is applied. -/
theorem drained_goes (hk : p.Kept) {caller : Caller} {changed : Bool}
    (hpc : p.handle.pc = .refreshRecv caller changed) (hc : p.handle.monitorFd = some c)
    (bs : List UInt8) (hs : (p.handle.refreshAnswer caller changed (.bytes bs)).Settled) :
    p.Goes inp
      { p with
        handle := p.handle.refreshAnswer caller changed (.bytes bs)
        got := Function.update p.got c (p.got c ++
          bs.take (hotplugMessageCodec.size - p.handle.monitorBuffer.length)) } := by
  have hsize : 0 < hotplugMessageCodec.size := by decide
  have hbuffer := (hk.monitor c hc).buffer
  have hroom := hotplugMessageCodec.remainder_room hsize (p.got c) bs
  rw [← hbuffer] at hroom
  have hpush := hotplugMessageCodec.records_push hsize (p.got c) (hbuffer ▸ hroom)
  rw [← hbuffer] at hpush
  unfold Handle.refreshAnswer at hs ⊢
  dsimp only at hs ⊢
  rcases hpush with ⟨hlt, hrecords, hrest⟩ | ⟨hfull, hrecords, hrest⟩
  · rw [if_neg (Nat.ne_of_lt hlt)] at hs ⊢
    exact drained_part hk hpc hc hs hrecords (hbuffer ▸ hrest)
  · rw [if_pos hfull] at hs ⊢
    exact drained_whole hk hc hs hrecords hrest

/-- The monitor is lost. -/
theorem lost_goes (hk : p.Kept) (caller : Caller) (result : Int)
    (hs : (p.handle.monitorLost caller result).Settled) :
    p.Goes inp { p with handle := p.handle.monitorLost caller result } := by
  have hgone : (p.handle.monitorLost caller result).monitorFd = none ∧
      (p.handle.monitorLost caller result).descriptor.abiVersion = abiVersion ∧
      (p.handle.monitorLost caller result).descriptor.structSize = descriptorSize := by
    unfold Handle.monitorLost
    dsimp only
    split
    · have hc := Handle.afterRefresh_carried ({ p.handle with
        monitorFd := none, monitorBuffer := [],
        descriptor := { p.handle.descriptor with present := 0, deviceId := -1 } }.closeEventStream)
        caller 1
      refine ⟨hc.monitorFd, ?_⟩
      rw [hc.descriptor]
      exact hk.versions
    · have hc := Handle.afterRefresh_carried
        { p.handle with monitorFd := none, monitorBuffer := [] } caller result
      refine ⟨hc.monitorFd, ?_⟩
      rw [hc.descriptor]
      exact hk.versions
  have hlanded := Handle.monitorLost_landed p.handle caller result
  have hnone := (hs.monitor hgone.1).2
  refine .closed ⟨hs, stands_of_landed { p with handle := _ } hlanded, hgone.2, fun c hm => ?_,
    fun e he => ?_, hk.commands, hk.fresh⟩ hnone hlanded.opening
  · rw [show (p.handle.monitorLost caller result).monitorFd = none from hgone.1] at hm
    cases hm
  · rw [show (p.handle.monitorLost caller result).eventFd = none from hnone] at he
    cases he

/-! ## 6. Records -/

/-- **The loop of an update keeps up with the stream**: what is whole is applied, the rest is
    buffered. -/
theorem eventAnswer_bytes (h : Handle) {reports : Nat} (hpc : h.pc = .eventRecv reports)
    (bs : List UInt8) {stream : List UInt8}
    (hstate : h.state = LibraryState.replayed (inputEventCodec.records stream))
    (hbuffer : h.eventBuffer = inputEventCodec.remainder stream) :
    ∃ n, h.eventAnswer reports (.bytes bs) =
      { h with
        state := LibraryState.replayed (inputEventCodec.records
          (stream ++ bs.take (inputEventCodec.size - h.eventBuffer.length)))
        eventBuffer := inputEventCodec.remainder
          (stream ++ bs.take (inputEventCodec.size - h.eventBuffer.length))
        pc := .eventRecv n } := by
  have hsize : 0 < inputEventCodec.size := by decide
  have hroom := inputEventCodec.remainder_room hsize stream bs
  rw [← hbuffer] at hroom
  have hpush := inputEventCodec.records_push hsize stream (hbuffer ▸ hroom)
  rw [← hbuffer] at hpush
  unfold Handle.eventAnswer
  dsimp only
  rcases hpush with ⟨hlt, hrecords, hrest⟩ | ⟨hfull, hrecords, hrest⟩
  · rw [if_neg (Nat.ne_of_lt hlt), hrecords, hrest, ← hstate]
    exact ⟨reports, by rw [← hpc]⟩
  · rw [if_pos hfull, hrecords, hrest, LibraryState.replayed_concat, ← hstate,
      LibraryState.processEvent_record]
    exact ⟨_, rfl⟩

/-- **Bytes arrive on the event stream**: a record that is whole is applied. -/
theorem reported_goes (hk : p.Kept) {reports : Nat} (hpc : p.handle.pc = .eventRecv reports)
    (he : p.handle.eventFd = some e) (bs : List UInt8)
    (hs : (p.handle.eventAnswer reports (.bytes bs)).Settled) :
    p.Goes inp
      { p with
        handle := p.handle.eventAnswer reports (.bytes bs)
        got := Function.update p.got e (p.got e ++
          bs.take (inputEventCodec.size - p.handle.eventBuffer.length)) } := by
  have hstr := hk.stream e he
  obtain ⟨n, hstep⟩ := eventAnswer_bytes p.handle hpc bs hstr.state hstr.buffer
  rw [hstep] at hs ⊢
  set piece := bs.take (inputEventCodec.size - p.handle.eventBuffer.length)
  have hself : Function.update p.got e (p.got e ++ piece) e = p.got e ++ piece :=
    Function.update_self ..
  have hbehind : (Function.update p.got e (p.got e ++ piece) e).drop deviceDescriptorCodec.size =
      (p.got e).drop deviceDescriptorCodec.size ++ piece := by
    rw [hself, List.drop_append_of_le_length hstr.length]
  refine ⟨⟨hs, trivial, hk.versions, fun c hm => ?_, fun e' he' => ?_, hk.commands,
    hk.fresh_received (hk.held_asked (Or.inr he)) piece⟩, ?_, fun e' c _ hm => ?_⟩
  · exact (hk.monitor c hm).same rfl (Function.update_of_ne (hk.distinct hm he) ..) rfl rfl
  · obtain rfl : e = e' := Option.some.inj (he.symm.trans he')
    refine ⟨hstr.asked, ?_, ?_, ?_, ?_⟩
    · show _ ≤ (Function.update p.got e _ e).length
      rw [hself, List.length_append]
      exact Nat.le_add_right_of_le hstr.length
    · show Handle.usable (deviceDescriptorCodec.dec (Function.update p.got e _ e)) = true
      rw [hself, deviceDescriptorCodec.dec_append _ _ hstr.length]
      exact hstr.usable
    · show _ = LibraryState.replayed (inputEventCodec.records
        ((Function.update p.got e _ e).drop deviceDescriptorCodec.size))
      rw [hbehind]
    · show _ = inputEventCodec.remainder
        ((Function.update p.got e _ e).drop deviceDescriptorCodec.size)
      rw [hbehind]
  · rintro e' (he' | ⟨site, he'⟩)
    · exact Or.inl (Or.inl he')
    · cases he'
  · refine ⟨hm, Or.inl ?_⟩
    show hotplugMessageCodec.records (Function.update p.got e _ c) = _
    rw [Function.update_of_ne (hk.distinct hm he)]

/-- An update returns with the event stream open. -/
theorem updated_goes (hk : p.Kept) (result : Int) (hs : (p.handle.updateReturns result).Settled) :
    p.Goes inp { p with handle := p.handle.updateReturns result } := by
  refine ⟨⟨hs, trivial, hk.versions, fun c hm => (hk.monitor c hm).same rfl rfl rfl rfl,
    fun e he => (hk.stream e he).same rfl rfl rfl rfl, hk.commands, hk.fresh⟩, ?_,
    fun _ _ _ hc => ⟨hc, Or.inl rfl⟩⟩
  rintro e (he | ⟨site, he⟩)
  · exact Or.inl (Or.inl he)
  · cases he

/-- The event stream ends. -/
theorem ended_goes (hk : p.Kept) (result : Int)
    (hs : (p.handle.closeEventStream.updateReturns result).Settled) :
    p.Goes inp { p with handle := p.handle.closeEventStream.updateReturns result } :=
  .closed ⟨hs, trivial, hk.versions, fun c hm => (hk.monitor c hm).same rfl rfl rfl rfl,
    nofun, hk.commands, hk.fresh⟩ rfl rfl

/-! ## 7. Steps and runs -/

/-- A call is started. -/
theorem refresh_goes (hk : p.Kept) (caller : Caller) (hs : (p.handle.refresh caller).Settled) :
    p.Goes inp { p with handle := p.handle.refresh caller } := by
  refine landed_goes hk hs (Handle.refresh_carried p.handle caller) ?_
  unfold Handle.refresh
  dsimp only
  split
  · rename_i hnone
    exact Option.isNone_iff_eq_none.mp hnone
  · trivial

/-- The opening of a connection is given up. -/
theorem failed_goes (hk : p.Kept) (t : Task) (e : Errno) (hs : (p.handle.openFailed t e).Settled) :
    p.Goes inp { p with handle := p.handle.openFailed t e } :=
  landed_goes hk hs (Handle.openFailed_carried p.handle t e) (Handle.openFailed_landed _ t e)

/-- A step that makes no connection, gets no byte out and receives none. -/
theorem quiet_goes (hk : p.Kept) (inp : Handle.Input) (hread : inp.reading = true)
    (hconnect : ∀ t fd, p.handle.pc = .connect t → inp ≠ .answer (.connected fd))
    (hsend : ∀ t fd unsent n, p.handle.pc = .send (.opening t fd) unsent →
      inp ≠ .answer (.accepted n))
    (hbytes : ∀ bs, inp ≠ .answer (.bytes bs)) :
    p.Goes inp { p with handle := p.handle.step inp } := by
  have hs := Handle.step_settled hk.settled inp
  have hst := hk.stands
  have hstay : p.Goes inp { p with handle := p.handle } := .refl hk
  cases inp with
  | refresh =>
    unfold Handle.step at hs ⊢
    dsimp only at hs ⊢
    split at hs
    · rename_i hidle
      rw [if_pos hidle]
      exact refresh_goes hk .application hs
    · rename_i hbusy
      rw [if_neg hbusy]
      exact hstay
  | update =>
    unfold Handle.step at hs ⊢
    dsimp only at hs ⊢
    split at hs
    · rename_i hidle
      rw [if_pos hidle]
      exact refresh_goes hk .update hs
    · rename_i hbusy
      rw [if_neg hbusy]
      exact hstay
  | rumble low high durationMs => cases hread
  | stopRumble => cases hread
  | answer a =>
    replace hs : (p.handle.answer a).Settled := hs
    show p.Goes _ { p with handle := p.handle.answer a }
    unfold Handle.answer at hs ⊢
    split at hs
    · rename_i hpc
      exact hstay
    · rename_i t hpc
      cases a with
      | connected fd => exact absurd rfl (hconnect t fd hpc)
      | failed e => exact failed_goes hk t e hs
      | _ => exact hstay
    · rename_i site unsent hpc
      rw [hpc] at hst
      cases site with
      | control => exact absurd hst id
      | opening t fd =>
        cases a with
        | accepted n => exact absurd rfl (hsend t fd unsent n hpc)
        | again =>
          exact goto_goes hk hs hst fun site e he => by rw [hpc]; exact he
        | ended => exact failed_goes hk t epipe hs
        | failed e => exact failed_goes hk t e hs
        | _ => exact hstay
    · rename_i site unsent hpc
      rw [hpc] at hst
      cases site with
      | control => exact absurd hst id
      | opening t fd =>
        cases a with
        | done => exact goto_goes hk hs hst fun site e he => by rw [hpc]; exact he
        | again => exact failed_goes hk t eagain hs
        | failed e => exact failed_goes hk t e hs
        | _ => exact hstay
    · rename_i t fd got hpc
      cases a with
      | bytes bs => exact absurd rfl (hbytes bs)
      | ended => exact failed_goes hk t econnreset hs
      | again => exact failed_goes hk t eagain hs
      | failed e => exact failed_goes hk t e hs
      | _ => exact hstay
    · rename_i t fd got hpc
      cases a with
      | done =>
        cases t with
        | monitor caller => exact monitored_goes hk hpc hs
        | stream site => exact opened_goes hk hpc hs
      | failed e => exact failed_goes hk t e hs
      | _ => exact hstay
    · rename_i caller changed hpc
      cases a with
      | bytes bs => exact absurd rfl (hbytes bs)
      | again =>
        exact landed_goes hk hs (Handle.afterRefresh_carried _ _ _)
          (Handle.afterRefresh_landed _ _ _)
      | ended => exact lost_goes hk caller _ hs
      | failed e => exact lost_goes hk caller _ hs
      | _ => exact hstay
    · rename_i reports hpc
      cases a with
      | bytes bs => exact absurd rfl (hbytes bs)
      | again => exact updated_goes hk reports hs
      | ended => exact ended_goes hk _ hs
      | failed e => exact ended_goes hk _ hs
      | _ => exact hstay

/-- Bytes arrive. -/
theorem bytes_goes (hk : p.Kept) (bs : List UInt8) :
    p.Goes (.answer (.bytes bs)) (p.step (.answer (.bytes bs))) := by
  have hs := Handle.step_settled hk.settled (.answer (.bytes bs))
  have hplaced := hk.settled.placed
  have hstay : p.Goes (.answer (.bytes bs)) { p with handle := p.handle } := .refl hk
  replace hs : (p.handle.answer (.bytes bs)).Settled := hs
  unfold step
  dsimp only [Handle.step]
  unfold Handle.answer Handle.reads at *
  cases hpc : p.handle.pc with
  | idle => exact hstay
  | connect t => exact hstay
  | send site unsent => cases site <;> exact hstay
  | poll site unsent => exact hstay
  | setNonblock t fd got => exact hstay
  | receive t fd got =>
    rw [hpc] at hs
    exact replied_goes hk hpc bs hs
  | refreshRecv caller changed =>
    rw [hpc] at hs hplaced
    obtain ⟨c, hc⟩ := Option.ne_none_iff_exists'.mp hplaced
    simp only [hc, Option.map_some]
    exact drained_goes hk hpc hc bs hs
  | eventRecv reports =>
    rw [hpc] at hs hplaced
    obtain ⟨e, he⟩ := Option.ne_none_iff_exists'.mp hplaced
    simp only [he, Option.map_some]
    exact reported_goes hk hpc he bs hs

/-- **One step**, whatever a system call returns. -/
theorem step_goes (hk : p.Kept) {inp : Handle.Input} (hread : inp.reading = true) :
    p.Goes inp (p.step inp) := by
  by_cases hbytes : ∃ bs, inp = .answer (.bytes bs)
  · obtain ⟨bs, rfl⟩ := hbytes
    exact bytes_goes hk bs
  have hs := Handle.step_settled hk.settled inp
  unfold step
  dsimp only
  split
  · rename_i t fd hpc
    split
    · exact .refl hk
    · rename_i hnew
      have hstep : p.handle.step (.answer (.connected fd)) = { p.handle with
          pc := .send (.opening t fd) (controlMessageCodec.enc (Handle.command t)) } := by
        simp only [Handle.step, Handle.answer, hpc, Handle.connectAnswer]
      rw [hstep] at hs ⊢
      exact connected_goes hk hpc (by simpa using hnew) hs
  · rename_i t fd unsent n hpc
    have hstep : p.handle.step (.answer (.accepted n)) =
        p.handle.sendAnswer (.opening t fd) unsent (.accepted n) := by
      simp only [Handle.step, Handle.answer, hpc]
    rw [hstep] at hs ⊢
    exact sent_goes hk hpc n hs
  · exact absurd ⟨_, rfl⟩ hbytes
  · rename_i inp _ _ _ hconnect hsend
    refine quiet_goes hk inp hread (fun t fd hpc hinp => ?_) (fun t fd unsent n hpc hinp => ?_)
      fun bs hinp => hbytes ⟨bs, hinp⟩
    · exact hconnect t fd hpc hinp
    · exact hsend t fd unsent n hpc hinp

theorem create_kept : create.Kept where
  settled := Handle.create_settled
  stands := rfl
  versions := ⟨rfl, rfl⟩
  monitor := nofun
  stream := nofun
  commands := nofun
  fresh := fun _ _ => ⟨rfl, rfl⟩

end Peer

end TermuxGamepad
