/-
  File:      TermuxGamepad/Client/Lifetime.lean
  Subject:   A handle from its creation to its destruction, and the descriptors it closes
             (termux_gamepad.c, lines 47-66, 153-231, 307-424 and 444-447).

  `Handle` says what a result of a system call makes of a handle; `closes` says which descriptors
  the code closes on the way. `Lifetime` keeps the account: every descriptor `connect` handed out
  has been closed or is one the handle still holds (`descriptors_balance`), so none is closed twice
  and none is left open by `termux_gamepad_destroy`.
-/
import TermuxGamepad.Client.Sockets

namespace TermuxGamepad

open Wire

/-- The descriptor a call in progress is opening. -/
def Pc.fresh (pc : Pc) : List Nat := (pc.opening.map Prod.snd).toList

namespace Handle

/-! ## 1. What is closed -/

/-- The descriptors in the handle. -/
def owned (h : Handle) : List Nat := h.monitorFd.toList ++ h.eventFd.toList

/-- Those and the one a call is opening: a local of `open_monitor` or `open_event_stream`. -/
def held (h : Handle) : List Nat := h.owned ++ h.pc.fresh

/-- `termux_gamepad_get_fd`, `none` for -1. -/
def getFd (h : Handle) : Option Nat := h.eventFd

/-- In `apply_hotplug`: `close_event_stream`, if the descriptor changed. -/
def applyHotplugCloses (h : Handle) (m : HotplugMessage) : List Nat :=
  if !wellFormed m then []
  else if descriptorEqual h.descriptor (copyDescriptor m.descriptor) then []
  else h.eventFd.toList

/-- After a failed `send_command`: the connection that was to be opened. The event stream stays. -/
def sendFailedCloses : SendSite → List Nat
  | .opening _ fd => [fd]
  | .control => []

/-- After a whole reply: the connection, if its descriptor is of no use. -/
def receivedCloses (t : Task) (fd : Nat) (got : List UInt8) : List Nat :=
  match t with
  | .monitor _ => []
  | .stream _ => if usable (deviceDescriptorCodec.dec got) then [] else [fd]

/-- On an open connection: the stream it replaces. -/
def openedCloses (h : Handle) (t : Task) (got : List UInt8) : List Nat :=
  match t with
  | .monitor _ => h.applyHotplugCloses (hotplugMessageCodec.dec got)
  | .stream _ => h.eventFd.toList

/-- Where the monitor connection is gone: it, and the stream of a device that was there. -/
def monitorLostCloses (h : Handle) : List Nat :=
  h.monitorFd.toList ++ if h.descriptor.present ≠ 0 then h.eventFd.toList else []

/-- The calls of `close` between one result of a system call and the next system call. -/
def closes (h : Handle) (a : SysAnswer) : List Nat :=
  match h.pc, a with
  | .send site _, .ended | .send site _, .failed _ => sendFailedCloses site
  | .poll site _, .again | .poll site _, .failed _ => sendFailedCloses site
  | .receive t fd got, .bytes bs =>
    let got := got ++ bs.take (replySize t - got.length)
    if got.length = replySize t then receivedCloses t fd got else []
  | .receive _ fd _, .ended | .receive _ fd _, .again | .receive _ fd _, .failed _ => [fd]
  | .setNonblock t _ got, .done => h.openedCloses t got
  | .setNonblock _ fd _, .failed _ => [fd]
  | .refreshRecv _ _, .bytes bs =>
    let buffer := h.monitorBuffer ++ bs.take (hotplugMessageCodec.size - h.monitorBuffer.length)
    if buffer.length = hotplugMessageCodec.size then
      h.applyHotplugCloses (hotplugMessageCodec.dec buffer)
    else []
  | .refreshRecv _ _, .ended | .refreshRecv _ _, .failed _ => h.monitorLostCloses
  | .eventRecv _, .ended | .eventRecv _, .failed _ => h.eventFd.toList
  | _, _ => []

/-- What `connect_socket` hands out. A socket that does not connect it closes itself. -/
def connects (h : Handle) (a : SysAnswer) : List Nat :=
  match h.pc, a with
  | .connect _, .connected fd => [fd]
  | _, _ => []

end Handle

/-! ## 2. A lifetime -/

/-- Where the owner of a handle is: it calls the library; `termux_gamepad_destroy` is in `send` or in
    the `poll` of its STOP_RUMBLE; or the handle is freed. -/
inductive Life where
  | living (h : Handle)
  | stopping (h : Handle) (unsent : List UInt8)
  | waiting (h : Handle) (unsent : List UInt8)
  | freed

structure Lifetime where
  life : Life
  /-- The descriptors `connect` handed out, and those that were closed. -/
  connected : List Nat
  closed : List Nat

namespace Lifetime

inductive Input where
  | call (inp : Handle.Input)
  | destroy
  deriving DecidableEq

/-- `termux_gamepad_create`. -/
def create : Lifetime := { life := .living Handle.create, connected := [], closed := [] }

/-- The end of `termux_gamepad_destroy`. -/
def free (l : Lifetime) (h : Handle) : Lifetime :=
  { l with life := .freed, closed := l.closed ++ h.eventFd.toList ++ h.monitorFd.toList }

/-- `termux_gamepad_destroy`, up to its first system call. -/
def destroy (l : Lifetime) (h : Handle) : Lifetime :=
  let message := Handle.commandMessage controlStopRumble 0 0 0
  if h.eventFd.isSome then { l with life := .stopping h (controlMessageCodec.enc message) }
  else l.free h

/-- `send_all` in it: whatever it returns, the connections are closed. -/
def stopAnswer (l : Lifetime) (h : Handle) (unsent : List UInt8) (a : SysAnswer) : Lifetime :=
  match a with
  | .accepted n =>
    if (unsent.drop (n + 1)).isEmpty then l.free h
    else { l with life := .stopping h (unsent.drop (n + 1)) }
  | .again => { l with life := .waiting h unsent }
  | .ended | .failed _ => l.free h
  | _ => l

/-- Its `poll`. -/
def waitAnswer (l : Lifetime) (h : Handle) (unsent : List UInt8) (a : SysAnswer) : Lifetime :=
  match a with
  | .done => { l with life := .stopping h unsent }
  | .again | .failed _ => l.free h
  | _ => l

/-- Nothing is called on a handle that is freed or being freed. -/
def step (l : Lifetime) (inp : Input) : Lifetime :=
  match l.life, inp with
  | .living h, .call (.answer a) =>
    { life := .living (h.answer a), connected := l.connected ++ h.connects a,
      closed := l.closed ++ h.closes a }
  | .living h, .call inp => { l with life := .living (h.step inp) }
  | .living h, .destroy => if h.pc = .idle then l.destroy h else l
  | .stopping h unsent, .call (.answer a) => l.stopAnswer h unsent a
  | .waiting h unsent, .call (.answer a) => l.waitAnswer h unsent a
  | _, _ => l

/-- What the owner of a handle is answerable for. -/
def held (l : Lifetime) : List Nat :=
  match l.life with
  | .living h => h.held
  | .stopping h _ | .waiting h _ => h.owned
  | .freed => []

end Lifetime

/-! ## 3. The account of one step -/

namespace Handle

variable {h h' : Handle}

/-- Between the handles, `l` was closed. -/
def Gives (h h' : Handle) (l : List Nat) : Prop :=
  ∀ fd, h.held.count fd = l.count fd + h'.held.count fd

theorem Gives.of_held (e : h'.held = h.held) : h.Gives h' [] := fun fd => by
  rw [e, List.count_nil, Nat.zero_add]

theorem held_idle (hpc : h.pc.fresh = []) : h.held = h.owned := by
  rw [held, hpc, List.append_nil]

theorem closeEventStream_owned (h : Handle) (fd : Nat) :
    h.owned.count fd = h.eventFd.toList.count fd + h.closeEventStream.owned.count fd := by
  show (h.monitorFd.toList ++ h.eventFd.toList).count fd = _ + (h.monitorFd.toList ++ []).count fd
  rw [List.count_append, List.append_nil, Nat.add_comm]

/-! The returns leave the descriptors in the handle alone, and no call holds one. -/

theorem afterStream_held (h : Handle) (refreshed : Int) :
    (h.afterStream refreshed).held = h.owned := by
  unfold afterStream
  split
  · exact held_idle rfl
  · exact held_idle rfl

theorem afterRefresh_held (h : Handle) (caller : Caller) (result : Int) :
    (h.afterRefresh caller result).held = h.owned := by
  unfold afterRefresh
  cases caller with
  | create | application => exact held_idle rfl
  | update =>
    dsimp only
    split
    · exact held_idle rfl
    · exact afterStream_held ..

theorem applied_held (h : Handle) (site : HotplugSite) (result : Int) :
    (h.applied site result).held = h.owned := by
  cases site with
  | monitor caller => exact afterRefresh_held ..
  | drain caller changed =>
    unfold applied
    dsimp only
    split
    · exact afterRefresh_held ..
    · exact held_idle rfl

theorem streamReturned_held (h : Handle) (site : StreamSite) :
    (h.streamReturned site).held = h.owned := by
  cases site with
  | hotplug site => exact applied_held ..
  | update refreshed => exact afterStream_held ..

theorem openFailed_held (h : Handle) (t : Task) (e : Errno) : (h.openFailed t e).held = h.owned := by
  cases t with
  | monitor caller => exact afterRefresh_held ..
  | stream site => exact streamReturned_held ..

/-- A failed opening gives its connection up. -/
theorem openFailed_gives {fd : Nat} (hpc : h.pc.fresh = [fd]) (t : Task) (e : Errno) :
    h.Gives (h.openFailed t e) [fd] := fun x => by
  rw [openFailed_held, held, hpc, List.count_append, Nat.add_comm]

theorem applyHotplug_gives (h : Handle) (m : HotplugMessage) (site : HotplugSite) (fd : Nat) :
    h.owned.count fd = (h.applyHotplugCloses m).count fd + (h.applyHotplug m site).held.count fd := by
  unfold applyHotplug applyHotplugCloses
  split
  · rw [applied_held, List.count_nil, Nat.zero_add]
  dsimp only
  split
  · rw [applied_held, List.count_nil, Nat.zero_add]
  · have hclose := closeEventStream_owned { h with descriptor := copyDescriptor m.descriptor } fd
    split
    · rw [held_idle rfl]
      exact hclose
    · rw [applied_held]
      exact hclose

theorem monitorLost_gives (h : Handle) (caller : Caller) (result : Int) (fd : Nat) :
    h.owned.count fd = h.monitorLostCloses.count fd + (h.monitorLost caller result).held.count fd := by
  unfold monitorLost monitorLostCloses
  dsimp only
  split
  · rw [afterRefresh_held]
    show (h.monitorFd.toList ++ h.eventFd.toList).count fd = _ + ([] ++ [] : List Nat).count fd
    simp
  · rw [afterRefresh_held]
    show (h.monitorFd.toList ++ h.eventFd.toList).count fd = _ + ([] ++ h.eventFd.toList).count fd
    simp

/-- A command that is not sent: the connection it was to open is given up, the stream is kept. -/
theorem sendFailed_gives {site : SendSite} {unsent : List UInt8}
    (hpc : h.pc = .send site unsent ∨ h.pc = .poll site unsent) (e : Errno) :
    h.Gives (h.sendFailed site e) (sendFailedCloses site) := by
  cases site with
  | opening t c =>
    have hfresh : h.pc.fresh = [c] := by rcases hpc with hpc | hpc <;> rw [hpc] <;> rfl
    exact openFailed_gives hfresh t e
  | control =>
    have hfresh : h.pc.fresh = [] := by rcases hpc with hpc | hpc <;> rw [hpc] <;> rfl
    exact .of_held ((held_idle (h := h.controlReturns e.result) rfl).trans (held_idle hfresh).symm)

/-- The connection stays a local of its function. -/
theorem moves_held {pc : Pc} (hpc : h.pc.fresh = pc.fresh) :
    ({ h with pc := pc } : Handle).held = h.held := by
  show h.owned ++ pc.fresh = h.owned ++ h.pc.fresh
  rw [hpc]

theorem sendAnswer_gives {site : SendSite} {unsent : List UInt8} (hpc : h.pc = .send site unsent)
    (a : SysAnswer) : h.Gives (h.sendAnswer site unsent a) (h.closes a) := by
  unfold closes sendAnswer
  rw [hpc]
  cases a with
  | accepted n =>
    dsimp only
    split
    · refine .of_held ?_
      cases site with
      | opening t c => exact moves_held (by rw [hpc]; rfl)
      | control => exact (held_idle rfl).trans (held_idle (by rw [hpc]; rfl)).symm
    · exact .of_held (moves_held (by rw [hpc]; cases site <;> rfl))
  | again => exact .of_held (moves_held (by rw [hpc]; cases site <;> rfl))
  | ended => exact sendFailed_gives (Or.inl hpc) epipe
  | failed e => exact sendFailed_gives (Or.inl hpc) e
  | connected _ | bytes _ | done | intr => exact .of_held rfl

theorem pollAnswer_gives {site : SendSite} {unsent : List UInt8} (hpc : h.pc = .poll site unsent)
    (a : SysAnswer) : h.Gives (h.pollAnswer site unsent a) (h.closes a) := by
  unfold closes pollAnswer
  rw [hpc]
  cases a with
  | done => exact .of_held (moves_held (by rw [hpc]; cases site <;> rfl))
  | again => exact sendFailed_gives (Or.inr hpc) eagain
  | failed e => exact sendFailed_gives (Or.inr hpc) e
  | connected _ | bytes _ | accepted _ | ended | intr => exact .of_held rfl

theorem receiveAnswer_gives {t : Task} {c : Nat} {got : List UInt8} (hpc : h.pc = .receive t c got)
    (a : SysAnswer) : h.Gives (h.receiveAnswer t c got a) (h.closes a) := by
  have hfresh : h.pc.fresh = [c] := by rw [hpc]; rfl
  unfold closes receiveAnswer
  rw [hpc]
  cases a with
  | bytes bs =>
    dsimp only
    split
    · unfold received receivedCloses
      cases t with
      | monitor caller => exact .of_held (moves_held hfresh)
      | stream site =>
        dsimp only
        split
        · exact .of_held (moves_held hfresh)
        · exact openFailed_gives hfresh _ enodev
    · exact .of_held (moves_held hfresh)
  | ended => exact openFailed_gives hfresh t econnreset
  | again => exact openFailed_gives hfresh t eagain
  | failed e => exact openFailed_gives hfresh t e
  | connected _ | accepted _ | done | intr => exact .of_held rfl

/-- **The connection of a local** becomes one of the handle; the one it replaces is closed. -/
theorem setNonblockAnswer_gives {t : Task} {c : Nat} {got : List UInt8}
    (hpc : h.pc = .setNonblock t c got) (hvacant : h.Vacant t) (a : SysAnswer) :
    h.Gives (h.setNonblockAnswer t c got a) (h.closes a) := by
  have hfresh : h.pc.fresh = [c] := by rw [hpc]; rfl
  unfold closes setNonblockAnswer
  rw [hpc]
  cases a with
  | done =>
    intro fd
    rw [held, hfresh, List.count_append]
    cases t with
    | monitor caller =>
      have hnone : h.monitorFd = none := hvacant
      refine Eq.trans ?_ (applyHotplug_gives { h with monitorFd := some c, monitorBuffer := [] }
        (hotplugMessageCodec.dec got) (.monitor caller) fd)
      show (h.monitorFd.toList ++ h.eventFd.toList).count fd + [c].count fd =
        ([c] ++ h.eventFd.toList).count fd
      rw [hnone, List.count_append, List.count_append]
      show 0 + _ + _ = _
      omega
    | stream site =>
      show _ = h.eventFd.toList.count fd +
        ({ h.closeEventStream with eventFd := some c }.streamReturned site).held.count fd
      rw [streamReturned_held]
      show (h.monitorFd.toList ++ h.eventFd.toList).count fd + [c].count fd =
        h.eventFd.toList.count fd + (h.monitorFd.toList ++ [c]).count fd
      rw [List.count_append, List.count_append]
      omega
  | failed e => exact openFailed_gives hfresh t e
  | connected _ | bytes _ | accepted _ | ended | again | intr => exact .of_held rfl

theorem refreshAnswer_gives {caller : Caller} {changed : Bool}
    (hpc : h.pc = .refreshRecv caller changed) (a : SysAnswer) :
    h.Gives (h.refreshAnswer caller changed a) (h.closes a) := by
  have hheld : h.held = h.owned := held_idle (by rw [hpc]; rfl)
  unfold closes refreshAnswer
  rw [hpc]
  cases a with
  | bytes bs =>
    dsimp only
    split
    · intro fd
      rw [hheld]
      exact applyHotplug_gives { h with monitorBuffer := [] } _ (.drain caller changed) fd
    · exact .of_held ((held_idle rfl).trans hheld.symm)
  | again => exact .of_held ((afterRefresh_held ..).trans hheld.symm)
  | ended =>
    intro fd
    rw [hheld]
    exact monitorLost_gives h caller _ fd
  | failed e =>
    intro fd
    rw [hheld]
    exact monitorLost_gives h caller _ fd
  | connected _ | accepted _ | done | intr => exact .of_held rfl

theorem eventAnswer_gives {reports : Nat} (hpc : h.pc = .eventRecv reports) (a : SysAnswer) :
    h.Gives (h.eventAnswer reports a) (h.closes a) := by
  have hheld : h.held = h.owned := held_idle (by rw [hpc]; rfl)
  have hclose : ∀ result, h.Gives (h.closeEventStream.updateReturns result) h.eventFd.toList := by
    intro result fd
    rw [hheld]
    refine (closeEventStream_owned h fd).trans ?_
    rw [held_idle (h := h.closeEventStream.updateReturns result) rfl]
    rfl
  unfold closes eventAnswer
  rw [hpc]
  cases a with
  | bytes bs =>
    dsimp only
    split
    · exact .of_held ((held_idle rfl).trans hheld.symm)
    · exact .of_held ((held_idle rfl).trans hheld.symm)
  | again => exact .of_held ((held_idle (h := h.updateReturns reports) rfl).trans hheld.symm)
  | ended => exact hclose _
  | failed e => exact hclose _
  | connected _ | accepted _ | done | intr => exact .of_held rfl

/-- A connection is opened only where the handle has none for that purpose: the whole call long. -/
def Expects (h : Handle) : Prop :=
  match h.pc with
  | .connect t | .send (.opening t _) _ | .poll (.opening t _) _ | .receive t _ _
  | .setNonblock t _ _ => h.Vacant t
  | _ => True

theorem Landed.expects (hl : h.Landed) : h.Expects := by
  unfold Landed at hl
  unfold Expects
  split <;> simp_all

theorem sendFailed_expects (h : Handle) (site : SendSite) (e : Errno) :
    (h.sendFailed site e).Expects := by
  cases site with
  | opening t fd => exact (openFailed_landed h t e).expects
  | control => trivial

theorem sendAnswer_expects {site : SendSite} {unsent : List UInt8} (hpc : h.pc = .send site unsent)
    (he : h.Expects) (a : SysAnswer) : (h.sendAnswer site unsent a).Expects := by
  unfold sendAnswer
  cases a with
  | accepted n =>
    dsimp only
    cases site with
    | opening t fd =>
      have hv : h.Vacant t := by rwa [Expects, hpc] at he
      split
      · exact Peer.vacant_same hv rfl rfl
      · exact Peer.vacant_same hv rfl rfl
    | control => split <;> trivial
  | again =>
    cases site with
    | opening t fd =>
      have hv : h.Vacant t := by rwa [Expects, hpc] at he
      exact Peer.vacant_same hv rfl rfl
    | control => trivial
  | ended => exact sendFailed_expects h site epipe
  | failed e => exact sendFailed_expects h site e
  | connected _ | bytes _ | done | intr => exact he

theorem pollAnswer_expects {site : SendSite} {unsent : List UInt8} (hpc : h.pc = .poll site unsent)
    (he : h.Expects) (a : SysAnswer) : (h.pollAnswer site unsent a).Expects := by
  unfold pollAnswer
  cases a with
  | done =>
    cases site with
    | opening t fd =>
      have hv : h.Vacant t := by rwa [Expects, hpc] at he
      exact Peer.vacant_same hv rfl rfl
    | control => trivial
  | again => exact sendFailed_expects h site eagain
  | failed e => exact sendFailed_expects h site e
  | connected _ | bytes _ | accepted _ | ended | intr => exact he

theorem receiveAnswer_expects {t : Task} {fd : Nat} {got : List UInt8}
    (hpc : h.pc = .receive t fd got) (he : h.Expects) (a : SysAnswer) :
    (h.receiveAnswer t fd got a).Expects := by
  have hv : h.Vacant t := by rwa [Expects, hpc] at he
  unfold receiveAnswer
  cases a with
  | bytes bs =>
    dsimp only
    split
    · unfold received
      cases t with
      | monitor caller => exact Peer.vacant_same hv rfl rfl
      | stream site =>
        dsimp only
        split
        · exact Peer.vacant_same hv rfl rfl
        · exact (openFailed_landed ..).expects
    · exact Peer.vacant_same hv rfl rfl
  | ended => exact (openFailed_landed ..).expects
  | again => exact (openFailed_landed ..).expects
  | failed e => exact (openFailed_landed ..).expects
  | connected _ | accepted _ | done | intr => exact he

theorem answer_expects (he : h.Expects) (a : SysAnswer) : (h.answer a).Expects := by
  unfold answer
  split
  · exact he
  · next t hpc =>
    have hv : h.Vacant t := by rwa [Expects, hpc] at he
    cases a with
    | connected fd => exact Peer.vacant_same hv rfl rfl
    | failed e => exact (openFailed_landed h t e).expects
    | bytes _ | accepted _ | ended | done | intr | again => exact he
  · next hpc => exact sendAnswer_expects hpc he a
  · next hpc => exact pollAnswer_expects hpc he a
  · next hpc => exact receiveAnswer_expects hpc he a
  · next t fd got hpc =>
    cases a with
    | done =>
      cases t with
      | monitor caller => exact (applyHotplug_landed _ _ (.monitor caller)).expects
      | stream site => exact (streamReturned_landed _ site).expects
    | failed e => exact (openFailed_landed h t e).expects
    | connected _ | bytes _ | accepted _ | ended | again | intr => exact he
  · next caller changed hpc =>
    cases a with
    | bytes bs =>
      unfold refreshAnswer
      dsimp only
      split
      · exact (applyHotplug_landed _ _ (.drain caller changed)).expects
      · rw [Expects]
        trivial
    | again => exact (afterRefresh_landed h caller _).expects
    | ended => exact (monitorLost_landed h caller _).expects
    | failed e => exact (monitorLost_landed h caller _).expects
    | connected _ | accepted _ | done | intr => exact he
  · next reports hpc =>
    cases a with
    | bytes bs =>
      unfold eventAnswer
      dsimp only
      split
      · trivial
      · rw [Expects]
        trivial
    | again => trivial
    | ended => trivial
    | failed e => trivial
    | connected _ | accepted _ | done | intr => exact he

/-- **One result of a system call**: what the handle held and what `connect` hands out is closed or
    held after it. -/
theorem answer_balance (he : h.Expects) (a : SysAnswer) (fd : Nat) :
    h.held.count fd + (h.connects a).count fd =
      (h.closes a).count fd + (h.answer a).held.count fd := by
  have hnone : (∀ t, h.pc ≠ .connect t) → h.connects a = [] := by
    intro hno
    unfold connects
    split
    · next t _ hpc => exact absurd hpc (hno t)
    · rfl
  unfold answer
  split
  · next hpc =>
    rw [hnone (by rw [hpc]; exact nofun)]
    unfold closes
    rw [hpc, List.count_nil, Nat.add_zero, Nat.zero_add]
  · next t hpc =>
    have hheld : h.held = h.owned := held_idle (by rw [hpc]; rfl)
    unfold closes connects
    rw [hpc, hheld]
    cases a with
    | connected c => exact (List.count_append ..).symm.trans (Nat.zero_add _).symm
    | failed e =>
      show h.owned.count fd + 0 = 0 + (h.openFailed t e).held.count fd
      rw [openFailed_held]
      omega
    | bytes _ | accepted _ | ended | done | intr | again =>
      show h.owned.count fd + 0 = 0 + h.held.count fd
      rw [hheld]
      omega
  · next hpc =>
    rw [hnone (by rw [hpc]; exact nofun)]
    exact sendAnswer_gives hpc a fd
  · next hpc =>
    rw [hnone (by rw [hpc]; exact nofun)]
    exact pollAnswer_gives hpc a fd
  · next hpc =>
    rw [hnone (by rw [hpc]; exact nofun)]
    exact receiveAnswer_gives hpc a fd
  · next t c got hpc =>
    have hv : h.Vacant t := by rwa [Expects, hpc] at he
    rw [hnone (by rw [hpc]; exact nofun)]
    exact setNonblockAnswer_gives hpc hv a fd
  · next hpc =>
    rw [hnone (by rw [hpc]; exact nofun)]
    exact refreshAnswer_gives hpc a fd
  · next hpc =>
    rw [hnone (by rw [hpc]; exact nofun)]
    exact eventAnswer_gives hpc a fd

end Handle

/-! ## 4. The account of a lifetime -/

namespace Lifetime

variable {l : Lifetime}

/-- Everything handed out is closed or held, and a connection is opened only where there is none. -/
structure Balanced (l : Lifetime) : Prop where
  account : ∀ fd, l.connected.count fd = l.closed.count fd + l.held.count fd
  expects : ∀ h, l.life = .living h → h.Expects

/-- A refresh, up to its first system call. -/
theorem refresh_held {h : Handle} (hidle : h.pc = .idle) (caller : Caller) :
    (h.refresh caller).held = h.held ∧ (h.refresh caller).Expects := by
  have hheld : h.held = h.owned := Handle.held_idle (by rw [hidle]; rfl)
  unfold Handle.refresh
  dsimp only
  split
  · next hnone =>
    exact ⟨(Handle.held_idle rfl).trans hheld.symm, Option.isNone_iff_eq_none.mp hnone⟩
  · exact ⟨(Handle.held_idle rfl).trans hheld.symm, trivial⟩

/-- A rumble call, up to its first system call. -/
theorem sendControl_held {h : Handle} (hidle : h.pc = .idle) (command low high : UInt16)
    (durationMs : UInt32) :
    (h.sendControl command low high durationMs).held = h.held ∧
      (h.sendControl command low high durationMs).Expects := by
  have hheld : h.held = h.owned := Handle.held_idle (by rw [hidle]; rfl)
  unfold Handle.sendControl
  split
  · exact ⟨(Handle.held_idle rfl).trans hheld.symm, trivial⟩
  · exact ⟨(Handle.held_idle rfl).trans hheld.symm, trivial⟩

/-- The calls of the application keep what is held. -/
theorem call_held {h : Handle} (he : h.Expects) (inp : Handle.Input) (hcall : ∀ a, inp ≠ .answer a) :
    (h.step inp).held = h.held ∧ (h.step inp).Expects := by
  unfold Handle.step
  cases inp with
  | refresh =>
    dsimp only
    split
    · next hidle => exact refresh_held hidle .application
    · exact ⟨rfl, he⟩
  | update =>
    dsimp only
    split
    · next hidle => exact refresh_held hidle .update
    · exact ⟨rfl, he⟩
  | rumble low high durationMs =>
    dsimp only
    split
    · next hidle =>
      unfold Handle.rumble Handle.stopRumble
      split
      · exact sendControl_held hidle ..
      · exact sendControl_held hidle ..
    · exact ⟨rfl, he⟩
  | stopRumble =>
    dsimp only
    split
    · next hidle => exact sendControl_held hidle ..
    · exact ⟨rfl, he⟩
  | answer a => exact absurd rfl (hcall a)

theorem Balanced.move (h : l.Balanced) {life : Life} (hheld : Lifetime.held { l with life := life } = l.held)
    (hexpects : ∀ h, life = .living h → h.Expects) : Balanced { l with life := life } where
  account fd := by
    rw [hheld]
    exact h.account fd
  expects := hexpects

/-- **The end**: both connections are closed. -/
theorem Balanced.free (h : l.Balanced) {g : Handle} (hheld : l.held = g.owned) :
    (l.free g).Balanced where
  account fd := by
    show l.connected.count fd = (l.closed ++ g.eventFd.toList ++ g.monitorFd.toList).count fd + 0
    rw [h.account fd, hheld]
    rw [Handle.owned, List.count_append, List.count_append, List.count_append]
    omega
  expects _ hlife := by cases hlife

theorem stopAnswer_balanced (h : l.Balanced) {g : Handle} (hheld : l.held = g.owned)
    (unsent : List UInt8) (a : SysAnswer) : (l.stopAnswer g unsent a).Balanced := by
  unfold stopAnswer
  cases a with
  | accepted n =>
    dsimp only
    split
    · exact h.free hheld
    · exact h.move hheld.symm fun _ hlife => by cases hlife
  | again => exact h.move hheld.symm fun _ hlife => by cases hlife
  | ended => exact h.free hheld
  | failed e => exact h.free hheld
  | connected _ | bytes _ | done | intr => exact h

theorem waitAnswer_balanced (h : l.Balanced) {g : Handle} (hheld : l.held = g.owned)
    (unsent : List UInt8) (a : SysAnswer) : (l.waitAnswer g unsent a).Balanced := by
  unfold waitAnswer
  cases a with
  | done => exact h.move hheld.symm fun _ hlife => by cases hlife
  | again => exact h.free hheld
  | failed e => exact h.free hheld
  | connected _ | bytes _ | accepted _ | ended | intr => exact h

theorem step_balanced (h : l.Balanced) (inp : Input) : (l.step inp).Balanced := by
  unfold step
  split
  · next g a hlife =>
    refine ⟨fun fd => ?_, fun g' hg' => ?_⟩
    · have haccount := h.account fd
      have hstep := Handle.answer_balance (h.expects g hlife) a fd
      rw [held, hlife] at haccount
      show (l.connected ++ g.connects a).count fd =
        (l.closed ++ g.closes a).count fd + (g.answer a).held.count fd
      rw [List.count_append, List.count_append]
      dsimp only at haccount
      omega
    · cases hg'
      exact Handle.answer_expects (h.expects g hlife) a
  · next g inp hcall hlife =>
    obtain ⟨hheld, hexpects⟩ := call_held (h.expects g hlife) inp fun a ha => hcall a ha
    refine h.move ?_ fun g' hg' => ?_
    · rw [held, held, hlife]
      exact hheld
    · cases hg'
      exact hexpects
  · next g hlife =>
    split
    · next hidle =>
      have hheld : l.held = g.owned := by
        rw [held, hlife]
        exact Handle.held_idle (by rw [hidle]; rfl)
      unfold destroy
      dsimp only
      split
      · exact h.move hheld.symm fun _ hlife => by cases hlife
      · exact h.free hheld
    · exact h
  · next g unsent a hlife =>
    exact stopAnswer_balanced h (by rw [held, hlife]) unsent a
  · next g unsent a hlife =>
    exact waitAnswer_balanced h (by rw [held, hlife]) unsent a
  · exact h

theorem create_balanced : create.Balanced where
  account _ := rfl
  expects h hlife := by
    cases hlife
    exact rfl

/-- **No descriptor is leaked or closed twice**: at every moment of a lifetime, what `connect` handed
    out is what was closed and what the handle still holds; the descriptor an application is given
    to poll is one of the latter, and behind `termux_gamepad_destroy` nothing is left. -/
theorem descriptors_balance (inputs : List Input) :
    let l := run step create inputs
    l.connected.Perm (l.closed ++ l.held) ∧
      (∀ h fd, l.life = .living h → h.getFd = some fd → l.closed.count fd < l.connected.count fd) ∧
      (l.life = .freed → l.connected.Perm l.closed) := by
  have h : (run step create inputs).Balanced :=
    run_inv (P := Balanced) (fun _ inp hl => step_balanced hl inp) create_balanced inputs
  generalize run step create inputs = l at h
  dsimp only
  have hperm : l.connected.Perm (l.closed ++ l.held) :=
    List.perm_iff_count.mpr fun fd => by rw [List.count_append, h.account fd]
  refine ⟨hperm, fun g fd hlife hfd => ?_, fun hlife => ?_⟩
  · have hmem : fd ∈ l.held := by
      rw [held, hlife]
      refine List.mem_append_left _ (List.mem_append_right _ ?_)
      exact Option.mem_toList.mpr hfd
    have hpos := List.count_pos_iff.mpr hmem
    have haccount := h.account fd
    omega
  · have hnone : l.held = [] := by rw [held, hlife]
    rwa [hnone, List.append_nil] at hperm

end Lifetime

end TermuxGamepad
