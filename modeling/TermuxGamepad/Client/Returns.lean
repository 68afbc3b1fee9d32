/-
  File:      TermuxGamepad/Client/Returns.lean
  Subject:   What the ends of the library's calls leave alone.

  Between two system calls a handle often only returns from functions: `Carried` says that a
  return touches neither connection, neither buffer, the descriptor nor the state. Two operations
  do more: `apply_hotplug` and the loss of the monitor connection change the descriptor and close
  the event stream. `Rests` is what both kinds leave of an event stream: it is closed, or as it
  was, and no update has returned.
-/
import TermuxGamepad.Client.Handle

namespace TermuxGamepad

open Wire

namespace Handle

/-- Connections, buffers, descriptor and state stay. An update returns only where no event stream
    is open, and a refresh with the descriptor there is. -/
structure Carried (h g : Handle) : Prop where
  monitorFd : g.monitorFd = h.monitorFd
  eventFd : g.eventFd = h.eventFd
  descriptor : g.descriptor = h.descriptor
  state : g.state = h.state
  monitorBuffer : g.monitorBuffer = h.monitorBuffer
  eventBuffer : g.eventBuffer = h.eventBuffer
  updates : h.eventFd ≠ none → g.updates = h.updates
  refreshes : ∃ rs, g.refreshes = h.refreshes ++ rs ∧ ∀ r ∈ rs, r.after = h.descriptor

/-- The event stream is closed, or it is as it was and no update has returned. -/
def Rests (h g : Handle) : Prop :=
  g.eventFd = none ∨ (g.eventFd = h.eventFd ∧ g.state = h.state ∧ g.eventBuffer = h.eventBuffer ∧
    g.updates = h.updates)

variable {h g k : Handle}

/-! ## 1. Returns -/

/-- No refresh has returned. -/
theorem none_returned (h : Handle) :
    ∃ rs, h.refreshes = h.refreshes ++ rs ∧ ∀ r ∈ rs, r.after = h.descriptor :=
  ⟨[], (List.append_nil _).symm, nofun⟩

theorem Carried.refl (h : Handle) : Carried h h :=
  ⟨rfl, rfl, rfl, rfl, rfl, rfl, fun _ => rfl, none_returned h⟩

theorem Carried.trans (hg : Carried h g) (hk : Carried g k) : Carried h k where
  monitorFd := hk.monitorFd.trans hg.monitorFd
  eventFd := hk.eventFd.trans hg.eventFd
  descriptor := hk.descriptor.trans hg.descriptor
  state := hk.state.trans hg.state
  monitorBuffer := hk.monitorBuffer.trans hg.monitorBuffer
  eventBuffer := hk.eventBuffer.trans hg.eventBuffer
  updates := fun hne => (hk.updates (by rw [hg.eventFd]; exact hne)).trans (hg.updates hne)
  refreshes := by
    obtain ⟨rs, hrs, hafter⟩ := hg.refreshes
    obtain ⟨rs', hrs', hafter'⟩ := hk.refreshes
    refine ⟨rs ++ rs', by rw [hrs', hrs, List.append_assoc], fun r hr => ?_⟩
    rcases List.mem_append.mp hr with hr | hr
    · exact hafter r hr
    · exact (hafter' r hr).trans hg.descriptor

theorem goto_carried (h : Handle) (pc : Pc) : Carried h { h with pc := pc } :=
  ⟨rfl, rfl, rfl, rfl, rfl, rfl, fun _ => rfl, none_returned h⟩

theorem controlReturns_carried (h : Handle) (result : Int) : Carried h (h.controlReturns result) :=
  ⟨rfl, rfl, rfl, rfl, rfl, rfl, fun _ => rfl, none_returned h⟩

theorem afterStream_carried (h : Handle) (refreshed : Int) : Carried h (h.afterStream refreshed) := by
  unfold afterStream
  split
  · rename_i hnone
    exact ⟨rfl, rfl, rfl, rfl, rfl, rfl,
      fun hne => absurd (Option.isNone_iff_eq_none.mp hnone) hne, none_returned h⟩
  · exact goto_carried h _

theorem afterRefresh_carried (h : Handle) (caller : Caller) (result : Int) :
    Carried h (h.afterRefresh caller result) := by
  have hlogged : Carried h
      { h with refreshes := h.refreshes ++ [⟨caller, result, h.entered, h.descriptor⟩] } :=
    ⟨rfl, rfl, rfl, rfl, rfl, rfl, fun _ => rfl, _, rfl, fun r hr => by
      rw [List.mem_singleton.mp hr]⟩
  unfold afterRefresh
  cases caller with
  | create => exact hlogged.trans (goto_carried _ _)
  | application => exact hlogged.trans (goto_carried _ _)
  | update =>
    dsimp only
    split
    · exact hlogged.trans (goto_carried _ _)
    · exact hlogged.trans (afterStream_carried _ _)

theorem applied_carried (h : Handle) (site : HotplugSite) (result : Int) :
    Carried h (h.applied site result) := by
  cases site with
  | monitor caller => exact afterRefresh_carried h caller result
  | drain caller changed =>
    unfold applied
    dsimp only
    split
    · exact afterRefresh_carried h caller result
    · exact goto_carried h _

theorem streamReturned_carried (h : Handle) (site : StreamSite) :
    Carried h (h.streamReturned site) := by
  cases site with
  | hotplug site => exact applied_carried h site 1
  | update refreshed => exact afterStream_carried h refreshed

theorem openFailed_carried (h : Handle) (t : Task) (e : Errno) : Carried h (h.openFailed t e) := by
  cases t with
  | monitor caller => exact afterRefresh_carried h caller _
  | stream site => exact streamReturned_carried h site

theorem connectAnswer_carried (h : Handle) (t : Task) (a : SysAnswer) :
    Carried h (h.connectAnswer t a) := by
  cases a with
  | connected fd => exact goto_carried h _
  | failed e => exact openFailed_carried h t e
  | _ => exact .refl h

theorem sendFailed_carried (h : Handle) (site : SendSite) (e : Errno) :
    Carried h (h.sendFailed site e) := by
  cases site with
  | opening t fd => exact openFailed_carried h t e
  | control => exact controlReturns_carried h _

theorem sendAnswer_carried (h : Handle) (site : SendSite) (unsent : List UInt8) (a : SysAnswer) :
    Carried h (h.sendAnswer site unsent a) := by
  cases a with
  | accepted n =>
    unfold sendAnswer
    dsimp only
    split
    · cases site with
      | opening t fd => exact goto_carried h _
      | control => exact controlReturns_carried h 0
    · exact goto_carried h _
  | again => exact goto_carried h _
  | ended => exact sendFailed_carried h site _
  | failed e => exact sendFailed_carried h site e
  | _ => exact .refl h

theorem pollAnswer_carried (h : Handle) (site : SendSite) (unsent : List UInt8) (a : SysAnswer) :
    Carried h (h.pollAnswer site unsent a) := by
  cases a with
  | done => exact goto_carried h _
  | again => exact sendFailed_carried h site _
  | failed e => exact sendFailed_carried h site e
  | _ => exact .refl h

theorem receiveAnswer_carried (h : Handle) (t : Task) (fd : Nat) (got : List UInt8)
    (a : SysAnswer) : Carried h (h.receiveAnswer t fd got a) := by
  cases a with
  | bytes bs =>
    unfold receiveAnswer
    dsimp only
    split
    · cases t with
      | monitor caller => exact goto_carried h _
      | stream site =>
        unfold received
        dsimp only
        split
        · exact goto_carried h _
        · exact openFailed_carried h _ _
    · exact goto_carried h _
  | ended => exact openFailed_carried h t _
  | again => exact openFailed_carried h t _
  | failed e => exact openFailed_carried h t e
  | _ => exact .refl h

theorem refresh_carried (h : Handle) (caller : Caller) : Carried h (h.refresh caller) := by
  unfold refresh
  dsimp only
  split <;> exact ⟨rfl, rfl, rfl, rfl, rfl, rfl, fun _ => rfl, none_returned h⟩

theorem sendControl_carried (h : Handle) (command low high : UInt16) (durationMs : UInt32) :
    Carried h (h.sendControl command low high durationMs) := by
  unfold sendControl
  split
  · exact controlReturns_carried h _
  · exact goto_carried h _

/-- A call of the application begins. -/
theorem call_carried (h : Handle) {inp : Input} (hinp : ∀ a, inp ≠ .answer a) :
    Carried h (h.step inp) := by
  unfold step
  cases inp with
  | refresh =>
    dsimp only
    split
    · exact refresh_carried h _
    · exact .refl h
  | update =>
    dsimp only
    split
    · exact refresh_carried h _
    · exact .refl h
  | rumble low high durationMs =>
    dsimp only
    split
    · unfold rumble
      split
      · exact sendControl_carried h ..
      · exact sendControl_carried h ..
    · exact .refl h
  | stopRumble =>
    dsimp only
    split
    · exact sendControl_carried h ..
    · exact .refl h
  | answer a => exact absurd rfl (hinp a)

/-! ## 2. The event stream -/

theorem Carried.rests (hg : Carried h g) : Rests h g := by
  cases hfd : h.eventFd with
  | none => exact Or.inl (hg.eventFd.trans hfd)
  | some fd =>
    exact Or.inr ⟨hg.eventFd, hg.state, hg.eventBuffer, hg.updates (by rw [hfd]; exact nofun)⟩

theorem Rests.trans (hg : Rests h g) (hk : Rests g k) : Rests h k := by
  rcases hk with hk | ⟨h1, h2, h3, h4⟩
  · exact Or.inl hk
  · rcases hg with hg | ⟨g1, g2, g3, g4⟩
    · exact Or.inl (h1.trans hg)
    · exact Or.inr ⟨h1.trans g1, h2.trans g2, h3.trans g3, h4.trans g4⟩

/-- The library's test on descriptors is equality. -/
theorem descriptorEqual_eq {a b : LibraryDescriptor} (ha : a.abiVersion = b.abiVersion)
    (hs : a.structSize = b.structSize) (h : descriptorEqual a b = true) : a = b := by
  unfold descriptorEqual at h
  simp only [Bool.and_eq_true, beq_iff_eq] at h
  obtain ⟨⟨⟨⟨⟨⟨hpresent, hcaps⟩, hmode⟩, hvendor⟩, hproduct⟩, hid⟩, hname⟩ := h
  cases a
  cases b
  simp only [LibraryDescriptor.mk.injEq]
  exact ⟨ha, hs, hpresent, hcaps, hmode, hvendor, hproduct, hid, LibraryName.ext_cString hname⟩

/-- **The inversion of `apply_hotplug`**: a malformed message and a known descriptor change
    nothing, a new one closes the event stream, and opens another where a device is there. -/
theorem applyHotplug_cases (h : Handle) (m : HotplugMessage) (site : HotplugSite) :
    (wellFormed m = false ∧ h.applyHotplug m site = h.applied site eproto.result) ∨
    (wellFormed m = true ∧ descriptorEqual h.descriptor (copyDescriptor m.descriptor) = true ∧
      h.applyHotplug m site = h.applied site 0) ∨
    (wellFormed m = true ∧ descriptorEqual h.descriptor (copyDescriptor m.descriptor) = false ∧
      (m.descriptor.present ≠ 0 ∧ h.applyHotplug m site =
          { { h with descriptor := copyDescriptor m.descriptor }.closeEventStream with
            pc := .connect (.stream (.hotplug site)) } ∨
        m.descriptor.present = 0 ∧ h.applyHotplug m site =
          { h with descriptor := copyDescriptor m.descriptor }.closeEventStream.applied site 1)) := by
  unfold applyHotplug
  cases hw : wellFormed m with
  | false => exact Or.inl ⟨rfl, rfl⟩
  | true =>
    rw [Bool.not_true, if_neg Bool.false_ne_true]
    dsimp only
    cases hd : descriptorEqual h.descriptor (copyDescriptor m.descriptor) with
    | true => exact Or.inr (Or.inl ⟨rfl, rfl, rfl⟩)
    | false =>
      refine Or.inr (Or.inr ⟨rfl, rfl, ?_⟩)
      by_cases hp : (copyDescriptor m.descriptor).present ≠ 0
      · exact Or.inl ⟨hp, by rw [if_neg Bool.false_ne_true, if_pos hp]⟩
      · refine Or.inr ⟨not_not.mp hp, ?_⟩
        rw [if_neg Bool.false_ne_true, if_neg hp]

theorem applyHotplug_rests (h : Handle) (m : HotplugMessage) (site : HotplugSite) :
    Rests h (h.applyHotplug m site) := by
  rcases applyHotplug_cases h m site with ⟨_, he⟩ | ⟨_, _, he⟩ | ⟨_, _, ⟨_, he⟩ | ⟨_, he⟩⟩ <;> rw [he]
  · exact (applied_carried h site _).rests
  · exact (applied_carried h site _).rests
  · exact Or.inl rfl
  · exact Or.inl ((applied_carried _ site 1).eventFd)

theorem monitorLost_rests (h : Handle) (caller : Caller) (result : Int) :
    Rests h (h.monitorLost caller result) := by
  unfold monitorLost
  dsimp only
  split
  · exact Or.inl (afterRefresh_carried _ caller 1).eventFd
  · have hlost : Rests h { h with monitorFd := none, monitorBuffer := [] } :=
      Or.inr ⟨rfl, rfl, rfl, rfl⟩
    exact hlost.trans (afterRefresh_carried _ caller result).rests

theorem refreshAnswer_rests (h : Handle) (caller : Caller) (changed : Bool) (a : SysAnswer) :
    Rests h (h.refreshAnswer caller changed a) := by
  have hbuffered : ∀ buffer, Rests h { h with monitorBuffer := buffer } := fun _ =>
    Or.inr ⟨rfl, rfl, rfl, rfl⟩
  cases a with
  | bytes bs =>
    unfold refreshAnswer
    dsimp only
    split
    · exact (hbuffered []).trans (applyHotplug_rests _ _ _)
    · exact hbuffered _
  | again => exact (afterRefresh_carried h caller _).rests
  | ended => exact monitorLost_rests h caller _
  | failed e => exact monitorLost_rests h caller _
  | _ => exact (Carried.refl h).rests

/-- An event stream that was just opened is at rest, and nothing of it is buffered. -/
theorem opened_stream (h : Handle) (site : StreamSite) (fd : Nat) (got : List UInt8) :
    Carried { h.closeEventStream with eventFd := some fd } (h.opened (.stream site) fd got) :=
  streamReturned_carried _ site

/-- The connection of the monitor is open; its first message is applied. -/
theorem opened_monitor_rests (h : Handle) (caller : Caller) (fd : Nat) (got : List UInt8) :
    Rests h (h.opened (.monitor caller) fd got) := by
  have hopen : Rests h { h with monitorFd := some fd, monitorBuffer := [] } :=
    Or.inr ⟨rfl, rfl, rfl, rfl⟩
  exact hopen.trans (applyHotplug_rests _ _ _)

end Handle

end TermuxGamepad
