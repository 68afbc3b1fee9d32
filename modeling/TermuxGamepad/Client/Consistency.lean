/-
  File:      TermuxGamepad/Client/Consistency.lean
  Subject:   What an application finds in a handle whenever no call of it is running.

  `Consistent` ties the two connections, the descriptor and the exposed state together. Inside a
  call it holds as well, and there the position says what the rest of the call relies on
  (`Placed`): an event stream is opened for a device that is present, a drain has its connection.
-/
import TermuxGamepad.Client.Refresh

namespace TermuxGamepad

open Wire

namespace Handle

/-! ## 1. The invariant -/

/-- **A consistent handle.** -/
structure Consistent (h : Handle) : Prop where
  stream : h.eventFd ≠ none → h.descriptor.present ≠ 0
  neutral : h.eventFd = none → h.state = LibraryState.reset
  monitor : h.monitorFd = none → h.descriptor.present = 0 ∧ h.eventFd = none
  monitorUsed : h.monitorBuffer.length < hotplugMessageCodec.size
  eventUsed : h.eventBuffer.length < inputEventCodec.size

/-- What a position in a call relies on. -/
def Placed (h : Handle) : Pc → Prop
  | .connect (.stream _) | .send (.opening (.stream _) _) _ | .poll (.opening (.stream _) _) _
  | .receive (.stream _) _ _ | .setNonblock (.stream _) _ _ => h.descriptor.present ≠ 0
  | .refreshRecv _ _ => h.monitorFd ≠ none
  | .eventRecv _ => h.eventFd ≠ none
  | _ => True

structure Settled (h : Handle) : Prop extends Consistent h where
  placed : h.Placed h.pc

variable {h g : Handle}

/-- The same handle, as far as consistency goes. -/
theorem Consistent.same (hc : h.Consistent) (hm : g.monitorFd = h.monitorFd)
    (he : g.eventFd = h.eventFd) (hd : g.descriptor = h.descriptor) (hs : g.state = h.state)
    (hmb : g.monitorBuffer = h.monitorBuffer) (heb : g.eventBuffer = h.eventBuffer) :
    g.Consistent where
  stream := by rw [he, hd]; exact hc.stream
  neutral := by rw [he, hs]; exact hc.neutral
  monitor := by rw [hm, he, hd]; exact hc.monitor
  monitorUsed := hmb ▸ hc.monitorUsed
  eventUsed := heb ▸ hc.eventUsed

theorem Consistent.goto (hc : h.Consistent) (pc : Pc) (hp : h.Placed pc) :
    Settled { h with pc := pc } where
  toConsistent := hc.same rfl rfl rfl rfl rfl rfl
  placed := hp

/-- A device that is present was announced on a monitor connection that is still open. -/
theorem Consistent.monitored (hc : h.Consistent) (hp : h.descriptor.present ≠ 0) :
    h.monitorFd ≠ none := fun hn => hp (hc.monitor hn).1

theorem closeEventStream_consistent (hm : h.monitorFd = none → h.descriptor.present = 0)
    (hused : h.monitorBuffer.length < hotplugMessageCodec.size) : h.closeEventStream.Consistent where
  stream := fun hne => absurd rfl hne
  neutral := fun _ => rfl
  monitor := fun hn => ⟨hm hn, rfl⟩
  monitorUsed := hused
  eventUsed := Nat.zero_lt_succ _

/-! ## 2. Returning from calls -/

theorem updateReturns_settled (hc : h.Consistent) (result : Int) :
    (h.updateReturns result).Settled :=
  ⟨hc.same rfl rfl rfl rfl rfl rfl, trivial⟩

theorem controlReturns_settled (hc : h.Consistent) (result : Int) :
    (h.controlReturns result).Settled :=
  ⟨hc.same rfl rfl rfl rfl rfl rfl, trivial⟩

theorem afterStream_settled (hc : h.Consistent) (refreshed : Int) :
    (h.afterStream refreshed).Settled := by
  unfold afterStream
  split
  · exact updateReturns_settled hc _
  · rename_i hopen
    exact hc.goto (.eventRecv 0) (by simpa [Placed] using hopen)

theorem afterRefresh_settled (hc : h.Consistent) (caller : Caller) (result : Int) :
    (h.afterRefresh caller result).Settled := by
  have hc' : ∀ rs, Consistent { h with refreshes := rs } := fun rs =>
    hc.same rfl rfl rfl rfl rfl rfl
  unfold afterRefresh
  cases caller with
  | create => exact (hc' _).goto .idle trivial
  | application => exact (hc' _).goto .idle trivial
  | update =>
    dsimp only
    split
    · rename_i hpresent
      exact ⟨hc.same rfl rfl rfl rfl rfl rfl, hpresent.2⟩
    · exact afterStream_settled (hc' _) result

/-- The monitor connection of a drain is open. -/
def HotplugSite.Open (h : Handle) : HotplugSite → Prop
  | .monitor _ => True
  | .drain _ _ => h.monitorFd ≠ none

theorem applied_settled (hc : h.Consistent) {site : HotplugSite} (hs : HotplugSite.Open h site)
    (result : Int) : (h.applied site result).Settled := by
  cases site with
  | monitor caller => exact afterRefresh_settled hc caller result
  | drain caller changed =>
    unfold applied
    dsimp only
    split
    · exact afterRefresh_settled hc caller result
    · exact hc.goto (.refreshRecv _ _) hs

theorem streamReturned_settled (hc : h.Consistent) (hp : h.descriptor.present ≠ 0)
    (site : StreamSite) : (h.streamReturned site).Settled := by
  cases site with
  | hotplug site =>
    refine applied_settled hc ?_ 1
    cases site with
    | monitor _ => trivial
    | drain _ _ => exact hc.monitored hp
  | update refreshed => exact afterStream_settled hc refreshed

/-- **`apply_hotplug`** closes the event stream of the device that was there. -/
theorem applyHotplug_settled (hc : h.Consistent) (hm : h.monitorFd ≠ none) (m : HotplugMessage)
    (site : HotplugSite) : (h.applyHotplug m site).Settled := by
  have hs : ∀ g : Handle, g.monitorFd = h.monitorFd → HotplugSite.Open g site := by
    intro g hg
    cases site with
    | monitor _ => trivial
    | drain _ _ => exact fun hn => hm (hg.symm.trans hn)
  unfold applyHotplug
  split
  · exact applied_settled hc (hs h rfl) _
  · dsimp only
    split
    · exact applied_settled hc (hs h rfl) _
    · have hclosed : Consistent
          { h with descriptor := copyDescriptor m.descriptor }.closeEventStream :=
        closeEventStream_consistent (h := { h with descriptor := copyDescriptor m.descriptor })
          (fun hn => absurd hn hm) hc.monitorUsed
      split
      · rename_i hp
        exact hclosed.goto (.connect (.stream (.hotplug site))) hp
      · exact applied_settled hclosed (hs _ rfl) _

/-! ## 3. Opening a connection -/

/-- What the opening of a connection relies on. -/
def Task.Ready (h : Handle) : Task → Prop
  | .monitor _ => True
  | .stream _ => h.descriptor.present ≠ 0

theorem openFailed_settled (hc : h.Consistent) {t : Task} (ht : Task.Ready h t) (e : Errno) :
    (h.openFailed t e).Settled := by
  cases t with
  | monitor caller => exact afterRefresh_settled hc caller _
  | stream site => exact streamReturned_settled hc ht site

theorem connectAnswer_settled (hs : h.Settled) {t : Task} (ht : Task.Ready h t) (a : SysAnswer) :
    (h.connectAnswer t a).Settled := by
  cases a with
  | connected fd => exact hs.toConsistent.goto _ (by cases t <;> exact ht)
  | failed e => exact openFailed_settled hs.toConsistent ht e
  | _ => exact hs

/-- What a `send_all` relies on. -/
def SendSite.Ready (h : Handle) : SendSite → Prop
  | .opening t _ => Task.Ready h t
  | .control => True

theorem sending_placed {site : SendSite} (ht : SendSite.Ready h site) (unsent : List UInt8) :
    h.Placed (.send site unsent) ∧ h.Placed (.poll site unsent) := by
  cases site with
  | opening t fd => cases t <;> exact ⟨ht, ht⟩
  | control => exact ⟨trivial, trivial⟩

theorem sendFailed_settled (hc : h.Consistent) {site : SendSite} (ht : SendSite.Ready h site)
    (e : Errno) : (h.sendFailed site e).Settled := by
  cases site with
  | opening t fd => exact openFailed_settled hc ht e
  | control => exact controlReturns_settled hc _

theorem sendAnswer_settled (hs : h.Settled) {site : SendSite} (ht : SendSite.Ready h site)
    (unsent : List UInt8) (a : SysAnswer) : (h.sendAnswer site unsent a).Settled := by
  have hc := hs.toConsistent
  cases a with
  | accepted n =>
    unfold sendAnswer
    dsimp only
    split
    · cases site with
      | opening t fd => exact hc.goto _ (by cases t <;> exact ht)
      | control => exact controlReturns_settled hc 0
    · exact hc.goto _ (sending_placed ht _).1
  | again => exact hc.goto _ (sending_placed ht _).2
  | ended => exact sendFailed_settled hc ht _
  | failed e => exact sendFailed_settled hc ht _
  | _ => exact hs

theorem pollAnswer_settled (hs : h.Settled) {site : SendSite} (ht : SendSite.Ready h site)
    (unsent : List UInt8) (a : SysAnswer) : (h.pollAnswer site unsent a).Settled := by
  have hc := hs.toConsistent
  cases a with
  | done => exact hc.goto _ (sending_placed ht _).1
  | again => exact sendFailed_settled hc ht _
  | failed e => exact sendFailed_settled hc ht _
  | _ => exact hs

theorem receiveAnswer_settled (hs : h.Settled) {t : Task} (ht : Task.Ready h t) (fd : Nat)
    (got : List UInt8) (a : SysAnswer) : (h.receiveAnswer t fd got a).Settled := by
  have hc := hs.toConsistent
  cases a with
  | bytes bs =>
    unfold receiveAnswer
    dsimp only
    split
    · cases t with
      | monitor caller => exact hc.goto (.setNonblock _ _ _) trivial
      | stream site =>
        unfold received
        dsimp only
        split
        · exact hc.goto (.setNonblock _ _ _) ht
        · exact openFailed_settled hc ht _
    · exact hc.goto _ (by cases t <;> exact ht)
  | ended => exact openFailed_settled hc ht _
  | again => exact openFailed_settled hc ht _
  | failed e => exact openFailed_settled hc ht _
  | _ => exact hs

/-- **A connection is open**: the monitor's with nothing buffered, the event stream's with the
    state at rest. -/
theorem opened_settled (hc : h.Consistent) {t : Task} (ht : Task.Ready h t) (fd : Nat)
    (got : List UInt8) : (h.opened t fd got).Settled := by
  cases t with
  | monitor caller =>
    refine applyHotplug_settled (h := { h with monitorFd := some fd, monitorBuffer := [] })
      ⟨hc.stream, hc.neutral, fun hn => ?_, ?_, hc.eventUsed⟩ ?_ _ _
    · cases hn
    · exact Nat.zero_lt_succ _
    · exact Option.some_ne_none fd
  | stream site =>
    refine streamReturned_settled (h := { h.closeEventStream with eventFd := some fd })
      ⟨fun _ => ht, fun hn => ?_, fun hn => ?_, hc.monitorUsed, ?_⟩ ht site
    · cases hn
    · exact absurd hn (hc.monitored ht)
    · exact Nat.zero_lt_succ _

theorem setNonblockAnswer_settled (hs : h.Settled) {t : Task} (ht : Task.Ready h t) (fd : Nat)
    (got : List UInt8) (a : SysAnswer) : (h.setNonblockAnswer t fd got a).Settled := by
  cases a with
  | done => exact opened_settled hs.toConsistent ht fd got
  | failed e => exact openFailed_settled hs.toConsistent ht e
  | _ => exact hs

/-! ## 4. Draining -/

theorem monitorLost_settled (hc : h.Consistent) (caller : Caller) (result : Int) :
    (h.monitorLost caller result).Settled := by
  unfold monitorLost
  dsimp only
  split
  · refine afterRefresh_settled ?_ caller 1
    exact closeEventStream_consistent (h := { h with
      monitorFd := none, monitorBuffer := [],
      descriptor := { h.descriptor with present := 0, deviceId := -1 } }) (fun _ => rfl) (Nat.zero_lt_succ _)
  · rename_i habsent
    have hgone : h.descriptor.present = 0 := not_not.mp habsent
    refine afterRefresh_settled (h := { h with monitorFd := none, monitorBuffer := [] })
      ⟨hc.stream, hc.neutral, fun _ => ⟨hgone, ?_⟩, Nat.zero_lt_succ _, hc.eventUsed⟩ caller _
    show h.eventFd = none
    by_contra hopen
    exact hc.stream hopen hgone

/-- A buffer that is filled up to a size and is not full has room. -/
theorem fill_lt {buffer bs : List UInt8} {size : Nat} (hlt : buffer.length < size)
    (hne : ¬(buffer ++ bs.take (size - buffer.length)).length = size) :
    (buffer ++ bs.take (size - buffer.length)).length < size := by
  simp only [List.length_append, List.length_take] at hne ⊢
  omega

theorem refreshAnswer_settled (hs : h.Settled) (hm : h.monitorFd ≠ none) (caller : Caller)
    (changed : Bool) (a : SysAnswer) : (h.refreshAnswer caller changed a).Settled := by
  have hc := hs.toConsistent
  cases a with
  | bytes bs =>
    unfold refreshAnswer
    dsimp only
    split
    · exact applyHotplug_settled (h := { h with monitorBuffer := [] })
        ⟨hc.stream, hc.neutral, hc.monitor, Nat.zero_lt_succ _, hc.eventUsed⟩ hm _ _
    · rename_i hne
      exact ⟨⟨hc.stream, hc.neutral, hc.monitor, fill_lt hc.monitorUsed hne, hc.eventUsed⟩,
        hs.placed⟩
  | again => exact afterRefresh_settled hc caller _
  | ended => exact monitorLost_settled hc caller _
  | failed e => exact monitorLost_settled hc caller _
  | _ => exact hs

theorem eventAnswer_settled (hs : h.Settled) (he : h.eventFd ≠ none) (reports : Nat)
    (a : SysAnswer) : (h.eventAnswer reports a).Settled := by
  have hc := hs.toConsistent
  have hclosed : h.closeEventStream.Consistent :=
    closeEventStream_consistent (fun hn => (hc.monitor hn).1) hc.monitorUsed
  cases a with
  | bytes bs =>
    unfold eventAnswer
    dsimp only
    split
    · exact ⟨⟨hc.stream, fun hn => absurd hn he, hc.monitor, hc.monitorUsed,
        Nat.zero_lt_succ _⟩, he⟩
    · rename_i hne
      exact ⟨⟨hc.stream, hc.neutral, hc.monitor, hc.monitorUsed, fill_lt hc.eventUsed hne⟩,
        hs.placed⟩
  | again => exact updateReturns_settled hc _
  | ended => exact updateReturns_settled hclosed _
  | failed e => exact updateReturns_settled hclosed _
  | _ => exact hs

/-! ## 5. Steps and runs -/

theorem refresh_settled (hc : h.Consistent) (caller : Caller) : (h.refresh caller).Settled := by
  have hc' : Consistent { h with entered := h.descriptor } := hc.same rfl rfl rfl rfl rfl rfl
  unfold refresh
  dsimp only
  split
  · exact hc'.goto (.connect (.monitor caller)) trivial
  · rename_i hopen
    exact hc'.goto (.refreshRecv caller false) (by simpa [Placed] using hopen)

theorem sendControl_settled (hc : h.Consistent) (command low high : UInt16) (durationMs : UInt32) :
    (h.sendControl command low high durationMs).Settled := by
  unfold sendControl
  split
  · exact controlReturns_settled hc _
  · exact hc.goto (.send .control _) trivial

theorem answer_settled (hs : h.Settled) (a : SysAnswer) : (h.answer a).Settled := by
  have hp := hs.placed
  unfold answer
  split
  · exact hs
  · rename_i t hpc
    rw [hpc] at hp
    exact connectAnswer_settled hs (by cases t <;> exact hp) a
  · rename_i site unsent hpc
    rw [hpc] at hp
    exact sendAnswer_settled hs (by rcases site with t | _; cases t <;> exact hp; trivial) unsent a
  · rename_i site unsent hpc
    rw [hpc] at hp
    exact pollAnswer_settled hs (by rcases site with t | _; cases t <;> exact hp; trivial) unsent a
  · rename_i t fd got hpc
    rw [hpc] at hp
    exact receiveAnswer_settled hs (by cases t <;> exact hp) fd got a
  · rename_i t fd got hpc
    rw [hpc] at hp
    exact setNonblockAnswer_settled hs (by cases t <;> exact hp) fd got a
  · rename_i caller changed hpc
    rw [hpc] at hp
    exact refreshAnswer_settled hs hp caller changed a
  · rename_i reports hpc
    rw [hpc] at hp
    exact eventAnswer_settled hs hp reports a

/-- **One step** keeps the handle consistent, whatever a system call returns. -/
theorem step_settled (hs : h.Settled) (inp : Input) : (h.step inp).Settled := by
  cases inp with
  | refresh =>
    show (if h.pc = .idle then h.refresh .application else h).Settled
    split
    · exact refresh_settled hs.toConsistent _
    · exact hs
  | update =>
    show (if h.pc = .idle then h.refresh .update else h).Settled
    split
    · exact refresh_settled hs.toConsistent _
    · exact hs
  | rumble low high durationMs =>
    show (if h.pc = .idle then h.rumble low high durationMs else h).Settled
    split
    · unfold rumble
      split
      · exact sendControl_settled hs.toConsistent ..
      · exact sendControl_settled hs.toConsistent ..
    · exact hs
  | stopRumble =>
    show (if h.pc = .idle then h.stopRumble else h).Settled
    split
    · exact sendControl_settled hs.toConsistent ..
    · exact hs
  | answer a => exact answer_settled hs a

theorem create_settled : create.Settled where
  stream := fun hne => absurd rfl hne
  neutral := fun _ => rfl
  monitor := fun _ => ⟨rfl, rfl⟩
  monitorUsed := by decide
  eventUsed := by decide
  placed := trivial

/-- **The handle is consistent at every return**: after any calls, with any results of the system
    calls in them. -/
theorem consistent_at_return (inputs : List Input) (_ : (run step create inputs).pc = .idle) :
    (run step create inputs).Consistent :=
  (run_inv (P := Settled) (fun _ inp hs => step_settled hs inp) create_settled inputs).toConsistent

/-- A device is there, its stream is opened, a rumble call is sent in two parts. -/
def padSession : List Input :=
  [.answer (.connected 1), .answer (.accepted 15),
    .answer (.bytes (hotplugMessageCodec.enc (hotplugOf 1 5))), .answer .done,
    .answer (.connected 2), .answer (.accepted 15),
    .answer (.bytes (deviceDescriptorCodec.enc (hotplugOf 1 5).descriptor)), .answer .done,
    .rumble 100 200 50, .answer (.accepted 3), .answer .again, .answer .done,
    .answer (.accepted 11)]

theorem consistent_at_return_session :
    (run step create padSession).Consistent ∧ (run step create padSession).eventFd = some 2 :=
  ⟨consistent_at_return padSession (by decide +kernel), by decide +kernel⟩

end Handle

end TermuxGamepad
