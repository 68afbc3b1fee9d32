/-
  File:      TermuxGamepad/Client/Refresh.lean
  Subject:   What the results of `termux_gamepad_refresh` tell the application.

  The change flag is a local of the refresh. It reaches the application through every return
  but two: a malformed message in the middle of a drain, and an error of `recv` while no device
  is present, return an error and drop it. `DrainWatch` runs a handle together with the messages
  it received since a refresh returned. A step is `Clean` if it is no such return behind a message
  with another descriptor than the application knew; along runs of clean steps, and no others,
  nothing is lost (`refresh_tells_iff`).
-/
import TermuxGamepad.Client.Returns
import TermuxGamepad.Lib.Slots

namespace TermuxGamepad

open Wire

/-! ## 1. What the application is promised -/

/-- What the refresh around a call of `apply_hotplug` has announced already. -/
def HotplugSite.changed : HotplugSite → Bool
  | .monitor _ => false
  | .drain _ changed => changed

namespace Handle

/-- What the returned refreshes promise: a descriptor that differs between two of them was
    announced by the later one or by one in between, and an error left it alone. -/
structure Promised (h : Handle) : Prop where
  noticed : ∀ xs r ys r' zs, h.refreshes = xs ++ r :: (ys ++ r' :: zs) → r'.after ≠ r.after →
    ∃ s ∈ ys ++ [r'], s.result = 1
  kept : ∀ r ∈ h.refreshes, r.result < 0 → r.after = r.before

/-- The bytes complete a message in the buffer of the monitor connection. -/
def completed (h : Handle) (bs : List UInt8) : Option HotplugMessage :=
  let buffer := h.monitorBuffer ++ bs.take (hotplugMessageCodec.size - h.monitorBuffer.length)
  if buffer.length = hotplugMessageCodec.size then some (hotplugMessageCodec.dec buffer) else none

/-- The two results of `recv` that end a drain with an error. -/
inductive Breaks (h : Handle) : Input → Prop where
  | malformed (bs : List UInt8) (m : HotplugMessage) (hm : h.completed bs = some m)
      (hbad : wellFormed m = false) : Breaks h (.answer (.bytes bs))
  | failed (e : Errno) (habsent : h.descriptor.present = 0) : Breaks h (.answer (.failed e))

/-- A step that ends no drain with an error after the descriptor has changed in it. -/
def Harmless (h : Handle) (inp : Input) : Prop :=
  ∀ caller changed, h.pc = .refreshRecv caller changed → h.Breaks inp → h.descriptor = h.entered

/-! ## 2. Histories of refreshes -/

/-- Each refresh starts from the descriptor the one before it left. -/
def Linked (d : LibraryDescriptor) : List Refreshed → LibraryDescriptor → Prop
  | [], d' => d = d'
  | r :: rs, d' => r.before = d ∧ Linked r.after rs d'

theorem Linked.concat {d d' : LibraryDescriptor} {rs : List Refreshed} (h : Linked d rs d')
    {r : Refreshed} (hr : r.before = d') : Linked d (rs ++ [r]) r.after := by
  induction rs generalizing d with
  | nil => exact ⟨hr.trans h.symm, rfl⟩
  | cons s rs ih => exact ⟨h.1, ih h.2⟩

/-- A linked history ends with what the last refresh left. -/
theorem Linked.last {d d' : LibraryDescriptor} {rs : List Refreshed} (h : Linked d rs d') :
    d' = rs.getLast?.elim d Refreshed.after := by
  induction rs generalizing d with
  | nil => exact h.symm
  | cons r rs ih =>
    rw [ih h.2]
    cases rs with
    | nil => rfl
    | cons r' rs =>
      rw [List.getLast?_cons_cons, List.getLast?_eq_some_getLast (List.cons_ne_nil r' rs)]
      rfl

theorem Linked.split {d d' : LibraryDescriptor} {xs ys : List Refreshed}
    (h : Linked d (xs ++ ys) d') : ∃ e, Linked d xs e ∧ Linked e ys d' := by
  induction xs generalizing d with
  | nil => exact ⟨d, rfl, h⟩
  | cons r xs ih =>
    obtain ⟨e, he, hys⟩ := ih h.2
    exact ⟨e, ⟨h.1, he⟩, hys⟩

/-- A refresh that does not announce a change makes none. -/
def Honest (r : Refreshed) : Prop := r.result ≠ 1 → r.after = r.before

/-- Without an announcement a linked history of honest refreshes ends where it began. -/
theorem Linked.unchanged {d d' : LibraryDescriptor} {rs : List Refreshed} (h : Linked d rs d')
    (hhonest : ∀ r ∈ rs, Honest r) (hquiet : ∀ r ∈ rs, r.result ≠ 1) : d' = d := by
  induction rs generalizing d with
  | nil => exact h.symm
  | cons r rs ih =>
    have hr := hhonest r List.mem_cons_self (hquiet r List.mem_cons_self)
    rw [ih h.2 (fun s hs => hhonest s (List.mem_cons_of_mem _ hs))
      (fun s hs => hquiet s (List.mem_cons_of_mem _ hs)), hr, h.1]

/-- **The promise, from the history**: linked and honest refreshes keep it. -/
theorem promised_of_history {h : Handle} {d d' : LibraryDescriptor}
    (hl : Linked d h.refreshes d') (hh : ∀ r ∈ h.refreshes, Honest r) : h.Promised where
  noticed := by
    intro xs r ys r' zs hrs hne
    by_contra hnone
    have hquiet : ∀ s ∈ ys ++ [r'], s.result ≠ 1 := fun s hs h1 => hnone ⟨s, hs, h1⟩
    have hrs' : h.refreshes = (xs ++ [r]) ++ ((ys ++ [r']) ++ zs) := by simp [hrs]
    rw [hrs'] at hl
    obtain ⟨e, hbefore, hrest⟩ := hl.split
    obtain ⟨e', hmid, _⟩ := hrest.split
    have hr : e = r.after := by
      obtain ⟨_, _, hlast⟩ := hbefore.split
      exact hlast.2.symm
    have hr' : e' = r'.after := by
      obtain ⟨_, _, hlast⟩ := hmid.split
      exact hlast.2.symm
    have hmem : ∀ s ∈ ys ++ [r'], s ∈ h.refreshes := by
      intro s hs
      rw [hrs']
      exact List.mem_append_right _ (List.mem_append_left _ hs)
    exact hne (hr' ▸ hr ▸ hmid.unchanged (fun s hs => hh s (hmem s hs)) hquiet)
  kept := fun r hr hneg => hh r hr (by omega)

/-! ## 3. Inside a refresh -/

/-- Whether the running refresh will announce a change if it meets no error; `none` where no
    refresh is running. -/
def announcing : Pc → Option Bool
  | .idle | .eventRecv _ | .send .control _ | .poll .control _ => none
  | .connect t | .send (.opening t _) _ | .poll (.opening t _) _ | .receive t _ _
  | .setNonblock t _ _ =>
    match t with
    | .monitor _ => some false
    | .stream (.hotplug _) => some true
    | .stream (.update _) => none
  | .refreshRecv _ changed => some changed

/-- **The invariant**: the history is linked and honest, it ends where the running refresh began,
    and what that one has changed it is going to announce. -/
structure Told (h : Handle) : Prop where
  honest : ∀ r ∈ h.refreshes, Honest r
  between : announcing h.pc = none → Linked LibraryDescriptor.initial h.refreshes h.descriptor
  during : ∀ announced, announcing h.pc = some announced →
    Linked LibraryDescriptor.initial h.refreshes h.entered ∧
      (announced = false → h.descriptor = h.entered)

theorem Told.promised {h : Handle} (ht : h.Told) : h.Promised := by
  cases ha : announcing h.pc with
  | none => exact promised_of_history (ht.between ha) ht.honest
  | some announced => exact promised_of_history (ht.during announced ha).1 ht.honest

/-- A refresh is running: the history ends where it began. -/
structure Running (h : Handle) : Prop where
  honest : ∀ r ∈ h.refreshes, Honest r
  linked : Linked LibraryDescriptor.initial h.refreshes h.entered

theorem Told.running {h : Handle} (ht : h.Told) {announced : Bool}
    (ha : announcing h.pc = some announced) : h.Running :=
  ⟨ht.honest, (ht.during announced ha).1⟩

theorem Told.ofRunning {h : Handle} {pc : Pc} {announced : Bool} (hr : h.Running)
    (ha : announcing pc = some announced) (hd : announced = false → h.descriptor = h.entered) :
    Told { h with pc := pc } where
  honest := hr.honest
  between := fun hn => by rw [show announcing pc = none from hn] at ha; cases ha
  during := fun a hpc => by
    obtain rfl : announced = a := Option.some.inj (ha.symm.trans hpc)
    exact ⟨hr.linked, hd⟩

theorem Told.ofBetween {h : Handle} {pc : Pc} (hh : ∀ r ∈ h.refreshes, Honest r)
    (hl : Linked LibraryDescriptor.initial h.refreshes h.descriptor) (ha : announcing pc = none) :
    Told { h with pc := pc } where
  honest := hh
  between := fun _ => hl
  during := fun a hpc => by rw [show announcing pc = some a from hpc] at ha; cases ha

theorem afterStream_told {h : Handle} (refreshed : Int) (hh : ∀ r ∈ h.refreshes, Honest r)
    (hl : Linked LibraryDescriptor.initial h.refreshes h.descriptor) :
    (h.afterStream refreshed).Told := by
  unfold afterStream updateReturns
  split
  · exact ⟨hh, fun _ => hl, fun a ha => by cases ha⟩
  · exact Told.ofBetween hh hl rfl

theorem afterRefresh_refreshes (h : Handle) (caller : Caller) (result : Int) :
    (h.afterRefresh caller result).refreshes =
      h.refreshes ++ [⟨caller, result, h.entered, h.descriptor⟩] := by
  unfold afterRefresh afterStream updateReturns
  cases caller with
  | create => rfl
  | application => rfl
  | update =>
    dsimp only
    split
    · rfl
    · split <;> rfl

/-- **A refresh returns**: with 1, or with the descriptor it began with. -/
theorem afterRefresh_told {h : Handle} (hr : h.Running) (caller : Caller) {result : Int}
    (hd : result ≠ 1 → h.descriptor = h.entered) : (h.afterRefresh caller result).Told := by
  have hh : ∀ r ∈ h.refreshes ++ [(⟨caller, result, h.entered, h.descriptor⟩ : Refreshed)],
      Honest r := by
    intro r hmem
    rcases List.mem_append.mp hmem with hmem | hmem
    · exact hr.honest r hmem
    · rw [List.mem_singleton.mp hmem]
      exact hd
  have hl := hr.linked.concat (r := ⟨caller, result, h.entered, h.descriptor⟩) rfl
  unfold afterRefresh
  cases caller with
  | create => exact Told.ofBetween (h := { h with refreshes := _ }) hh hl rfl
  | application => exact Told.ofBetween (h := { h with refreshes := _ }) hh hl rfl
  | update =>
    dsimp only
    split
    · exact Told.ofBetween (h := { h with refreshes := _ }) hh hl rfl
    · exact afterStream_told (h := { h with refreshes := _ }) result hh hl

/-- `apply_hotplug` returns: 1 after a change, 0 without one, an error with none so far. -/
theorem applied_told {h : Handle} (hr : h.Running) (site : HotplugSite) {result : Int}
    (hneg : result < 0 → h.descriptor = h.entered)
    (hzero : result = 0 → site.changed = false → h.descriptor = h.entered) (hle : result ≤ 1) :
    (h.applied site result).Told := by
  cases site with
  | monitor caller =>
    refine afterRefresh_told hr caller fun hne => ?_
    rcases lt_or_eq_of_le (show result ≤ 0 by omega) with h | h
    · exact hneg h
    · exact hzero h rfl
  | drain caller changed =>
    unfold applied
    dsimp only
    split
    · rename_i hlt
      exact afterRefresh_told hr caller fun _ => hneg hlt
    · refine Told.ofRunning hr rfl fun hfalse => ?_
      obtain ⟨hc, hpos⟩ := Bool.or_eq_false_iff.mp hfalse
      exact hzero (by simp at hpos; omega) hc

/-! ## 4. Opening a connection -/

/-- The handle is in one of the system calls of a task. -/
def Doing (h : Handle) (t : Task) : Prop := announcing h.pc = announcing (.connect t)

/-- Another system call of the same task. -/
theorem Told.task {h : Handle} (ht : h.Told) {t : Task} (hd : h.Doing t) {pc : Pc}
    (hpc : announcing pc = announcing (.connect t)) : Told { h with pc := pc } :=
  ⟨ht.honest, fun hn => ht.between (hd.trans (hpc.symm.trans hn)),
    fun a ha => ht.during a (hd.trans (hpc.symm.trans ha))⟩

theorem streamReturned_told {h : Handle} (ht : h.Told) {site : StreamSite}
    (hd : h.Doing (.stream site)) : (h.streamReturned site).Told := by
  cases site with
  | hotplug site =>
    have hr : h.Running := ht.running hd
    exact applied_told hr site (fun h => by omega) (fun h => by omega) le_rfl
  | update refreshed => exact afterStream_told refreshed ht.honest (ht.between hd)

theorem openFailed_told {h : Handle} (ht : h.Told) {t : Task} (hd : h.Doing t) (e : Errno) :
    (h.openFailed t e).Told := by
  cases t with
  | monitor caller => exact afterRefresh_told (ht.running hd) caller fun _ => (ht.during _ hd).2 rfl
  | stream site => exact streamReturned_told ht hd

theorem connectAnswer_told {h : Handle} (ht : h.Told) {t : Task} (hd : h.Doing t)
    (a : SysAnswer) : (h.connectAnswer t a).Told := by
  cases a <;> first
    | exact ht
    | exact openFailed_told ht hd _
    | exact ht.task hd rfl

theorem controlReturns_told {h : Handle} (ht : h.Told) (hn : announcing h.pc = none)
    (result : Int) : (h.controlReturns result).Told :=
  ⟨ht.honest, fun _ => ht.between hn, fun a ha => by cases ha⟩

theorem sendFailed_told {h : Handle} (ht : h.Told) {site : SendSite} {unsent : List UInt8}
    (hd : announcing h.pc = announcing (.send site unsent)) (e : Errno) :
    (h.sendFailed site e).Told := by
  cases site with
  | opening t fd => exact openFailed_told ht hd e
  | control => exact controlReturns_told ht hd _

theorem sendDone_told {h : Handle} (ht : h.Told) {site : SendSite} {unsent : List UInt8}
    (hd : announcing h.pc = announcing (.send site unsent)) : (h.sendDone site).Told := by
  cases site with
  | opening t fd => exact ht.task (t := t) hd rfl
  | control => exact controlReturns_told ht hd 0

/-- Another system call of the same `send_all`. -/
theorem Told.sending {h : Handle} (ht : h.Told) {pc : Pc} (hpc : announcing h.pc = announcing pc) :
    Told { h with pc := pc } :=
  ⟨ht.honest, fun hn => ht.between (hpc.trans hn), fun a ha => ht.during a (hpc.trans ha)⟩

theorem sendAnswer_told {h : Handle} (ht : h.Told) {site : SendSite} {unsent : List UInt8}
    (hd : announcing h.pc = announcing (.send site unsent)) (a : SysAnswer) :
    (h.sendAnswer site unsent a).Told := by
  have hnext : ∀ rest, announcing h.pc = announcing (.send site rest) := fun rest =>
    hd.trans (by cases site <;> rfl)
  cases a with
  | accepted n =>
    unfold sendAnswer
    dsimp only
    split
    · exact sendDone_told ht hd
    · exact ht.sending (hnext _)
  | again => exact ht.sending (hd.trans (by cases site <;> rfl))
  | ended => exact sendFailed_told ht hd _
  | failed e => exact sendFailed_told ht hd _
  | _ => exact ht

theorem pollAnswer_told {h : Handle} (ht : h.Told) {site : SendSite} {unsent : List UInt8}
    (hd : announcing h.pc = announcing (.send site unsent)) (a : SysAnswer) :
    (h.pollAnswer site unsent a).Told := by
  cases a with
  | done => exact ht.sending hd
  | again => exact sendFailed_told ht hd _
  | failed e => exact sendFailed_told ht hd _
  | _ => exact ht

theorem received_told {h : Handle} (ht : h.Told) {t : Task} (hd : h.Doing t) (fd : Nat)
    (got : List UInt8) : (h.received t fd got).Told := by
  cases t with
  | monitor caller => exact ht.task hd rfl
  | stream site =>
    unfold received
    dsimp only
    split
    · exact ht.task hd rfl
    · exact openFailed_told ht hd _

theorem receiveAnswer_told {h : Handle} (ht : h.Told) {t : Task} (hd : h.Doing t) (fd : Nat)
    (got : List UInt8) (a : SysAnswer) : (h.receiveAnswer t fd got a).Told := by
  cases a with
  | bytes bs =>
    unfold receiveAnswer
    dsimp only
    split
    · exact received_told ht hd fd _
    · exact ht.task hd rfl
  | ended => exact openFailed_told ht hd _
  | again => exact openFailed_told ht hd _
  | failed e => exact openFailed_told ht hd _
  | _ => exact ht

/-- **`apply_hotplug` announces what it changes**: a message it rejects must come before any
    change. -/
theorem applyHotplug_told {h : Handle} (hr : h.Running) (m : HotplugMessage) (site : HotplugSite)
    (hsame : site.changed = false → h.descriptor = h.entered)
    (hbad : wellFormed m = false → h.descriptor = h.entered) : (h.applyHotplug m site).Told := by
  unfold applyHotplug
  split
  · rename_i hm
    have hdesc := hbad (by simpa using hm)
    exact applied_told hr site (fun _ => hdesc) (fun _ _ => hdesc) (by decide)
  · dsimp only
    split
    · exact applied_told hr site (fun h => by omega) (fun _ hc => hsame hc) (by decide)
    · have hr' : Running
          { h with descriptor := copyDescriptor m.descriptor }.closeEventStream :=
        ⟨hr.honest, hr.linked⟩
      split
      · exact Told.ofRunning hr' rfl fun h => by cases h
      · exact applied_told hr' site (fun h => by omega) (fun h => by omega) le_rfl

theorem opened_told {h : Handle} (ht : h.Told) {t : Task} (hd : h.Doing t) (fd : Nat)
    (got : List UInt8) : (h.opened t fd got).Told := by
  cases t with
  | monitor caller =>
    have hr := ht.running hd
    have hdesc := (ht.during _ hd).2 rfl
    exact applyHotplug_told (h := { h with monitorFd := some fd, monitorBuffer := [] })
      ⟨hr.honest, hr.linked⟩ _ _ (fun _ => hdesc) (fun _ => hdesc)
  | stream site =>
    exact streamReturned_told (h := { h.closeEventStream with eventFd := some fd })
      ⟨ht.honest, ht.between, ht.during⟩ hd

theorem setNonblockAnswer_told {h : Handle} (ht : h.Told) {t : Task} (hd : h.Doing t) (fd : Nat)
    (got : List UInt8) (a : SysAnswer) : (h.setNonblockAnswer t fd got a).Told := by
  cases a with
  | done => exact opened_told ht hd fd got
  | failed e => exact openFailed_told ht hd _
  | _ => exact ht

/-! ## 5. Draining -/

theorem monitorLost_told {h : Handle} (hr : h.Running) (caller : Caller) {result : Int}
    (hd : result ≠ 1 → h.descriptor.present = 0 → h.descriptor = h.entered) :
    (h.monitorLost caller result).Told := by
  unfold monitorLost
  dsimp only
  split
  · refine afterRefresh_told ?_ caller fun h => absurd rfl h
    exact ⟨hr.honest, hr.linked⟩
  · rename_i habsent
    exact afterRefresh_told (h := { h with monitorFd := none, monitorBuffer := [] })
      ⟨hr.honest, hr.linked⟩ caller fun hne => hd hne (not_not.mp habsent)

theorem refreshAnswer_told {h : Handle} (ht : h.Told) {caller : Caller} {changed : Bool}
    (hpc : h.pc = .refreshRecv caller changed) (a : SysAnswer) (hharmless : h.Harmless (.answer a)) :
    (h.refreshAnswer caller changed a).Told := by
  have ha : announcing h.pc = some changed := by rw [hpc]; rfl
  have hr := ht.running ha
  have hsame := (ht.during _ ha).2
  have hone : changed.toInt ≠ 1 → h.descriptor = h.entered := by
    cases changed with
    | false => exact fun _ => hsame rfl
    | true => exact fun hne => absurd rfl hne
  cases a with
  | bytes bs =>
    unfold refreshAnswer
    dsimp only
    split
    · rename_i hfull
      refine applyHotplug_told (h := { h with monitorBuffer := [] }) ⟨hr.honest, hr.linked⟩ _ _
        hsame fun hbad => hharmless caller changed hpc (.malformed bs _ ?_ hbad)
      exact if_pos hfull
    · exact ⟨ht.honest, ht.between, ht.during⟩
  | again => exact afterRefresh_told hr caller hone
  | ended => exact monitorLost_told hr caller fun hne _ => hone hne
  | failed e =>
    exact monitorLost_told hr caller fun _ habsent =>
      hharmless caller changed hpc (.failed e habsent)
  | _ => exact ht

theorem eventAnswer_told {h : Handle} (ht : h.Told) (hn : announcing h.pc = none) (reports : Nat)
    (a : SysAnswer) : (h.eventAnswer reports a).Told := by
  have hl := ht.between hn
  have hidle : ∀ g : Handle, g.refreshes = h.refreshes → g.descriptor = h.descriptor →
      announcing g.pc = none → g.Told := by
    intro g hg hd hpc
    exact ⟨hg ▸ ht.honest, fun _ => by rw [hg, hd]; exact hl, fun a ha => by rw [hpc] at ha; cases ha⟩
  cases a with
  | bytes bs =>
    unfold eventAnswer
    dsimp only
    split
    · exact hidle _ rfl rfl rfl
    · exact hidle _ rfl rfl hn
  | again => exact hidle _ rfl rfl rfl
  | ended => exact hidle _ rfl rfl rfl
  | failed e => exact hidle _ rfl rfl rfl
  | _ => exact ht

/-! ## 6. Steps and runs -/

theorem refresh_told {h : Handle} (ht : h.Told) (hn : announcing h.pc = none) (caller : Caller) :
    (h.refresh caller).Told := by
  have hr : Running { h with entered := h.descriptor } := ⟨ht.honest, ht.between hn⟩
  unfold refresh
  dsimp only
  split
  · exact Told.ofRunning hr rfl fun _ => rfl
  · exact Told.ofRunning hr rfl fun _ => rfl

theorem sendControl_told {h : Handle} (ht : h.Told) (hn : announcing h.pc = none)
    (command low high : UInt16) (durationMs : UInt32) :
    (h.sendControl command low high durationMs).Told := by
  unfold sendControl
  split
  · exact controlReturns_told ht hn _
  · exact ht.sending hn

/-- **One step**: a harmless step loses no announcement. -/
theorem step_told {h : Handle} (ht : h.Told) {inp : Input} (hharmless : h.Harmless inp) :
    (h.step inp).Told := by
  cases inp with
  | refresh =>
    show (if h.pc = .idle then h.refresh .application else h).Told
    split
    · rename_i hpc
      exact refresh_told ht (by rw [hpc]; rfl) _
    · exact ht
  | update =>
    show (if h.pc = .idle then h.refresh .update else h).Told
    split
    · rename_i hpc
      exact refresh_told ht (by rw [hpc]; rfl) _
    · exact ht
  | rumble low high durationMs =>
    show (if h.pc = .idle then h.rumble low high durationMs else h).Told
    split
    · rename_i hpc
      unfold rumble
      split
      · exact sendControl_told ht (by rw [hpc]; rfl) ..
      · exact sendControl_told ht (by rw [hpc]; rfl) ..
    · exact ht
  | stopRumble =>
    show (if h.pc = .idle then h.stopRumble else h).Told
    split
    · rename_i hpc
      exact sendControl_told ht (by rw [hpc]; rfl) ..
    · exact ht
  | answer a =>
    show (h.answer a).Told
    unfold answer
    split
    · exact ht
    · rename_i t hpc
      exact connectAnswer_told ht (by rw [Doing, hpc]) a
    · rename_i site unsent hpc
      exact sendAnswer_told ht (by rw [hpc]) a
    · rename_i site unsent hpc
      exact pollAnswer_told ht (by rw [hpc]; cases site <;> rfl) a
    · rename_i t fd got hpc
      exact receiveAnswer_told ht (by rw [Doing, hpc]; rfl) fd got a
    · rename_i t fd got hpc
      exact setNonblockAnswer_told ht (by rw [Doing, hpc]; rfl) fd got a
    · rename_i caller changed hpc
      exact refreshAnswer_told ht hpc a hharmless
    · rename_i reports hpc
      exact eventAnswer_told ht (by rw [hpc]; rfl) reports a

theorem create_told : create.Told :=
  ⟨fun _ h => absurd h List.not_mem_nil, fun h => (by cases h), fun _ _ => ⟨rfl, fun _ => rfl⟩⟩

/-- **A harmful step** returns an error and leaves another descriptor than it found. -/
theorem harmful_breaks {h : Handle} {inp : Input} (hharm : ¬h.Harmless inp) :
    ¬(h.step inp).Promised := by
  simp only [Harmless, not_forall] at hharm
  obtain ⟨caller, changed, hpc, hbreaks, hne⟩ := hharm
  have hlast : ∀ (g : Handle) (e : Errno), g.descriptor = h.descriptor → g.entered = h.entered →
      ¬(g.afterRefresh caller e.result).Promised := by
    intro g e hd he hp
    have hmem : (⟨caller, e.result, g.entered, g.descriptor⟩ : Refreshed) ∈
        (g.afterRefresh caller e.result).refreshes := by
      rw [afterRefresh_refreshes]
      exact List.mem_append_right _ (List.mem_singleton_self _)
    have hneg : e.result < 0 := by have := e.property; unfold Errno.result; omega
    exact hne (hd ▸ he ▸ hp.kept _ hmem hneg)
  cases hbreaks with
  | malformed bs m hm hbad =>
    have hstep : h.step (.answer (.bytes bs)) =
        { h with monitorBuffer := [] }.afterRefresh caller eproto.result := by
      unfold completed at hm
      dsimp only at hm
      split at hm
      · rename_i hfull
        obtain rfl := Option.some.inj hm
        simp only [step, answer, hpc, refreshAnswer, hfull, if_true, applyHotplug, hbad, applied]
        rfl
      · cases hm
    rw [hstep]
    exact hlast _ _ rfl rfl
  | failed e habsent =>
    have hstep : h.step (.answer (.failed e)) =
        { h with monitorFd := none, monitorBuffer := [] }.afterRefresh caller e.result := by
      simp only [step, answer, hpc, refreshAnswer, monitorLost, habsent]
      rfl
    rw [hstep]
    exact hlast _ _ rfl rfl

end Handle

/-! ## 7. What a drain has received -/

/-- A handle, and the well-formed messages it received on its monitor connection since a refresh
    returned. -/
structure DrainWatch where
  handle : Handle
  messages : List HotplugMessage

namespace DrainWatch

def create : DrainWatch := { handle := Handle.create, messages := [] }

/-- The well-formed message the step brings: from the loop of a refresh, or the first one of a
    connection. -/
def brings (h : Handle) (inp : Handle.Input) : List HotplugMessage :=
  (match h.pc, inp with
    | .refreshRecv _ _, .answer (.bytes bs) => (h.completed bs).toList
    | .setNonblock (.monitor _) _ got, .answer .done => [hotplugMessageCodec.dec got]
    | _, _ => []).filter Handle.wellFormed

def step (w : DrainWatch) (inp : Handle.Input) : DrainWatch :=
  let h := w.handle.step inp
  { handle := h
    messages :=
      if w.handle.refreshes.length < h.refreshes.length then []
      else w.messages ++ brings w.handle inp }

/-- What the messages say, read from a descriptor on. -/
def reading (d : LibraryDescriptor) (ms : List HotplugMessage) : LibraryDescriptor :=
  ms.getLast?.elim d fun m => copyDescriptor m.descriptor

/-- The descriptor the application could read after the last refresh, or after create. -/
def known (w : DrainWatch) : LibraryDescriptor :=
  w.handle.refreshes.getLast?.elim LibraryDescriptor.initial Refreshed.after

/-- The two results of `recv` that end a drain with an error. -/
inductive Breaks (w : DrainWatch) : Handle.Input → Prop where
  | malformed (bs : List UInt8) (m : HotplugMessage) (hm : w.handle.completed bs = some m)
      (hbad : Handle.wellFormed m = false) : Breaks w (.answer (.bytes bs))
  | failed (e : Errno) (habsent : (reading w.known w.messages).present = 0) :
      Breaks w (.answer (.failed e))

/-- If the step ends a drain with an error, the last message before it, if there was one, carried
    the descriptor the application knew. -/
def Clean (w : DrainWatch) (inp : Handle.Input) : Prop :=
  ∀ caller changed, w.handle.pc = .refreshRecv caller changed → w.Breaks inp →
    ∀ m, w.messages.getLast? = some m → copyDescriptor m.descriptor = w.known

/-- What the steps keep: the messages say what the application can read. -/
structure Reads (w : DrainWatch) : Prop where
  versions : w.handle.descriptor.abiVersion = abiVersion ∧
    w.handle.descriptor.structSize = descriptorSize
  descriptor : w.handle.descriptor = reading w.known w.messages

variable {w : DrainWatch} {inp : Handle.Input}

theorem run_handle (inputs : List Handle.Input) :
    (run step w inputs).handle = run Handle.step w.handle inputs := by
  induction inputs generalizing w with
  | nil => rfl
  | cons inp inputs ih => exact ih

theorem reading_concat (d : LibraryDescriptor) (ms : List HotplugMessage) (m : HotplugMessage) :
    reading d (ms ++ [m]) = copyDescriptor m.descriptor := by
  rw [reading, List.getLast?_concat]
  rfl

/-- **A return**: where the step went on from `b` by returns only, what a refresh that returned
    left is what the application knows; otherwise what `b` has must be what the messages say. -/
theorem Reads.carried {b g : Handle} (hstep : w.handle.step inp = g) (hc : Handle.Carried b g)
    (hrefreshes : b.refreshes = w.handle.refreshes)
    (hversions : b.descriptor.abiVersion = abiVersion ∧ b.descriptor.structSize = descriptorSize)
    (hknows : g.refreshes = b.refreshes →
      b.descriptor = reading w.known (w.messages ++ brings w.handle inp)) :
    (w.step inp).Reads := by
  subst hstep
  refine ⟨?_, ?_⟩
  · show (w.handle.step inp).descriptor.abiVersion = _ ∧ (w.handle.step inp).descriptor.structSize = _
    rw [hc.descriptor]
    exact hversions
  · show (w.handle.step inp).descriptor = reading (w.step inp).known (w.step inp).messages
    obtain ⟨rs, hrs, hafter⟩ := hc.refreshes
    rw [hc.descriptor]
    unfold step known
    dsimp only
    cases rs with
    | nil =>
      rw [List.append_nil] at hrs
      rw [hknows hrs, hrs, hrefreshes, if_neg (Nat.lt_irrefl _)]
      rfl
    | cons r rs =>
      have hlast : (b.refreshes ++ r :: rs).getLast? =
          some ((r :: rs).getLast (List.cons_ne_nil r rs)) := by
        rw [List.getLast?_append_of_ne_nil _ (List.cons_ne_nil r rs),
          List.getLast?_eq_some_getLast]
      rw [hrs, hlast, if_pos]
      · exact (hafter _ (List.getLast_mem _)).symm
      · rw [hrefreshes, List.length_append, List.length_cons]
        omega

/-- The step is a return, and brings no message. -/
theorem Reads.quiet (h : w.Reads) {g : Handle} (hstep : w.handle.step inp = g)
    (hc : Handle.Carried w.handle g) (hnone : brings w.handle inp = []) : (w.step inp).Reads :=
  .carried hstep hc rfl h.versions fun _ => by
    rw [hnone, List.append_nil]
    exact h.descriptor

/-- **`apply_hotplug`** puts what the message says into the descriptor. -/
theorem Reads.applyHotplug (h : w.Reads) {b : Handle} {m : HotplugMessage} {site : HotplugSite}
    (hstep : w.handle.step inp = b.applyHotplug m site)
    (hrefreshes : b.refreshes = w.handle.refreshes) (hdescriptor : b.descriptor = w.handle.descriptor)
    (hbrings : brings w.handle inp = [m].filter Handle.wellFormed) : (w.step inp).Reads := by
  have hversions : b.descriptor.abiVersion = abiVersion ∧ b.descriptor.structSize = descriptorSize :=
    hdescriptor ▸ h.versions
  have hgood : Handle.wellFormed m = true → ∀ b' g : Handle, w.handle.step inp = g →
      b'.refreshes = w.handle.refreshes → b'.descriptor = copyDescriptor m.descriptor →
        Handle.Carried b' g → (w.step inp).Reads := by
    intro hm b' g hstep' hrefreshes' hdescriptor' hc
    refine .carried hstep' hc hrefreshes' (by rw [hdescriptor']; exact ⟨rfl, rfl⟩) fun _ => ?_
    rw [hbrings, List.filter_cons_of_pos hm, List.filter_nil, reading_concat, hdescriptor']
  let told : Handle := { b with descriptor := copyDescriptor m.descriptor }.closeEventStream
  rcases Handle.applyHotplug_cases b m site with ⟨hm, he⟩ | ⟨hm, hd, he⟩ |
    ⟨hm, hd, ⟨hp, he⟩ | ⟨hp, he⟩⟩ <;> rw [he] at hstep
  · refine .carried hstep (Handle.applied_carried b site _) hrefreshes hversions fun _ => ?_
    rw [hbrings, List.filter_cons_of_neg (by rw [hm]; exact Bool.false_ne_true), List.filter_nil,
      List.append_nil, hdescriptor]
    exact h.descriptor
  · exact hgood hm b _ hstep hrefreshes
      (Handle.descriptorEqual_eq hversions.1 hversions.2 hd) (Handle.applied_carried b site 0)
  · exact hgood hm told _ hstep hrefreshes rfl (Handle.goto_carried told _)
  · exact hgood hm told _ hstep hrefreshes rfl (Handle.applied_carried told site 1)

/-- **A drain.** -/
theorem Reads.refreshAnswer (h : w.Reads) {caller : Caller} {changed : Bool} {a : SysAnswer}
    (hpc : w.handle.pc = .refreshRecv caller changed) : (w.step (.answer a)).Reads := by
  have hstep : w.handle.step (.answer a) = w.handle.refreshAnswer caller changed a := by
    simp only [Handle.step, Handle.answer, hpc]
  have hlost : ∀ result, w.handle.step (.answer a) = w.handle.monitorLost caller result →
      brings w.handle (.answer a) = [] → (w.step (.answer a)).Reads := by
    intro result hlost hnone
    unfold Handle.monitorLost at hlost
    dsimp only at hlost
    split at hlost
    · refine .carried hlost (Handle.afterRefresh_carried _ caller 1) rfl h.versions fun hno => ?_
      rw [Handle.afterRefresh_refreshes] at hno
      exact absurd hno (by simp)
    · refine .carried hlost (Handle.afterRefresh_carried _ caller result) rfl h.versions
        fun _ => ?_
      rw [hnone, List.append_nil]
      exact h.descriptor
  cases a with
  | bytes bs =>
    unfold Handle.refreshAnswer at hstep
    dsimp only at hstep
    split at hstep
    · rename_i hfull
      refine h.applyHotplug hstep rfl rfl ?_
      simp only [brings, hpc, Handle.completed, if_pos hfull, Option.toList_some]
    · rename_i hpart
      refine .carried hstep (.refl _) rfl h.versions fun _ => ?_
      simp only [brings, hpc, Handle.completed, if_neg hpart, Option.toList_none, List.filter_nil,
        List.append_nil]
      exact h.descriptor
  | again =>
    exact h.quiet hstep (Handle.afterRefresh_carried _ caller _) (by simp [brings, hpc])
  | ended => exact hlost _ hstep (by simp [brings, hpc])
  | failed e => exact hlost _ hstep (by simp [brings, hpc])
  | _ => exact h.quiet hstep (.refl _) (by simp [brings, hpc])

/-- **One step.** -/
theorem step_reads (h : w.Reads) (inp : Handle.Input) : (w.step inp).Reads := by
  by_cases hcall : ∀ a, inp ≠ .answer a
  · refine h.quiet rfl (w.handle.call_carried hcall) ?_
    cases inp with
    | answer a => exact absurd rfl (hcall a)
    | _ => simp [brings]
  obtain ⟨a, rfl⟩ := not_forall_not.mp hcall
  have hquiet : ∀ g : Handle, w.handle.answer a = g → Handle.Carried w.handle g →
      brings w.handle (.answer a) = [] → (w.step (.answer a)).Reads := fun g hg hc hnone =>
    h.quiet hg hc hnone
  cases hpc : w.handle.pc with
  | idle => exact hquiet _ (by simp [Handle.answer, hpc]) (.refl _) (by simp [brings, hpc])
  | connect t =>
    exact hquiet _ (by simp only [Handle.answer, hpc]) (Handle.connectAnswer_carried _ t a)
      (by simp [brings, hpc])
  | send site unsent =>
    exact hquiet _ (by simp only [Handle.answer, hpc]) (Handle.sendAnswer_carried _ site unsent a)
      (by simp [brings, hpc])
  | poll site unsent =>
    exact hquiet _ (by simp only [Handle.answer, hpc]) (Handle.pollAnswer_carried _ site unsent a)
      (by simp [brings, hpc])
  | receive t fd got =>
    exact hquiet _ (by simp only [Handle.answer, hpc]) (Handle.receiveAnswer_carried _ t fd got a)
      (by simp [brings, hpc])
  | setNonblock t fd got =>
    have hstep : w.handle.step (.answer a) = w.handle.setNonblockAnswer t fd got a := by
      simp only [Handle.step, Handle.answer, hpc]
    cases a with
    | done =>
      cases t with
      | monitor caller => exact h.applyHotplug hstep rfl rfl (by simp only [brings, hpc])
      | stream site =>
        refine .carried hstep (Handle.opened_stream _ site fd got) rfl h.versions fun _ => ?_
        simp only [brings, hpc, List.filter_nil, List.append_nil]
        exact h.descriptor
    | failed e =>
      exact h.quiet hstep (Handle.openFailed_carried _ t e) (by simp [brings, hpc])
    | _ => exact h.quiet hstep (.refl _) (by simp [brings, hpc])
  | refreshRecv caller changed => exact h.refreshAnswer hpc
  | eventRecv reports =>
    have hstep : w.handle.step (.answer a) = w.handle.eventAnswer reports a := by
      simp only [Handle.step, Handle.answer, hpc]
    have hsame : (w.handle.eventAnswer reports a).refreshes = w.handle.refreshes ∧
        (w.handle.eventAnswer reports a).descriptor = w.handle.descriptor := by
      unfold Handle.eventAnswer
      cases a with
      | bytes bs =>
        dsimp only
        split <;> exact ⟨rfl, rfl⟩
      | _ => exact ⟨rfl, rfl⟩
    refine .carried hstep (.refl _) hsame.1 (by rw [hsame.2]; exact h.versions) fun _ => ?_
    rw [hsame.2, show brings w.handle (.answer a) = [] by simp [brings, hpc],
      List.append_nil]
    exact h.descriptor

/-- What the messages say is what the handle did, as long as nothing was lost. -/
theorem clean_iff (h : w.Reads) (ht : w.handle.Told) (inp : Handle.Input) :
    w.Clean inp ↔ w.handle.Harmless inp := by
  have hbreaks : w.Breaks inp ↔ w.handle.Breaks inp := by
    constructor
    · rintro (⟨bs, m, hm, hbad⟩ | ⟨e, habsent⟩)
      · exact .malformed bs m hm hbad
      · exact .failed e (by rw [h.descriptor]; exact habsent)
    · rintro (⟨bs, m, hm, hbad⟩ | ⟨e, habsent⟩)
      · exact .malformed bs m hm hbad
      · exact .failed e (by rw [← h.descriptor]; exact habsent)
  refine forall₃_congr fun caller changed hpc => ?_
  have hknown : w.handle.entered = w.known :=
    (ht.during changed (by rw [hpc]; rfl)).1.last
  rw [hbreaks, h.descriptor, hknown]
  refine forall_congr' fun _ => ?_
  unfold reading
  cases w.messages.getLast? with
  | none => exact iff_of_true nofun rfl
  | some m => exact ⟨fun hm => hm m rfl, fun hm _ hm' => Option.some.inj hm' ▸ hm⟩

end DrainWatch

namespace Handle

/-- **Refresh tells the application**: the promise holds in every state of a run, exactly if no
    step of the run ends a drain with an error behind a message that brought another descriptor
    than the application knew. -/
theorem refresh_tells_iff (inputs : List Input) :
    (∀ before after, inputs = before ++ after → (run step create before).Promised) ↔
      Throughout DrainWatch.step DrainWatch.Clean DrainWatch.create inputs := by
  have hstart : DrainWatch.create.Reads ∧ DrainWatch.create.handle.Told :=
    ⟨⟨⟨rfl, rfl⟩, rfl⟩, create_told⟩
  have h : (∀ before after, inputs = before ++ after →
      (run DrainWatch.step DrainWatch.create before).handle.Promised) ↔
        Throughout DrainWatch.step DrainWatch.Clean DrainWatch.create inputs := by
    refine throughout_iff (F := fun _ _ => True) (P := fun w : DrainWatch => w.Reads ∧ w.handle.Told)
      (Q := fun w : DrainWatch => w.handle.Promised) (fun _ hw => hw.2.promised)
      (fun w inp hw _ hclean => ?_) (fun w inp hw _ hclean hp => ?_) hstart (fun _ _ _ _ => trivial)
    · exact ⟨DrainWatch.step_reads hw.1 inp,
        step_told hw.2 ((DrainWatch.clean_iff hw.1 hw.2 inp).mp hclean)⟩
    · refine harmful_breaks (fun hharmless => hclean ?_) hp
      exact (DrainWatch.clean_iff hw.1 hw.2 inp).mpr hharmless
  simp only [DrainWatch.run_handle] at h
  exact h

/-- The hotplug message of a device, or of none (`present` 0). -/
def hotplugOf (present : UInt8) (deviceId : Int32) : HotplugMessage :=
  { magic := hotplugMagic, version := controlVersion,
    action := if present ≠ 0 then hotplugAdd else hotplugRemove,
    descriptor :=
      { magic := deviceMagic, version := controlVersion, present := present, capabilities := 0,
        inputMode := 0, vendorId := 0, productId := 0, deviceId := deviceId,
        name := nameField [] } }

/-- A handle opens its monitor, then refreshes: a device has come, and 96 bytes that are no
    hotplug message. The event stream cannot be opened. -/
def brokenDrain : List Input :=
  [.answer (.connected 1), .answer (.accepted 15),
    .answer (.bytes (hotplugMessageCodec.enc (hotplugOf 0 (-1)))), .answer .done, .refresh,
    .answer (.bytes (hotplugMessageCodec.enc (hotplugOf 1 5))), .answer (.failed eagain),
    .answer (.bytes (List.replicate 96 0))]

/-- **A lost announcement**: the device is in the descriptor, and the refresh returned an
    error. -/
theorem broken_drain_tells_nothing :
    ¬∀ before after, brokenDrain = before ++ after → (run step create before).Promised := by
  intro hp
  have hkept := (hp brokenDrain [] (List.append_nil _).symm).kept
  exact absurd hkept (by decide +kernel)

end Handle

end TermuxGamepad
