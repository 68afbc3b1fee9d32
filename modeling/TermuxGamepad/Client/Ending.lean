/-
  File:      TermuxGamepad/Client/Ending.lean
  Subject:   Every call of the library comes to an end
             (termux_gamepad.c, lines 68-121, 163-231, 307-424 and 449-476).

  The loops of the library end when a socket has nothing more, so a call could go on for as long as
  it is fed. `due` is the budget of a call in progress: how many results of system calls it can
  still meet if none brings anything. Every result spends one; bytes bring twenty each, since the
  last byte of a hotplug message can lead to a new event stream; a socket that is full brings two,
  for the `poll` and its return; an interrupted call brings back the one it spent.
-/
import TermuxGamepad.Client.Lifetime

namespace TermuxGamepad

open Wire

/-! ## 1. Results and budgets -/

/-- What a system call can come to: `recv` returns no empty string. -/
def Pc.takes : Pc → SysAnswer → Bool
  | .connect _, .connected _ | .connect _, .failed _ => true
  | .send .., .accepted _ | .send .., .ended | .send .., .intr | .send .., .again
  | .send .., .failed _ => true
  | .poll .., .done | .poll .., .again | .poll .., .failed _ => true
  | .receive .., .bytes bs | .refreshRecv .., .bytes bs | .eventRecv _, .bytes bs => bs ≠ []
  | .receive .., .ended | .receive .., .intr | .receive .., .again | .receive .., .failed _ => true
  | .setNonblock .., .done | .setNonblock .., .failed _ => true
  | .refreshRecv .., .ended | .refreshRecv .., .intr | .refreshRecv .., .again
  | .refreshRecv .., .failed _ => true
  | .eventRecv _, .ended | .eventRecv _, .intr | .eventRecv _, .again
  | .eventRecv _, .failed _ => true
  | _, _ => false

/-- What a result brings. -/
def SysAnswer.feeds : SysAnswer → Nat
  | .bytes bs => 20 * bs.length
  | .again => 2
  | .intr => 1
  | _ => 0

/-- The budget behind `apply_hotplug`: the end of a refresh, or the loop it goes on with. -/
def HotplugSite.due : HotplugSite → Nat
  | .monitor _ => 20
  | .drain .. => 21

/-- The budget behind `open_event_stream`. -/
def StreamSite.due : StreamSite → Nat
  | .hotplug site => site.due
  | .update _ => 1

/-- The budget behind an attempt to open a connection that fails. -/
def Task.due : Task → Nat
  | .monitor _ => 20
  | .stream site => site.due

/-- The budget behind `send_all`. -/
def SendSite.due : SendSite → Nat
  | .opening t _ => t.due + 1
  | .control => 0

def Pc.due : Pc → Nat
  | .idle => 0
  | .connect t => t.due + 19
  | .send site unsent => site.due + unsent.length + 1
  | .poll site unsent => site.due + unsent.length + 2
  | .receive t _ _ => t.due + 1
  | .setNonblock (.monitor _) _ _ => 40
  | .setNonblock (.stream site) _ _ => site.due + 1
  | .refreshRecv .. => 21
  | .eventRecv _ => 1

/-! ## 2. What returns leave -/

namespace Handle

theorem afterStream_due (h : Handle) (refreshed : Int) : (h.afterStream refreshed).pc.due ≤ 1 := by
  unfold afterStream
  split
  · exact Nat.zero_le 1
  · exact Nat.le_refl 1

theorem afterRefresh_due (h : Handle) (caller : Caller) (result : Int) :
    (h.afterRefresh caller result).pc.due ≤ 20 := by
  unfold afterRefresh
  cases caller with
  | create => exact Nat.zero_le 20
  | application => exact Nat.zero_le 20
  | update =>
    dsimp only
    split
    · exact Nat.le_refl 20
    · exact (afterStream_due _ result).trans (by decide)

theorem applied_due (h : Handle) (site : HotplugSite) (result : Int) :
    (h.applied site result).pc.due ≤ site.due := by
  cases site with
  | monitor caller => exact afterRefresh_due h caller result
  | drain caller changed =>
    unfold applied
    dsimp only
    split
    · exact (afterRefresh_due h caller result).trans (Nat.le_succ 20)
    · exact Nat.le_refl 21

theorem streamReturned_due (h : Handle) (site : StreamSite) :
    (h.streamReturned site).pc.due ≤ site.due := by
  cases site with
  | hotplug site => exact applied_due h site 1
  | update refreshed => exact afterStream_due h refreshed

/-- A new device leads to a new event stream. -/
theorem applyHotplug_due (h : Handle) (m : HotplugMessage) (site : HotplugSite) :
    (h.applyHotplug m site).pc.due ≤ site.due + 19 := by
  unfold applyHotplug
  dsimp only
  split
  · exact (applied_due ..).trans (Nat.le_add_right ..)
  split
  · exact (applied_due ..).trans (Nat.le_add_right ..)
  split
  · exact Nat.le_refl _
  · exact (applied_due ..).trans (Nat.le_add_right ..)

theorem openFailed_due (h : Handle) (t : Task) (e : Errno) :
    (h.openFailed t e).pc.due ≤ t.due := by
  cases t with
  | monitor caller => exact afterRefresh_due h caller e.result
  | stream site => exact streamReturned_due h site

theorem sendDone_due (h : Handle) (site : SendSite) : (h.sendDone site).pc.due ≤ site.due := by
  cases site with
  | opening t fd => exact Nat.le_refl _
  | control => exact Nat.le_refl 0

theorem sendFailed_due (h : Handle) (site : SendSite) (e : Errno) :
    (h.sendFailed site e).pc.due ≤ site.due := by
  cases site with
  | opening t fd => exact (openFailed_due h t e).trans (Nat.le_succ _)
  | control => exact Nat.le_refl 0

theorem monitorLost_due (h : Handle) (caller : Caller) (result : Int) :
    (h.monitorLost caller result).pc.due ≤ 20 := by
  unfold monitorLost
  dsimp only
  split <;> exact afterRefresh_due ..

/-! ## 3. One result -/

theorem connectAnswer_due (h : Handle) (t : Task) {a : SysAnswer}
    (ha : (Pc.connect t).takes a = true) : (h.connectAnswer t a).pc.due + 1 ≤ t.due + 19 := by
  cases a with
  | connected fd =>
    show t.due + 1 + (controlMessageCodec.enc (command t)).length + 1 + 1 ≤ t.due + 19
    rw [controlMessageCodec.enc_length]
    exact Nat.le_refl _
  | failed e =>
    have hfailed := openFailed_due h t e
    show (h.openFailed t e).pc.due + 1 ≤ _
    omega
  | _ => cases ha

/-- What is left to send is shorter by what was taken. -/
theorem drop_due {unsent : List UInt8} {n : Nat} (hmore : ¬(unsent.drop (n + 1)).isEmpty = true) :
    (unsent.drop (n + 1)).length + 1 ≤ unsent.length := by
  have hpos : 0 < (unsent.drop (n + 1)).length :=
    List.length_pos_of_ne_nil fun hnil => hmore (by rw [hnil]; rfl)
  rw [List.length_drop] at hpos ⊢
  omega

theorem sendAnswer_due (h : Handle) (site : SendSite) (unsent : List UInt8) {a : SysAnswer}
    (hpc : h.pc = .send site unsent) (ha : (Pc.send site unsent).takes a = true) :
    (h.sendAnswer site unsent a).pc.due + 1 ≤ site.due + unsent.length + 1 + a.feeds := by
  have hfailed := fun e => sendFailed_due h site e
  cases a with
  | accepted n =>
    simp only [sendAnswer]
    split
    · have hdone := sendDone_due h site
      omega
    · rename_i hmore
      have hless := drop_due hmore
      show site.due + (unsent.drop (n + 1)).length + 1 + 1 ≤ _
      omega
  | ended =>
    have he := hfailed epipe
    show (h.sendFailed site epipe).pc.due + 1 ≤ _
    omega
  | failed e =>
    have he := hfailed e
    show (h.sendFailed site e).pc.due + 1 ≤ _
    omega
  | again => exact Nat.le_refl _
  | intr =>
    show h.pc.due + 1 ≤ _
    rw [hpc]
    exact Nat.le_refl _
  | _ => cases ha

theorem pollAnswer_due (h : Handle) (site : SendSite) (unsent : List UInt8) {a : SysAnswer}
    (ha : (Pc.poll site unsent).takes a = true) :
    (h.pollAnswer site unsent a).pc.due + 1 ≤ site.due + unsent.length + 2 := by
  have hfailed := fun e => sendFailed_due h site e
  cases a with
  | done => exact Nat.le_refl _
  | again =>
    have he := hfailed eagain
    show (h.sendFailed site eagain).pc.due + 1 ≤ _
    omega
  | failed e =>
    have he := hfailed e
    show (h.sendFailed site e).pc.due + 1 ≤ _
    omega
  | _ => cases ha

theorem received_due (h : Handle) (t : Task) (fd : Nat) (got : List UInt8) :
    (h.received t fd got).pc.due ≤ t.due + 20 := by
  cases t with
  | monitor caller => exact Nat.le_refl 40
  | stream site =>
    unfold received
    dsimp only
    split
    · exact Nat.add_le_add_left (by decide) _
    · exact (openFailed_due ..).trans (Nat.le_add_right ..)

/-- Bytes bring enough for what the last of them can lead to. -/
theorem feeds_bytes {bs : List UInt8} (h : decide (bs ≠ []) = true) :
    20 ≤ (SysAnswer.bytes bs).feeds := by
  have hpos := List.length_pos_of_ne_nil (of_decide_eq_true h)
  show 20 ≤ 20 * bs.length
  omega

theorem receiveAnswer_due (h : Handle) (t : Task) (fd : Nat) (got : List UInt8) {a : SysAnswer}
    (hpc : h.pc = .receive t fd got) (ha : (Pc.receive t fd got).takes a = true) :
    (h.receiveAnswer t fd got a).pc.due + 1 ≤ t.due + 1 + a.feeds := by
  have hfailed := fun e => Nat.succ_le_succ (openFailed_due h t e)
  cases a with
  | bytes bs =>
    have hbytes := feeds_bytes ha
    simp only [receiveAnswer]
    split
    · have hwhole := received_due h t fd (got ++ bs.take (replySize t - got.length))
      omega
    · show t.due + 1 + 1 ≤ _
      omega
  | ended => exact hfailed econnreset
  | again => exact (hfailed eagain).trans (Nat.le_add_right ..)
  | failed e => exact hfailed e
  | intr =>
    show h.pc.due + 1 ≤ _
    rw [hpc]
    exact Nat.le_refl _
  | _ => cases ha

theorem setNonblockAnswer_due (h : Handle) (t : Task) (fd : Nat) (got : List UInt8) {a : SysAnswer}
    (ha : (Pc.setNonblock t fd got).takes a = true) :
    (h.setNonblockAnswer t fd got a).pc.due + 1 ≤ (Pc.setNonblock t fd got).due := by
  have hfailed := fun e => openFailed_due h t e
  cases t with
  | monitor caller =>
    cases a with
    | done => exact Nat.succ_le_succ (applyHotplug_due _ _ (.monitor caller))
    | failed e => exact Nat.succ_le_succ ((hfailed e).trans (Nat.le_add_right 20 19))
    | _ => cases ha
  | stream site =>
    cases a with
    | done => exact Nat.succ_le_succ (streamReturned_due _ site)
    | failed e => exact Nat.succ_le_succ (hfailed e)
    | _ => cases ha

theorem refreshAnswer_due (h : Handle) (caller : Caller) (changed : Bool) {a : SysAnswer}
    (hpc : h.pc = .refreshRecv caller changed) (ha : (Pc.refreshRecv caller changed).takes a = true) :
    (h.refreshAnswer caller changed a).pc.due + 1 ≤ 21 + a.feeds := by
  have hlost := fun result => Nat.succ_le_succ (monitorLost_due h caller result)
  cases a with
  | bytes bs =>
    have hbytes := feeds_bytes ha
    simp only [refreshAnswer]
    split
    · have hwhole := fun g m => applyHotplug_due g m (.drain caller changed)
      exact (Nat.succ_le_succ (hwhole _ _)).trans (Nat.add_le_add_left hbytes 21)
    · show h.pc.due + 1 ≤ _
      rw [hpc]
      exact Nat.add_le_add_left (Nat.le_trans (by decide) hbytes) 21
  | ended => exact hlost changed.toInt
  | again => exact (Nat.succ_le_succ (afterRefresh_due h caller changed.toInt)).trans (by decide)
  | failed e => exact hlost e.result
  | intr =>
    show h.pc.due + 1 ≤ _
    rw [hpc]
    exact Nat.le_refl _
  | _ => cases ha

theorem eventAnswer_due (h : Handle) (reports : Nat) {a : SysAnswer}
    (hpc : h.pc = .eventRecv reports) (ha : (Pc.eventRecv reports).takes a = true) :
    (h.eventAnswer reports a).pc.due + 1 ≤ 1 + a.feeds := by
  cases a with
  | bytes bs =>
    have hbytes := feeds_bytes ha
    simp only [eventAnswer]
    split
    · exact Nat.add_le_add_left (Nat.le_trans (by decide) hbytes) 1
    · show h.pc.due + 1 ≤ _
      rw [hpc]
      exact Nat.add_le_add_left (Nat.le_trans (by decide) hbytes) 1
  | ended => exact Nat.le_refl 1
  | again => exact Nat.le_add_left 1 2
  | failed e => exact Nat.le_refl 1
  | intr =>
    show h.pc.due + 1 ≤ _
    rw [hpc]
    exact Nat.le_refl _
  | _ => cases ha

/-- **Every result spends one** of the budget. -/
theorem answer_due (h : Handle) {a : SysAnswer} (ha : h.pc.takes a = true) :
    (h.answer a).pc.due + 1 ≤ h.pc.due + a.feeds := by
  unfold answer
  split
  · next hpc =>
    rw [hpc] at ha
    cases ha
  · next t hpc =>
    rw [hpc] at ha ⊢
    exact (connectAnswer_due h t ha).trans (Nat.le_add_right ..)
  · next site unsent hpc =>
    have hdue := sendAnswer_due h site unsent hpc (hpc ▸ ha)
    rw [hpc]
    exact hdue
  · next site unsent hpc =>
    rw [hpc] at ha ⊢
    exact (pollAnswer_due h site unsent ha).trans (Nat.le_add_right ..)
  · next t fd got hpc =>
    have hdue := receiveAnswer_due h t fd got hpc (hpc ▸ ha)
    rw [hpc]
    exact hdue
  · next t fd got hpc =>
    rw [hpc] at ha ⊢
    exact (setNonblockAnswer_due h t fd got ha).trans (Nat.le_add_right ..)
  · next caller changed hpc =>
    have hdue := refreshAnswer_due h caller changed hpc (hpc ▸ ha)
    rw [hpc]
    exact hdue
  · next reports hpc =>
    have hdue := eventAnswer_due h reports hpc (hpc ▸ ha)
    rw [hpc]
    exact hdue

/-- A call that waits for nothing has returned. -/
theorem takes_none_iff (h : Handle) : (∀ a, h.pc.takes a = false) ↔ h.pc = .idle := by
  constructor
  · intro hnone
    cases hpc : h.pc with
    | idle => rfl
    | connect | send | poll | receive | setNonblock | refreshRecv | eventRecv =>
      have hfailed := hnone (.failed eagain)
      rw [hpc] at hfailed
      cases hfailed
  · intro hidle a
    rw [hidle]
    cases a <;> rfl

end Handle

/-! ## 4. A whole call -/

namespace Life

/-- `termux_gamepad_destroy` sends like a rumble call. -/
def takes : Life → SysAnswer → Bool
  | .living h, a => h.pc.takes a
  | .stopping _ unsent, a => (Pc.send .control unsent).takes a
  | .waiting _ unsent, a => (Pc.poll .control unsent).takes a
  | .freed, _ => false

def due : Life → Nat
  | .living h => h.pc.due
  | .stopping _ unsent => unsent.length + 1
  | .waiting _ unsent => unsent.length + 2
  | .freed => 0

/-- No call is running. -/
def Resting : Life → Prop
  | .living h => h.pc = .idle
  | .stopping .. | .waiting .. => False
  | .freed => True

instance (l : Life) : Decidable l.Resting := by
  cases l <;> unfold Resting <;> infer_instance

theorem takes_none_iff (l : Life) : (∀ a, l.takes a = false) ↔ l.Resting := by
  cases l with
  | living h => exact h.takes_none_iff
  | stopping h unsent => exact iff_of_false (fun hnone => Bool.noConfusion (hnone .ended)) id
  | waiting h unsent => exact iff_of_false (fun hnone => Bool.noConfusion (hnone .done)) id
  | freed => exact iff_of_true (fun _ => rfl) trivial

end Life

/-- The bytes a result brings. -/
def SysAnswer.size : SysAnswer → Nat
  | .bytes bs => bs.length
  | _ => 0

namespace Lifetime

/-- The system call of the call in progress returns. -/
def answer (l : Lifetime) (a : SysAnswer) : Lifetime := l.step (.call (.answer a))

/-- A call has just begun: the creation of a handle, or a call on one that no call runs on. -/
inductive Begins : Lifetime → Prop
  | create : Begins create
  | call (l : Lifetime) (h : Handle) (inp : Input) (hlife : l.life = .living h)
      (hidle : h.pc = .idle) (hinp : ∀ a, inp ≠ .call (.answer a)) : Begins (l.step inp)

theorem stopAnswer_due (l : Lifetime) (h : Handle) (unsent : List UInt8) {a : SysAnswer}
    (hlife : l.life = .stopping h unsent) (ha : (Pc.send .control unsent).takes a = true) :
    (l.stopAnswer h unsent a).life.due + 1 ≤ unsent.length + 1 + a.feeds := by
  have hfreed : 0 + 1 ≤ unsent.length + 1 + a.feeds := by omega
  cases a with
  | accepted n =>
    simp only [stopAnswer]
    split
    · exact hfreed
    · rename_i hmore
      have hless := Handle.drop_due hmore
      show (unsent.drop (n + 1)).length + 1 + 1 ≤ _
      omega
  | ended => exact hfreed
  | failed e => exact hfreed
  | again => exact Nat.le_refl _
  | intr =>
    show l.life.due + 1 ≤ _
    rw [hlife]
    exact Nat.le_refl _
  | _ => cases ha

theorem waitAnswer_due (l : Lifetime) (h : Handle) (unsent : List UInt8) {a : SysAnswer}
    (ha : (Pc.poll .control unsent).takes a = true) :
    (l.waitAnswer h unsent a).life.due + 1 ≤ unsent.length + 2 := by
  cases a with
  | done => exact Nat.le_refl _
  | again => exact Nat.succ_le_succ (Nat.zero_le _)
  | failed e => exact Nat.succ_le_succ (Nat.zero_le _)
  | _ => cases ha

theorem answer_due (l : Lifetime) {a : SysAnswer} (ha : l.life.takes a = true) :
    (l.answer a).life.due + 1 ≤ l.life.due + a.feeds := by
  unfold answer step
  cases hlife : l.life with
  | living h =>
    rw [hlife] at ha
    exact h.answer_due ha
  | stopping h unsent =>
    rw [hlife] at ha
    exact stopAnswer_due l h unsent hlife ha
  | waiting h unsent =>
    rw [hlife] at ha
    exact (waitAnswer_due l h unsent ha).trans (Nat.le_add_right ..)
  | freed =>
    rw [hlife] at ha
    cases ha

/-- No call begins with more than an attempt to open the monitor. -/
theorem Begins.due {l : Lifetime} (h : l.Begins) : l.life.due ≤ 39 := by
  have hcontrol : ∀ (g : Handle) command low high durationMs,
      (g.sendControl command low high durationMs).pc.due ≤ 39 := by
    intro g command low high durationMs
    unfold Handle.sendControl
    split
    · exact Nat.zero_le 39
    · show 0 + (controlMessageCodec.enc _).length + 1 ≤ 39
      rw [controlMessageCodec.enc_length]
      decide
  have hrefresh : ∀ (g : Handle) caller, (g.refresh caller).pc.due ≤ 39 := by
    intro g caller
    unfold Handle.refresh
    dsimp only
    split
    · exact Nat.le_refl 39
    · exact (Nat.le_add_right 21 18)
  cases h with
  | create => exact Nat.le_refl 39
  | call l h inp hlife hidle hinp =>
    cases inp with
    | call inp =>
      have hstep : (l.step (.call inp)).life = .living (h.step inp) := by
        unfold step
        rw [hlife]
        cases inp with
        | answer a => exact absurd rfl (hinp a)
        | _ => rfl
      rw [hstep]
      show (h.step inp).pc.due ≤ 39
      cases inp with
      | refresh =>
        simp only [Handle.step, hidle, if_true]
        exact hrefresh h .application
      | update =>
        simp only [Handle.step, hidle, if_true]
        exact hrefresh h .update
      | rumble low high durationMs =>
        simp only [Handle.step, hidle, if_true, Handle.rumble]
        split
        · exact hcontrol ..
        · exact hcontrol ..
      | stopRumble =>
        simp only [Handle.step, hidle, if_true]
        exact hcontrol ..
      | answer a => exact absurd rfl (hinp a)
    | destroy =>
      simp only [step, hlife, hidle, if_true, destroy]
      split
      · show (controlMessageCodec.enc _).length + 1 ≤ 39
        rw [controlMessageCodec.enc_length]
        decide
      · exact Nat.zero_le 39

theorem feeds_sum (as : List SysAnswer) :
    (as.map SysAnswer.feeds).sum =
      20 * (as.map SysAnswer.size).sum + 2 * as.count .again + as.count .intr := by
  induction as with
  | nil => rfl
  | cons a as ih =>
    rw [List.map_cons, List.map_cons, List.sum_cons, List.sum_cons, List.count_cons,
      List.count_cons, ih]
    cases a <;> simp [SysAnswer.feeds, SysAnswer.size] <;> omega

/-- **Every call returns.** From the moment a call begins, whatever its system calls come to, they
    can return no more than 39 times, and twenty times for each byte that was received, twice for
    each time a socket had no room or no bytes, and once for each interruption. A call that waits
    for no system call any more has returned. -/
theorem calls_return {l : Lifetime} (hbegins : l.Begins) (as : List SysAnswer)
    (htakes : Throughout answer (fun l a => l.life.takes a = true) l as) :
    as.length ≤ 39 + (20 * (as.map SysAnswer.size).sum + 2 * as.count .again + as.count .intr) ∧
      ((∀ a, (run answer l as).life.takes a = false) ↔ (run answer l as).life.Resting) := by
  have hlength := throughout_length (fun l : Lifetime => l.life.due) SysAnswer.feeds
    (fun l _ ha => answer_due l ha) htakes
  have hdue := hbegins.due
  rw [feeds_sum] at hlength
  exact ⟨by omega, Life.takes_none_iff _⟩

/-- The monitor is opened in two sends, and the bridge has no device. -/
def absentAnswers : List SysAnswer :=
  [.connected 5, .accepted 7, .again, .done, .accepted 100,
    .bytes (hotplugMessageCodec.enc (Handle.hotplugOf 0 (-1))), .done]

/-- The creation took seven results, and no system call is left. -/
theorem calls_return_absent :
    absentAnswers.length ≤ 39 + (20 * 96 + 2 * 1 + 0) ∧
      ∀ a, (run answer create absentAnswers).life.takes a = false := by
  obtain ⟨hlength, hresting⟩ := calls_return .create absentAnswers (by decide +kernel)
  exact ⟨hlength, hresting.mpr (by decide +kernel)⟩

end Lifetime

end TermuxGamepad
