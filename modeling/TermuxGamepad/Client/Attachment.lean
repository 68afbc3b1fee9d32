/-
  File:      TermuxGamepad/Client/Attachment.lean
  Subject:   When `termux_gamepad_update` returns without the stream of a device that is present
             (termux_gamepad.c, lines 162-231 and 346-424).

  An update refreshes, opens a stream if a device is present and none is open, and reads it. What
  fails inside the refresh it makes up for: `apply_hotplug` may fail to open a stream, the update
  tries again. `loses` is what it does not make up for, and `update_attaches_iff` says that this
  is all.
-/
import TermuxGamepad.Client.Ending

namespace TermuxGamepad

open Wire

/-! ## 1. What an update does not make up for -/

/-- A result that costs the update its stream: its own attempt to open one fails, or the stream
    ends or breaks. -/
def Pc.loses : Pc → SysAnswer → Bool
  | .connect (.stream (.update _)), .failed _ => true
  | .send (.opening (.stream (.update _)) _) _, .ended
  | .send (.opening (.stream (.update _)) _) _, .failed _ => true
  | .poll (.opening (.stream (.update _)) _) _, .again
  | .poll (.opening (.stream (.update _)) _) _, .failed _ => true
  | .receive (.stream (.update _)) _ got, .bytes bs =>
    let got := got ++ bs.take (deviceDescriptorCodec.size - got.length)
    got.length = deviceDescriptorCodec.size && !Handle.usable (deviceDescriptorCodec.dec got)
  | .receive (.stream (.update _)) .., .ended | .receive (.stream (.update _)) .., .again
  | .receive (.stream (.update _)) .., .failed _ => true
  | .setNonblock (.stream (.update _)) .., .failed _ => true
  | .eventRecv _, .ended | .eventRecv _, .failed _ => true
  | _, _ => false

def HotplugSite.caller : HotplugSite → Caller
  | .monitor caller => caller
  | .drain caller _ => caller

def StreamSite.caller : StreamSite → Caller
  | .hotplug site => site.caller
  | .update _ => .update

def Task.caller : Task → Caller
  | .monitor caller => caller
  | .stream site => site.caller

/-- What a call in progress opens a connection for. -/
def Pc.task : Pc → Option Task
  | .connect t | .send (.opening t _) _ | .poll (.opening t _) _ | .receive t _ _
  | .setNonblock t _ _ => some t
  | _ => none

/-- Whose call is in progress, unless it is a rumble call. -/
def Pc.caller : Pc → Option Caller
  | .refreshRecv caller _ => some caller
  | .eventRecv _ => some .update
  | pc => pc.task.map Task.caller

namespace Handle

variable {h g : Handle}

/-- An update is in progress, or it has returned, with a stream if a device is present. It opens
    a stream of its own only while there is none. -/
structure Attaching (h : Handle) : Prop where
  toward : h.pc.caller = some .update ∨
    h.pc = .idle ∧ (h.descriptor.present ≠ 0 → h.eventFd ≠ none)
  alone : ∀ refreshed, h.pc.task = some (.stream (.update refreshed)) → h.eventFd = none

theorem Attaching.goto (h : Handle) {pc : Pc} (hcaller : pc.caller = some .update)
    (halone : ∀ refreshed, pc.task = some (.stream (.update refreshed)) → h.eventFd = none) :
    Attaching { h with pc := pc } := ⟨Or.inl hcaller, halone⟩

/-! ## 2. Returns -/

theorem afterStream_attaching (hnone : h.eventFd = none → h.descriptor.present = 0)
    (refreshed : Int) : (h.afterStream refreshed).Attaching := by
  unfold afterStream
  split
  · rename_i hfd
    exact ⟨Or.inr ⟨rfl, fun hp => absurd (hnone (Option.isNone_iff_eq_none.mp hfd)) hp⟩,
      fun _ ht => by cases ht⟩
  · exact ⟨Or.inl rfl, fun _ ht => by cases ht⟩

/-- Behind its refresh an update tries to open a stream itself. -/
theorem afterRefresh_attaching (h : Handle) (result : Int) :
    (h.afterRefresh .update result).Attaching := by
  unfold afterRefresh
  dsimp only
  split
  · rename_i hwant
    exact ⟨Or.inl rfl, fun _ _ => Option.isNone_iff_eq_none.mp hwant.1⟩
  · rename_i hno
    refine afterStream_attaching (fun hfd => ?_) result
    by_contra hp
    exact hno ⟨Option.isNone_iff_eq_none.mpr hfd, hp⟩

theorem applied_attaching (h : Handle) {site : HotplugSite} (hc : site.caller = .update)
    (result : Int) : (h.applied site result).Attaching := by
  cases site with
  | monitor caller =>
    obtain rfl : caller = .update := hc
    exact afterRefresh_attaching h result
  | drain caller changed =>
    obtain rfl : caller = .update := hc
    unfold applied
    dsimp only
    split
    · exact afterRefresh_attaching h result
    · exact .goto h rfl fun _ ht => by cases ht

theorem applyHotplug_attaching (h : Handle) (m : HotplugMessage) {site : HotplugSite}
    (hc : site.caller = .update) : (h.applyHotplug m site).Attaching := by
  unfold applyHotplug
  dsimp only
  split
  · exact applied_attaching _ hc _
  split
  · exact applied_attaching _ hc _
  split
  · exact ⟨Or.inl (congrArg some hc), fun _ ht => by cases ht⟩
  · exact applied_attaching _ hc _

theorem monitorLost_attaching (h : Handle) (result : Int) :
    (h.monitorLost .update result).Attaching := by
  unfold monitorLost
  dsimp only
  split <;> exact afterRefresh_attaching ..

/-- An attempt that fails is made up for, unless it is the update's own. -/
theorem openFailed_attaching (h : Handle) {t : Task} (hc : t.caller = .update)
    (ht : ∀ refreshed, t ≠ .stream (.update refreshed)) (e : Errno) :
    (h.openFailed t e).Attaching := by
  cases t with
  | monitor caller =>
    obtain rfl : caller = .update := hc
    exact afterRefresh_attaching h e.result
  | stream site =>
    cases site with
    | hotplug site => exact applied_attaching h hc 1
    | update refreshed => exact absurd rfl (ht refreshed)

theorem opened_attaching (h : Handle) {t : Task} (hc : t.caller = .update) (fd : Nat)
    (got : List UInt8) : (h.opened t fd got).Attaching := by
  cases t with
  | monitor caller => exact applyHotplug_attaching _ _ hc
  | stream site =>
    cases site with
    | hotplug site => exact applied_attaching _ hc 1
    | update refreshed =>
      have hnone : ({ h.closeEventStream with eventFd := some fd } : Handle).eventFd = none →
          h.descriptor.present = 0 := fun hfd => by cases hfd
      exact afterStream_attaching hnone refreshed

/-! ## 3. One result -/

variable {a : SysAnswer}

/-- What keeps an attempt to open a connection under way: its purpose stays, and while the update
    tries there is no stream. -/
theorem Attaching.opens {t : Task} (h : Attaching g) (ht : g.pc.task = some t) {pc : Pc}
    (hpc : pc.task = some t) (hc : t.caller = .update) (hcaller : pc.caller = some t.caller) :
    Attaching { g with pc := pc } :=
  .goto g (hcaller.trans (congrArg some hc)) fun r hr => h.alone r (ht.trans (hpc.symm.trans hr))

/-- A result that would cost the update its stream came to another attempt, if it costs nothing. -/
theorem other_task (f : Task → Pc) (hf : ∀ r, (f (.stream (.update r))).loses a = true) {t : Task}
    (hl : (f t).loses a = false) (r : Int) : t ≠ .stream (.update r) := by
  rintro rfl
  rw [hf r] at hl
  cases hl

theorem connectAnswer_attaching {t : Task} (h : Attaching g) (hpc : g.pc = .connect t)
    (hc : t.caller = .update) (ha : (Pc.connect t).takes a = true)
    (hl : (Pc.connect t).loses a = false) : (g.connectAnswer t a).Attaching := by
  cases a with
  | connected fd => exact h.opens (by rw [hpc]; rfl) rfl hc rfl
  | failed e => exact openFailed_attaching g hc (other_task .connect (fun _ => rfl) hl) e
  | _ => cases ha

theorem sendAnswer_attaching {t : Task} {fd : Nat} {unsent : List UInt8} (h : Attaching g)
    (hpc : g.pc = .send (.opening t fd) unsent) (hc : t.caller = .update)
    (ha : (Pc.send (.opening t fd) unsent).takes a = true)
    (hl : (Pc.send (.opening t fd) unsent).loses a = false) :
    (g.sendAnswer (.opening t fd) unsent a).Attaching := by
  have ht : g.pc.task = some t := by rw [hpc]; rfl
  cases a with
  | accepted n =>
    simp only [sendAnswer]
    split
    · exact h.opens ht rfl hc rfl
    · exact h.opens ht rfl hc rfl
  | again => exact h.opens ht rfl hc rfl
  | intr => exact h
  | ended =>
    exact openFailed_attaching g hc (other_task (fun t => .send (.opening t fd) unsent)
      (fun _ => rfl) hl) epipe
  | failed e =>
    exact openFailed_attaching g hc (other_task (fun t => .send (.opening t fd) unsent)
      (fun _ => rfl) hl) e
  | _ => cases ha

theorem pollAnswer_attaching {t : Task} {fd : Nat} {unsent : List UInt8} (h : Attaching g)
    (hpc : g.pc = .poll (.opening t fd) unsent) (hc : t.caller = .update)
    (ha : (Pc.poll (.opening t fd) unsent).takes a = true)
    (hl : (Pc.poll (.opening t fd) unsent).loses a = false) :
    (g.pollAnswer (.opening t fd) unsent a).Attaching := by
  cases a with
  | done => exact h.opens (by rw [hpc]; rfl) rfl hc rfl
  | again =>
    exact openFailed_attaching g hc (other_task (fun t => .poll (.opening t fd) unsent)
      (fun _ => rfl) hl) eagain
  | failed e =>
    exact openFailed_attaching g hc (other_task (fun t => .poll (.opening t fd) unsent)
      (fun _ => rfl) hl) e
  | _ => cases ha

theorem receiveAnswer_attaching {t : Task} {fd : Nat} {got : List UInt8} (h : Attaching g)
    (hpc : g.pc = .receive t fd got) (hc : t.caller = .update)
    (ha : (Pc.receive t fd got).takes a = true) (hl : (Pc.receive t fd got).loses a = false) :
    (g.receiveAnswer t fd got a).Attaching := by
  have ht : g.pc.task = some t := by rw [hpc]; rfl
  have hfailed : ∀ e, (∀ r, t ≠ .stream (.update r)) → (g.openFailed t e).Attaching :=
    fun e hne => openFailed_attaching g hc hne e
  cases a with
  | bytes bs =>
    simp only [receiveAnswer]
    split
    · rename_i hwhole
      unfold received
      split
      · exact h.opens ht rfl hc rfl
      · split
        · exact h.opens ht rfl hc rfl
        · rename_i hunusable
          refine openFailed_attaching g hc (fun r hr => ?_) enodev
          -- an answer that is no descriptor of a device
          cases hr
          have hlost : (decide (_ = deviceDescriptorCodec.size) && !usable _) = true :=
            Bool.and_eq_true_iff.mpr ⟨decide_eq_true hwhole, by
              rw [Bool.eq_false_iff.mpr hunusable]
              rfl⟩
          exact absurd (hl.symm.trans hlost) Bool.false_ne_true
    · exact h.opens ht rfl hc rfl
  | intr => exact h
  | ended => exact hfailed econnreset (other_task (fun t => .receive t fd got) (fun _ => rfl) hl)
  | again => exact hfailed eagain (other_task (fun t => .receive t fd got) (fun _ => rfl) hl)
  | failed e => exact hfailed e (other_task (fun t => .receive t fd got) (fun _ => rfl) hl)
  | _ => cases ha

theorem setNonblockAnswer_attaching {t : Task} {fd : Nat} {got : List UInt8} (g : Handle)
    (hc : t.caller = .update) (ha : (Pc.setNonblock t fd got).takes a = true)
    (hl : (Pc.setNonblock t fd got).loses a = false) :
    (g.setNonblockAnswer t fd got a).Attaching := by
  cases a with
  | done => exact opened_attaching g hc fd got
  | failed e =>
    exact openFailed_attaching g hc (other_task (fun t => .setNonblock t fd got) (fun _ => rfl) hl) e
  | _ => cases ha

theorem refreshAnswer_attaching {changed : Bool} (h : Attaching g)
    (ha : (Pc.refreshRecv .update changed).takes a = true) :
    (g.refreshAnswer .update changed a).Attaching := by
  cases a with
  | bytes bs =>
    simp only [refreshAnswer]
    split
    · exact applyHotplug_attaching _ _ rfl
    · exact ⟨h.toward, h.alone⟩
  | again => exact afterRefresh_attaching g changed.toInt
  | intr => exact h
  | ended => exact monitorLost_attaching g changed.toInt
  | failed e => exact monitorLost_attaching g e.result
  | _ => cases ha

theorem eventAnswer_attaching {reports : Nat} (h : Attaching g) (hfd : g.eventFd ≠ none)
    (ha : (Pc.eventRecv reports).takes a = true) (hl : (Pc.eventRecv reports).loses a = false) :
    (g.eventAnswer reports a).Attaching := by
  cases a with
  | bytes bs =>
    simp only [eventAnswer]
    split
    · exact ⟨Or.inl rfl, fun _ ht => by cases ht⟩
    · exact ⟨h.toward, h.alone⟩
  | again => exact ⟨Or.inr ⟨rfl, fun _ => hfd⟩, fun _ ht => by cases ht⟩
  | intr => exact h
  | ended => cases hl
  | failed e => cases hl
  | _ => cases ha

/-- **A result that loses nothing** leaves the update on its way. -/
theorem answer_attaching (h : Attaching g) (hs : g.Settled) (ha : g.pc.takes a = true)
    (hl : g.pc.loses a = false) : (g.answer a).Attaching := by
  have hcaller : g.pc.caller = some .update := h.toward.resolve_right fun hidle => by
    rw [hidle.1] at ha
    cases ha
  unfold answer
  split
  · next hpc =>
    rw [hpc] at ha
    cases ha
  · next t hpc =>
    rw [hpc] at ha hl hcaller
    exact connectAnswer_attaching h hpc (Option.some.inj hcaller) ha hl
  · next site unsent hpc =>
    rw [hpc] at ha hl hcaller
    cases site with
    | opening t fd => exact sendAnswer_attaching h hpc (Option.some.inj hcaller) ha hl
    | control => cases hcaller
  · next site unsent hpc =>
    rw [hpc] at ha hl hcaller
    cases site with
    | opening t fd => exact pollAnswer_attaching h hpc (Option.some.inj hcaller) ha hl
    | control => cases hcaller
  · next t fd got hpc =>
    rw [hpc] at ha hl hcaller
    exact receiveAnswer_attaching h hpc (Option.some.inj hcaller) ha hl
  · next t fd got hpc =>
    rw [hpc] at ha hl hcaller
    exact setNonblockAnswer_attaching g (Option.some.inj hcaller) ha hl
  · next caller changed hpc =>
    rw [hpc] at ha hcaller
    obtain rfl : caller = .update := Option.some.inj hcaller
    exact refreshAnswer_attaching h ha
  · next reports hpc =>
    have hfd : g.eventFd ≠ none := by
      have hplaced := hs.placed
      rw [hpc] at hplaced
      exact hplaced
    rw [hpc] at ha hl
    exact eventAnswer_attaching h hfd ha hl

theorem refresh_attaching (h : Handle) : (h.refresh .update).Attaching := by
  unfold refresh
  dsimp only
  split <;> exact ⟨Or.inl rfl, fun _ ht => by cases ht⟩

/-- The update returns without a stream. -/
theorem afterStream_lost (hfd : h.eventFd = none) (refreshed : Int) :
    (h.afterStream refreshed).pc = .idle ∧
      (h.afterStream refreshed).descriptor = h.descriptor ∧
      (h.afterStream refreshed).eventFd = none := by
  unfold afterStream
  rw [if_pos (Option.isNone_iff_eq_none.mpr hfd)]
  exact ⟨rfl, rfl, hfd⟩

/-- A stream is opened for a device that is present. -/
theorem Settled.stream_present (hs : g.Settled) {site : StreamSite}
    (ht : g.pc.task = some (.stream site)) : g.descriptor.present ≠ 0 := by
  have hplaced := hs.placed
  generalize g.pc = pc at ht hplaced
  cases pc with
  | connect t =>
    cases ht
    exact hplaced
  | send sendSite unsent =>
    cases sendSite <;> cases ht
    exact hplaced
  | poll sendSite unsent =>
    cases sendSite <;> cases ht
    exact hplaced
  | receive t fd got =>
    cases ht
    exact hplaced
  | setNonblock t fd got =>
    cases ht
    exact hplaced
  | _ => cases ht

theorem receiveAnswer_lost (g : Handle) {r : Int} {fd : Nat} {got bs : List UInt8}
    (hl : (Pc.receive (.stream (.update r)) fd got).loses (.bytes bs) = true) :
    g.receiveAnswer (.stream (.update r)) fd got (.bytes bs) = g.afterStream r := by
  obtain ⟨hwhole, hunusable⟩ := Bool.and_eq_true_iff.mp hl
  have hwhole' : (got ++ bs.take (replySize (.stream (.update r)) - got.length)).length =
      replySize (.stream (.update r)) := of_decide_eq_true hwhole
  have hunusable' : ¬usable (deviceDescriptorCodec.dec
      (got ++ bs.take (replySize (.stream (.update r)) - got.length))) = true := by
    intro h
    rw [Bool.not_eq_true'] at hunusable
    exact Bool.false_ne_true (hunusable.symm.trans h)
  simp only [receiveAnswer]
  rw [if_pos hwhole']
  unfold received
  dsimp only
  rw [if_neg hunusable']
  rfl

/-- What a lost attempt or a lost stream comes to. -/
theorem answer_lost_eq (hl : g.pc.loses a = true) :
    (∃ r, g.pc.task = some (.stream (.update r)) ∧ g.answer a = g.afterStream r) ∨
      ∃ reports result, g.pc = .eventRecv reports ∧
        g.answer a = g.closeEventStream.updateReturns result := by
  unfold answer
  generalize g.pc = pc at hl ⊢
  unfold Pc.loses at hl
  split at hl
  · exact Or.inl ⟨_, rfl, rfl⟩
  · exact Or.inl ⟨_, rfl, rfl⟩
  · exact Or.inl ⟨_, rfl, rfl⟩
  · exact Or.inl ⟨_, rfl, rfl⟩
  · exact Or.inl ⟨_, rfl, rfl⟩
  · exact Or.inl ⟨_, rfl, receiveAnswer_lost g hl⟩
  · exact Or.inl ⟨_, rfl, rfl⟩
  · exact Or.inl ⟨_, rfl, rfl⟩
  · exact Or.inl ⟨_, rfl, rfl⟩
  · exact Or.inl ⟨_, rfl, rfl⟩
  · exact Or.inr ⟨_, _, rfl, rfl⟩
  · exact Or.inr ⟨_, _, rfl, rfl⟩
  · cases hl

/-- **A result that loses the stream** ends the update with a device and without a stream. -/
theorem answer_lost (h : Attaching g) (hs : g.Settled) (hl : g.pc.loses a = true) :
    (g.answer a).pc = .idle ∧ (g.answer a).descriptor.present ≠ 0 ∧ (g.answer a).eventFd = none := by
  rcases answer_lost_eq hl with ⟨r, ht, he⟩ | ⟨reports, result, hpc, he⟩
  · obtain ⟨hidle, hd, hfd⟩ := afterStream_lost (h.alone r ht) r
    rw [he]
    refine ⟨hidle, ?_, hfd⟩
    rw [hd]
    exact hs.stream_present ht
  · rw [he]
    have hplaced := hs.placed
    rw [hpc] at hplaced
    exact ⟨rfl, hs.stream hplaced, rfl⟩

/-! ## 4. A whole update -/

/-- **An update attaches.** When an update returns, there is a stream exactly if there is a device,
    unless its own attempt to open the stream failed or the stream broke while it was read; and
    whenever one of these happens, there is a device without a stream. -/
theorem update_attaches_iff (inputs : List Input) (as : List SysAnswer)
    (hidle : (run step create inputs).pc = .idle)
    (htakes : Throughout answer (fun h a => h.pc.takes a = true)
      ((run step create inputs).step .update) as)
    (hend : (run answer ((run step create inputs).step .update) as).pc = .idle) :
    ((run answer ((run step create inputs).step .update) as).eventFd ≠ none ↔
      (run answer ((run step create inputs).step .update) as).descriptor.present ≠ 0) ↔
    Throughout answer (fun h a => h.pc.loses a = false)
      ((run step create inputs).step .update) as := by
  have hsettled : (run step create inputs).Settled :=
    run_inv (P := Settled) (fun _ inp h => step_settled h inp) create_settled inputs
  have hstart : ((run step create inputs).step .update).Attaching ∧
      ((run step create inputs).step .update).Settled := by
    refine ⟨?_, step_settled hsettled .update⟩
    simp only [step, hidle, if_true]
    exact refresh_attaching _
  generalize (run step create inputs).step .update = h₀ at *
  -- an update that is not over has no result to judge
  have hiff := throughout_iff (P := fun h : Handle => h.Attaching ∧ h.Settled)
    (Q := fun h : Handle => h.pc = .idle → (h.eventFd ≠ none ↔ h.descriptor.present ≠ 0))
    (C := fun h a => h.pc.loses a = false)
    (fun h hp hpc => ⟨hp.2.stream, (hp.1.toward.resolve_left fun hc => by
      rw [hpc] at hc
      cases hc).2⟩)
    (fun h a hp ha hl => ⟨answer_attaching hp.1 hp.2 ha hl, answer_settled hp.2 a⟩)
    (fun h a hp _ hl hq => by
      obtain ⟨hpc, hpresent, hfd⟩ := answer_lost hp.1 hp.2 (Bool.not_eq_false _ ▸ hl)
      exact (hq hpc).mpr hpresent hfd)
    hstart htakes
  rw [← hiff]
  constructor
  · rintro hgood before after rfl hpc
    cases after with
    | nil =>
      rw [List.append_nil] at hgood
      exact hgood
    | cons a after =>
      have ha : (run answer h₀ before).pc.takes a = true := htakes before a after rfl
      have hpc' : (run answer h₀ before).pc = .idle := hpc
      rw [hpc'] at ha
      cases ha
  · exact fun hall => hall as [] (List.append_nil as).symm hend

/-- A pad comes; the stream `apply_hotplug` opens is refused, and the update's own is not. -/
def refusedOnce : List SysAnswer :=
  [.bytes (hotplugMessageCodec.enc (hotplugOf 1 5)), .failed econnreset, .again, .connected 6,
    .accepted 15, .bytes (deviceDescriptorCodec.enc (hotplugOf 1 5).descriptor), .done, .again]

theorem update_attaches_iff_refusedOnce :
    (run answer ((run step create (Lifetime.absentAnswers.map .answer)).step .update)
      refusedOnce).eventFd ≠ none := by
  refine ((update_attaches_iff (Lifetime.absentAnswers.map .answer) refusedOnce (by decide +kernel)
    (by decide +kernel) (by decide +kernel)).mpr (by decide +kernel)).mpr (by decide +kernel)

end Handle

end TermuxGamepad
