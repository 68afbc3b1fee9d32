/-
  File:      TermuxGamepad/Bridge/Following.lean
  Subject:   Rumble across a change of the device.

  The cached pair is what the last update found, whether or not a request went out, and it
  stays when the device changes. So a device that is added while somebody holds rumble is
  asked only if the next update is forced or finds other maxima than the cached ones
  (`updateRumble_sends_iff`), and until then the cached pair speaks for a device that never heard
  of it. Where devices are added while nobody holds rumble, this does not happen (`Follows`).
-/
import TermuxGamepad.Bridge.Arbitration

namespace TermuxGamepad

open Wire

namespace Bridge

variable {b b' : Bridge}

/-! ## 1. What one update sends -/

/-- The update sends the present device one request, for the maxima over the clients holding
    rumble, as long as any of them does. -/
def SendsPeak (b : Bridge) (force : Bool) : Prop :=
  ∃ s low high d, (b.updateRumble force).log = b.log ++
      [.request s (.rumble (card16 b.lorieDeviceId) low high d), .rumbleUpdated b.clock b.held] ∧
    Peak (Live b.clients b.clock) low high ∧
    ∀ r, Live b.clients b.clock r → r.rumbleExpiresMs ≤ s + d.toNat

theorem Peak.unique {L : Rumble → Prop} {low high low' high' : UInt16} (h : Peak L low high)
    (h' : Peak L low' high') {r : Rumble} (hr : L r) : low = low' ∧ high = high' := by
  obtain ⟨⟨r1, h1, e1⟩, ⟨r2, h2, e2⟩⟩ := h.attained hr
  obtain ⟨⟨r3, h3, e3⟩, ⟨r4, h4, e4⟩⟩ := h'.attained hr
  constructor
  · exact UInt16.le_antisymm (e1 ▸ h'.low_le r1 h1) (e3 ▸ h.low_le r3 h3)
  · exact UInt16.le_antisymm (e2 ▸ h'.high_le r2 h2) (e4 ▸ h.high_le r4 h4)

/-- Nobody's rumble outlasts the longest time. -/
def Bounded (b : Bridge) : Prop :=
  ∀ i r, (b.clients i).holds = some r → r.rumbleExpiresMs ≤ b.now + maxRemaining

/-- **When an update sends**: on a capable device with somebody holding rumble, exactly if it is
    forced or the cached pair is not the maxima. -/
theorem updateRumble_sends_iff (hcap : b.canRumble = true) (hb : Bounded b) {r : Rumble}
    (hr : Live b.clients b.clock r) (force : Bool) :
    b.SendsPeak force ↔
      force = true ∨ ¬ Peak (Live b.clients b.clock) b.activeRumbleLow b.activeRumbleHigh := by
  obtain ⟨low, high, d, hu⟩ := updateRumble_spec b force
  have hz : ¬ (low = 0 ∧ high = 0) := fun hz => hu.peak.zero_iff.mp hz r hr
  have hlasts : ∀ r, Live b.clients b.clock r → r.rumbleExpiresMs ≤ b.clock + d.toNat := by
    rintro r ⟨i, hi⟩
    refine hu.lasts r ⟨i, hi⟩ ((hb i r (Client.live_iff.mp hi).1).trans ?_)
    exact Nat.add_le_add_right (Nat.le_add_right ..) _
  have hlog := hu.log
  unfold asked at hlog
  rw [hcap, Bool.not_true, if_neg Bool.false_ne_true, if_neg hz] at hlog
  by_cases hask : force = true ∨ low ≠ b.activeRumbleLow ∨ high ≠ b.activeRumbleHigh
  · rw [if_pos hask, List.append_assoc] at hlog
    refine ⟨fun _ => hask.imp_right fun hne hpeak => ?_, fun _ => ?_⟩
    · obtain ⟨h1, h2⟩ := hu.peak.unique hpeak hr
      exact hne.elim (fun h => h h1) fun h => h h2
    · exact ⟨_, low, high, d, hlog, hu.peak, hlasts⟩
  · rw [if_neg hask, List.append_nil] at hlog
    obtain ⟨hf, hsame⟩ := not_or.mp hask
    obtain ⟨hlow, hhigh⟩ := not_or.mp hsame
    refine ⟨fun ⟨_, _, _, _, hlog', _⟩ => ?_, fun hor => ?_⟩
    · rw [hlog] at hlog'
      have := congrArg List.length hlog'
      simp at this
    · rcases hor with h | h
      · exact absurd h hf
      · exact absurd (not_not.mp hlow ▸ not_not.mp hhigh ▸ hu.peak) h

/-! ## 2. What is recorded for a device -/

/-- Nobody holds rumble. -/
def Unheld (b : Bridge) : Prop := ∀ i, (b.clients i).holds = none

/-- Since the device was added, it has been asked for this pair. -/
def HeardOf (log : List Out) (id : Int) (low high : UInt16) : Prop :=
  ∃ pre post s d, log = pre ++ .added id :: post ∧ (∀ x, .added x ∉ post) ∧
    .request s (.rumble (card16 id) low high d) ∈ post

/-- **What is recorded as active, the present device has heard of.** -/
def Delivered (b : Bridge) : Prop :=
  ¬ (b.activeRumbleLow = 0 ∧ b.activeRumbleHigh = 0) → 0 ≤ b.lorieDeviceId →
    HeardOf b.log b.lorieDeviceId b.activeRumbleLow b.activeRumbleHigh

/-- What holds at every moment: the history tells when the present device was added, and one that
    takes no rumble has not been asked for any. -/
structure Dated (b : Bridge) : Prop where
  here : 0 ≤ b.lorieDeviceId →
    ∃ pre post, b.log = pre ++ .added b.lorieDeviceId :: post ∧ (∀ x, .added x ∉ post) ∧
      (b.canRumble = false → ∀ o ∈ post, o.rumbleRequest = none)
  bounded : Bounded b

/-- What holds between moves: also, the cached pair is zero exactly if nobody holds rumble. -/
structure Cached (b : Bridge) : Prop extends Dated b where
  zero_iff : (b.activeRumbleLow = 0 ∧ b.activeRumbleHigh = 0) ↔ Unheld b

/-- Where devices are added with nobody holding rumble, a rumble-capable device has heard of what is
    recorded. -/
def Follows (b : Bridge) : Prop :=
  ¬ (b.activeRumbleLow = 0 ∧ b.activeRumbleHigh = 0) → b.canRumble = true →
    HeardOf b.log b.lorieDeviceId b.activeRumbleLow b.activeRumbleHigh

theorem HeardOf.append {log l : List Out} {id : Int} {low high : UInt16}
    (h : HeardOf log id low high) (hl : ∀ x, .added x ∉ l) : HeardOf (log ++ l) id low high := by
  obtain ⟨pre, post, s, d, rfl, hno, hreq⟩ := h
  refine ⟨pre, post ++ l, s, d, by simp, fun x hx => ?_, List.mem_append_left _ hreq⟩
  rcases List.mem_append.mp hx with hx | hx
  · exact hno x hx
  · exact hl x hx

theorem idle_no_added {l : List Out} (h : ∀ o ∈ l, o.idle = true) (x : Int) : .added x ∉ l :=
  fun hx => Bool.noConfusion (h _ hx)

/-- How the history of an unchanged device grows. -/
theorem Dated.grow (h : Dated b) {l : List Out} (hlog : b'.log = b.log ++ l)
    (hl : ∀ x, .added x ∉ l) (hid : b'.lorieDeviceId = b.lorieDeviceId)
    (hcap : b'.canRumble = b.canRumble)
    (hmute : b.canRumble = false → ∀ o ∈ l, o.rumbleRequest = none) (hb : Bounded b') :
    Dated b' := by
  refine ⟨fun hpos => ?_, hb⟩
  rw [hid] at hpos ⊢
  obtain ⟨pre, post, heq, hno, hpost⟩ := h.here hpos
  refine ⟨pre, post ++ l, by rw [hlog, heq]; simp, fun x hx => ?_, fun hc o ho => ?_⟩
  · rcases List.mem_append.mp hx with hx | hx
    · exact hno x hx
    · exact hl x hx
  · rw [hcap] at hc
    rcases List.mem_append.mp ho with ho | ho
    · exact hpost hc o ho
    · exact hmute hc o ho

theorem Dated.idles (h : Dated b) (hi : Idles b b') (hb : Bounded b') : Dated b' := by
  obtain ⟨l, hl, hidle⟩ := hi.log
  exact h.grow hl (idle_no_added hidle) hi.deviceId hi.canRumble
    (fun _ o ho => rumbleRequest_of_idle (hidle o ho)) hb

/-- A history has one last addition. -/
theorem last_added_unique {pre pre' post post' : List Out} {id id' : Int}
    (h : pre ++ .added id :: post = pre' ++ .added id' :: post') (hp : ∀ x, .added x ∉ post)
    (hp' : ∀ x, .added x ∉ post') : post = post' := by
  rcases List.append_eq_append_iff.mp h with ⟨c, _, h2⟩ | ⟨c, _, h2⟩
  · cases c with
    | nil => exact (List.cons.inj h2).2
    | cons o c =>
      have h3 := (List.cons.inj h2).2
      exact absurd (h3 ▸ List.mem_append_right _ List.mem_cons_self) (hp id')
  · cases c with
    | nil => exact ((List.cons.inj h2).2).symm
    | cons o c =>
      have h3 := (List.cons.inj h2).2
      exact absurd (h3 ▸ List.mem_append_right _ List.mem_cons_self) (hp' id)

/-- A device that takes no rumble has heard of none. -/
theorem Dated.deaf (h : Dated b) (hid : 0 ≤ b.lorieDeviceId) (hcap : b.canRumble = false)
    (low high : UInt16) : ¬ HeardOf b.log b.lorieDeviceId low high := by
  rintro ⟨pre, post, s, d, heq, hno, hreq⟩
  obtain ⟨pre', post', heq', hno', hmute⟩ := h.here hid
  have hpost := last_added_unique (heq.symm.trans heq') hno hno'
  have := hmute hcap _ (hpost ▸ hreq)
  cases this

theorem asked_no_added (b : Bridge) (force : Bool) (low high : UInt16) (d : UInt32) (x : Int) :
    .added x ∉ b.asked force low high d := by
  unfold asked
  intro hx
  split at hx
  · cases hx
  split at hx
  · split at hx <;> simp at hx
  · split at hx <;> simp at hx

/-- **Every update makes the cached pair what the clients hold.** -/
theorem update_cached (h : Dated b) (force : Bool) : Cached (b.updateRumble force) := by
  obtain ⟨low, high, d, hu⟩ := updateRumble_spec b force
  have hunheld : Unheld (b.updateRumble force) ↔ ∀ r, ¬ Live b.clients b.clock r := by
    constructor
    · rintro hno r ⟨i, hi⟩
      rw [← hu.holds i, hno i] at hi
      cases hi
    · intro hno i
      rw [hu.holds i]
      cases hl : (b.clients i).live b.clock with
      | none => rfl
      | some r => exact absurd ⟨i, hl⟩ (hno r)
  have hb : Bounded (b.updateRumble force) := by
    intro i r hr
    rw [hu.holds] at hr
    rw [hu.now]
    exact (h.bounded i r (Client.live_iff.mp hr).1).trans
      (Nat.add_le_add_right (Nat.le_add_right ..) _)
  refine ⟨h.grow (l := b.asked force low high d ++ [.rumbleUpdated b.clock b.held])
    (by rw [hu.log, List.append_assoc]) (fun x hx => ?_) hu.frame.deviceId hu.canRumble
    (fun hc o ho => ?_) hb, ?_⟩
  · rcases List.mem_append.mp hx with hx | hx
    · exact asked_no_added b force low high d x hx
    · simp at hx
  · rw [asked, hc] at ho
    rw [List.mem_singleton.mp (show o ∈ [_] from ho)]
    rfl
  · rw [hu.activeLow, hu.activeHigh, hunheld]
    exact hu.peak.zero_iff

theorem Unheld.quiet (h : Unheld b) (hq : Quietly b b') : Unheld b' := fun i =>
  (hq.holds i).trans (h i)

theorem Cached.quiet (h : Cached b) (hq : Quietly b b') : Cached b' := by
  refine ⟨h.toDated.idles hq.toIdles fun i r hr => ?_, ?_⟩
  · rw [hq.now]
    exact h.bounded i r ((hq.holds i) ▸ hr)
  · rw [hq.low, hq.high, h.zero_iff]
    exact ⟨fun hno => hno.quiet hq, fun hno i => (hq.holds i).symm.trans (hno i)⟩

theorem Dated.edit (h : Dated b) (he : Edits b b') : Dated b' := by
  refine h.idles he.toIdles fun i r hr => ?_
  rcases he.holds i r hr with hr' | hr'
  · exact (h.bounded i r hr').trans (Nat.add_le_add_right he.now _)
  · exact hr'

theorem move_cached (hm : Move b b') (h : Cached b) : Cached b' := by
  cases hm with
  | quiet hq => exact h.quiet hq
  | forced he => exact update_cached (h.toDated.edit he) true
  | tick => exact update_cached h.toDated false

/-- **An update keeps the record honest.** -/
theorem update_follows (h : Follows b) (hd : Dated b) (force : Bool) :
    Follows (b.updateRumble force) := by
  obtain ⟨low, high, d, hu⟩ := updateRumble_spec b force
  intro hne hcap
  rw [hu.activeLow, hu.activeHigh] at hne ⊢
  rw [hu.frame.deviceId]
  have hcap' : b.canRumble = true := hu.canRumble ▸ hcap
  have hid : 0 ≤ b.lorieDeviceId := by
    unfold canRumble at hcap'
    by_contra hneg
    simp [Int.not_le.mp hneg] at hcap'
  have hmark : ∀ x, Out.added x ∉ [Out.rumbleUpdated b.clock b.held] := by simp
  rw [hu.log]
  refine HeardOf.append ?_ hmark
  unfold asked
  rw [hcap', Bool.not_true, if_neg Bool.false_ne_true, if_neg hne]
  split
  · obtain ⟨pre, post, heq, hno, -⟩ := hd.here hid
    refine ⟨pre, post ++ [_], b.clock, d, by rw [heq]; simp, fun x hx => ?_,
      List.mem_append_right _ (List.mem_singleton.mpr rfl)⟩
    rcases List.mem_append.mp hx with hx | hx
    · exact hno x hx
    · simp at hx
  · rename_i hsame
    have hlow : low = b.activeRumbleLow := Classical.byContradiction fun h' =>
      hsame (Or.inr (Or.inl h'))
    have hhigh : high = b.activeRumbleHigh := Classical.byContradiction fun h' =>
      hsame (Or.inr (Or.inr h'))
    rw [List.append_nil, hlow, hhigh]
    exact h (hlow ▸ hhigh ▸ hne) hcap'

theorem Follows.idles (h : Follows b) (hi : Idles b b') : Follows b' := by
  intro hne hcap
  obtain ⟨l, hl, hidle⟩ := hi.log
  rw [hi.low, hi.high] at hne ⊢
  rw [hi.deviceId, hl]
  exact (h hne (hi.canRumble ▸ hcap)).append (idle_no_added hidle)

theorem move_follows (hm : Move b b') (h : Cached b ∧ Follows b) : Cached b' ∧ Follows b' := by
  refine ⟨move_cached hm h.1, ?_⟩
  cases hm with
  | quiet hq => exact h.2.idles hq.toIdles
  | forced he => exact update_follows (h.2.idles he.toIdles) (h.1.toDated.edit he) true
  | tick => exact update_follows h.2 h.1.toDated false

/-! ## 3. Device changes -/

theorem gone_cached (h : Cached b) : Cached b.gone := by
  refine ⟨⟨fun hpos => ?_, h.bounded⟩, h.zero_iff⟩
  exact absurd hpos (by simp)

theorem gone_follows (b : Bridge) : Follows b.gone := by
  intro _ hcap
  unfold canRumble at hcap
  simp at hcap

theorem came_cached (h : Cached b) (f : FoundDevice) : Cached (b.came f) := by
  exact ⟨⟨fun _ => ⟨b.log, [], rfl, by simp, by simp⟩, h.bounded⟩, h.zero_iff⟩

theorem came_follows {f : FoundDevice} (h : Cached b)
    (hunheld : (b.came f).canRumble = true → Unheld b) : Follows (b.came f) :=
  fun hne hcap => absurd (h.zero_iff.mpr (hunheld hcap)) hne

/-- A refresh adds a rumble-capable device only while nobody holds rumble. -/
def AddsUnheld (b : Bridge) (answer : DeviceAnswer) : Prop :=
  ∀ f, (b.findLorieDevice answer).2 = some f →
    (b.findLorieDevice answer).1.sameDevice f = false → 0 ≤ f.deviceId → answer.selectOk = true →
    ((b.findLorieDevice answer).1.withoutDevice.came f).canRumble = true →
    Unheld (b.findLorieDevice answer).1.withoutDevice

theorem withoutDevice_follows (h : Cached b ∧ Follows b) :
    Cached b.withoutDevice ∧ Follows b.withoutDevice := by
  unfold withoutDevice
  split
  · rw [removeDevice_eq]
    exact Moves.inv (P := fun b => Cached b ∧ Follows b) (fun _ _ => move_follows)
      (moves_parts.broadcast ..) ⟨gone_cached h.1, gone_follows b⟩
  · exact h

theorem refresh_cached (h : Cached b) (answer : DeviceAnswer) :
    Cached (b.refreshLorieDevice answer) := by
  refine refreshLorieDevice_inv answer (fun c hc => h.quiet (searched_quietly hc)) ?_ ?_
  · intro c _ hc
    rw [removeDevice_eq]
    exact Moves.inv (fun _ _ => move_cached) (moves_parts.broadcast ..) (gone_cached hc)
  · intro c f _ _ hc
    rw [addDevice_eq]
    exact Moves.inv (fun _ _ => move_cached) (moves_parts.broadcast ..) (came_cached hc f)

theorem refresh_follows (h : Cached b ∧ Follows b) {answer : DeviceAnswer}
    (hadd : b.AddsUnheld answer) : Follows (b.refreshLorieDevice answer) := by
  have hq := searched_quietly (findLorieDevice_searched b answer)
  have hs : Cached (b.findLorieDevice answer).1 ∧ Follows (b.findLorieDevice answer).1 :=
    ⟨h.1.quiet hq, h.2.idles hq.toIdles⟩
  rcases refreshLorieDevice_cases b answer with ⟨f, _, _, he⟩ | ⟨hno, he | ⟨f, hf, hid, hsel, he⟩⟩
  · rw [he]
    exact hs.2
  · rw [he]
    exact (withoutDevice_follows hs).2
  · rw [he, addDevice_eq]
    have hw := (withoutDevice_follows hs).1
    exact (Moves.inv (P := fun b => Cached b ∧ Follows b) (fun _ _ => move_follows)
      (moves_parts.broadcast ..) ⟨came_cached hw f,
        came_follows hw fun hcap => hadd f hf (hno f hf) hid hsel hcap⟩).2

/-! ## 4. Runs -/

theorem act_cached (h : Cached b) (a : Action) : Cached (b.act a) := by
  by_cases ha : ∃ answer, a = .xEvent (.hierarchyChanged answer)
  · obtain ⟨answer, rfl⟩ := ha
    exact refresh_cached h answer
  · exact Moves.inv (fun _ _ => move_cached) (act_moves b fun answer he => ha ⟨answer, he⟩) h

theorem init_cached (opcode : Int) : Cached (Bridge.init opcode) :=
  ⟨⟨fun h => absurd h (by decide : ¬ (0 : Int) ≤ -1), fun _ _ h => by cases h⟩,
    ⟨fun _ _ => rfl, fun _ => ⟨rfl, rfl⟩⟩⟩

theorem run_cached (opcode : Int) (answer : DeviceAnswer) (inputs : List Input) :
    Cached (run step (boot opcode answer) inputs) :=
  run_boot_inv init_cached (fun b sends ticks stamps h => h.quiet (withEnv_quietly b sends ticks stamps))
    (fun _ a h => act_cached h a) opcode answer inputs

/-- A step adds a rumble-capable device only while nobody holds rumble. -/
def StepUnheld (b : Bridge) (inp : Input) : Prop :=
  ∀ answer, inp.action = .xEvent (.hierarchyChanged answer) →
    (b.withEnv inp.sends inp.ticks inp.stamps).AddsUnheld answer

theorem step_follows (h : Cached b ∧ Follows b) {inp : Input} (hadd : b.StepUnheld inp) :
    Cached (b.step inp) ∧ Follows (b.step inp) := by
  have hq := withEnv_quietly b inp.sends inp.ticks inp.stamps
  have h' : Cached (b.withEnv inp.sends inp.ticks inp.stamps) ∧
      Follows (b.withEnv inp.sends inp.ticks inp.stamps) := ⟨h.1.quiet hq, h.2.idles hq.toIdles⟩
  refine ⟨act_cached h'.1 inp.action, ?_⟩
  show Follows ((b.withEnv inp.sends inp.ticks inp.stamps).act inp.action)
  by_cases ha : ∃ answer, inp.action = .xEvent (.hierarchyChanged answer)
  · obtain ⟨answer, ha⟩ := ha
    rw [ha]
    exact refresh_follows h' (hadd answer ha)
  · exact (Moves.inv (P := fun b => Cached b ∧ Follows b) (fun _ _ => move_follows)
      (act_moves _ fun answer he => ha ⟨answer, he⟩) h').2

theorem boot_follows (opcode : Int) (answer : DeviceAnswer) : Follows (boot opcode answer) := by
  have h := boot_unused opcode answer
  exact fun hne => absurd ⟨h.low, h.high⟩ hne

/-- **Rumble follows the device, except across a stale cache.** In every reachable state with a
    rumble-capable device, whenever it came, and somebody holding rumble, the next update sends
    the device the maxima exactly if it is forced or the cached pair is not the maxima. And in
    every run whose steps add capable devices only while nobody holds rumble, the present device
    has heard of what is recorded as active, exactly unless it takes no rumble and somebody holds
    some. -/
theorem rumble_follows_device (opcode : Int) (answer : DeviceAnswer) (inputs : List Input) :
    let b := run step (boot opcode answer) inputs
    (∀ sends ticks stamps force, let u := b.withEnv sends ticks stamps
      u.canRumble = true → (∃ r, Live u.clients u.clock r) →
        (u.SendsPeak force ↔
          force = true ∨ ¬ Peak (Live u.clients u.clock) u.activeRumbleLow u.activeRumbleHigh)) ∧
    ((∀ pre inp post, inputs = pre ++ inp :: post →
        StepUnheld (run step (boot opcode answer) pre) inp) →
      (Delivered b ↔ b.lorieDeviceId < 0 ∨ b.canRumble = true ∨ Unheld b)) := by
  dsimp only
  have hc := run_cached opcode answer inputs
  refine ⟨fun sends ticks stamps force hcap ⟨r, hr⟩ => ?_, fun hsteps => ⟨fun hdel => ?_, fun hdev => ?_⟩⟩
  · have hb := (hc.quiet (withEnv_quietly _ sends ticks stamps)).bounded
    exact updateRumble_sends_iff hcap hb hr force
  · by_contra hno
    obtain ⟨hid, hno⟩ := not_or.mp hno
    obtain ⟨hcap, hheld⟩ := not_or.mp hno
    exact hc.toDated.deaf (Int.not_lt.mp hid) (Bool.eq_false_iff.mpr hcap) _ _
      (hdel (fun hz => hheld (hc.zero_iff.mp hz)) (Int.not_lt.mp hid))
  · have hf : Cached (run step (boot opcode answer) inputs) ∧
        Follows (run step (boot opcode answer) inputs) := by
      clear hc hdev
      induction inputs using List.reverseRecOn with
      | nil => exact ⟨run_cached opcode answer [], boot_follows opcode answer⟩
      | append_singleton inputs inp ih =>
        rw [run_concat]
        refine step_follows (ih fun pre inp' post heq => ?_) (hsteps inputs inp [] rfl)
        exact hsteps pre inp' (post ++ [inp]) (by rw [heq]; simp)
    intro hne hid
    rcases hdev with hneg | hcap | hno
    · exact absurd hid (Int.not_le.mpr hneg)
    · exact hf.2 hne hcap
    · exact absurd (hc.zero_iff.mpr hno) hne

/-- The same gamepad under another id. -/
def otherPad : DeviceAnswer :=
  ⟨some [{ padInfo with deviceid := 6, reply := some ⟨true, 6, 1, 1, 2, 0⟩ }], true⟩

/-- A client rumbles for a second; the gamepad is replaced. -/
def padReplaced : List Input :=
  [quietly (.accept (.conn 0 true)), quietly (.readable slot0 (.data (rumbleBytes 100 0 1000))),
    quietly (.xEvent (.hierarchyChanged otherPad))]

/-- The state in which the next update is the first since the present device was added. -/
def AwaitsUpdate (b : Bridge) : Prop :=
  ∃ pre post, b.log = pre ++ .added b.lorieDeviceId :: post ∧ ∀ t held, .rumbleUpdated t held ∉ post

/-- The new device is not asked: the old one had the same maxima. -/
theorem replaced_pad_not_asked :
    ¬ ∀ opcode answer inputs, let b := run step (boot opcode answer) inputs
      AwaitsUpdate b → b.canRumble = true → (∃ r, Live b.clients b.clock r) →
        ∀ force, b.SendsPeak force := by
  intro h
  have hawaits : AwaitsUpdate (run step (boot 1 padAnswer) padReplaced) := by
    refine ⟨(run step (boot 1 padAnswer) padReplaced).log.dropLast, [], ?_, by simp⟩
    decide +kernel
  have hlive : Live (run step (boot 1 padAnswer) padReplaced).clients
      (run step (boot 1 padAnswer) padReplaced).clock ⟨100, 0, 1000⟩ := ⟨slot0, by decide +kernel⟩
  obtain ⟨s, low, high, d, hlog, -⟩ :=
    h 1 padAnswer padReplaced hawaits (by decide +kernel) ⟨_, hlive⟩ false
  have hlen := congrArg List.length hlog
  rw [List.length_append, List.length_cons, List.length_singleton] at hlen
  revert hlen
  decide +kernel

end Bridge

end TermuxGamepad
