/-
  File:      TermuxGamepad/Bridge/Arbitration.lean
  Subject:   The rumble the device plays: the maxima over the clients that hold some.

  `updateRumble_spec` is the whole of `update_rumble`: what it finds, what it sends, and what it
  remembers. Requests are suppressed while the maxima stay what they were, so the last request
  has to speak for every client that holds rumble now. `Arbiter` is the invariant that says it
  does, on a device that stays: the cached pair is what the last request asked for, and that
  request lasts as long as any client's rumble.
-/
import TermuxGamepad.Bridge.Moves

namespace TermuxGamepad

open Wire

/-! ## 1. What one update finds -/

/-- The rumble a client still holds after time `t`. -/
def Client.live (c : Client) (t : Nat) : Option Rumble :=
  c.holds.filter fun r => t < r.rumbleExpiresMs

theorem Client.live_iff {c : Client} {t : Nat} {r : Rumble} :
    c.live t = some r ↔ c.holds = some r ∧ t < r.rumbleExpiresMs := by
  unfold Client.live
  rw [Option.filter_eq_some_iff]
  simp

theorem Client.on_of_holds {c : Client} {r : Rumble} (h : c.holds = some r) :
    r = c.toRumble ∧ r.on = true ∧ c.fd.isSome = true := by
  unfold Client.holds at h
  split at h
  · rename_i hb
    obtain ⟨h1, h2⟩ := Bool.and_eq_true_iff.mp hb
    cases h
    exact ⟨rfl, h2, h1⟩
  · cases h

namespace Bridge

/-- Some connected client holds this rumble after time `t`. -/
def Live (clients : Slot → Client) (t : Nat) (r : Rumble) : Prop := ∃ i, (clients i).live t = some r

/-- The pair is the maxima over some rumbles, zero where there are none. -/
structure Peak (L : Rumble → Prop) (low high : UInt16) : Prop where
  low_le : ∀ r, L r → r.rumbleLow ≤ low
  high_le : ∀ r, L r → r.rumbleHigh ≤ high
  low_at : low = 0 ∨ ∃ r, L r ∧ r.rumbleLow = low
  high_at : high = 0 ∨ ∃ r, L r ∧ r.rumbleHigh = high

/-- What the scan has seen of the slots `l`. -/
structure Scanned (clients : Slot → Client) (now : Nat) (l : List Slot) (s : RumbleScan) : Prop where
  rumble : ∀ i, (s.clients i).toRumble = (clients i).toRumble ∨ (s.clients i).toRumble = Rumble.off
  live : ∀ i, (s.clients i).live now = (clients i).live now
  cleared : ∀ i ∈ l, (s.clients i).holds = (clients i).live now
  peak : Peak (fun r => ∃ i ∈ l, (clients i).live now = some r) s.low s.high
  longest : ∀ i ∈ l, ∀ r, (clients i).live now = some r →
    r.rumbleExpiresMs ≤ now + s.longestRemaining

theorem le_pick (a b : UInt16) :
    a ≤ (if a > b then a else b) ∧ b ≤ (if a > b then a else b) := by
  split
  · rename_i h
    exact ⟨UInt16.le_refl a, UInt16.le_of_lt h⟩
  · rename_i h
    exact ⟨UInt16.not_lt.mp h, UInt16.le_refl b⟩

theorem pick_eq (a b : UInt16) : (if a > b then a else b) = a ∨ (if a > b then a else b) = b := by
  split
  · exact Or.inl rfl
  · exact Or.inr rfl

variable {clients : Slot → Client} {now : Nat} {l : List Slot} {s : RumbleScan}

/-- A record whose rumble the scan cleared. -/
def silenced (c : Client) : Client := { c with toRumble := Rumble.off }

theorem silenced_holds (c : Client) : (silenced c).holds = none := holds_of_off rfl

/-- The loop body: a client without rumble, one whose rumble has expired, and one that counts. -/
theorem scanRumble_cases (now : Nat) (s : RumbleScan) (i : Slot) :
    ((s.clients i).holds = none ∧ scanRumble now s i = s) ∨
      ((s.clients i).live now = none ∧ scanRumble now s i =
        { s with clients := Function.update s.clients i (silenced (s.clients i)) }) ∨
      ∃ r, (s.clients i).live now = some r ∧ (s.clients i).holds = some r ∧
        scanRumble now s i =
          { s with
            low := if r.rumbleLow > s.low then r.rumbleLow else s.low
            high := if r.rumbleHigh > s.high then r.rumbleHigh else s.high
            longestRemaining :=
              if r.rumbleExpiresMs - now > s.longestRemaining then r.rumbleExpiresMs - now
              else s.longestRemaining } := by
  unfold scanRumble
  dsimp only
  split
  · rename_i hno
    left
    refine ⟨?_, rfl⟩
    unfold Client.holds
    rw [if_neg]
    intro hb
    obtain ⟨h1, h2⟩ := Bool.and_eq_true_iff.mp hb
    simp only [Bool.or_eq_true, Option.isNone_iff_eq_none, Bool.not_eq_true'] at hno
    rcases hno with hno | hno
    · rw [hno] at h1
      cases h1
    · rw [hno] at h2
      cases h2
  · rename_i hyes
    have hholds : (s.clients i).holds = some (s.clients i).toRumble := by
      unfold Client.holds
      rw [if_pos]
      simp only [Bool.or_eq_true, Option.isNone_iff_eq_none, Bool.not_eq_true', not_or] at hyes
      rw [Bool.and_eq_true_iff]
      exact ⟨Option.isSome_iff_ne_none.mpr hyes.1, Bool.not_eq_false _ ▸ hyes.2⟩
    split
    · rename_i hexp
      refine Or.inr (Or.inl ⟨?_, rfl⟩)
      unfold Client.live
      rw [hholds, Option.filter_some, if_neg (by simpa using hexp)]
    · rename_i hexp
      exact Or.inr (Or.inr ⟨_, Client.live_iff.mpr ⟨hholds, Nat.not_le.mp hexp⟩, hholds, rfl⟩)

theorem Client.live_of_none {c : Client} (h : c.holds = none) (t : Nat) : c.live t = none := by
  unfold Client.live
  rw [h]
  rfl

/-- A slot whose client does not count. -/
theorem Scanned.skip (h : Scanned clients now l s) {i : Slot} {c : Slot → Client}
    (hdead : (clients i).live now = none) (hself : (c i).holds = none)
    (hrumble : (c i).toRumble = (clients i).toRumble ∨ (c i).toRumble = Rumble.off)
    (hother : ∀ j, j ≠ i → c j = s.clients j) :
    Scanned clients now (l ++ [i]) { s with clients := c } := by
  have hmem : ∀ {j r}, j ∈ l ++ [i] → (clients j).live now = some r → j ∈ l := by
    intro j r hj hr
    rcases List.mem_append.mp hj with hj | hj
    · exact hj
    · rw [List.mem_singleton.mp hj, hdead] at hr
      cases hr
  refine ⟨fun j => ?_, fun j => ?_, fun j hj => ?_, ?_, fun j hj r hr => h.longest j (hmem hj hr) r hr⟩
  · by_cases hji : j = i
    · exact hji ▸ hrumble
    · show (c j).toRumble = _ ∨ (c j).toRumble = _
      rw [hother j hji]
      exact h.rumble j
  · by_cases hji : j = i
    · subst hji
      exact (Client.live_of_none hself now).trans hdead.symm
    · show (c j).live now = _
      rw [hother j hji]
      exact h.live j
  · by_cases hji : j = i
    · subst hji
      exact hself.trans hdead.symm
    · show (c j).holds = _
      rw [hother j hji]
      refine h.cleared j ((List.mem_append.mp hj).resolve_right fun hj' => hji ?_)
      exact List.mem_singleton.mp hj'
  · have hiff : ∀ r, (∃ j ∈ l ++ [i], (clients j).live now = some r) →
        ∃ j ∈ l, (clients j).live now = some r := fun r ⟨j, hj, hr⟩ => ⟨j, hmem hj hr, hr⟩
    exact ⟨fun r hr => h.peak.low_le r (hiff r hr), fun r hr => h.peak.high_le r (hiff r hr),
      h.peak.low_at.imp_right fun ⟨r, ⟨j, hj, hr⟩, he⟩ => ⟨r, ⟨j, List.mem_append_left _ hj, hr⟩, he⟩,
      h.peak.high_at.imp_right fun ⟨r, ⟨j, hj, hr⟩, he⟩ => ⟨r, ⟨j, List.mem_append_left _ hj, hr⟩, he⟩⟩

/-- One more rumble joins the maxima. -/
theorem Peak.join {L : Rumble → Prop} {low high : UInt16} (h : Peak L low high) (r : Rumble) :
    Peak (fun r' => L r' ∨ r' = r) (if r.rumbleLow > low then r.rumbleLow else low)
      (if r.rumbleHigh > high then r.rumbleHigh else high) where
  low_le r' hr' := by
    obtain ⟨h1, h2⟩ := le_pick r.rumbleLow low
    rcases hr' with hr' | rfl
    · exact UInt16.le_trans (h.low_le r' hr') h2
    · exact h1
  high_le r' hr' := by
    obtain ⟨h1, h2⟩ := le_pick r.rumbleHigh high
    rcases hr' with hr' | rfl
    · exact UInt16.le_trans (h.high_le r' hr') h2
    · exact h1
  low_at := by
    rcases pick_eq r.rumbleLow low with he | he <;> rw [he]
    · exact Or.inr ⟨r, Or.inr rfl, rfl⟩
    · exact h.low_at.imp_right fun ⟨r', h1, h2⟩ => ⟨r', Or.inl h1, h2⟩
  high_at := by
    rcases pick_eq r.rumbleHigh high with he | he <;> rw [he]
    · exact Or.inr ⟨r, Or.inr rfl, rfl⟩
    · exact h.high_at.imp_right fun ⟨r', h1, h2⟩ => ⟨r', Or.inl h1, h2⟩

theorem Peak.congr {L L' : Rumble → Prop} {low high : UInt16} (h : Peak L low high)
    (hL : ∀ r, L r ↔ L' r) : Peak L' low high :=
  ⟨fun r hr => h.low_le r ((hL r).mpr hr), fun r hr => h.high_le r ((hL r).mpr hr),
    h.low_at.imp_right fun ⟨r, h1, h2⟩ => ⟨r, (hL r).mp h1, h2⟩,
    h.high_at.imp_right fun ⟨r, h1, h2⟩ => ⟨r, (hL r).mp h1, h2⟩⟩

/-- **One more slot.** -/
theorem Scanned.next (h : Scanned clients now l s) (i : Slot) :
    Scanned clients now (l ++ [i]) (scanRumble now s i) := by
  have hlive := h.live i
  rcases scanRumble_cases now s i with ⟨hnone, he⟩ | ⟨hdead, he⟩ | ⟨r, hr, hholds, he⟩ <;> rw [he]
  · have hdead := (hlive.symm.trans (Client.live_of_none hnone now))
    exact h.skip hdead hnone (h.rumble i) fun _ _ => rfl
  · refine h.skip (hlive.symm.trans hdead) ?_ (Or.inr ?_) fun j hj => Function.update_of_ne hj ..
    · rw [Function.update_self]
      exact silenced_holds _
    · rw [Function.update_self]
      rfl
  · rw [hlive] at hr
    have hmem : ∀ {j r'}, j ∈ l ++ [i] → (clients j).live now = some r' →
        (j ∈ l ∧ (clients j).live now = some r') ∨ r' = r := by
      intro j r' hj hr'
      rcases List.mem_append.mp hj with hj | hj
      · exact Or.inl ⟨hj, hr'⟩
      · rw [List.mem_singleton.mp hj, hr] at hr'
        exact Or.inr (Option.some.inj hr').symm
    refine ⟨h.rumble, h.live, fun j hj => ?_, (h.peak.join r).congr fun r' => ?_, fun j hj r' hr' => ?_⟩
    · rcases List.mem_append.mp hj with hj | hj
      · exact h.cleared j hj
      · rw [List.mem_singleton.mp hj]
        exact hholds.trans hr.symm
    · constructor
      · rintro (⟨j, hj, hr'⟩ | rfl)
        · exact ⟨j, List.mem_append_left _ hj, hr'⟩
        · exact ⟨i, by simp, hr⟩
      · rintro ⟨j, hj, hr'⟩
        exact (hmem hj hr').imp_left fun h => ⟨j, h⟩
    · show r'.rumbleExpiresMs ≤ now + if r.rumbleExpiresMs - now > s.longestRemaining then
        r.rumbleExpiresMs - now else s.longestRemaining
      rcases hmem hj hr' with ⟨hj', _⟩ | rfl
      · have := h.longest j hj' r' hr'
        split <;> omega
      · split <;> omega

theorem scanned_all (b : Bridge) (now : Nat) :
    Scanned b.clients now (List.finRange maxClients) (b.scanClients now) := by
  have h : ∀ l, Scanned b.clients now l (l.foldl (scanRumble now)
      { clients := b.clients, low := 0, high := 0, longestRemaining := 0 }) := by
    intro l
    induction l using List.reverseRecOn with
    | nil =>
      refine ⟨fun _ => Or.inl rfl, fun _ => rfl, fun _ h => absurd h List.not_mem_nil,
        ⟨?_, ?_, Or.inl rfl, Or.inl rfl⟩, fun _ h => absurd h List.not_mem_nil⟩ <;>
      · rintro r ⟨_, h, _⟩
        exact absurd h List.not_mem_nil
    | append_singleton l i ih =>
      rw [List.foldl_append]
      exact ih.next i
  exact h _

/-! ## 2. What one update does -/

/-- The next reading of the clock. -/
def clock (b : Bridge) : Nat := b.now + b.ticks.headD 0

/-- The requests of one update: a stop where the maxima are zero and something was playing, a
    request where they are not and have changed or the update is forced. -/
def asked (b : Bridge) (force : Bool) (low high : UInt16) (d : UInt32) : List Out :=
  if !b.canRumble then []
  else if low = 0 ∧ high = 0 then
    if b.activeRumbleLow = 0 ∧ b.activeRumbleHigh = 0 then []
    else [.request b.clock (.stopRumble (card16 b.lorieDeviceId))]
  else if force = true ∨ low ≠ b.activeRumbleLow ∨ high ≠ b.activeRumbleHigh then
    [.request b.clock (.rumble (card16 b.lorieDeviceId) low high d)]
  else []

/-- What `update_rumble` did: `low` and `high` are the maxima it found, `d` the duration. -/
structure Updated (b : Bridge) (force : Bool) (low high : UInt16) (d : UInt32) (b' : Bridge) :
    Prop where
  peak : Peak (Live b.clients b.clock) low high
  lasts : ∀ r, Live b.clients b.clock r → r.rumbleExpiresMs ≤ b.clock + maxRemaining →
    r.rumbleExpiresMs ≤ b.clock + d.toNat
  activeLow : b'.activeRumbleLow = low
  activeHigh : b'.activeRumbleHigh = high
  now : b'.now = b.clock
  holds : ∀ i, (b'.clients i).holds = (b.clients i).live b.clock
  rumble : ∀ i, (b'.clients i).toRumble = (b.clients i).toRumble ∨
    (b'.clients i).toRumble = Rumble.off
  frame : Frame b b'
  log : b'.log = b.log ++ b.asked force low high d ++ [.rumbleUpdated b.clock b.held]

theorem Updated.canRumble {b b' : Bridge} {force : Bool} {low high : UInt16} {d : UInt32}
    (hu : Updated b force low high d b') : b'.canRumble = b.canRumble := by
  unfold Bridge.canRumble
  rw [hu.frame.opcode, hu.frame.deviceId, hu.frame.capabilities]

theorem rumbleDuration_le (n k : Nat) (hk : k ≤ n) (hmax : k ≤ maxRemaining) :
    k ≤ (rumbleDuration n).toNat := by
  unfold maxRemaining at hmax
  unfold rumbleDuration
  dsimp only
  generalize hd : (if n > 0xffffffff then 0xffffffff else n) = duration
  have hlt : duration < 2 ^ 32 := by
    rw [← hd]
    split <;> omega
  have hle : k ≤ duration := by
    rw [← hd]
    split <;> omega
  split
  · omega
  · rw [UInt32.toNat_ofNat_of_lt' hlt]
    exact hle

theorem sendLorieRumble_log (b : Bridge) (low high : UInt16) (d : UInt32) :
    (b.sendLorieRumble low high d).log = b.log ++
      if !b.canRumble then []
      else if low = 0 ∧ high = 0 then [.request b.now (.stopRumble (card16 b.lorieDeviceId))]
      else [.request b.now (.rumble (card16 b.lorieDeviceId) low high d)] := by
  unfold sendLorieRumble
  split
  · simp
  · by_cases h : low = 0 ∧ high = 0
    · simp [h]
    · rw [if_neg h, if_neg (by simpa using h)]
      rfl

theorem decideRumble_log (b : Bridge) (s : RumbleScan) (force : Bool) :
    (b.decideRumble s force).log = b.log ++
      if !b.canRumble then []
      else if s.low = 0 ∧ s.high = 0 then
        if b.activeRumbleLow = 0 ∧ b.activeRumbleHigh = 0 then []
        else [.request b.now (.stopRumble (card16 b.lorieDeviceId))]
      else if force = true ∨ s.low ≠ b.activeRumbleLow ∨ s.high ≠ b.activeRumbleHigh then
        [.request b.now (.rumble (card16 b.lorieDeviceId) s.low s.high
          (rumbleDuration s.longestRemaining))]
      else [] := by
  unfold decideRumble
  by_cases hz : s.low = 0 ∧ s.high = 0
  · rw [if_pos (by simpa using hz)]
    by_cases ha : b.activeRumbleLow = 0 ∧ b.activeRumbleHigh = 0
    · rw [if_neg (by simp [ha.1, ha.2])]
      simp [hz, ha]
    · rw [if_pos (by simp only [Bool.or_eq_true, bne_iff_ne]; tauto), sendLorieRumble_log]
      simp [hz, ha]
  · rw [if_neg (by simpa using hz)]
    by_cases hask : force = true ∨ s.low ≠ b.activeRumbleLow ∨ s.high ≠ b.activeRumbleHigh
    · rw [if_pos (by simpa [or_assoc] using hask), sendLorieRumble_log]
      simp [hz, hask]
    · rw [if_neg (by simpa [or_assoc] using hask)]
      simp [hz, hask]

theorem decideRumble_now (b : Bridge) (s : RumbleScan) (force : Bool) :
    (b.decideRumble s force).now = b.now := by
  have hsend : ∀ low high d, (b.sendLorieRumble low high d).now = b.now := by
    intro low high d
    unfold sendLorieRumble
    split
    · rfl
    · split <;> rfl
  unfold decideRumble
  split <;> split <;> first
    | exact hsend ..
    | rfl

/-- **The whole of `update_rumble`.** -/
theorem updateRumble_spec (b : Bridge) (force : Bool) :
    ∃ low high d, Updated b force low high d (b.updateRumble force) := by
  have hscan := scanned_all b.monotonicMs.2 b.monotonicMs.1
  have hmem : ∀ r, (∃ i ∈ List.finRange maxClients, (b.clients i).live b.clock = some r) ↔
      Live b.clients b.clock r := fun r =>
    ⟨fun ⟨i, _, h⟩ => ⟨i, h⟩, fun ⟨i, h⟩ => ⟨i, List.mem_finRange i, h⟩⟩
  refine ⟨_, _, rumbleDuration (b.monotonicMs.2.scanClients b.monotonicMs.1).longestRemaining,
    hscan.peak.congr hmem, ?_, rfl, rfl, ?_, ?_, ?_, frame_blind.updateRumble b force, ?_⟩
  · rintro r ⟨i, hr⟩ hmax
    have hlong := hscan.longest i (List.mem_finRange i) r hr
    have hlt := (Client.live_iff.mp hr).2
    have hclock : b.monotonicMs.1 = b.clock := rfl
    rw [hclock] at hlong
    have := rumbleDuration_le (b.monotonicMs.2.scanClients b.clock).longestRemaining
      (r.rumbleExpiresMs - b.clock) (by omega) (by omega)
    rw [hclock]
    omega
  · exact decideRumble_now _ _ _
  · intro i
    unfold updateRumble
    simp only [emit_clients, decideRumble_clients]
    exact hscan.cleared i (List.mem_finRange i)
  · intro i
    unfold updateRumble
    simp only [emit_clients, decideRumble_clients]
    exact hscan.rumble i
  · unfold updateRumble
    simp only [emit_log, decideRumble_log]
    rfl

end Bridge

/-! ## 3. The last request -/

/-- A request about rumble, with its time. -/
def Out.rumbleRequest : Out → Option (Nat × LorieRequest)
  | .request t (.rumble id low high d) => some (t, .rumble id low high d)
  | .request t (.stopRumble id) => some (t, .stopRumble id)
  | _ => none

/-- The last request about rumble in a history. -/
def lastRequest (log : List Out) : Option (Nat × LorieRequest) :=
  (log.filterMap Out.rumbleRequest).getLast?

/-- The motors are not asked to run. -/
def Silent (log : List Out) : Prop :=
  lastRequest log = none ∨ ∃ t id, lastRequest log = some (t, .stopRumble id)

theorem rumbleRequest_of_idle {o : Out} (h : o.idle = true) : o.rumbleRequest = none := by
  cases o with
  | request t r => cases r <;> first | rfl | cases h
  | _ => rfl

theorem lastRequest_append (log : List Out) {l : List Out} (h : ∀ o ∈ l, o.rumbleRequest = none) :
    lastRequest (log ++ l) = lastRequest log := by
  unfold lastRequest
  rw [List.filterMap_append, List.filterMap_eq_nil_iff.mpr h, List.append_nil]

theorem lastRequest_idle (log : List Out) {l : List Out} (h : ∀ o ∈ l, o.idle = true) :
    lastRequest (log ++ l) = lastRequest log :=
  lastRequest_append log fun o ho => rumbleRequest_of_idle (h o ho)

/-- The rumbles of a mark that outlast its time. -/
def liveRumbles (t : Nat) (held : List Rumble) : List Rumble :=
  held.filter fun r => r.on && t < r.rumbleExpiresMs

/-- **What the arbitration owes at a call of `update_rumble`**, `t` and `held` being its mark: where
    some client holds rumble after `t`, the last request asks for the maxima over those clients and
    lasts as long as any of them; where none does, the motors are not asked to run. -/
structure Arbitrated (log : List Out) (t : Nat) (held : List Rumble) : Prop where
  silent : liveRumbles t held = [] → Silent log
  playing : liveRumbles t held ≠ [] → ∃ s id low high d,
    lastRequest log = some (s, .rumble id low high d) ∧
    (∀ r ∈ liveRumbles t held, r.rumbleLow ≤ low ∧ r.rumbleHigh ≤ high ∧
      r.rumbleExpiresMs ≤ s + d.toNat) ∧
    (∃ r ∈ liveRumbles t held, r.rumbleLow = low) ∧
    ∃ r ∈ liveRumbles t held, r.rumbleHigh = high

/-- Every call of `update_rumble` in the history was arbitrated. -/
def AllArbitrated (log : List Out) : Prop :=
  ∀ pre t held post, log = pre ++ .rumbleUpdated t held :: post → Arbitrated pre t held

theorem AllArbitrated.concat {log : List Out} (h : AllArbitrated log) {o : Out}
    (ho : ∀ t held, o = .rumbleUpdated t held → Arbitrated log t held) :
    AllArbitrated (log ++ [o]) := by
  intro pre t held post heq
  rcases List.eq_nil_or_concat post with rfl | ⟨post', y, rfl⟩
  · have h1 := List.append_inj' heq rfl
    rw [← h1.1]
    exact ho t held (List.cons.inj h1.2).1
  · have heq' : log ++ [o] = (pre ++ .rumbleUpdated t held :: post') ++ [y] := by
      rw [heq]
      simp
    exact h pre t held post' (List.append_inj' heq' rfl).1

theorem AllArbitrated.append {log l : List Out} (h : AllArbitrated log)
    (hl : ∀ o ∈ l, ∀ t held, o ≠ .rumbleUpdated t held) : AllArbitrated (log ++ l) := by
  induction l using List.reverseRecOn with
  | nil => rwa [List.append_nil]
  | append_singleton l o ih =>
    rw [← List.append_assoc]
    refine (ih fun o' ho' => hl o' (List.mem_append_left _ ho')).concat fun t held he => ?_
    exact absurd he (hl o (by simp) t held)

namespace Bridge

variable {b b' : Bridge}

/-- **The invariant of the arbitration** on a rumble-capable device: the last request asked for the
    cached pair, nobody's rumble outlasts the longest time, and every call was arbitrated. -/
structure Arbiter (b : Bridge) : Prop where
  capable : b.canRumble = true
  silent : b.activeRumbleLow = 0 ∧ b.activeRumbleHigh = 0 → Silent b.log
  playing : ¬ (b.activeRumbleLow = 0 ∧ b.activeRumbleHigh = 0) → ∃ s id d,
    lastRequest b.log = some (s, .rumble id b.activeRumbleLow b.activeRumbleHigh d)
  bounded : ∀ i r, (b.clients i).holds = some r → r.rumbleExpiresMs ≤ b.now + maxRemaining
  arbitrated : AllArbitrated b.log

/-- The last request lasts as long as anybody's rumble. -/
def Covered (b : Bridge) : Prop :=
  ∀ s id low high d, lastRequest b.log = some (s, .rumble id low high d) →
    ∀ i r, (b.clients i).holds = some r → b.now < r.rumbleExpiresMs → r.rumbleExpiresMs ≤ s + d.toNat

theorem Idles.canRumble (h : Idles b b') : b'.canRumble = b.canRumble := by
  unfold Bridge.canRumble
  rw [h.opcode, h.deviceId, h.capabilities]

theorem Idles.lastRequest (h : Idles b b') :
    TermuxGamepad.lastRequest b'.log = TermuxGamepad.lastRequest b.log := by
  obtain ⟨l, hl, hidle⟩ := h.log
  rw [hl, lastRequest_idle _ hidle]

/-- What an operation between two updates keeps. -/
theorem Arbiter.idles (h : Arbiter b) (hi : Idles b b')
    (hb : ∀ i r, (b'.clients i).holds = some r → r.rumbleExpiresMs ≤ b'.now + maxRemaining) :
    Arbiter b' := by
  refine ⟨hi.canRumble.trans h.capable, fun hz => ?_, fun hz => ?_, hb, ?_⟩
  · rw [hi.low, hi.high] at hz
    unfold Silent
    rw [hi.lastRequest]
    exact h.silent hz
  · rw [hi.low, hi.high] at hz ⊢
    rw [hi.lastRequest]
    exact h.playing hz
  · obtain ⟨l, hl, hidle⟩ := hi.log
    rw [hl]
    refine h.arbitrated.append fun o ho t held he => ?_
    have := hidle o ho
    rw [he] at this
    cases this

theorem Arbiter.quiet (h : Arbiter b) (hq : Quietly b b') : Arbiter b' :=
  h.idles hq.toIdles fun i r hr => by
    rw [hq.now]
    exact h.bounded i r ((hq.holds i) ▸ hr)

theorem Covered.quiet (h : Covered b) (hq : Quietly b b') : Covered b' := by
  intro s id low high d hlast i r hr hlt
  rw [hq.lastRequest] at hlast
  rw [hq.now] at hlt
  exact h s id low high d hlast i r ((hq.holds i) ▸ hr) hlt

theorem Arbiter.edit (h : Arbiter b) (he : Edits b b') : Arbiter b' := by
  refine h.idles he.toIdles fun i r hr => ?_
  rcases he.holds i r hr with hr' | hr'
  · have := h.bounded i r hr'
    have := he.now
    omega
  · exact hr'

/-- The maxima are zero exactly where nobody holds rumble. -/
theorem Peak.zero_iff {clients : Slot → Client} {t : Nat} {low high : UInt16}
    (h : Peak (Live clients t) low high) : (low = 0 ∧ high = 0) ↔ ∀ r, ¬ Live clients t r := by
  constructor
  · rintro ⟨rfl, rfl⟩ r hr
    obtain ⟨i, hi⟩ := hr
    have hon := (Client.on_of_holds (Client.live_iff.mp hi).1).2.1
    have hlow := h.low_le r ⟨i, hi⟩
    have hhigh := h.high_le r ⟨i, hi⟩
    rw [UInt16.le_zero_iff] at hlow hhigh
    simp [Rumble.on, hlow, hhigh] at hon
  · intro hno
    exact ⟨h.low_at.resolve_right fun ⟨r, hr, _⟩ => hno r hr,
      h.high_at.resolve_right fun ⟨r, hr, _⟩ => hno r hr⟩

/-- Where somebody holds rumble, each maximum is somebody's. -/
theorem Peak.attained {L : Rumble → Prop} {low high : UInt16} (h : Peak L low high) {r : Rumble}
    (hr : L r) : (∃ r, L r ∧ r.rumbleLow = low) ∧ ∃ r, L r ∧ r.rumbleHigh = high := by
  constructor
  · rcases h.low_at with h0 | h1
    · refine ⟨r, hr, ?_⟩
      have := h.low_le r hr
      rw [h0, UInt16.le_zero_iff] at this
      rw [this, h0]
    · exact h1
  · rcases h.high_at with h0 | h1
    · refine ⟨r, hr, ?_⟩
      have := h.high_le r hr
      rw [h0, UInt16.le_zero_iff] at this
      rw [this, h0]
    · exact h1

/-- A broadcast with nobody connected does nothing. -/
theorem broadcast_nobody (h : ∀ i, (b.clients i).fd = none) (kind : ClientKind) (m : Message) :
    b.broadcast kind m = b := by
  refine sweep_inv (P := fun b' => b' = b) (fun b' i hb' => ?_) rfl
  subst hb'
  rw [h i]
  rfl

/-- Nobody is connected and no rumble was ever asked for. -/
structure Unused (b : Bridge) : Prop where
  clients : ∀ i, b.clients i = Client.free
  low : b.activeRumbleLow = 0
  high : b.activeRumbleHigh = 0
  log : ∀ o ∈ b.log, o.rumbleRequest = none ∧ ∀ t held, o ≠ .rumbleUpdated t held

theorem Unused.grow (h : Unused b) {l : List Out} (hlog : b'.log = b.log ++ l)
    (hl : ∀ o ∈ l, o.rumbleRequest = none ∧ ∀ t held, o ≠ .rumbleUpdated t held)
    (hclients : b'.clients = b.clients) (hlow : b'.activeRumbleLow = b.activeRumbleLow)
    (hhigh : b'.activeRumbleHigh = b.activeRumbleHigh) : Unused b' := by
  refine ⟨fun i => hclients ▸ h.clients i, hlow.trans h.low, hhigh.trans h.high, fun o ho => ?_⟩
  rw [hlog] at ho
  rcases List.mem_append.mp ho with ho | ho
  · exact h.log o ho
  · exact hl o ho

theorem Unused.broadcast (h : Unused b) (kind : ClientKind) (m : Message) :
    Unused (b.broadcast kind m) := by
  rw [broadcast_nobody (fun i => by rw [h.clients i]; rfl)]
  exact h

theorem boot_unused (opcode : Int) (answer : DeviceAnswer) : Unused (boot opcode answer) := by
  have hinit : Unused (Bridge.init opcode) :=
    ⟨fun _ => rfl, rfl, rfl, fun _ ho => absurd ho List.not_mem_nil⟩
  unfold boot
  split
  · refine refreshLorieDevice_inv (P := Unused) answer ?_ ?_ ?_
    · rintro c ⟨reqs, rfl, hreqs⟩
      refine hinit.grow (l := reqs) rfl (fun o ho => ?_) rfl rfl rfl
      obtain ⟨t, d, rfl⟩ := hreqs o ho
      exact ⟨rfl, fun _ _ => Out.noConfusion⟩
    · intro c _ hc
      have hgone : Unused c.gone := hc.grow (l := [_]) rfl (by simp [Out.rumbleRequest]) rfl rfl rfl
      exact hgone.broadcast ..
    · intro c f _ _ hc
      have hcame : Unused (c.came f) :=
        hc.grow (l := [_]) rfl (by simp [Out.rumbleRequest]) rfl rfl rfl
      exact hcame.broadcast ..
  · exact hinit

/-- A RUMBLE command, as a client sends it. -/
def rumbleBytes (low high : UInt16) (durationMs : UInt32) : List UInt8 :=
  controlMessageCodec.enc ⟨controlMagic, controlVersion, controlRumble, low, high, durationMs⟩

end Bridge

end TermuxGamepad
