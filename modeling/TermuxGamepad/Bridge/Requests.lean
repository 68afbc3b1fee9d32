/-
  File:      TermuxGamepad/Bridge/Requests.lean
  Subject:   To whom the bridge sends rumble (lorie_evdev_bridge.c, lines 195-294 and 603-653).

  `Posts b b'` is what every operation that leaves the device alone does: to the history join
  requests for that device only. Over a run the device the history leaves in place is the one the
  requests carry, through the cast to CARD16 and back (`requests_addressed`).
-/
import TermuxGamepad.Bridge.Isolation

namespace TermuxGamepad

open Wire

/-! ## 1. The device in the history -/

/-- The device after an event. -/
def Out.device (d : Option Int) : Out → Option Int
  | .added i => some i
  | .removed _ => none
  | _ => d

/-- The device a history leaves in place. -/
def deviceAfter (log : List Out) : Option Int := log.foldl Out.device none

theorem deviceAfter_concat (log : List Out) (o : Out) :
    deviceAfter (log ++ [o]) = o.device (deviceAfter log) := by
  rw [deviceAfter, List.foldl_append]
  rfl

/-- What may follow a history: rumble for the device in place, for some motor and some time; a
    stop for it; its removal; and an addition where there is none. -/
def Addressed (log : List Out) : Out → Prop
  | .request _ (.rumble id low high d) =>
    deviceAfter log = some (id.toNat : Int) ∧ (low ≠ 0 ∨ high ≠ 0) ∧ 1 ≤ d
  | .request _ (.stopRumble id) => deviceAfter log = some (id.toNat : Int)
  | .added i => deviceAfter log = none ∧ 0 ≤ i
  | .removed i => deviceAfter log = some i
  | _ => True

/-- Every event of a history was apt when it happened. -/
def AllAddressed (log : List Out) : Prop :=
  ∀ before o after, log = before ++ o :: after → Addressed before o

theorem AllAddressed.concat {log : List Out} {o : Out} (h : AllAddressed log) (ho : Addressed log o) :
    AllAddressed (log ++ [o]) := by
  intro before e after heq
  rcases List.eq_nil_or_concat after with rfl | ⟨front, last, rfl⟩
  · obtain ⟨rfl, hoe⟩ := List.append_inj' heq rfl
    obtain rfl := List.singleton_inj.mp hoe
    exact ho
  · rw [List.concat_eq_append, ← List.cons_append, ← List.append_assoc] at heq
    exact h before e front (List.append_inj' heq rfl).1

namespace Bridge

variable {b b' : Bridge} {i : Slot}

/-! ## 2. The device stays -/

/-- What the device of a bridge allows to join the history. -/
def Apt (b : Bridge) : Out → Prop
  | .request _ (.rumble id low high d) =>
    0 ≤ b.lorieDeviceId ∧ id = card16 b.lorieDeviceId ∧ (low ≠ 0 ∨ high ≠ 0) ∧ 1 ≤ d
  | .request _ (.stopRumble id) => 0 ≤ b.lorieDeviceId ∧ id = card16 b.lorieDeviceId
  | .added _ | .removed _ => False
  | _ => True

/-- The device stays, and what joins the history is apt. -/
structure Posts (b b' : Bridge) : Prop where
  deviceId : b'.lorieDeviceId = b.lorieDeviceId
  log : ∃ l, b'.log = b.log ++ l ∧ ∀ o ∈ l, b.Apt o

theorem apt_congr (h : b'.lorieDeviceId = b.lorieDeviceId) (o : Out) : b'.Apt o ↔ b.Apt o := by
  unfold Apt
  rw [h]

theorem Posts.of_eq (hid : b'.lorieDeviceId = b.lorieDeviceId) (hlog : b'.log = b.log) : b.Posts b' :=
  ⟨hid, Joins.of_log hlog⟩

theorem Posts.refl (b : Bridge) : b.Posts b := .of_eq rfl rfl

theorem Posts.trans {c : Bridge} (h : b.Posts b') (h' : b'.Posts c) : b.Posts c := by
  refine ⟨h'.deviceId.trans h.deviceId, Joins.trans h.log ?_⟩
  obtain ⟨l, hl, ho⟩ := h'.log
  exact ⟨l, hl, fun o hmem => (apt_congr h.deviceId o).mp (ho o hmem)⟩

theorem emit_posts {o : Out} (h : b.Apt o) : b.Posts (b.emit o) := ⟨rfl, Joins.emit b h⟩

theorem emitClient_posts (b : Bridge) (o : Out) (h : o.ofClient = true) : b.Posts (b.emit o) := by
  refine emit_posts ?_
  cases o <;> first
    | exact trivial
    | cases h

/-- **A rumble request** goes to the device there is, with what the caller asks for. -/
theorem sendLorieRumble_posts (b : Bridge) (low high : UInt16) (d : UInt32)
    (hd : low ≠ 0 ∨ high ≠ 0 → 1 ≤ d) : b.Posts (b.sendLorieRumble low high d) := by
  have hid : b.canRumble = true → 0 ≤ b.lorieDeviceId := by
    intro h
    simp only [canRumble, Bool.not_eq_true', Bool.or_eq_false_iff, decide_eq_false_iff_not] at h
    omega
  unfold sendLorieRumble
  split
  · exact .refl b
  · next hcan =>
    have hcan : b.canRumble = true := by simpa using hcan
    split
    · exact emit_posts ⟨hid hcan, rfl⟩
    · next hsome =>
      have hsome : low ≠ 0 ∨ high ≠ 0 := by
        simpa only [Bool.and_eq_true, beq_iff_eq, Classical.not_and_iff_not_or_not] using hsome
      exact emit_posts ⟨hid hcan, rfl, hsome, hd hsome⟩

theorem posts_blind : Blind Posts where
  trans := .trans
  unseen hf hlog := .of_eq hf.deviceId hlog
  send b low high d hd := sendLorieRumble_posts b low high d hd
  mark _ _ _ := emit_posts trivial

theorem posts_parts : Parts Posts := posts_blind.parts emitClient_posts

theorem acceptClient_posts (b : Bridge) (r : AcceptResult) : b.Posts (b.acceptClient r) :=
  acceptClient_rel .refl .trans (fun _ _ => .of_eq rfl rfl)
    (fun b i _ _ => posts_blind.setClient b i _)
    (fun _ _ => ⟨emit_posts trivial, emit_posts trivial⟩) b r

/-- Every action but a look at the devices leaves the device alone. -/
theorem act_posts (b : Bridge) {a : Action} (ha : a.looks = false) : b.Posts (b.act a) := by
  refine posts_parts.act (fun hs => ?_) acceptClient_posts (fun _ _ => emit_posts trivial)
    (fun b => posts_blind.updateRumble b false) b
    (fun i _ _ => posts_blind.spans emitClient_posts i) (fun _ he => by rw [he] at ha; cases ha)
  obtain ⟨s, ts, rfl⟩ := hs
  exact .of_eq rfl rfl

/-! ## 3. Every run -/

/-- The history leaves the device of the bridge in place, its number fits CARD16, and everything in
    the history was apt. -/
structure Posted (b : Bridge) : Prop where
  device : deviceAfter b.log = if 0 ≤ b.lorieDeviceId then some b.lorieDeviceId else none
  narrow : b.lorieDeviceId < 65536
  all : AllAddressed b.log

/-- The cast to CARD16 loses nothing of a device number the search accepted. -/
theorem card16_toNat {d : Int} (h0 : 0 ≤ d) (h : d < 65536) : ((card16 d).toNat : Int) = d := by
  have hmod : d % 65536 = d := Int.emod_eq_of_lt h0 h
  have hlt : d.toNat < 2 ^ 16 := by omega
  rw [card16, hmod, UInt16.toNat_ofNat_of_lt' hlt, Int.toNat_of_nonneg h0]

/-- What is apt for the bridge is apt for its history, and leaves its device in place. -/
theorem Posted.apt {o : Out} {log : List Out} (hnarrow : b.lorieDeviceId < 65536)
    (hdevice : deviceAfter log = if 0 ≤ b.lorieDeviceId then some b.lorieDeviceId else none)
    (ho : b.Apt o) : Addressed log o ∧ deviceAfter (log ++ [o]) = deviceAfter log := by
  rw [deviceAfter_concat]
  cases o with
  | request t r =>
    refine ⟨?_, rfl⟩
    cases r with
    | rumble id low high d =>
      obtain ⟨h0, rfl, hrest⟩ := ho
      exact ⟨by rw [hdevice, if_pos h0, card16_toNat h0 hnarrow], hrest⟩
    | stopRumble id =>
      obtain ⟨h0, rfl⟩ := ho
      show deviceAfter log = _
      rw [hdevice, if_pos h0, card16_toNat h0 hnarrow]
    | queryVersion | queryCapabilities _ => exact trivial
  | added _ | removed _ => cases ho
  | _ => exact ⟨trivial, rfl⟩

/-- **The step**: with the device left alone the history stays in order. -/
theorem Posted.posts (h : Posted b) (hp : b.Posts b') : Posted b' := by
  obtain ⟨hid, l, hl, ho⟩ := hp
  have hgrow : ∀ log, AllAddressed log →
      deviceAfter log = (if 0 ≤ b.lorieDeviceId then some b.lorieDeviceId else none) →
      AllAddressed (log ++ l) ∧ deviceAfter (log ++ l) = deviceAfter log := by
    clear hl
    induction l with
    | nil => exact fun log hall _ => ⟨by rwa [List.append_nil], by rw [List.append_nil]⟩
    | cons o l ih =>
      intro log hall hdevice
      obtain ⟨happly, hsame⟩ := Posted.apt h.narrow hdevice (ho o List.mem_cons_self)
      obtain ⟨hall', hsame'⟩ := ih (fun e he => ho e (List.mem_cons_of_mem o he)) (log ++ [o])
        (hall.concat happly) (hsame.trans hdevice)
      rw [List.append_cons]
      exact ⟨hall', hsame'.trans hsame⟩
  obtain ⟨hall, hdevice⟩ := hgrow b.log h.all h.device
  exact ⟨by rw [hl, hdevice, hid, h.device], by rw [hid]; exact h.narrow, by rw [hl]; exact hall⟩

theorem Posted.gone (h : Posted b) (hid : 0 ≤ b.lorieDeviceId) : Posted b.gone where
  device := by
    show deviceAfter (b.log ++ [.removed b.lorieDeviceId]) = _
    rw [deviceAfter_concat]
    rfl
  narrow := show (-1 : Int) < 65536 by decide
  all := h.all.concat (by
    show deviceAfter b.log = some b.lorieDeviceId
    rw [h.device, if_pos hid])

theorem Posted.came (h : Posted b) (hid : b.lorieDeviceId < 0) {f : FoundDevice}
    (hf : 0 ≤ f.deviceId) (hnarrow : f.deviceId < 65536) : Posted (b.came f) where
  device := by
    show deviceAfter (b.log ++ [.added f.deviceId]) = if 0 ≤ f.deviceId then some f.deviceId else none
    rw [deviceAfter_concat, if_pos hf]
    rfl
  narrow := hnarrow
  all := h.all.concat ⟨by rw [h.device, if_neg (by omega)], hf⟩

/-- A device is accepted only if its reply, a CARD16, repeats its number. -/
theorem found_narrow {answer : DeviceAnswer} {f : FoundDevice} (h : answer.found = some f) :
    f.deviceId < 65536 := by
  obtain ⟨ds, -, hds⟩ := Option.bind_eq_some_iff.mp h
  obtain ⟨front, d, back, -, hd, -⟩ := List.findSome?_eq_some_iff.mp hds
  unfold XIDeviceInfo.accepted at hd
  split at hd
  · obtain ⟨r, hr, rfl⟩ := Option.map_eq_some_iff.mp hd
    obtain ⟨-, hsame⟩ := Option.filter_eq_some_iff.mp hr
    simp only [Bool.and_eq_true, beq_iff_eq] at hsame
    have hlt := r.deviceId.toNat_lt
    show d.deviceid < 65536
    omega
  · cases hd

theorem searched_posts (h : b.Searched b') : b.Posts b' := by
  obtain ⟨reqs, rfl, hreqs⟩ := h
  refine ⟨rfl, reqs, rfl, fun o ho => ?_⟩
  obtain ⟨t, d, rfl⟩ := hreqs o ho
  exact trivial

theorem refreshLorieDevice_posted (h : Posted b) (answer : DeviceAnswer) :
    Posted (b.refreshLorieDevice answer) := by
  have hsearched := h.posts (searched_posts (findLorieDevice_searched b answer))
  have hwithout : Posted (b.findLorieDevice answer).1.withoutDevice := by
    unfold withoutDevice
    split
    · next hid => exact (hsearched.gone hid).posts (posts_parts.broadcast ..)
    · exact hsearched
  rcases refreshLorieDevice_cases b answer with ⟨f, _, _, he⟩ | ⟨_, he | ⟨f, hfound, hf, _, he⟩⟩ <;>
    rw [he]
  · exact hsearched
  · exact hwithout
  · have hnarrow := found_narrow ((findLorieDevice_found b answer).symm.trans hfound)
    exact (hwithout.came (withoutDevice_deviceId _) hf hnarrow).posts (posts_parts.broadcast ..)

theorem act_posted (h : Posted b) (a : Action) : Posted (b.act a) := by
  cases hlooks : a.looks with
  | false => exact h.posts (act_posts b hlooks)
  | true =>
    cases a with
    | xEvent e =>
      cases e with
      | hierarchyChanged answer => exact refreshLorieDevice_posted h answer
      | device event => cases hlooks
    | accept r | writable i | readable i r | hangup i | tick => cases hlooks

theorem init_posted (opcode : Int) : Posted (Bridge.init opcode) where
  device := rfl
  narrow := show (-1 : Int) < 65536 by decide
  all := fun before o after h => by
    have hnil : [] = before ++ o :: after := h
    simp at hnil

/-- **Rumble goes to the device there is**: in every run, its shutdown included, devices are added
    and removed in turn, and every request for rumble names the device that was added last and is
    still there, some motor to run and some time to run it. -/
theorem requests_addressed (opcode : Int) (answer : DeviceAnswer) (inputs : List Input)
    (ticks : List Nat) :
    AllAddressed ((run step (boot opcode answer) inputs).shutdown ticks).log := by
  have hrun : Posted (run step (boot opcode answer) inputs) :=
    run_boot_inv init_posted (fun _ _ _ _ h => ⟨h.device, h.narrow, h.all⟩)
      (fun _ a h => act_posted h a) opcode answer inputs
  exact (hrun.posts (posts_blind.shutdown emitClient_posts _ ticks)).all

end Bridge

end TermuxGamepad
