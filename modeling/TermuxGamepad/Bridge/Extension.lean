/-
  File:      TermuxGamepad/Bridge/Extension.lean
  Subject:   A bridge without the LORIE-CONTROLLER extension, and the requests it makes all the same.

  The negotiation leaves -1 for a refused version, but 0 for a missing extension. Start-up looks
  for the device unless the opcode is negative, and the branch for a changed hierarchy looks at
  every opcode. `Mute` is what every other operation keeps while the bridge cannot rumble: no
  request joins the history. A search among devices none of which is a candidate is mute too, and
  finds nothing; any other search asks.
-/
import TermuxGamepad.Bridge.Process
import TermuxGamepad.Bridge.Turns

namespace TermuxGamepad

open Wire

/-- A request on the opcode of the extension. -/
def Out.asks : Out → Bool
  | .request _ _ => true
  | _ => false

/-- The devices `find_lorie_device` asks about. -/
def XIDeviceInfo.candidate (d : XIDeviceInfo) : Bool :=
  d.use == .floatingSlave || d.use == .slavePointer

def DeviceAnswer.candidates (answer : DeviceAnswer) : List XIDeviceInfo :=
  (answer.devices.getD []).filter XIDeviceInfo.candidate

namespace Bridge

/-- No changed hierarchy lists a device to ask about. -/
def Action.NobodyToAsk : Action → Prop
  | .xEvent (.hierarchyChanged answer) => answer.candidates = []
  | _ => True

/-- The requests made so far. -/
def requests (b : Bridge) : List Out := b.log.filter Out.asks

/-- No request joins the history, and the guard of `send_lorie_rumble` stays as it is. -/
structure Mute (b b' : Bridge) : Prop where
  requests : b'.requests = b.requests
  canRumble : b'.canRumble = b.canRumble

variable {b b' c : Bridge}

/-! ## 1. No request joins the history -/

theorem Mute.refl (b : Bridge) : b.Mute b := ⟨rfl, rfl⟩

theorem Mute.trans (h : b.Mute b') (h' : b'.Mute c) : b.Mute c :=
  ⟨h'.requests.trans h.requests, h'.canRumble.trans h.canRumble⟩

theorem Mute.still (h : b.Mute b') (hb : b.canRumble = false) : b'.canRumble = false :=
  h.canRumble.trans hb

theorem emit_mute (b : Bridge) {o : Out} (h : o.asks = false) : b.Mute (b.emit o) := by
  refine ⟨?_, rfl⟩
  rw [requests, emit_log, List.filter_append, List.filter_singleton, h]
  exact List.append_nil _

/-! ## 2. A bridge that cannot rumble -/

/-- The guard of `send_lorie_rumble`. -/
theorem sendLorieRumble_eq (h : b.canRumble = false) (low high : UInt16) (d : UInt32) :
    b.sendLorieRumble low high d = b := by
  rw [sendLorieRumble, h]
  rfl

/-- No request joins the history of a bridge that cannot rumble. -/
def Muted (b b' : Bridge) : Prop := b.canRumble = false → b.Mute b'

theorem Mute.muted (h : b.Mute b') : b.Muted b' := fun _ => h

theorem Frame.mute (h : Frame b b') (hlog : b'.log = b.log) : b.Mute b' :=
  ⟨congrArg (List.filter Out.asks) hlog, by
    unfold Bridge.canRumble
    rw [h.opcode, h.deviceId, h.capabilities]⟩

theorem muted_blind : Blind Muted where
  trans h h' hb := (h hb).trans (h' ((h hb).still hb))
  unseen hf hlog := (hf.mute hlog).muted
  send b low high d _ hb := by
    rw [sendLorieRumble_eq hb]
    exact .refl b
  mark b _ _ := (emit_mute b rfl).muted

theorem emitClient_muted (b : Bridge) (o : Out) (h : o.ofClient = true) : b.Muted (b.emit o) := by
  refine (emit_mute b ?_).muted
  cases o <;> first
    | rfl
    | cases h

theorem muted_parts : Parts Muted := muted_blind.parts emitClient_muted

theorem acceptClient_muted (b : Bridge) (r : AcceptResult) : b.Muted (b.acceptClient r) :=
  acceptClient_rel muted_blind.refl muted_blind.trans (fun _ _ => Mute.muted ⟨rfl, rfl⟩)
    (fun b i _ _ => muted_blind.setClient b i _)
    (fun b _ => ⟨(emit_mute b rfl).muted, (emit_mute b rfl).muted⟩) b r

/-- **Every action but a changed hierarchy is mute** where the bridge cannot rumble. -/
theorem act_mute (h : b.canRumble = false) {a : Action} (ha : a.looks = false) :
    b.Mute (b.act a) := by
  refine muted_parts.act (fun hs => ?_) acceptClient_muted (fun b _ => (emit_mute b rfl).muted)
    (fun b => muted_blind.updateRumble b false) b
    (fun i _ _ => muted_blind.spans emitClient_muted i) (fun _ he => by rw [he] at ha; cases ha) h
  obtain ⟨s, ts, rfl⟩ := hs
  exact Mute.muted ⟨rfl, rfl⟩

theorem shutdown_mute (h : b.canRumble = false) (ticks : List Nat) :
    b.Mute (b.shutdown ticks) := muted_blind.shutdown emitClient_muted b ticks h

/-! ## 3. The search for the device -/

/-- Among no candidates nothing is found, and nobody is asked. -/
theorem findInDevices_nobody (b : Bridge) {ds : List XIDeviceInfo}
    (h : ds.filter XIDeviceInfo.candidate = []) : b.findInDevices ds = (b, none) := by
  induction ds with
  | nil => rfl
  | cons d ds ih =>
    have hd : ¬d.candidate = true := fun hd => by
      rw [List.filter_cons_of_pos hd] at h
      cases h
    rw [List.filter_cons_of_neg hd] at h
    unfold findInDevices
    rw [if_neg (show ¬(d.use == .floatingSlave || d.use == .slavePointer) = true from hd)]
    exact ih h

/-- A query is a request. -/
theorem queryLorieCapabilities_asks (b : Bridge) (d : XIDeviceInfo) :
    (b.queryLorieCapabilities d).1.requests ≠ [] := by
  have hask : (b.queryLorieCapabilities d).1 =
      b.emit (.request b.now (.queryCapabilities (card16 d.deviceid))) := by
    unfold queryLorieCapabilities
    dsimp only
    split
    · rfl
    · split <;> rfl
  rw [hask, requests, emit_log, List.filter_append]
  exact List.append_ne_nil_of_right_ne_nil _ (List.cons_ne_nil _ _)

/-- What was asked stays in the history. -/
theorem asked_stays (h : b.requests ≠ []) (hl : ∃ l, b'.log = b.log ++ l) : b'.requests ≠ [] := by
  obtain ⟨l, hl⟩ := hl
  rw [requests, hl, List.filter_append]
  exact List.append_ne_nil_of_left_ne_nil h _

/-- Among candidates somebody is asked. -/
theorem findInDevices_asks (b : Bridge) {ds : List XIDeviceInfo}
    (h : ds.filter XIDeviceInfo.candidate ≠ []) : (b.findInDevices ds).1.requests ≠ [] := by
  induction ds generalizing b with
  | nil => exact absurd rfl h
  | cons d ds ih =>
    unfold findInDevices
    dsimp only
    split
    · have hasked := queryLorieCapabilities_asks b d
      split
      · exact hasked
      · refine asked_stays hasked ?_
        obtain ⟨l, hl, -⟩ := findInDevices_searched (b.queryLorieCapabilities d).1 ds
        exact ⟨l, congrArg Bridge.log hl⟩
    · rename_i hd
      rw [List.filter_cons_of_neg (show ¬d.candidate = true from hd)] at h
      exact ih b h

theorem findLorieDevice_nobody (h : answer.candidates = []) :
    b.findLorieDevice answer = (b, none) := by
  unfold DeviceAnswer.candidates at h
  unfold findLorieDevice
  cases hds : answer.devices with
  | none => rfl
  | some ds =>
    rw [hds] at h
    exact findInDevices_nobody b h

theorem findLorieDevice_asks (h : answer.candidates ≠ []) :
    (b.findLorieDevice answer).1.requests ≠ [] := by
  unfold DeviceAnswer.candidates at h
  unfold findLorieDevice
  cases hds : answer.devices with
  | none =>
    rw [hds] at h
    exact absurd rfl h
  | some ds =>
    rw [hds] at h
    exact findInDevices_asks b h

theorem withoutDevice_mute (h : b.canRumble = false) : b.Mute b.withoutDevice := by
  unfold withoutDevice
  split
  · have hnone : b.gone.canRumble = false := by
      unfold canRumble
      rw [gone_deviceId]
      simp
    have hgone : b.Mute b.gone := ⟨(emit_mute b rfl).requests, hnone.trans h.symm⟩
    rw [removeDevice_eq]
    exact hgone.trans (muted_parts.broadcast _ _ _ hnone)
  · exact .refl b

/-- **Nobody to ask**: the search is mute. -/
theorem refreshLorieDevice_mute (h : b.canRumble = false) (hnobody : answer.candidates = []) :
    b.Mute (b.refreshLorieDevice answer) := by
  have hfind := findLorieDevice_nobody (b := b) hnobody
  rcases refreshLorieDevice_cases b answer with ⟨f, hf, -, -⟩ | ⟨-, he | ⟨f, hf, -, -, -⟩⟩
  · rw [hfind] at hf
    cases hf
  · rw [he, hfind]
    exact withoutDevice_mute h
  · rw [hfind] at hf
    cases hf

/-- **Somebody to ask** is asked. -/
theorem refreshLorieDevice_asks (h : answer.candidates ≠ []) :
    (b.refreshLorieDevice answer).requests ≠ [] := by
  refine asked_stays (findLorieDevice_asks (b := b) h) ?_
  obtain ⟨l, hl, -⟩ := calm_parts.refreshed (fun c => emit_calm c rfl) (fun c f => emit_calm c rfl)
    b answer
  exact ⟨l, hl⟩

/-! ## 4. Runs -/

/-- **An action that meets nobody to ask is mute.** -/
theorem act_quiet (h : b.canRumble = false) {a : Action} (ha : a.NobodyToAsk) : b.Mute (b.act a) := by
  by_cases hlooks : a.looks = true
  · obtain ⟨answer, rfl⟩ := Action.looks_eq hlooks
    exact refreshLorieDevice_mute h ha
  · exact act_mute h (Bool.not_eq_true _ ▸ hlooks)

/-- **Any other asks.** -/
theorem act_asks {a : Action} (ha : ¬a.NobodyToAsk) : (b.act a).requests ≠ [] := by
  cases a with
  | xEvent e =>
    cases e with
    | hierarchyChanged answer => exact refreshLorieDevice_asks ha
    | device event => exact absurd trivial ha
  | _ => exact absurd trivial ha

theorem run_quiet (h : b.canRumble = false) {inputs : List Input}
    (hall : ∀ inp ∈ inputs, inp.action.NobodyToAsk) : b.Mute (run step b inputs) := by
  induction inputs generalizing b with
  | nil => exact .refl b
  | cons inp inputs ih =>
    have henv : b.Mute (b.withEnv inp.sends inp.ticks inp.stamps) := ⟨rfl, rfl⟩
    have hstep : b.Mute (b.step inp) :=
      henv.trans (act_quiet (henv.still h) (hall inp List.mem_cons_self))
    exact hstep.trans (ih (hstep.still h) fun i hi => hall i (List.mem_cons_of_mem _ hi))

theorem step_log (b : Bridge) (inp : Input) : ∃ l, (b.step inp).log = b.log ++ l :=
  act_log (b.withEnv inp.sends inp.ticks inp.stamps) inp.action

theorem run_asked (h : b.requests ≠ []) (inputs : List Input) : (run step b inputs).requests ≠ [] :=
  run_inv (P := fun b => b.requests ≠ []) (fun b inp h => asked_stays h (step_log b inp)) h inputs

theorem run_asks {inputs : List Input} (h : ∃ inp ∈ inputs, ¬inp.action.NobodyToAsk) :
    (run step b inputs).requests ≠ [] := by
  obtain ⟨inp, hmem, hask⟩ := h
  obtain ⟨before, after, rfl⟩ := List.append_of_mem hmem
  rw [run_append, run_cons]
  exact run_asked (act_asks hask) after

/-- Start-up asks where it looks for the device, and finds somebody to ask. -/
theorem boot_quiet {opcode : Int} (h : 0 ≤ opcode → answer.candidates = []) :
    (boot opcode answer).requests = [] ∧ (boot opcode answer).canRumble = false := by
  have hinit : (init opcode).canRumble = false := by simp [canRumble, init]
  unfold boot
  split
  · rename_i hop
    have hmute := refreshLorieDevice_mute hinit (h hop)
    exact ⟨hmute.requests, hmute.still hinit⟩
  · exact ⟨rfl, hinit⟩

theorem boot_asks {opcode : Int} (hop : 0 ≤ opcode) (h : answer.candidates ≠ []) :
    (boot opcode answer).requests ≠ [] := by
  rw [boot, if_pos hop]
  exact refreshLorieDevice_asks h

end Bridge

/-- LORIE-CONTROLLER is missing, or its version is refused. -/
def Startup.Unsupported (s : Startup) : Prop :=
  ∀ opcode, s.controller = some opcode → s.versionAccepted = false

theorem Startup.Unsupported.negotiated {s : Startup} (h : s.Unsupported) :
    0 ≤ s.negotiated ↔ s.controller = none := by
  unfold Startup.negotiated
  cases hc : s.controller with
  | none => exact iff_of_true (Int.le_refl 0) rfl
  | some opcode =>
    dsimp only
    rw [h opcode hc, if_neg Bool.false_ne_true]
    exact iff_of_false (by decide) nofun

namespace Bridge

/-- **Without the extension** the whole process, its shutdown included, makes no request after the
    negotiation exactly if no list of devices it looks at has a floating slave or a slave pointer:
    neither that of start-up, where the extension is missing, nor that of a changed hierarchy. -/
theorem no_request_iff (s : Startup) (h : s.Unsupported) (inputs : List Input) (ticks : List Nat) :
    (∀ o ∈ ((run step (boot s.negotiated s.device) inputs).shutdown ticks).log, o.asks = false) ↔
      (s.controller = none → s.device.candidates = []) ∧
        ∀ inp ∈ inputs, inp.action.NobodyToAsk := by
  have hrequests : (∀ o ∈ ((run step (boot s.negotiated s.device) inputs).shutdown ticks).log,
      o.asks = false) ↔
        ((run step (boot s.negotiated s.device) inputs).shutdown ticks).requests = [] := by
    rw [requests, List.filter_eq_nil_iff]
    exact forall₂_congr fun o _ => (Bool.not_eq_true _).symm.to_iff
  rw [hrequests, ← h.negotiated]
  constructor
  · intro hnone
    have hstays : (run step (boot s.negotiated s.device) inputs).requests = [] :=
      by_contra fun hasked => asked_stays hasked (shutdown_log _ ticks) hnone
    refine ⟨fun hop => by_contra fun hask => ?_, fun inp hmem => by_contra fun hask => ?_⟩
    · exact run_asked (boot_asks hop hask) inputs hstays
    · exact run_asks ⟨inp, hmem, hask⟩ hstays
  · rintro ⟨hstart, hall⟩
    obtain ⟨hboot, hcan⟩ := boot_quiet hstart
    have hrun := run_quiet hcan hall
    rw [(shutdown_mute (hrun.still hcan) ticks).requests, hrun.requests, hboot]

/-- A server with another version of the extension. -/
def refusedStartup : Startup :=
  { argument := none, display := true, xinput := true, xiMajor := some 2, controller := some 140,
    version := some 2, hierarchy := true, device := ⟨none, false⟩, socket := 3, nonblocking := true,
    bind := 0, listen := 0 }

theorem refusedStartup_unsupported : refusedStartup.Unsupported := fun _ _ => rfl

/-- As long as no hierarchy changes, it is left alone. -/
theorem no_request_iff_refused :
    ((run step (boot refusedStartup.negotiated refusedStartup.device) [quietly .tick]).shutdown
      [5]).requests = [] := by
  have hquiet := (no_request_iff refusedStartup refusedStartup_unsupported [quietly .tick] [5]).mpr
    ⟨nofun, fun inp hinp => by rw [List.mem_singleton.mp hinp]; trivial⟩
  rw [requests, List.filter_eq_nil_iff]
  intro o ho
  rw [hquiet o ho]
  exact Bool.false_ne_true

/-- **A mouse is plugged in** after the version was refused. -/
theorem mouse_is_asked :
    ¬∀ s : Startup, s.Unsupported → ∀ inputs ticks,
      ∀ o ∈ ((run step (boot s.negotiated s.device) inputs).shutdown ticks).log,
        o.asks = false := by
  intro h
  have hmouse := h refusedStartup refusedStartup_unsupported
    [quietly (.xEvent (.hierarchyChanged
      ⟨some [{ deviceid := 7, use := .slavePointer, name := none, reply := none }], true⟩))] []
    (.request 0 (.queryCapabilities 7)) (by decide +kernel)
  cases hmouse

end Bridge

end TermuxGamepad
