/-
  File:      TermuxGamepad/Udev/Enumeration.lean
  Subject:   The enumerator of the fake libudev: its filter, and what a scan finds.

  The filter is one flag. A match on a property can set it, a match on a subsystem overwrites it
  with whether that subsystem is `input`: so matches commute as long as no other subsystem meets
  a match that sets the flag. The device listed is the cached one: so a scan that the bridge
  does not answer lists the device of an earlier answer.
-/
import Mathlib.Data.List.Induction
import TermuxGamepad.Identity

namespace TermuxGamepad

open Wire

/-! ## 1. The filter -/

/-- A match added to an enumerator. -/
inductive Match where
  | subsystem (subsystem : Option (List UInt8))
  | property (key value : Option (List UInt8))
  deriving DecidableEq, Repr

namespace Match

/-- The call that adds it. -/
def call : Match → UdevCall
  | subsystem s => .enumerateAddMatchSubsystem s
  | property key value => .enumerateAddMatchProperty key value

/-- The `input` subsystem. -/
def Input : Match → Prop
  | subsystem s => keyIs s "input" = true
  | property _ _ => False

/-- Another subsystem. -/
def Foreign : Match → Prop
  | subsystem s => keyIs s "input" = false
  | property _ _ => False

/-- The property of a joystick. -/
def Joystick : Match → Prop
  | subsystem _ => False
  | property key value => keyIs key "ID_INPUT_JOYSTICK" = true ∧ keyIs value "1" = true

instance : DecidablePred Input := fun m => by
  cases m <;> unfold Input <;> infer_instance

instance : DecidablePred Foreign := fun m => by
  cases m <;> unfold Foreign <;> infer_instance

instance : DecidablePred Joystick := fun m => by
  cases m <;> unfold Joystick <;> infer_instance

/-- A match that sets the flag. -/
def Sets (m : Match) : Prop := m.Input ∨ m.Joystick

instance : DecidablePred Sets := fun m => inferInstanceAs (Decidable (m.Input ∨ m.Joystick))

theorem foreign_not_sets {m : Match} (h : m.Foreign) : ¬m.Sets := by
  rintro (hm | hm) <;> cases m
  · exact absurd (hm.symm.trans h) Bool.noConfusion
  · exact hm
  · exact hm
  · exact h

end Match

namespace Udev

/-- A new enumerator with these matches. -/
def filtered (env : Env) (u : Udev) (ms : List Match) : Udev :=
  run step u ((env, .enumerateNew) :: ms.map fun m => (env, m.call))

/-- Whether it lists the device after a scan. -/
def lists (env : Env) (u : Udev) (answer : ConnectAnswer) (ms : List Match) : Bool :=
  ((u.filtered env ms).step (env, .enumerateScanDevices answer)).getListEntry env

variable {env : Env} {u : Udev} {answer : ConnectAnswer}

/-- What one match does: it sets the flag, clears it, or leaves it; all else stays. -/
theorem step_match (u : Udev) (m : Match) :
    u.step (env, m.call) = { u with
      matchedInput := decide m.Sets || (!decide m.Foreign && u.matchedInput) } := by
  cases m with
  | subsystem s =>
    cases h : keyIs s "input" <;> simp [Match.call, step, Match.Sets, Match.Input, Match.Joystick,
      Match.Foreign, h]
  | property key value =>
    by_cases h : keyIs key "ID_INPUT_JOYSTICK" = true ∧ keyIs value "1" = true
    · have hs : Match.Sets (.property key value) := .inr h
      simp only [Match.call, step, if_pos h, decide_eq_true hs, Bool.true_or]
    · have hs : ¬Match.Sets (.property key value) := fun hs => h (hs.resolve_left id)
      have hf : ¬Match.Foreign (.property key value) := id
      simp only [Match.call, step, if_neg h, decide_eq_false hs, decide_eq_false hf, Bool.false_or,
        Bool.not_false, Bool.true_and]

/-- The flag after some matches: the last match that sets or clears it decides. -/
def flag (ms : List Match) : Bool :=
  ms.foldl (fun b m => decide m.Sets || (!decide m.Foreign && b)) false

theorem flag_concat (ms : List Match) (m : Match) :
    flag (ms ++ [m]) = (decide m.Sets || (!decide m.Foreign && flag ms)) :=
  List.foldl_append

theorem filtered_eq (u : Udev) (ms : List Match) :
    u.filtered env ms = { u with matchedInput := flag ms } := by
  induction ms using List.reverseRecOn with
  | nil => rfl
  | append_singleton ms m ih =>
    unfold filtered at ih ⊢
    rw [List.map_append, ← List.cons_append, run_append, ih, List.map_cons, List.map_nil, run_cons,
      run_nil, step_match, flag_concat]

/-- Without another subsystem the flag says whether some match sets it. -/
theorem flag_of_no_foreign {ms : List Match} (h : ∀ m ∈ ms, ¬m.Foreign) :
    flag ms = decide (∃ m ∈ ms, m.Sets) := by
  induction ms using List.reverseRecOn with
  | nil => rfl
  | append_singleton ms m ih =>
    have hm : ¬m.Foreign := h m (List.mem_append_right _ (List.mem_singleton_self m))
    rw [flag_concat, ih fun k hk => h k (List.mem_append_left _ hk), decide_eq_false hm,
      Bool.not_false, Bool.true_and, ← Bool.decide_or]
    refine decide_eq_decide.mpr ⟨?_, ?_⟩
    · rintro (hs | ⟨k, hk, hs⟩)
      · exact ⟨m, List.mem_append_right _ (List.mem_singleton_self m), hs⟩
      · exact ⟨k, List.mem_append_left _ hk, hs⟩
    · rintro ⟨k, hk, hs⟩
      rcases List.mem_append.mp hk with hk | hk
      · exact .inr ⟨k, hk, hs⟩
      · rw [List.mem_singleton.mp hk] at hs
        exact .inl hs

/-- Without a match that sets it the flag stays clear. -/
theorem flag_of_none_sets {ms : List Match} (h : ∀ m ∈ ms, ¬m.Sets) : flag ms = false := by
  induction ms using List.reverseRecOn with
  | nil => rfl
  | append_singleton ms m ih =>
    rw [flag_concat, ih fun k hk => h k (List.mem_append_left _ hk), decide_eq_false
      (h m (List.mem_append_right _ (List.mem_singleton_self m))), Bool.and_false, Bool.or_false]

/-! ## 2. The bridge's answer to a scan -/

/-- The descriptor the bridge answers with, if it is reached and answers well. -/
def answered (env : Env) (answer : ConnectAnswer) : Option DeviceDescriptor :=
  if (connectBridge env answer).isNone ∨ answer.received.length ≠ deviceDescriptorCodec.size then
    none
  else
    let d := deviceDescriptorCodec.dec answer.received
    if d.magic ≠ deviceMagic ∨ d.version ≠ controlVersion then none else some d

theorem refreshDescriptor_fst (u : Udev) : (u.refreshDescriptor env answer).1 =
    match answered env answer with
    | none => u
    | some d => u.updateDescriptor env d := by
  unfold refreshDescriptor answered
  cases connectBridge env answer with
  | none => rfl
  | some fd =>
    dsimp only
    by_cases hlen : answer.received.length ≠ deviceDescriptorCodec.size
    · rw [if_pos (.inl hlen), if_pos (.inr hlen)]
    · have hnot : ¬((some fd).isNone = true ∨
          answer.received.length ≠ deviceDescriptorCodec.size) := by
        rintro (h | h)
        · cases h
        · exact hlen h
      rw [if_neg hnot]
      by_cases hd : (deviceDescriptorCodec.dec answer.received).magic ≠ deviceMagic ∨
          (deviceDescriptorCodec.dec answer.received).version ≠ controlVersion
      · rw [if_pos (.inr hd), if_pos hd]
      · rw [if_neg fun h => hd (h.resolve_left hlen), if_neg hd]

theorem enabled_of_answered {d : DeviceDescriptor} (h : answered env answer = some d) :
    env.backendEnabled = true := by
  by_contra hb
  have hnone : connectBridge env answer = none := by
    unfold connectBridge
    rw [Bool.not_eq_true] at hb
    rw [hb]
    rfl
  rw [answered, if_pos (.inl (by rw [hnone]; rfl))] at h
  cases h

/-- An answered scan leaves the answer. -/
theorem scan_answered {d : DeviceDescriptor} (h : answered env answer = some d) (u : Udev) :
    (u.step (env, .enumerateScanDevices answer)).descriptor = d := by
  have hb := enabled_of_answered h
  simp only [step, refreshDescriptor_fst, h, updateDescriptor, hb, Bool.not_true]
  rfl

/-- A scan that is not answered leaves what was cached. -/
theorem scan_unanswered (hb : env.backendEnabled = true) (h : answered env answer = none)
    (u : Udev) : u.step (env, .enumerateScanDevices answer) = u := by
  simp only [step, refreshDescriptor_fst, h, hb, Bool.not_true]
  rfl

theorem scan_matchedInput (u : Udev) :
    (u.step (env, .enumerateScanDevices answer)).matchedInput = u.matchedInput := by
  simp only [step, refreshDescriptor_fst]
  split
  · rfl
  · split
    · rfl
    · unfold updateDescriptor
      split <;> rfl

theorem lists_eq {d : DeviceDescriptor} (h : answered env answer = some d) (hd : d.present ≠ 0)
    (ms : List Match) : u.lists env answer ms = flag ms := by
  unfold lists getListEntry
  rw [scan_answered h, scan_matchedInput, filtered_eq, enabled_of_answered h, Bool.true_and,
    bne_iff_ne.mpr hd, Bool.and_true]

/-! ## 3. Order and repetition -/

/-- The scan depends only on the set of matches, and another subsystem never hides a device
    listed once the `input` subsystem was requested. -/
structure OrderFree (env : Env) (u : Udev) (answer : ConnectAnswer) (ms : List Match) : Prop where
  set : ∀ ms' : List Match, (∀ m, m ∈ ms' ↔ m ∈ ms) → u.lists env answer ms' = u.lists env answer ms
  cumulative : ∀ before s after, ms = before ++ .subsystem s :: after → (∃ m ∈ before, m.Input) →
    u.lists env answer before = true → u.lists env answer (before ++ [.subsystem s]) = true

/-- **The filter**: with a device present, matches are cumulative and their order does not matter
    exactly if no other subsystem is requested, or nothing that sets the flag is. -/
theorem orderFree_iff (env : Env) (u : Udev) (answer : ConnectAnswer) (ms : List Match)
    (d : DeviceDescriptor) (h : answered env answer = some d) (hd : d.present ≠ 0) :
    OrderFree env u answer ms ↔ (∀ m ∈ ms, ¬m.Foreign) ∨ ∀ m ∈ ms, ¬m.Sets := by
  constructor
  · intro ho
    by_contra hn
    obtain ⟨hf, hs⟩ := not_or.mp hn
    push Not at hf hs
    obtain ⟨f, hf, hforeign⟩ := hf
    obtain ⟨g, hg, hsets⟩ := hs
    -- the same set of matches, once with `f` and once with `g` said again at the end
    have hagain : ∀ k ∈ ms, u.lists env answer (ms ++ [k]) = u.lists env answer ms := fun k hk =>
      ho.set _ fun m => by
        rw [List.mem_append, List.mem_singleton]
        exact ⟨fun hm => hm.elim id fun he => he ▸ hk, .inl⟩
    have hclear := hagain f hf
    have hset := hagain g hg
    rw [lists_eq h hd, flag_concat, decide_eq_false (Match.foreign_not_sets hforeign),
      decide_eq_true hforeign, Bool.not_true, Bool.false_and, Bool.or_false] at hclear
    rw [lists_eq h hd, flag_concat, decide_eq_true hsets, Bool.true_or] at hset
    exact absurd (hclear.trans hset.symm) Bool.noConfusion
  · rintro (hc | hc)
    · refine ⟨fun ms' hsame => ?_, fun before s after he hi _ => ?_⟩
      · rw [lists_eq h hd, lists_eq h hd, flag_of_no_foreign hc,
          flag_of_no_foreign fun m hm => hc m ((hsame m).mp hm)]
        exact decide_eq_decide.mpr (exists_congr fun m => and_congr_left fun _ => hsame m)
      · obtain ⟨m, hm, hinput⟩ := hi
        have hall : ∀ k ∈ before ++ [.subsystem s], ¬k.Foreign := fun k hk => hc k (by
          rw [he]
          rcases List.mem_append.mp hk with hk | hk
          · exact List.mem_append_left _ hk
          · exact List.mem_append_right _ (List.mem_singleton.mp hk ▸ List.mem_cons_self))
        rw [lists_eq h hd, flag_of_no_foreign hall]
        exact decide_eq_true ⟨m, List.mem_append_left _ hm, .inl hinput⟩
    · refine ⟨fun ms' hsame => ?_, fun before s after he hi _ => ?_⟩
      · rw [lists_eq h hd, lists_eq h hd, flag_of_none_sets hc,
          flag_of_none_sets fun m hm => hc m ((hsame m).mp hm)]
      · obtain ⟨m, hm, hinput⟩ := hi
        exact absurd (.inl hinput) (hc m (he ▸ List.mem_append_left _ hm))

/-- The joysticks of the `input` subsystem, as a browser asks for them. -/
def joystickMatches : List Match :=
  [.subsystem (some (ascii "input")), .property (some (ascii "ID_INPUT_JOYSTICK")) (some (ascii "1"))]

theorem orderFree_iff_joystickMatches :
    OrderFree plainEnv loaded namelessAnswer joystickMatches ↔
      (∀ m ∈ joystickMatches, ¬m.Foreign) ∨ ∀ m ∈ joystickMatches, ¬m.Sets :=
  orderFree_iff plainEnv loaded namelessAnswer joystickMatches namelessPad (by decide +kernel)
    (by decide)

/-- **A further subsystem hides the device**: `input`, then `hidraw`. -/
theorem further_subsystem_hides :
    (answered plainEnv namelessAnswer = some namelessPad ∧ namelessPad.present ≠ 0) ∧
      ¬OrderFree plainEnv loaded namelessAnswer
        [.subsystem (some (ascii "input")), .subsystem (some (ascii "hidraw"))] := by
  refine ⟨by decide +kernel, fun h => ?_⟩
  have hlisted := h.cumulative [.subsystem (some (ascii "input"))] (some (ascii "hidraw")) [] rfl
    ⟨_, List.mem_singleton_self _, by decide⟩ (by decide +kernel)
  exact absurd hlisted (by decide +kernel)

/-! ## 4. What a scan finds -/

/-- The message a monitor takes, if it is one. -/
def heard (env : Env) (u : Udev) (received : List UInt8) : Option HotplugMessage :=
  if !env.backendEnabled ∨ u.monitorFd < 0 ∨ received.length ≠ hotplugMessageCodec.size then none
  else
    let m := hotplugMessageCodec.dec received
    if m.magic ≠ hotplugMagic ∨ m.version ≠ controlVersion then none else some m

/-- What a call learns of the presence of the device. -/
def word (u : Udev) : Env × UdevCall → Option UInt8
  | (env, .enumerateScanDevices answer) =>
    if !env.backendEnabled then some 0 else (answered env answer).map (·.present)
  | (env, .monitorReceiveDevice received) => (u.heard env received).map (·.descriptor.present)
  | _ => none

theorem receiveDevice_descriptor (u : Udev) (received : List UInt8) :
    (u.receiveDevice env received).1.descriptor =
      match u.heard env received with
      | none => u.descriptor
      | some m => m.descriptor := by
  unfold receiveDevice heard
  by_cases hclosed : (!env.backendEnabled) = true ∨ u.monitorFd < 0
  · rw [if_pos hclosed, if_pos (hclosed.imp_right .inl)]
  · rw [if_neg hclosed]
    obtain ⟨hb, hfd⟩ := not_or.mp hclosed
    have hb : env.backendEnabled = true := by simpa using hb
    by_cases hlen : received.length ≠ hotplugMessageCodec.size
    · rw [if_pos (Or.inr (Or.inr hlen))]
      dsimp only
      rw [if_pos (Or.inl hlen)]
    · have hnot : ¬((!env.backendEnabled) = true ∨ u.monitorFd < 0 ∨
          received.length ≠ hotplugMessageCodec.size) := by
        rw [hb]
        rintro (h | h | h)
        · cases h
        · exact hfd h
        · exact hlen h
      rw [if_neg hnot]
      dsimp only
      by_cases hm : (hotplugMessageCodec.dec received).magic ≠ hotplugMagic ∨
          (hotplugMessageCodec.dec received).version ≠ controlVersion
      · rw [if_pos (.inr hm), if_pos hm]
      · rw [if_neg fun h => hm (h.resolve_left hlen), if_neg hm]
        simp only [updateDescriptor, hb, Bool.not_true, if_neg Bool.false_ne_true]

/-- **The cache**: the presence is what the last call that learnt of it learnt. -/
theorem step_present (u : Udev) (c : Env × UdevCall) :
    (u.step c).descriptor.present = (u.word c).getD u.descriptor.present := by
  obtain ⟨env, c⟩ := c
  cases c with
  | enumerateNew => rfl
  | enumerateAddMatchSubsystem subsystem => rfl
  | enumerateAddMatchProperty key value =>
    simp only [step]
    split <;> rfl
  | enumerateScanDevices answer =>
    cases hb : env.backendEnabled
    · simp only [step, word, hb, Bool.not_false, if_true]
      rfl
    · cases ha : answered env answer with
      | none => rw [scan_unanswered hb ha, word, hb, ha]; rfl
      | some d => rw [scan_answered ha, word, hb, ha]; rfl
  | monitorNewFromNetlink answer =>
    simp only [step]
    split <;> rfl
  | monitorReceiveDevice received =>
    simp only [step, word]
    rw [receiveDevice_descriptor]
    cases u.heard env received <;> rfl
  | monitorUnref => rfl

/-- What some calls learn of it, one after the other. -/
def words : Udev → List (Env × UdevCall) → List UInt8
  | _, [] => []
  | u, c :: calls => (u.word c).toList ++ words (u.step c) calls

/-- The presence in the cache is the last word of the calls. -/
theorem run_present (u : Udev) (calls : List (Env × UdevCall)) :
    (run step u calls).descriptor.present = (words u calls).getLastD u.descriptor.present := by
  induction calls generalizing u with
  | nil => rfl
  | cons c calls ih =>
    rw [run_cons, ih, step_present, words]
    cases u.word c with
    | none => rfl
    | some present => exact (List.getLastD_cons ..).symm

/-- A scan of an enumerator with a matching filter lists the device exactly if the bridge answers
    it that the device is present. -/
def Reflects (u : Udev) : Env × UdevCall → Prop
  | (env, .enumerateScanDevices answer) => u.matchedInput = true →
    ((u.step (env, .enumerateScanDevices answer)).getListEntry env = true ↔
      ∃ d, answered env answer = some d ∧ d.present ≠ 0)
  | _ => True

/-- A scan the bridge does not answer finds no device of an earlier answer or message cached. -/
def NothingStale (u : Udev) : Env × UdevCall → Prop
  | (env, .enumerateScanDevices answer) => env.backendEnabled = true → u.matchedInput = true →
    answered env answer = none → u.descriptor.present = 0
  | _ => True

theorem reflects_iff (u : Udev) (c : Env × UdevCall) : u.Reflects c ↔ u.NothingStale c := by
  obtain ⟨env, c⟩ := c
  cases c with
  | enumerateScanDevices answer =>
    change (u.matchedInput = true →
        ((u.step (env, .enumerateScanDevices answer)).getListEntry env = true ↔
          ∃ d, answered env answer = some d ∧ d.present ≠ 0)) ↔
      (env.backendEnabled = true → u.matchedInput = true → answered env answer = none →
        u.descriptor.present = 0)
    cases hb : env.backendEnabled with
    | false =>
      have hlist : (u.step (env, .enumerateScanDevices answer)).getListEntry env = false := by
        rw [getListEntry, hb, Bool.false_and, Bool.false_and]
      have hno : ¬∃ d, answered env answer = some d ∧ d.present ≠ 0 := fun ⟨d, hd, _⟩ =>
        Bool.false_ne_true (hb.symm.trans (enabled_of_answered hd))
      rw [hlist]
      exact ⟨fun _ h => absurd h Bool.false_ne_true,
        fun _ _ => ⟨fun h => absurd h Bool.false_ne_true, fun h => absurd h hno⟩⟩
    | true =>
      have hlist : u.matchedInput = true →
          ((u.step (env, .enumerateScanDevices answer)).getListEntry env = true ↔
            (u.step (env, .enumerateScanDevices answer)).descriptor.present ≠ 0) := fun hm => by
        rw [getListEntry, hb, scan_matchedInput, hm, Bool.true_and, Bool.true_and, bne_iff_ne]
      cases ha : answered env answer with
      | none =>
        rw [scan_unanswered hb ha] at hlist ⊢
        constructor
        · intro h _ hm _
          by_contra hp
          obtain ⟨d, hd, -⟩ := (h hm).mp ((hlist hm).mpr hp)
          cases hd
        · intro h hm
          refine (hlist hm).trans ⟨fun hp => absurd (h rfl hm rfl) hp, ?_⟩
          rintro ⟨d, hd, -⟩
          cases hd
      | some d =>
        rw [scan_answered ha] at hlist
        constructor
        · intro _ _ _ h
          cases h
        · intro _ hm
          refine (hlist hm).trans ⟨fun hp => ⟨d, rfl, hp⟩, ?_⟩
          rintro ⟨d', hd, hp⟩
          cases hd
          exact hp
  | _ => exact Iff.rfl

/-- **What a scan finds**: over every history the scans reflect the bridge, exactly if none that
    the bridge does not answer finds the device cached; and the presence that is cached is the
    last word of an answered scan or a monitor message before. -/
theorem scans_reflect_iff (calls : List (Env × UdevCall)) :
    (Throughout step Reflects loaded calls ↔ Throughout step NothingStale loaded calls) ∧
      ∀ before after, calls = before ++ after →
        (run step loaded before).descriptor.present = (words loaded before).getLastD 0 := by
  refine ⟨⟨?_, ?_⟩, fun before _ _ => run_present loaded before⟩
  · exact fun h before c after he => (reflects_iff _ c).mp (h before c after he)
  · exact fun h before c after he => (reflects_iff _ c).mpr (h before c after he)

/-- **A scan after the bridge is gone**: nobody answers, and the device is listed. -/
theorem stale_scan_lists :
    ¬Throughout step Reflects loaded
      [(plainEnv, .enumerateNew),
        (plainEnv, .enumerateAddMatchSubsystem (some (ascii "input"))),
        (plainEnv, .enumerateScanDevices namelessAnswer),
        (plainEnv, .enumerateScanDevices { namelessAnswer with connect := -1 })] := by
  intro h
  have hscan := h [(plainEnv, .enumerateNew),
    (plainEnv, .enumerateAddMatchSubsystem (some (ascii "input"))),
    (plainEnv, .enumerateScanDevices namelessAnswer)] _ [] rfl
  obtain ⟨d, hd, -⟩ := (hscan (by decide +kernel)).mp (by decide +kernel)
  have hnone : answered plainEnv { namelessAnswer with connect := -1 } = none := by decide +kernel
  rw [hnone] at hd
  cases hd

end Udev

end TermuxGamepad
