/-
  File:      TermuxGamepad/Bridge/Controls.lean
  Subject:   The controls an event client sees: six axes, two hats, twelve buttons.

  The controller state has a value for each control, and an event record names at most one. A
  snapshot reports every control; a batch of `process_xi_event` reports what it changes
  (`eventBatch_carries`). The four direction buttons are no controls: they show in the hats.
-/
import Mathlib.Data.Fintype.Basic
import Mathlib.Tactic.FinCases
import TermuxGamepad.Bridge.Device
import TermuxGamepad.Lib.Registers

namespace TermuxGamepad

open Wire

/-! ## 1. Controls and their values -/

inductive Control where
  | axis (i : Fin 6)
  | hatX
  | hatY
  | button (k : Fin 12)
  deriving DecidableEq, Repr

/-- The X detail of a button. -/
def buttonDetail (k : Fin 12) : Nat := Bridge.snapshotDetails.getD k 0

/-- Type and code of a control's records. -/
def Control.key : Control → UInt16 × UInt16
  | .axis i => (evAbs, axisCode i)
  | .hatX => (evAbs, absHat0x)
  | .hatY => (evAbs, absHat0y)
  | .button k => (evKey, buttonCode (buttonDetail k))

theorem Control.key_injective : Function.Injective Control.key := by
  intro c c' h
  rcases c with i | _ | _ | k <;> rcases c' with i' | _ | _ | k' <;> revert h
  · revert i i'; decide
  · revert i; decide
  · revert i; decide
  · revert i k'; decide
  · revert i'; decide
  · decide
  · decide
  · revert k'; decide
  · revert i'; decide
  · decide
  · decide
  · revert k'; decide
  · revert k i'; decide
  · revert k; decide
  · revert k; decide
  · revert k k'; decide

namespace GamepadState

def value (s : GamepadState) : Control → Int
  | .axis i => s.axes i
  | .hatX => s.hatX
  | .hatY => s.hatY
  | .button k => (s.isPressed (buttonDetail k)).toInt

/-- The values as records carry them. -/
def shown (s : GamepadState) (c : Control) : Int32 := Int32.ofInt (s.value c)

end GamepadState

/-! ## 2. Buttons -/

theorem isPressed_eq (s : GamepadState) (d : Nat) : s.isPressed d = s.buttons.getLsbD (d - 1) := by
  unfold GamepadState.isPressed detailBit
  rw [← BitVec.twoPow_eq, BitVec.and_twoPow]
  by_cases h : s.buttons.getLsbD (d - 1) = true
  · have hlt : d - 1 < 32 := by
      by_contra hge
      rw [BitVec.getLsbD_of_ge _ _ (by omega)] at h
      cases h
    have hne : BitVec.twoPow 32 (d - 1) ≠ 0#32 := by
      intro e
      have := congrArg (·.getLsbD (d - 1)) e
      simp [hlt] at this
    simp [h, hne]
  · simp [h]

/-- **A button's own bit changes, no other.** -/
theorem isPressed_setButton (s : GamepadState) {d d' : Nat} (hd : 1 ≤ d ∧ d ≤ 32)
    (hd' : 1 ≤ d' ∧ d' ≤ 32) (p : Bool) :
    (s.setButton d p).isPressed d' = if d' = d then p else s.isPressed d' := by
  rw [isPressed_eq, isPressed_eq]
  unfold GamepadState.setButton detailBit
  rw [← BitVec.twoPow_eq]
  have hlt : d' - 1 < 32 := by omega
  have heq : (d' - 1 = d - 1) ↔ d' = d := by omega
  cases p <;> by_cases h : d' = d <;> simp [BitVec.getLsbD_twoPow, hlt, h] <;> omega

theorem buttonDetail_range (k : Fin 12) : 1 ≤ buttonDetail k ∧ buttonDetail k ≤ 32 := by
  revert k
  decide

theorem buttonDetail_injective : Function.Injective buttonDetail := by
  intro k k'
  revert k k'
  decide

/-- Every detail is a direction or a button's. -/
theorem detail_cases {d : Nat} (h : 1 ≤ d ∧ d ≤ 16) :
    (11 ≤ d ∧ d ≤ 14) ∨ ∃ k, buttonDetail k = d := by
  have hall : ∀ d : Fin 17, 1 ≤ (d : Nat) →
      (11 ≤ (d : Nat) ∧ (d : Nat) ≤ 14) ∨ ∃ k, buttonDetail k = (d : Nat) := by decide
  exact hall ⟨d, by omega⟩ h.1

theorem buttonDetail_no_direction (k : Fin 12) : ¬(11 ≤ buttonDetail k ∧ buttonDetail k ≤ 14) := by
  revert k
  decide

theorem buttonDetail_code (k : Fin 12) : buttonCode (buttonDetail k) ≠ 0 := by
  revert k
  decide

/-! ## 3. One change -/

namespace GamepadState

theorem value_setAxis (s : GamepadState) (i : Fin 6) (v : Int) :
    (s.setAxis i v).value = Function.update s.value (.axis i) v := by
  funext c
  cases c with
  | axis j =>
    by_cases h : j = i
    · subst h
      simp [value, setAxis]
    · have hne : Control.axis j ≠ .axis i := fun e => h (Control.axis.inj e)
      simp [value, setAxis, h]
  | _ => simp [value, setAxis, isPressed]

theorem value_hatX (s : GamepadState) (v : Int) :
    ({ s with hatX := v } : GamepadState).value = Function.update s.value .hatX v := by
  funext c
  cases c <;> simp [value, isPressed]

theorem value_hatY (s : GamepadState) (v : Int) :
    ({ s with hatY := v } : GamepadState).value = Function.update s.value .hatY v := by
  funext c
  cases c <;> simp [value, isPressed]

/-- A button changes its own control. -/
theorem value_setButton (s : GamepadState) (k : Fin 12) (p : Bool) :
    (s.setButton (buttonDetail k) p).value = Function.update s.value (.button k) p.toInt := by
  funext c
  cases c with
  | button j =>
    show ((s.setButton (buttonDetail k) p).isPressed (buttonDetail j)).toInt = _
    rw [isPressed_setButton s (buttonDetail_range k) (buttonDetail_range j)]
    by_cases h : j = k
    · subst h
      simp
    · have hne : buttonDetail j ≠ buttonDetail k := buttonDetail_injective.ne h
      simp [h, hne, value]
  | _ => simp [value, setButton]

/-- A direction changes no control by itself. -/
theorem value_setDirection (s : GamepadState) {d : Nat} (hd : 11 ≤ d ∧ d ≤ 14) (p : Bool) :
    (s.setButton d p).value = s.value := by
  funext c
  cases c with
  | button j =>
    show ((s.setButton d p).isPressed (buttonDetail j)).toInt = _
    have hne : buttonDetail j ≠ d := fun e => buttonDetail_no_direction j (e ▸ hd)
    rw [isPressed_setButton s ⟨by omega, by omega⟩ (buttonDetail_range j), if_neg hne]
    rfl
  | _ => simp [value, setButton]

/-- What is shown changes with the value. -/
theorem shown_update {s s' : GamepadState} {c : Control} {v : Int}
    (h : s'.value = Function.update s.value c v) :
    s'.shown = Function.update s.shown c (Int32.ofInt v) := by
  funext c'
  show Int32.ofInt (s'.value c') = _
  rw [h]
  by_cases hc : c' = c
  · subst hc
    simp
  · simp [hc, shown]

end GamepadState

/-! ## 4. Batches and snapshots -/

/-- What a record reports. -/
def InputEvent.report (e : InputEvent) : (UInt16 × UInt16) × Int32 := ((e.type, e.code), e.value)

theorem report_of_body {evs : List InputEvent} {rs : List (UInt16 × UInt16 × Int32)}
    (h : evs.map InputEvent.body = rs) :
    evs.map InputEvent.report = rs.map fun r => ((r.1, r.2.1), r.2.2) := by
  rw [← h, List.map_map]
  rfl

/-- The reports of a batch account for the change of the state since `s`. -/
def BatchCarries (s : GamepadState) (p : Batch) : Prop :=
  Carries Control.key s.shown (p.2.map InputEvent.report) p.1.state.shown

theorem BatchCarries.refl (b : Bridge) : BatchCarries b.state (b, []) := Carries.refl _ _

/-- **A control changes and its record is appended.** -/
theorem BatchCarries.append {s : GamepadState} {p : Batch} (h : BatchCarries s p) (c : Control)
    (v : Int) (s' : GamepadState) (hs : s'.value = Function.update p.1.state.value c v) :
    BatchCarries s (appendEvent (p.1.setState s', p.2) c.key.1 c.key.2 v) := by
  have hr : (appendEvent (p.1.setState s', p.2) c.key.1 c.key.2 v).2.map InputEvent.report =
      p.2.map InputEvent.report ++ [(c.key, Int32.ofInt v)] := by
    simp [appendEvent, InputEvent.report]
  show Carries Control.key s.shown _ s'.shown
  rw [hr, GamepadState.shown_update hs]
  exact h.trans (Carries.report Control.key_injective _ c _)

namespace Bridge

theorem motionLoop_carries {s : GamepadState} (mask : List Bool) (axis : Nat) (values : List Int)
    (p : Batch) (h : BatchCarries s p) : BatchCarries s (motionLoop mask axis values p) := by
  fun_induction motionLoop mask axis values p with
  | case1 => exact h
  | case2 mask axis values p ih => exact ih h
  | case3 mask axis values p p' ih =>
    apply ih
    simp only [p']
    split
    · rename_i hlt
      split
      · exact h.append (.axis ⟨axis, hlt⟩) _ _ (GamepadState.value_setAxis ..)
      · exact h
    · exact h

theorem updateHatX_carries {s : GamepadState} {p : Batch} (h : BatchCarries s p) :
    BatchCarries s (updateHatX p) := by
  unfold updateHatX
  dsimp only
  split
  · exact h.append .hatX _ _ (GamepadState.value_hatX ..)
  · exact h

theorem updateHatY_carries {s : GamepadState} {p : Batch} (h : BatchCarries s p) :
    BatchCarries s (updateHatY p) := by
  unfold updateHatY
  dsimp only
  split
  · exact h.append .hatY _ _ (GamepadState.value_hatY ..)
  · exact h

theorem buttonChange_carries (b : Bridge) {detail : Nat} (hd : 1 ≤ detail ∧ detail ≤ 16)
    (pressed : Bool) : BatchCarries b.state (b.buttonChange detail pressed) := by
  have hrefl := BatchCarries.refl b
  unfold buttonChange
  split
  · exact hrefl
  · rcases detail_cases hd with hdir | ⟨k, rfl⟩
    · have hset : BatchCarries b.state (b.setState (b.state.setButton detail pressed), []) := by
        show Carries Control.key _ [] (b.state.setButton detail pressed).shown
        rw [show (b.state.setButton detail pressed).shown = b.state.shown from
          congrArg (Int32.ofInt ∘ ·) (GamepadState.value_setDirection b.state hdir pressed)]
        exact Carries.refl _ _
      have hif : (decide (11 ≤ detail) && decide (detail ≤ 14)) = true := by simp [hdir]
      rw [if_pos hif]
      exact updateHatY_carries (updateHatX_carries hset)
    · have hif : ¬(decide (11 ≤ buttonDetail k) && decide (buttonDetail k ≤ 14)) = true := by
        simpa using buttonDetail_no_direction k
      rw [if_neg hif, if_pos (buttonDetail_code k)]
      exact hrefl.append (.button k) _ _ (GamepadState.value_setButton ..)

/-- **A batch reports what its event changes.** -/
theorem eventBatch_carries (b : Bridge) (event : XIDeviceEvent) :
    BatchCarries b.state (b.eventBatch event) := by
  have hbutton : ∀ pressed, BatchCarries b.state
      (if 1 ≤ event.detail && event.detail ≤ 16 then b.buttonChange event.detail.toNat pressed
        else (b, [])) := by
    intro pressed
    split
    · rename_i hd
      simp only [Bool.and_eq_true, decide_eq_true_eq] at hd
      exact buttonChange_carries b ⟨by omega, by omega⟩ pressed
    · exact .refl b
  unfold eventBatch
  split
  · exact motionLoop_carries _ _ _ _ (.refl b)
  · exact hbutton true
  · exact hbutton false
  · exact .refl b

end Bridge

/-- SYN_REPORT reports no control. -/
theorem syn_mute (c : Control) : c.key ≠ (evSyn, synReport) := by
  cases c with
  | axis i => revert i; decide
  | hatX => decide
  | hatY => decide
  | button k => revert k; decide

/-- The controls in the order of a snapshot. -/
def snapshotControls : List Control :=
  (List.finRange 6).map Control.axis ++ [.hatX, .hatY] ++ (List.finRange 12).map Control.button

theorem snapshotRecords_eq (s : GamepadState) :
    Bridge.snapshotRecords s =
      snapshotControls.map (fun c => (c.key.1, c.key.2, s.value c)) ++ [(evSyn, synReport, 0)] := rfl

theorem mem_snapshotControls (c : Control) : c ∈ snapshotControls := by
  cases c with
  | axis i => revert i; decide
  | hatX => decide
  | hatY => decide
  | button k => revert k; decide

/-- **A snapshot tells the whole state**, whatever was reported before. -/
theorem snapshot_tells {s : GamepadState} {evs : List InputEvent} (h : Bridge.IsSnapshot s evs)
    (rs : List ((UInt16 × UInt16) × Int32)) :
    Tells Control.key s.shown (rs ++ evs.map InputEvent.report) := by
  have hrep : evs.map InputEvent.report =
      snapshotControls.map (fun c => (c.key, s.shown c)) ++ [((evSyn, synReport), 0)] := by
    rw [report_of_body h, snapshotRecords_eq]
    rfl
  rw [hrep, ← List.append_assoc]
  refine Tells.carry ?_ (Carries.mute _ syn_mute 0)
  exact tells_map Control.key_injective _ mem_snapshotControls rs

/-! ## 5. Ranges -/

theorem convertAxis_stick {axis : Fin 6} (h : axis < 4) (v : Int) :
    convertAxis axis v = max (-32768) (min v 32767) := by
  have h' : (axis : Nat) < 4 := h
  simp only [convertAxis, clampInt, if_pos h']
  split <;> omega

theorem convertAxis_trigger {axis : Fin 6} (h : ¬axis < 4) (v : Int) :
    convertAxis axis v = (max 0 (min v 32767) * 255 + 16383) / 32767 := by
  have h' : ¬(axis : Nat) < 4 := h
  have hc : clampInt v 0 32767 = max 0 (min v 32767) := by
    unfold clampInt; split <;> omega
  rw [convertAxis, if_neg h', hc]

/-- What leaves the bridge fits every type it passes through. -/
theorem convertAxis_range (axis : Fin 6) (v : Int) :
    -32768 ≤ convertAxis axis v ∧ convertAxis axis v ≤ 32767 := by
  by_cases h : axis < 4
  · have hv := convertAxis_stick h v
    omega
  · have hv := convertAxis_trigger h v
    omega

theorem trigger_range {axis : Fin 6} (h : ¬axis < 4) (v : Int) :
    0 ≤ convertAxis axis v ∧ convertAxis axis v ≤ 255 := by
  have hv := convertAxis_trigger h v
  omega

/-- The range of a control's values. -/
def Control.low : Control → Int
  | .axis i => if i < 4 then -32768 else 0
  | .hatX | .hatY => -1
  | .button _ => 0

def Control.high : Control → Int
  | .axis i => if i < 4 then 32767 else 255
  | .hatX | .hatY | .button _ => 1

theorem Control.low_high (c : Control) : -32768 ≤ c.low ∧ c.high ≤ 32767 := by
  cases c with
  | axis i => revert i; decide
  | button k => exact ⟨(by decide : (-32768 : Int) ≤ 0), (by decide : (1 : Int) ≤ 32767)⟩
  | _ => decide

/-- Every control is in its range. -/
structure GamepadState.InRange (s : GamepadState) : Prop where
  axes : ∀ i, (Control.axis i).low ≤ s.axes i ∧ s.axes i ≤ (Control.axis i).high
  hatX : -1 ≤ s.hatX ∧ s.hatX ≤ 1
  hatY : -1 ≤ s.hatY ∧ s.hatY ≤ 1

namespace GamepadState

theorem InRange.value {s : GamepadState} (h : s.InRange) (c : Control) :
    c.low ≤ s.value c ∧ s.value c ≤ c.high := by
  cases c with
  | axis i => exact h.axes i
  | hatX => exact h.hatX
  | hatY => exact h.hatY
  | button k =>
    show 0 ≤ (s.isPressed (buttonDetail k)).toInt ∧ (s.isPressed (buttonDetail k)).toInt ≤ 1
    cases s.isPressed (buttonDetail k) <;> decide

/-- In range, the record says the value itself. -/
theorem InRange.shown_toInt {s : GamepadState} (h : s.InRange) (c : Control) :
    (s.shown c).toInt = s.value c := by
  obtain ⟨h₁, h₂⟩ := h.value c
  obtain ⟨h₃, h₄⟩ := Control.low_high c
  exact Int32.toInt_ofInt_of_le (by omega) (by omega)

theorem zero_inRange : zero.InRange := by
  refine ⟨fun i => ?_, by decide, by decide⟩
  revert i
  decide

theorem hatValue_range (s : GamepadState) (n p : Nat) : -1 ≤ s.hatValue n p ∧ s.hatValue n p ≤ 1 := by
  unfold hatValue
  cases s.isPressed p <;> cases s.isPressed n <;> decide

theorem InRange.setButton {s : GamepadState} (h : s.InRange) (d : Nat) (p : Bool) :
    (s.setButton d p).InRange := ⟨h.axes, h.hatX, h.hatY⟩

theorem InRange.setAxis {s : GamepadState} (h : s.InRange) (i : Fin 6) (v : Int) :
    (s.setAxis i (convertAxis i v)).InRange := by
  refine ⟨fun j => ?_, h.hatX, h.hatY⟩
  by_cases hj : j = i
  · subst hj
    simp only [GamepadState.setAxis, Function.update_self, Control.low, Control.high]
    split
    · exact convertAxis_range j v
    · exact trigger_range ‹_› v
  · simpa [GamepadState.setAxis, hj] using h.axes j

end GamepadState

namespace Bridge

theorem motionLoop_inRange (mask : List Bool) (axis : Nat) (values : List Int) (p : Batch)
    (h : p.1.state.InRange) : (motionLoop mask axis values p).1.state.InRange := by
  fun_induction motionLoop mask axis values p with
  | case1 => exact h
  | case2 mask axis values p ih => exact ih h
  | case3 mask axis values p p' ih =>
    apply ih
    simp only [p']
    split
    · rename_i hlt
      split
      · exact h.setAxis ⟨axis, hlt⟩ _
      · exact h
    · exact h

theorem updateHats_inRange {p : Batch} (h : p.1.state.InRange) :
    (updateHatY (updateHatX p)).1.state.InRange := by
  have hx : (updateHatX p).1.state.InRange := by
    unfold updateHatX
    dsimp only
    split
    · exact ⟨h.axes, GamepadState.hatValue_range .., h.hatY⟩
    · exact h
  unfold updateHatY
  dsimp only
  split
  · exact ⟨hx.axes, hx.hatX, GamepadState.hatValue_range ..⟩
  · exact hx

/-- **An event of the device leaves every control in its range.** -/
theorem eventBatch_inRange {b : Bridge} (h : b.state.InRange) (event : XIDeviceEvent) :
    (b.eventBatch event).1.state.InRange := by
  have hbutton : ∀ d pressed, (b.buttonChange d pressed).1.state.InRange := by
    intro d pressed
    have hset := h.setButton d pressed
    unfold buttonChange
    dsimp only
    split
    · exact h
    · split
      · exact updateHats_inRange (p := (b.setState _, [])) hset
      · split <;> exact hset
  unfold eventBatch
  split
  · exact motionLoop_inRange _ _ _ _ h
  · split
    · exact hbutton ..
    · exact h
  · split
    · exact hbutton ..
    · exact h
  · exact h

end Bridge

end TermuxGamepad
