/-
  File:      TermuxGamepad/Client/Readout.lean
  Subject:   What the library's state is after a list of records.

  A record sets one field of the state, to what the library makes of its value
  (`LibraryState.Reads`), and leaves the others alone. So the state after a list of records reads
  the latest value of every control; where the records tell a controller state, it is the image
  of that state (`image_of_tells`).
-/
import Mathlib.Data.List.Induction
import TermuxGamepad.Bridge.Controls
import TermuxGamepad.Client.State
import TermuxGamepad.Pipeline

namespace TermuxGamepad

open Wire

/-! ## 1. Fields and controls -/

/-- The bit of a button in the library's mask. -/
def libraryIndex (k : Fin 12) : Nat := (buttonIndex (buttonCode (buttonDetail k))).getD 0

theorem libraryIndex_spec (k : Fin 12) :
    buttonIndex (buttonCode (buttonDetail k)) = some (libraryIndex k) ∧ libraryIndex k < 16 := by
  revert k
  decide

namespace LibraryState

/-- The field of the control has the value the library makes of `v`. -/
def Reads (t : LibraryState) (v : Int32) : Control → Prop
  | .axis i => t.axes i = if i < 4 then v.toInt16 else triggerValue v
  | .hatX => t.hatX = v.toInt8
  | .hatY => t.hatY = v.toInt8
  | .button k => t.buttons.getLsbD (libraryIndex k) = decide (v ≠ 0)

/-- `process_event` on the state alone. -/
def record (t : LibraryState) (e : InputEvent) : LibraryState := (t.processEvent 0 e).1

theorem processEvent_record (t : LibraryState) (reports : Nat) (e : InputEvent) :
    (t.processEvent reports e).1 = t.record e := by
  unfold record processEvent
  split
  · rfl
  split
  · rfl
  split <;> rfl

/-- The state after a list of records, from a state at rest. -/
def replayed (es : List InputEvent) : LibraryState := es.foldl record reset

theorem replayed_concat (es : List InputEvent) (e : InputEvent) :
    replayed (es ++ [e]) = (replayed es).record e := by
  rw [replayed, List.foldl_append]
  rfl

/-! ## 2. One record -/

theorem libraryBit_getLsbD (i j : Nat) (hi : i < 16) :
    (libraryBit i).getLsbD j = decide (i = j) := by
  unfold libraryBit
  rw [← BitVec.twoPow_eq, BitVec.getLsbD_twoPow]
  by_cases h : i = j <;> simp [h, hi]
  omega

/-- A key record sets one bit of the mask. -/
theorem keyEvent_getLsbD (t : LibraryState) {code : UInt16} {index : Nat} (value : Int32)
    (h : buttonIndex code = some index) (hi : index < 16) {j : Nat} (hj : j < 16) :
    (t.keyEvent code value).buttons.getLsbD j =
      if index = j then decide (value ≠ 0) else t.buttons.getLsbD j := by
  have hbuttons : (t.keyEvent code value).buttons =
      if value ≠ 0 then t.buttons ||| libraryBit index else t.buttons &&& ~~~libraryBit index := by
    unfold keyEvent
    rw [h]
  rw [hbuttons]
  split
  · rename_i hv
    rw [BitVec.getLsbD_or, libraryBit_getLsbD index j hi]
    by_cases he : index = j <;> simp [he, hv]
  · rename_i hv
    rw [BitVec.getLsbD_and, BitVec.getLsbD_not, libraryBit_getLsbD index j hi]
    by_cases he : index = j <;> simp [he, hv, hj]

/-- A record of the control sets its field. -/
theorem record_own (t : LibraryState) (c : Control) {e : InputEvent} (h : (e.type, e.code) = c.key) :
    (t.record e).Reads e.value c := by
  obtain ⟨time, type, code, value⟩ := e
  obtain ⟨rfl, rfl⟩ := Prod.mk.inj h
  cases c with
  | axis i => fin_cases i <;> rfl
  | hatX => rfl
  | hatY => rfl
  | button k =>
    obtain ⟨hindex, hlt⟩ := libraryIndex_spec k
    have hbit := t.keyEvent_getLsbD value hindex hlt hlt
    rw [if_pos rfl] at hbit
    exact hbit

/-- An axis field listens to its own code alone. -/
theorem absEvent_axes (t : LibraryState) {code : UInt16} (value : Int32) {i : Fin 6}
    (h : code ≠ axisCode i) : (t.absEvent code value).axes i = t.axes i := by
  have hne : ∀ j : Fin 6, code = axisCode j → i ≠ j := fun j hj e => h (e ▸ hj)
  unfold absEvent setAxis
  split
  · exact Function.update_of_ne (hne 0 ‹_›) _ _
  split
  · exact Function.update_of_ne (hne 1 ‹_›) _ _
  split
  · exact Function.update_of_ne (hne 2 ‹_›) _ _
  split
  · exact Function.update_of_ne (hne 3 ‹_›) _ _
  split
  · exact Function.update_of_ne (hne 4 ‹_›) _ _
  split
  · exact Function.update_of_ne (hne 5 ‹_›) _ _
  split
  · rfl
  split <;> rfl

theorem absEvent_hatX (t : LibraryState) {code : UInt16} (value : Int32) (h : code ≠ absHat0x) :
    (t.absEvent code value).hatX = t.hatX := by
  unfold absEvent setAxis
  rw [if_neg h]
  split_ifs <;> rfl

theorem absEvent_hatY (t : LibraryState) {code : UInt16} (value : Int32) (h : code ≠ absHat0y) :
    (t.absEvent code value).hatY = t.hatY := by
  unfold absEvent setAxis
  rw [if_neg h]
  split_ifs <;> rfl

theorem absEvent_buttons (t : LibraryState) (code : UInt16) (value : Int32) :
    (t.absEvent code value).buttons = t.buttons := by
  unfold absEvent setAxis
  split_ifs <;> rfl

/-- A key record leaves sticks, triggers and hats alone. -/
theorem keyEvent_rest (t : LibraryState) (code : UInt16) (value : Int32) :
    (t.keyEvent code value).axes = t.axes ∧ (t.keyEvent code value).hatX = t.hatX ∧
      (t.keyEvent code value).hatY = t.hatY := by
  unfold keyEvent
  split <;> exact ⟨rfl, rfl, rfl⟩

/-- Codes of different buttons have different bits. -/
theorem keyEvent_other (t : LibraryState) {code : UInt16} (value : Int32) {k : Fin 12}
    (h : code ≠ buttonCode (buttonDetail k)) :
    (t.keyEvent code value).buttons.getLsbD (libraryIndex k) =
      t.buttons.getLsbD (libraryIndex k) := by
  obtain ⟨hk, hlt⟩ := libraryIndex_spec k
  cases hindex : buttonIndex code with
  | none =>
    unfold keyEvent
    rw [hindex]
  | some index =>
    have hcode := List.findIdx?_eq_some_iff_getElem.mp hindex
    have hcode' := List.findIdx?_eq_some_iff_getElem.mp hk
    obtain ⟨hlen, heq, -⟩ := hcode
    obtain ⟨hlen', heq', -⟩ := hcode'
    have hne : index ≠ libraryIndex k := by
      rintro rfl
      exact h ((beq_iff_eq.mp heq).symm.trans (beq_iff_eq.mp heq'))
    rw [t.keyEvent_getLsbD value hindex (Nat.lt_trans hlen (by decide)) hlt, if_neg hne]

/-- **A record of anything else leaves the field of a control alone.** -/
theorem record_other (t : LibraryState) (c : Control) {e : InputEvent} (h : (e.type, e.code) ≠ c.key)
    {v : Int32} (hv : t.Reads v c) : (t.record e).Reads v c := by
  have hcode : ∀ {type code : UInt16}, (type, code) = c.key → e.type = type → e.code ≠ code := by
    intro type code hkey ht hc
    exact h (ht ▸ hc ▸ hkey)
  unfold record processEvent
  split
  · rename_i htype
    cases c with
    | axis i => exact (t.absEvent_axes e.value (hcode rfl htype)).trans hv
    | hatX => exact (t.absEvent_hatX e.value (hcode rfl htype)).trans hv
    | hatY => exact (t.absEvent_hatY e.value (hcode rfl htype)).trans hv
    | button k =>
      show (t.absEvent e.code e.value).buttons.getLsbD _ = _
      rw [t.absEvent_buttons]
      exact hv
  split
  · rename_i htype
    obtain ⟨haxes, hx, hy⟩ := t.keyEvent_rest e.code e.value
    cases c with
    | axis i => exact (congrFun haxes i).trans hv
    | hatX => exact hx.trans hv
    | hatY => exact hy.trans hv
    | button k => exact (t.keyEvent_other e.value (hcode rfl htype)).trans hv
  split
  · cases c <;> exact hv
  · exact hv

/-! ## 3. Lists of records -/

/-- **The state reads the latest value of every control reported.** -/
theorem replayed_reads (es : List InputEvent) {c : Control} {v : Int32}
    (h : latest (es.map InputEvent.report) c.key = some v) : (replayed es).Reads v c := by
  induction es using List.reverseRecOn with
  | nil => cases h
  | append_singleton es e ih =>
    have hreport : (es ++ [e]).map InputEvent.report =
        es.map InputEvent.report ++ [((e.type, e.code), e.value)] := List.map_append
    rw [hreport, latest_concat] at h
    rw [replayed_concat]
    split at h
    · rename_i hkey
      rw [← Option.some.inj h]
      exact record_own _ c hkey
    · rename_i hkey
      exact record_other _ c hkey (ih h)

end LibraryState

/-! ## 4. The image of a controller state -/

/-- **The library's image of a controller state**: sticks and hats equal, triggers spread over
    the type, the bit of a button set exactly when the X button that maps to its code is held. -/
structure Image (s : GamepadState) (t : LibraryState) : Prop where
  sticks : ∀ i : Fin 6, i < 4 → (t.axes i).toInt = s.axes i
  triggers : ∀ i : Fin 6, ¬i < 4 → (t.axes i).toInt = 257 * s.axes i - 32768
  hatX : t.hatX.toInt = s.hatX
  hatY : t.hatY.toInt = s.hatY
  buttons : ∀ detail index, buttonIndex (buttonCode detail) = some index →
    (t.buttons.getLsbD index = true ↔ s.isPressed detail = true)

/-- Only the twelve buttons have a code the library knows. -/
theorem buttonIndex_detail {detail index : Nat}
    (h : buttonIndex (buttonCode detail) = some index) :
    ∃ k, buttonDetail k = detail ∧ libraryIndex k = index := by
  have hlt : detail < 17 := by
    by_contra hge
    have hzero : buttonCode detail = 0 := by
      rw [buttonCode, List.getD_eq_getElem?_getD, List.getElem?_eq_none (Nat.not_lt.mp hge)]
      rfl
    have hnone : buttonIndex 0 = none := by decide
    rw [hzero, hnone] at h
    cases h
  have hall : ∀ d : Fin 17, (buttonIndex (buttonCode d)).isSome = true →
      ∃ k, buttonDetail k = d ∧ buttonIndex (buttonCode d) = some (libraryIndex k) := by decide
  obtain ⟨k, hk, hindex⟩ := hall ⟨detail, hlt⟩ (by rw [h]; rfl)
  exact ⟨k, hk, Option.some.inj (hindex.symm.trans h)⟩

/-- **Records that tell a controller state leave its image.** -/
theorem image_of_tells {s : GamepadState} (hs : s.InRange) {es : List InputEvent}
    (h : Tells Control.key s.shown (es.map InputEvent.report)) :
    Image s (LibraryState.replayed es) := by
  have hreads : ∀ c, (LibraryState.replayed es).Reads (s.shown c) c := fun c =>
    LibraryState.replayed_reads es (h c)
  refine ⟨fun i hi => ?_, fun i hi => ?_, ?_, ?_, fun detail index hd => ?_⟩
  · have hr : (LibraryState.replayed es).axes i = _ := hreads (.axis i)
    obtain ⟨h1, h2⟩ := hs.value (.axis i)
    obtain ⟨h3, h4⟩ := (Control.axis i).low_high
    rw [hr, if_pos hi, GamepadState.shown, Int32.toInt16_ofInt]
    exact int16_of_axis (by omega) (by omega)
  · have hr : (LibraryState.replayed es).axes i = _ := hreads (.axis i)
    obtain ⟨h1, h2⟩ := hs.axes i
    simp only [Control.low, Control.high, if_neg hi] at h1 h2
    rw [hr, if_neg hi, GamepadState.shown]
    show (triggerValue (Int32.ofInt (s.axes i))).toInt = _
    rw [triggerValue_toInt h1 h2]
    omega
  · have hr : (LibraryState.replayed es).hatX = _ := hreads .hatX
    obtain ⟨h1, h2⟩ := hs.hatX
    rw [hr, GamepadState.shown, Int32.toInt8_ofInt]
    show (Int8.ofInt s.hatX).toInt = s.hatX
    exact Int8.toInt_ofInt_of_le (by omega) (by omega)
  · have hr : (LibraryState.replayed es).hatY = _ := hreads .hatY
    obtain ⟨h1, h2⟩ := hs.hatY
    rw [hr, GamepadState.shown, Int32.toInt8_ofInt]
    show (Int8.ofInt s.hatY).toInt = s.hatY
    exact Int8.toInt_ofInt_of_le (by omega) (by omega)
  · obtain ⟨k, rfl, rfl⟩ := buttonIndex_detail hd
    have hr : (LibraryState.replayed es).buttons.getLsbD _ = _ := hreads (.button k)
    have hbit : ∀ p : Bool, decide (Int32.ofInt p.toInt ≠ 0) = p := by decide
    rw [hr]
    show decide (Int32.ofInt (s.isPressed (buttonDetail k)).toInt ≠ 0) = true ↔ _
    rw [hbit]

end TermuxGamepad
