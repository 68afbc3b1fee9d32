/-
  File:      TermuxGamepad/Pipeline.lean
  Subject:   An axis from the X valuator to the application, through the bridge's conversion
             and that of each consumer.

  The library's triggers end at both ends of an `Int16`. The joydev reader subtracts 32767
  where the library subtracts 32768: its fully pressed trigger is 32768, which wraps.
-/
import TermuxGamepad.Bridge.Controls
import TermuxGamepad.Client.State
import TermuxGamepad.Shim.Joydev

namespace TermuxGamepad

/-! ## 1. The pipeline -/

/-- The record the bridge sends for a valuator. -/
def axisRecord (t : Timeval) (axis : Fin 6) (value : Int) : InputEvent :=
  { time := t, type := evAbs, code := axisCode axis, value := Int32.ofInt (convertAxis axis value) }

theorem appendEvent_axis (p : Batch) (axis : Fin 6) (value : Int) :
    (appendEvent p evAbs (axisCode axis) (convertAxis axis value)).2 =
      p.2 ++ [axisRecord p.1.timestamp.1 axis value] := rfl

/-- What a library handle shows for the axis after the record. -/
def libraryAxis (s : LibraryState) (t : Timeval) (axis : Fin 6) (value : Int) : Int :=
  ((s.processEvent 0 (axisRecord t axis value)).1.axes axis).toInt

/-- What the joydev reader reports for the axis. -/
def joydevAxis (axis : Fin 6) (value : Int) : Int :=
  (joyAxisValue (axisCode axis) (Int32.ofInt (convertAxis axis value))).toInt

/-- The js event of the record carries that value. -/
theorem convertJoyEvent_axis (initializing : Bool) (t : Timeval) (axis : Fin 6) (value : Int) :
    (convertJoyEvent initializing (axisRecord t axis value)).2.map (·.value.toInt) =
      some (joydevAxis axis value) := by
  fin_cases axis <;> rfl

/-- The valuator values an axis is clamped to. -/
def lowestInput (axis : Fin 6) : Int := if axis < 4 then -32768 else 0

def highestInput : Int := 32767

/-- Two valuator values arrive in order and in range. -/
structure Orderly (publish : Int → Int) (low high a b : Int) : Prop where
  mono : publish a ≤ publish b
  first : low ≤ publish a ∧ publish a ≤ high
  second : low ≤ publish b ∧ publish b ≤ high

/-- The clamped ends of an axis arrive at the ends of the deflection. -/
structure EndToEnd (publish : Int → Int) (low high : Int) (axis : Fin 6) : Prop where
  lowest : ∀ v ≤ lowestInput axis, publish v = low
  highest : ∀ v ≥ highestInput, publish v = high

/-! ## 2. Values -/

theorem int32_of_axis {n : Int} (h₁ : -32768 ≤ n) (h₂ : n ≤ 32767) : (Int32.ofInt n).toInt = n :=
  Int32.toInt_ofInt_of_le (by omega) (by omega)

theorem int16_of_axis {n : Int} (h₁ : -32768 ≤ n) (h₂ : n ≤ 32767) : (Int16.ofInt n).toInt = n :=
  Int16.toInt_ofInt_of_le (by omega) (by omega)

/-! ## 3. The library -/

/-- A stick passes through the library unchanged. -/
theorem libraryAxis_stick (s : LibraryState) (t : Timeval) {axis : Fin 6} (h : axis < 4) (v : Int) :
    libraryAxis s t axis v = convertAxis axis v := by
  have key : libraryAxis s t axis v = (Int32.ofInt (convertAxis axis v)).toInt16.toInt := by
    fin_cases axis <;> first | exact absurd h (by decide) | rfl
  obtain ⟨h₁, h₂⟩ := convertAxis_range axis v
  rw [key, Int32.toInt16_ofInt, int16_of_axis h₁ h₂]

theorem triggerValue_toInt {n : Int} (h₁ : 0 ≤ n) (h₂ : n ≤ 255) :
    (triggerValue (Int32.ofInt n)).toInt = n * 257 - 32768 := by
  have hn : triggerValue (Int32.ofInt n) = Int16.ofInt (n * 257 - 32768) := by
    rw [triggerValue, Int32.toInt16_sub, Int32.toInt16_mul, Int32.toInt16_ofInt, Int16.ofInt_sub,
      Int16.ofInt_mul]
    rfl
  rw [hn, int16_of_axis (by omega) (by omega)]

/-- **Triggers spread over the whole type**: 257 steps of one, from the lowest value. -/
theorem libraryAxis_trigger (s : LibraryState) (t : Timeval) {axis : Fin 6} (h : ¬axis < 4)
    (v : Int) : libraryAxis s t axis v = convertAxis axis v * 257 - 32768 := by
  have key : libraryAxis s t axis v = (triggerValue (Int32.ofInt (convertAxis axis v))).toInt := by
    fin_cases axis <;> first | exact absurd (by decide) h | rfl
  obtain ⟨h₁, h₂⟩ := trigger_range h v
  rw [key, triggerValue_toInt h₁ h₂]

theorem library_orderly (s : LibraryState) (t : Timeval) (axis : Fin 6) {a b : Int} (hab : a ≤ b) :
    Orderly (libraryAxis s t axis) (-32768) 32767 a b := by
  by_cases h : axis < 4
  · have ha := convertAxis_stick h a
    have hb := convertAxis_stick h b
    constructor <;> simp only [libraryAxis_stick s t h] <;> omega
  · have ha := convertAxis_trigger h a
    have hb := convertAxis_trigger h b
    constructor <;> simp only [libraryAxis_trigger s t h] <;> omega

theorem library_endToEnd (s : LibraryState) (t : Timeval) (axis : Fin 6) :
    EndToEnd (libraryAxis s t axis) (-32768) 32767 axis := by
  by_cases h : axis < 4
  · constructor <;> intro v hv <;> rw [libraryAxis_stick s t h, convertAxis_stick h] <;>
      simp only [lowestInput, highestInput, if_pos h] at hv <;> omega
  · constructor <;> intro v hv <;> rw [libraryAxis_trigger s t h, convertAxis_trigger h] <;>
      simp only [lowestInput, highestInput, if_neg h] at hv <;> omega

/-! ## 4. The joydev reader -/

theorem joydevAxis_stick {axis : Fin 6} (h : axis < 4) (v : Int) :
    joydevAxis axis v = max (-32767) (convertAxis axis v) := by
  obtain ⟨h₁, h₂⟩ := convertAxis_range axis v
  have hcode : ¬(axisCode axis = absZ ∨ axisCode axis = absRz) ∧
      ¬(axisCode axis = absHat0x ∨ axisCode axis = absHat0y) := by
    revert h; fin_cases axis <;> decide
  have hint := int32_of_axis h₁ h₂
  have hlow : (-32767 : Int32).toInt = -32767 := rfl
  have hhigh : (32767 : Int32).toInt = 32767 := rfl
  rw [joydevAxis, joyAxisValue, if_neg hcode.1, if_neg hcode.2]
  simp only [gt_iff_lt, Int32.lt_iff_toInt_lt, hint, hlow, hhigh]
  split
  · rw [show ((-32767 : Int32).toInt16).toInt = -32767 from rfl]
    omega
  · rw [if_neg (by omega), Int32.toInt16_ofInt, int16_of_axis h₁ h₂]
    omega

/-- The trigger's formula before the narrowing: one past the type at the top. -/
theorem joydevAxis_trigger {axis : Fin 6} (h : ¬axis < 4) (v : Int) :
    joydevAxis axis v =
      if convertAxis axis v = 255 then -32768 else convertAxis axis v * 257 - 32767 := by
  obtain ⟨h₁, h₂⟩ := trigger_range h v
  have hcode : axisCode axis = absZ ∨ axisCode axis = absRz := by
    revert h; fin_cases axis <;> decide
  have hint := int32_of_axis (n := convertAxis axis v) (by omega) (by omega)
  have hlow : (0 : Int32).toInt = 0 := rfl
  have hhigh : (255 : Int32).toInt = 255 := rfl
  rw [joydevAxis, joyAxisValue, if_pos hcode]
  simp only [gt_iff_lt, Int32.lt_iff_toInt_lt, hint, hlow, hhigh]
  rw [if_neg (by omega), if_neg (by omega)]
  split
  · rename_i htop
    rw [htop]
    rfl
  · have hn : (Int32.ofInt (convertAxis axis v) * 257 - 32767).toInt16 =
        Int16.ofInt (convertAxis axis v * 257 - 32767) := by
      rw [Int32.toInt16_sub, Int32.toInt16_mul, Int32.toInt16_ofInt, Int16.ofInt_sub,
        Int16.ofInt_mul]
      rfl
    rw [hn, int16_of_axis (by omega) (by omega)]

/-- A trigger reaches 255 from 32703 on. -/
theorem fully_pressed_iff {axis : Fin 6} (h : ¬axis < 4) (v : Int) :
    convertAxis axis v = 255 ↔ 32703 ≤ v := by
  rw [convertAxis_trigger h]
  omega

theorem joydev_orderly_iff (axis : Fin 6) {a b : Int} (hab : a ≤ b) :
    Orderly (joydevAxis axis) (-32767) 32767 a b ↔ axis < 4 ∨ b < 32703 := by
  by_cases h : axis < 4
  · refine iff_of_true ?_ (.inl h)
    have ha := convertAxis_stick h a
    have hb := convertAxis_stick h b
    constructor <;> simp only [joydevAxis_stick h] <;> omega
  · constructor
    · intro ho
      by_contra hn
      have hb := (fully_pressed_iff h b).mpr (by omega)
      have := ho.second.1
      rw [joydevAxis_trigger h, if_pos hb] at this
      omega
    · intro hb
      have hb : b < 32703 := hb.resolve_left h
      have hta := mt (fully_pressed_iff h a).mp (by omega)
      have htb := mt (fully_pressed_iff h b).mp (by omega)
      have hra := trigger_range h a
      have hrb := trigger_range h b
      have hle : convertAxis axis a ≤ convertAxis axis b := by
        rw [convertAxis_trigger h, convertAxis_trigger h]
        omega
      constructor <;> simp only [joydevAxis_trigger h, if_neg hta, if_neg htb] <;> omega

theorem joydev_endToEnd_iff (axis : Fin 6) :
    EndToEnd (joydevAxis axis) (-32767) 32767 axis ↔ axis < 4 := by
  by_cases h : axis < 4
  · refine iff_of_true ?_ h
    constructor <;> intro v hv <;> rw [joydevAxis_stick h, convertAxis_stick h] <;>
      simp only [lowestInput, highestInput, if_pos h] at hv <;> omega
  · refine iff_of_false (fun he => ?_) h
    have htop := he.highest 32767 (le_refl _)
    rw [joydevAxis_trigger h, if_pos ((fully_pressed_iff h 32767).mpr (by omega))] at htop
    omega

/-! ## 5. The whole pipeline -/

/-- What two valuator values and the ends of their axis may expect of both consumers. -/
structure Piped (s : LibraryState) (t : Timeval) (axis : Fin 6) (a b : Int) : Prop where
  library : Orderly (libraryAxis s t axis) (-32768) 32767 a b
  libraryEnds : EndToEnd (libraryAxis s t axis) (-32768) 32767 axis
  joydev : Orderly (joydevAxis axis) (-32767) 32767 a b
  joydevEnds : EndToEnd (joydevAxis axis) (-32767) 32767 axis

/-- **The axis pipeline**: the library keeps order, range and both ends on every axis. The joydev
    reader keeps the order and range of two values exactly where neither is a fully pressed
    trigger, and the ends exactly on the sticks. -/
theorem axis_pipeline (s : LibraryState) (t : Timeval) (axis : Fin 6) {a b : Int} (hab : a ≤ b) :
    Orderly (libraryAxis s t axis) (-32768) 32767 a b ∧
      EndToEnd (libraryAxis s t axis) (-32768) 32767 axis ∧
      (Orderly (joydevAxis axis) (-32767) 32767 a b ↔ axis < 4 ∨ b < 32703) ∧
      (EndToEnd (joydevAxis axis) (-32767) 32767 axis ↔ axis < 4) ∧
      (Piped s t axis a b ↔ axis < 4) := by
  have hl := library_orderly s t axis hab
  have hle := library_endToEnd s t axis
  have hj := joydev_orderly_iff axis hab
  have hje := joydev_endToEnd_iff axis
  refine ⟨hl, hle, hj, hje, fun hp => hje.mp hp.joydevEnds, fun h => ?_⟩
  exact ⟨hl, hle, hj.mpr (.inl h), hje.mpr h⟩

/-- A trigger pressed halfway, then fully. -/
theorem axis_pipeline_trigger :
    Orderly (libraryAxis LibraryState.reset ⟨0, 0⟩ 4) (-32768) 32767 16384 32767 ∧
      EndToEnd (libraryAxis LibraryState.reset ⟨0, 0⟩ 4) (-32768) 32767 4 ∧
      (Orderly (joydevAxis 4) (-32767) 32767 16384 32767 ↔ (4 : Fin 6) < 4 ∨ (32767 : Int) < 32703) ∧
      (EndToEnd (joydevAxis 4) (-32767) 32767 4 ↔ (4 : Fin 6) < 4) ∧
      (Piped LibraryState.reset ⟨0, 0⟩ 4 16384 32767 ↔ (4 : Fin 6) < 4) :=
  axis_pipeline LibraryState.reset ⟨0, 0⟩ 4 (by decide)

/-- **A fully pressed trigger reads as released**, below the range the reader means. -/
theorem joydev_trigger_wraps :
    joydevAxis 4 32767 = -32768 ∧ ¬joydevAxis 4 16384 ≤ joydevAxis 4 32767 ∧
      ¬Piped LibraryState.reset ⟨0, 0⟩ 4 16384 32767 := by
  refine ⟨rfl, by decide, fun hp => ?_⟩
  exact absurd hp.joydev.mono (by decide)

end TermuxGamepad
