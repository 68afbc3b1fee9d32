/-
  File:      TermuxGamepad/Client/State.lean
  Subject:   The records libtermux-gamepad shows the application, and what changes them
             (include/termux_gamepad.h; termux_gamepad.c, lines 29-34, 121-148 and 233-283).

  Arithmetic on an event value is C's on `int`. A value outside the device's range would
  overflow there; the bridge sends none (Bridge/Input.lean), and `Int32` wraps.
-/
import TermuxGamepad.Protocol

namespace TermuxGamepad

open Wire

/-! ## 1. The controller state -/

/-- `struct termux_gamepad_state`. -/
structure LibraryState where
  axes : Fin 6 → Int16
  buttons : BitVec 16
  hatX : Int8
  hatY : Int8
  packetNumber : UInt32

namespace LibraryState

/-- `reset_state`: both triggers at rest. -/
def reset : LibraryState :=
  { axes := fun i => if i = 4 ∨ i = 5 then -32768 else 0
    buttons := 0
    hatX := 0
    hatY := 0
    packetNumber := 0 }

def setAxis (s : LibraryState) (axis : Fin 6) (value : Int16) : LibraryState :=
  { s with axes := Function.update s.axes axis value }

end LibraryState

/-- The codes of `button_index`, in the order of their bits. -/
def libraryButtons : List UInt16 :=
  [btnSouth, btnEast, btnNorth, btnWest, btnTl, btnTr, btnSelect, btnStart, btnThumbl, btnThumbr,
    btnMode, btnC]

/-- `button_index`; `none` for -1. -/
def buttonIndex (code : UInt16) : Option Nat := libraryButtons.idxOf? code

/-- The value both triggers of the library state take. -/
def triggerValue (value : Int32) : Int16 := (value * 257 - 32768).toInt16

/-- `1U << index`, in the type of the button mask. -/
def libraryBit (index : Nat) : BitVec 16 := 1#16 <<< index

namespace LibraryState

/-- The `EV_ABS` branch of `process_event`. -/
def absEvent (s : LibraryState) (code : UInt16) (value : Int32) : LibraryState :=
  if code = absX then s.setAxis 0 value.toInt16
  else if code = absY then s.setAxis 1 value.toInt16
  else if code = absRx then s.setAxis 2 value.toInt16
  else if code = absRy then s.setAxis 3 value.toInt16
  else if code = absZ then s.setAxis 4 (triggerValue value)
  else if code = absRz then s.setAxis 5 (triggerValue value)
  else if code = absHat0x then { s with hatX := value.toInt8 }
  else if code = absHat0y then { s with hatY := value.toInt8 }
  else s

/-- The `EV_KEY` branch of `process_event`. -/
def keyEvent (s : LibraryState) (code : UInt16) (value : Int32) : LibraryState :=
  match buttonIndex code with
  | none => s
  | some index =>
    { s with
      buttons :=
        if value ≠ 0 then s.buttons ||| libraryBit index else s.buttons &&& ~~~libraryBit index }

/-- `process_event`, with the counter of reports. -/
def processEvent (s : LibraryState) (reports : Nat) (event : InputEvent) : LibraryState × Nat :=
  if event.type = evAbs then (s.absEvent event.code event.value, reports)
  else if event.type = evKey then (s.keyEvent event.code event.value, reports)
  else if event.type = evSyn ∧ event.code = synReport then
    ({ s with packetNumber := s.packetNumber + 1 }, reports + 1)
  else (s, reports)

end LibraryState

/-! ## 2. The descriptor -/

def abiVersion : UInt32 := 1

/-- `sizeof(struct termux_gamepad_descriptor)`. -/
def descriptorSize : UInt32 := 88

/-- `TERMUX_GAMEPAD_CAP_RUMBLE | TERMUX_GAMEPAD_CAP_TRIGGER_RUMBLE`. -/
def libraryCapRumble : UInt8 := 3

/-- A `char[64]` that is zero past its string, as the library's own names are. -/
abbrev LibraryName := { b : Block 64 // nameField b.bytes = b }

theorem nameField_idem (s : List UInt8) : nameField (nameField s).bytes = nameField s := by
  show Block.ofBytes 64 ((cString (nameField s).bytes).take 63) = nameField s
  rw [cString_nameField, List.take_take]
  rfl

/-- `strncpy` of 63 bytes into a zeroed `char[64]`. -/
def LibraryName.copy (s : List UInt8) : LibraryName := ⟨nameField s, nameField_idem s⟩

/-- Names of one string are one name: there is nothing behind the terminator to differ in. -/
theorem LibraryName.ext_cString {a b : LibraryName}
    (h : cString a.val.bytes = cString b.val.bytes) : a = b := by
  apply Subtype.ext
  rw [← a.property, ← b.property]
  show Block.ofBytes 64 _ = Block.ofBytes 64 _
  rw [h]

/-- `struct termux_gamepad_descriptor`. -/
structure LibraryDescriptor where
  abiVersion : UInt32
  structSize : UInt32
  present : UInt8
  capabilities : UInt8
  inputMode : UInt8
  vendorId : UInt32
  productId : UInt32
  deviceId : Int32
  name : LibraryName
  deriving DecidableEq

namespace LibraryDescriptor

/-- The descriptor `termux_gamepad_create` starts from. -/
def initial : LibraryDescriptor :=
  { abiVersion := TermuxGamepad.abiVersion
    structSize := descriptorSize
    present := 0
    capabilities := 0
    inputMode := 0
    vendorId := 0
    productId := 0
    deviceId := -1
    name := LibraryName.copy [] }

end LibraryDescriptor

/-- `copy_descriptor`. -/
def copyDescriptor (input : DeviceDescriptor) : LibraryDescriptor :=
  { abiVersion := abiVersion
    structSize := descriptorSize
    present := input.present
    capabilities := if input.capabilities &&& deviceCapRumble ≠ 0 then libraryCapRumble else 0
    inputMode := input.inputMode
    vendorId := input.vendorId
    productId := input.productId
    deviceId := input.deviceId
    name := LibraryName.copy input.name.bytes }

/-- `descriptor_equal`: it compares no version and no size, and names as strings. -/
def descriptorEqual (a b : LibraryDescriptor) : Bool :=
  a.present == b.present && a.capabilities == b.capabilities && a.inputMode == b.inputMode &&
    a.vendorId == b.vendorId && a.productId == b.productId && a.deviceId == b.deviceId &&
    cString a.name.val.bytes == cString b.name.val.bytes

/-! ## 3. The backend -/

inductive Backend where
  | auto
  | udev
  | sdl
  | off
  deriving DecidableEq, Repr

/-- `termux_gamepad_get_backend`, for the value of TERMUX_GAMEPAD_BACKEND. The value
    "auto" is like every other. -/
def getBackend (value : Option (List UInt8)) : Backend :=
  match value.map cString with
  | none => .auto
  | some value =>
    if value = ascii "udev" then .udev
    else if value = ascii "sdl" then .sdl
    else if value = ascii "off" then .off
    else .auto

end TermuxGamepad
