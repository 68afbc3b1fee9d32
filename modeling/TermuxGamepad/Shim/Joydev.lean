/-
  File:      TermuxGamepad/Shim/Joydev.lean
  Subject:   The joydev reader of the preloaded shim (evdev_preload.c, lines 492-560).

  An evdev record becomes a `js_event`, or nothing. The first SYN_REPORT ends the initial
  report of a descriptor, whose events carry JS_EVENT_INIT.
-/
import TermuxGamepad.Protocol

namespace TermuxGamepad

open Wire

/-- `struct tg_js_event`. -/
structure JsEvent where
  time : UInt32
  value : Int16
  type : UInt8
  number : UInt8
  deriving DecidableEq, Repr

def jsEventButton : UInt8 := 0x01
def jsEventAxis : UInt8 := 0x02
def jsEventInit : UInt8 := 0x80

def jsEventCodec : Codec JsEvent :=
  (Codec.u32.pair (Codec.s16.pair (Codec.u8.pair Codec.u8))).imap
    (fun ⟨time, value, type, number⟩ => ⟨time, value, type, number⟩)
    (fun e => ⟨e.time, e.value, e.type, e.number⟩) (fun _ => rfl)

@[simp] theorem jsEventCodec_size : jsEventCodec.size = 8 := rfl

/-- `tg_joy_axis_number`; `none` for -1. -/
def joyAxisNumber (code : UInt16) : Option Nat :=
  [absX, absY, absZ, absRx, absRy, absRz, absHat0x, absHat0y].idxOf? code

/-- `tg_joy_button_number`; `none` for -1. -/
def joyButtonNumber (code : UInt16) : Option Nat :=
  [btnSouth, btnEast, btnNorth, btnWest, btnTl, btnTr, btnSelect, btnStart, btnMode, btnThumbl,
    btnThumbr, btnC].idxOf? code

/-- `tg_joy_axis_value`. -/
def joyAxisValue (code : UInt16) (value : Int32) : Int16 :=
  if code = absZ ∨ code = absRz then
    let value := if value < 0 then 0 else if value > 255 then 255 else value
    -- 255 * 257 - 32767 is one more than an `Int16` holds
    (value * 257 - 32767).toInt16
  else if code = absHat0x ∨ code = absHat0y then
    if value < 0 then -32767 else if value > 0 then 32767 else 0
  else
    let value := if value < -32767 then -32767 else if value > 32767 then 32767 else value
    value.toInt16

/-- `(tg_u32)(tv_sec * 1000L + tv_usec / 1000L)`. -/
def joyTime (t : Timeval) : UInt32 := (t.sec * 1000 + t.usec / 1000).toUInt64.toUInt32

/-- `tg_convert_joy_event`: the flag `initializing` afterwards, and the event produced. -/
def convertJoyEvent (initializing : Bool) (input : InputEvent) : Bool × Option JsEvent :=
  let init : UInt8 := if initializing then jsEventInit else 0
  if input.type = evSyn ∧ input.code = synReport then (false, none)
  else if input.type = evAbs then
    (initializing, (joyAxisNumber input.code).map fun number =>
      { time := joyTime input.time, value := joyAxisValue input.code input.value,
        type := jsEventAxis ||| init, number := UInt8.ofNat number })
  else if input.type = evKey then
    (initializing, (joyButtonNumber input.code).map fun number =>
      { time := joyTime input.time, value := if input.value ≠ 0 then 1 else 0,
        type := jsEventButton ||| init, number := UInt8.ofNat number })
  else (initializing, none)

end TermuxGamepad
