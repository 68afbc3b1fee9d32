/-
  File:      TermuxGamepad/Protocol.lean
  Subject:   The records that travel over the sockets (tg_common.h, tg_evdev_protocol.h).

  Three record formats and their codecs: the 24-byte `input_event`, the 88-byte device
  descriptor (alone, or inside the 96-byte hotplug message), and the 16-byte control message.
  Codes and constants carry the source's names.
-/
import TermuxGamepad.Lib.Codec

namespace TermuxGamepad

open Wire

/-! ## 1. Event codes -/

def evSyn : UInt16 := 0x00
def evKey : UInt16 := 0x01
def evAbs : UInt16 := 0x03
def evFf : UInt16 := 0x15
def synReport : UInt16 := 0

def absX : UInt16 := 0x00
def absY : UInt16 := 0x01
def absZ : UInt16 := 0x02
def absRx : UInt16 := 0x03
def absRy : UInt16 := 0x04
def absRz : UInt16 := 0x05
def absHat0x : UInt16 := 0x10
def absHat0y : UInt16 := 0x11

/-- The axes of a gamepad are numbered. -/
instance axes_neZero : NeZero 6 := ⟨by decide⟩

def btnSouth : UInt16 := 0x130
def btnEast : UInt16 := 0x131
def btnC : UInt16 := 0x132
def btnNorth : UInt16 := 0x133
def btnWest : UInt16 := 0x134
def btnTl : UInt16 := 0x136
def btnTr : UInt16 := 0x137
def btnSelect : UInt16 := 0x13a
def btnStart : UInt16 := 0x13b
def btnMode : UInt16 := 0x13c
def btnThumbl : UInt16 := 0x13d
def btnThumbr : UInt16 := 0x13e

/-! ## 2. `struct input_event` -/

structure Timeval where
  sec : Int64
  usec : Int64
  deriving DecidableEq, Repr

structure InputEvent where
  time : Timeval
  type : UInt16
  code : UInt16
  value : Int32
  deriving DecidableEq, Repr

def inputEventCodec : Codec InputEvent :=
  (Codec.s64.pair (Codec.s64.pair (Codec.u16.pair (Codec.u16.pair Codec.s32)))).imap
    (fun ⟨sec, usec, type, code, value⟩ => ⟨⟨sec, usec⟩, type, code, value⟩)
    (fun e => ⟨e.time.sec, e.time.usec, e.type, e.code, e.value⟩) (fun _ => rfl)

@[simp] theorem inputEventCodec_size : inputEventCodec.size = 24 := rfl

/-! ## 3. Device descriptor and hotplug message -/

def controlVersion : UInt16 := 3
def deviceMagic : UInt32 := 0x54474456
def hotplugMagic : UInt32 := 0x54474850
def hotplugAdd : UInt8 := 1
def hotplugRemove : UInt8 := 2

/-- `TG_DEVICE_CAP_RUMBLE`, a bit of a descriptor's capabilities. -/
def deviceCapRumble : UInt8 := 1

structure DeviceDescriptor where
  magic : UInt32
  version : UInt16
  present : UInt8
  capabilities : UInt8
  inputMode : UInt8
  vendorId : UInt32
  productId : UInt32
  deviceId : Int32
  name : Block 64
  deriving DecidableEq

def deviceDescriptorCodec : Codec DeviceDescriptor :=
  (Codec.u32.pair (Codec.u16.pair (Codec.u8.pair (Codec.u8.pair (Codec.u8.pair
    ((Codec.pad 3).pair (Codec.u32.pair (Codec.u32.pair
      (Codec.s32.pair (Codec.block 64)))))))))).imap
    (fun ⟨magic, version, present, capabilities, inputMode, _, vendorId, productId, deviceId, name⟩ =>
      ⟨magic, version, present, capabilities, inputMode, vendorId, productId, deviceId, name⟩)
    (fun d => ⟨d.magic, d.version, d.present, d.capabilities, d.inputMode, (), d.vendorId,
      d.productId, d.deviceId, d.name⟩)
    (fun _ => rfl)

@[simp] theorem deviceDescriptorCodec_size : deviceDescriptorCodec.size = 88 := rfl

structure HotplugMessage where
  magic : UInt32
  version : UInt16
  action : UInt8
  descriptor : DeviceDescriptor
  deriving DecidableEq

def hotplugMessageCodec : Codec HotplugMessage :=
  (Codec.u32.pair (Codec.u16.pair (Codec.u8.pair ((Codec.pad 1).pair deviceDescriptorCodec)))).imap
    (fun ⟨magic, version, action, _, descriptor⟩ => ⟨magic, version, action, descriptor⟩)
    (fun m => ⟨m.magic, m.version, m.action, (), m.descriptor⟩) (fun _ => rfl)

@[simp] theorem hotplugMessageCodec_size : hotplugMessageCodec.size = 96 := rfl

/-! ## 4. Control message -/

def controlMagic : UInt32 := 0x54474546
def controlRumble : UInt16 := 1
def controlStopRumble : UInt16 := 2
def controlQueryDescriptor : UInt16 := 3
def controlMonitor : UInt16 := 4

structure ControlMessage where
  magic : UInt32
  version : UInt16
  command : UInt16
  lowFrequency : UInt16
  highFrequency : UInt16
  durationMs : UInt32
  deriving DecidableEq, Repr

def controlMessageCodec : Codec ControlMessage :=
  (Codec.u32.pair (Codec.u16.pair (Codec.u16.pair (Codec.u16.pair
    (Codec.u16.pair Codec.u32))))).imap
    (fun ⟨magic, version, command, low, high, duration⟩ =>
      ⟨magic, version, command, low, high, duration⟩)
    (fun m => ⟨m.magic, m.version, m.command, m.lowFrequency, m.highFrequency, m.durationMs⟩)
    (fun _ => rfl)

@[simp] theorem controlMessageCodec_size : controlMessageCodec.size = 16 := rfl

/-! ## 5. C strings in fixed arrays -/

/-- The bytes of a string constant. -/
def ascii (s : String) : List UInt8 := s.toList.map fun c => UInt8.ofNat c.toNat

/-- The string a C string function reads from a byte array: up to the first NUL. -/
def cString (bs : List UInt8) : List UInt8 := bs.takeWhile (· ≠ 0)

/-- A zeroed `char[64]` after a bounded copy (`snprintf`, or `strncpy` with 63) of a string. -/
def nameField (s : List UInt8) : Block 64 := Block.ofBytes 64 ((cString s).take 63)

theorem cString_append_zeros {s : List UInt8} (h : 0 ∉ s) (n : Nat) :
    cString (s ++ List.replicate n 0) = s := by
  have hall : ∀ a ∈ s, decide (a ≠ 0) = true := fun a ha =>
    decide_eq_true fun e => h (e ▸ ha)
  unfold cString
  rw [List.takeWhile_append_of_pos hall]
  cases n with
  | zero => simp
  | succ n => simp [List.replicate_succ]

theorem zero_notMem_cString (s : List UInt8) : 0 ∉ cString s := by
  intro h
  have hall := List.all_eq_true.mp (List.all_takeWhile (p := (· ≠ (0 : UInt8))) (l := s)) 0 h
  simp at hall

/-- Reading the field gives the string back, cut to 63 bytes. -/
theorem cString_nameField (s : List UInt8) :
    cString (nameField s).bytes = (cString s).take 63 := by
  have h0 : 0 ∉ (cString s).take 63 := fun h => zero_notMem_cString s (List.mem_of_mem_take h)
  have hlen : ((cString s).take 63).length ≤ 64 := by simp
  show cString (((cString s).take 63).take 64 ++ List.replicate _ 0) = _
  rw [List.take_of_length_le hlen]
  exact cString_append_zeros h0 _

/-- The copy in a field is a C string of its own: copying it again changes nothing. -/
theorem cString_nameField_idem (s : List UInt8) :
    cString (nameField (cString (nameField s).bytes)).bytes = cString (nameField s).bytes := by
  have h0 : 0 ∉ (cString s).take 63 := fun h => zero_notMem_cString s (List.mem_of_mem_take h)
  have hid : cString ((cString s).take 63) = (cString s).take 63 := by
    have h := cString_append_zeros h0 0
    rwa [List.replicate_zero, List.append_nil] at h
  rw [cString_nameField, cString_nameField, hid, List.take_take]
  rfl

end TermuxGamepad
