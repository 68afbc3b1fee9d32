/-
  File:      TermuxGamepad/Udev.lean
  Subject:   The fake libudev (libudev_fake.c): what it knows of the device and what it says of it.

  `Udev` holds the file's static variables. A call gets the environment variables as they are at
  that moment, and what the bridge's socket answers to it.
-/
import TermuxGamepad.Lib.Slots
import TermuxGamepad.Shim.Preload

namespace TermuxGamepad

open Wire

/-! ## 1. Static data -/

/-- `enum fake_device_kind`. -/
inductive DeviceKind where
  | evdev
  | joydev
  | parent
  deriving DecidableEq, Repr

/-- `g_descriptor`, the two cached strings, `g_event_dev.action`, `g_enum.matched_input` and
    `g_monitor.pipefd[0]`. -/
structure Udev where
  descriptor : DeviceDescriptor
  vendorString : List UInt8
  productString : List UInt8
  eventAction : Nat
  matchedInput : Bool
  monitorFd : Int

def Udev.loaded : Udev :=
  { descriptor := deviceDescriptorCodec.dec (List.replicate deviceDescriptorCodec.size 0)
    vendorString := ascii "0000"
    productString := ascii "0000"
    eventAction := 0
    matchedInput := false
    monitorFd := 0 }

/-! ## 2. The identity -/

/-- `digits[d]`. -/
def hexDigit (d : Nat) : UInt8 := (ascii "0123456789abcdef").getD d 0

/-- The loop of `format_hex4` with `i` digits to go, in front of those written. -/
def hexLoop : Nat → UInt32 → List UInt8 → List UInt8
  | 0, _, output => output
  | i + 1, value, output => hexLoop i (value >>> 4) (hexDigit (value &&& 15).toNat :: output)

/-- `format_hex4`, without the terminator. -/
def formatHex4 (value : UInt32) : List UInt8 := hexLoop 4 value []

/-- `tg_streq`, for a string of the caller and a constant. -/
def keyIs (key : Option (List UInt8)) (name : String) : Bool := key.map cString == some (ascii name)

namespace Udev

variable (env : Env)

/-- `update_descriptor`. -/
def updateDescriptor (u : Udev) (d : DeviceDescriptor) : Udev :=
  if !env.backendEnabled then { u with descriptor := { u.descriptor with present := 0 } }
  else
    { u with
      descriptor := d
      vendorString := formatHex4 d.vendorId
      productString := formatHex4 d.productId }

/-- `dinput_mode`. -/
def dinputMode (u : Udev) : Bool :=
  if keyIs env.mode "dinput" then true
  else if keyIs env.mode "xinput" then false
  else u.descriptor.inputMode == 2

/-- `device_name`. -/
def deviceName (u : Udev) : List UInt8 :=
  if cString u.descriptor.name.bytes ≠ [] then cString u.descriptor.name.bytes
  else if u.dinputMode env then ascii "Termux Virtual DirectInput Controller"
  else ascii "Termux Virtual Xbox Controller"

/-! ## 3. The bridge's socket -/

/-- `connect_bridge`; `none` for -1. -/
def connectBridge (answer : ConnectAnswer) : Option Int :=
  if !env.backendEnabled then none
  else if ((nonEmpty env.evdevSocket).getD defaultSocket).length ≥ sunPathSize then none
  else if answer.socket < 0 then none
  else if answer.connect ≠ 0 then none
  else if answer.send ≠ controlMessageCodec.size then none
  else some answer.socket

/-- `refresh_descriptor`. -/
def refreshDescriptor (u : Udev) (answer : ConnectAnswer) : Udev × Int :=
  match connectBridge env answer with
  | none => (u, -1)
  | some _ =>
    let d := deviceDescriptorCodec.dec answer.received
    if answer.received.length ≠ deviceDescriptorCodec.size ∨ d.magic ≠ deviceMagic ∨
        d.version ≠ controlVersion then (u, -1)
    else (u.updateDescriptor env d, if d.present ≠ 0 then 0 else -1)

/-- `udev_monitor_receive_device`, for a monitor that was handed out; `true` where it returns
    the device. -/
def receiveDevice (u : Udev) (received : List UInt8) : Udev × Bool :=
  if !env.backendEnabled ∨ u.monitorFd < 0 then (u, false)
  else
    let m := hotplugMessageCodec.dec received
    if received.length ≠ hotplugMessageCodec.size ∨ m.magic ≠ hotplugMagic ∨
        m.version ≠ controlVersion then (u, false)
    else
      ({ u.updateDescriptor env m.descriptor with
          eventAction := if m.action = hotplugRemove then 2 else 1 }, true)

/-! ## 4. What the library says -/

/-- `udev_device_get_devnode`. -/
def getDevnode : DeviceKind → Option (List UInt8)
  | .evdev => some fakeDevnode
  | .joydev => some fakeJoydevNode
  | .parent => none

/-- `udev_device_get_property_value`, of a device; a NULL key is `none`. -/
def getPropertyValue (u : Udev) (d : DeviceKind) (key : Option (List UInt8)) :
    Option (List UInt8) :=
  if keyIs key "ID_INPUT_JOYSTICK" then some (ascii "1")
  else if keyIs key "ID_INPUT" then some (ascii "1")
  else if keyIs key "DEVNAME" then getDevnode d
  else if keyIs key "SUBSYSTEM" then some (ascii "input")
  else if keyIs key "NAME" then some (u.deviceName env)
  else if keyIs key "ID_VENDOR_ID" then
    some (if u.dinputMode env then ascii "1209" else u.vendorString)
  else if keyIs key "ID_MODEL_ID" then
    some (if u.dinputMode env then ascii "0001" else u.productString)
  else if keyIs key "ID_REVISION" then some (ascii "0114")
  else none

/-- `udev_device_get_sysattr_value`. -/
def getSysattrValue (u : Udev) (key : Option (List UInt8)) : Option (List UInt8) :=
  if keyIs key "id/vendor" then some (if u.dinputMode env then ascii "1209" else u.vendorString)
  else if keyIs key "id/product" then
    some (if u.dinputMode env then ascii "0001" else u.productString)
  else if keyIs key "id/version" then some (ascii "0114")
  else if keyIs key "name" then some (u.deviceName env)
  else none

/-- `udev_enumerate_get_list_entry`: whether there is one. -/
def getListEntry (u : Udev) : Bool :=
  env.backendEnabled && u.matchedInput && u.descriptor.present != 0

/-! ## 5. Calls -/

end Udev

/-- A call that changes the library's static data, with what the bridge's socket answers. -/
inductive UdevCall where
  | enumerateNew
  | enumerateAddMatchSubsystem (subsystem : Option (List UInt8))
  | enumerateAddMatchProperty (key value : Option (List UInt8))
  | enumerateScanDevices (answer : ConnectAnswer)
  | monitorNewFromNetlink (answer : ConnectAnswer)
  | monitorReceiveDevice (received : List UInt8)
  | monitorUnref
  deriving DecidableEq, Repr

namespace Udev

/-- A call, with the environment it finds. -/
def step (u : Udev) : Env × UdevCall → Udev
  | (_, .enumerateNew) => { u with matchedInput := false }
  | (_, .enumerateAddMatchSubsystem subsystem) =>
    { u with matchedInput := keyIs subsystem "input" }
  | (_, .enumerateAddMatchProperty key value) =>
    if keyIs key "ID_INPUT_JOYSTICK" ∧ keyIs value "1" then { u with matchedInput := true } else u
  | (env, .enumerateScanDevices answer) =>
    if !env.backendEnabled then { u with descriptor := { u.descriptor with present := 0 } }
    else (u.refreshDescriptor env answer).1
  | (env, .monitorNewFromNetlink answer) =>
    if !env.backendEnabled then u
    else { u with monitorFd := (connectBridge env answer).getD (-1) }
  | (env, .monitorReceiveDevice received) => (u.receiveDevice env received).1
  | (_, .monitorUnref) => { u with monitorFd := -1 }

/-! ## 6. The cached strings -/

/-- The strings are those of the descriptor. -/
structure Cached (u : Udev) : Prop where
  vendor : u.vendorString = formatHex4 u.descriptor.vendorId
  product : u.productString = formatHex4 u.descriptor.productId

theorem loaded_cached : loaded.Cached := by
  constructor <;> decide

theorem updateDescriptor_cached {env : Env} {u : Udev} (h : u.Cached) (d : DeviceDescriptor) :
    (u.updateDescriptor env d).Cached := by
  unfold updateDescriptor
  split
  · exact ⟨h.vendor, h.product⟩
  · exact ⟨rfl, rfl⟩

theorem refreshDescriptor_cached {env : Env} {u : Udev} (h : u.Cached) (answer : ConnectAnswer) :
    (u.refreshDescriptor env answer).1.Cached := by
  unfold refreshDescriptor
  split
  · exact h
  · dsimp only
    split
    · exact h
    · exact updateDescriptor_cached h _

theorem receiveDevice_cached {env : Env} {u : Udev} (h : u.Cached) (received : List UInt8) :
    (u.receiveDevice env received).1.Cached := by
  unfold receiveDevice
  split
  · exact h
  · dsimp only
    split
    · exact h
    · have hu := @updateDescriptor_cached env u h (hotplugMessageCodec.dec received).descriptor
      exact ⟨hu.vendor, hu.product⟩

theorem step_cached (u : Udev) (call : Env × UdevCall) (h : u.Cached) : (u.step call).Cached := by
  obtain ⟨env, call⟩ := call
  cases call with
  | enumerateNew => exact ⟨h.vendor, h.product⟩
  | enumerateAddMatchSubsystem subsystem => exact ⟨h.vendor, h.product⟩
  | enumerateAddMatchProperty key value =>
    simp only [step]
    split
    · exact ⟨h.vendor, h.product⟩
    · exact h
  | enumerateScanDevices answer =>
    simp only [step]
    split
    · exact ⟨h.vendor, h.product⟩
    · exact refreshDescriptor_cached h answer
  | monitorNewFromNetlink answer =>
    simp only [step]
    split
    · exact h
    · exact ⟨h.vendor, h.product⟩
  | monitorReceiveDevice received => exact receiveDevice_cached h received
  | monitorUnref => exact ⟨h.vendor, h.product⟩

theorem run_cached (calls : List (Env × UdevCall)) : (run step loaded calls).Cached :=
  run_inv step_cached loaded_cached calls

end Udev

end TermuxGamepad
