/-
  File:      TermuxGamepad/Bridge/Input.lean
  Subject:   What the X server tells the bridge: device events and the device itself
             (lorie_evdev_bridge.c, lines 214-237, 344-431 and 543-715).

  An XI2 event carries one valuator per set mask bit, packed; `values` are the doubles after the
  truncation `(int)value`. A device query answers with a list of input devices, each with the
  reply it would give to a capability query.
-/
import TermuxGamepad.Bridge.Output

namespace TermuxGamepad

open Wire

/-! ## 1. Axes and buttons -/

def clampInt (value minimum maximum : Int) : Int :=
  if value < minimum then minimum else if value > maximum then maximum else value

/-- `convert_axis`. The dividend is not negative, so `/` is C's division. -/
def convertAxis (axis : Nat) (value : Int) : Int :=
  if axis < 4 then clampInt value (-32768) 32767
  else (clampInt value 0 32767 * 255 + 16383) / 32767

def axisCode (axis : Nat) : UInt16 := [absX, absY, absRx, absRy, absZ, absRz].getD axis 0

/-- `button_code`; 0 where a detail has no code. -/
def buttonCode (detail : Nat) : UInt16 :=
  [0, btnSouth, btnEast, btnNorth, btnWest, btnTl, btnTr, btnSelect, btnStart, btnThumbl,
    btnThumbr, 0, 0, 0, 0, btnMode, btnC].getD detail 0

/-- `1U << (detail - 1)`. -/
def detailBit (detail : Nat) : BitVec 32 := 1#32 <<< (detail - 1)

namespace GamepadState

/-- `(state.buttons & (1U << (detail - 1))) != 0`. -/
def isPressed (s : GamepadState) (detail : Nat) : Bool := s.buttons &&& detailBit detail != 0

def hatValue (s : GamepadState) (negativeDetail positiveDetail : Nat) : Int :=
  (s.isPressed positiveDetail).toInt - (s.isPressed negativeDetail).toInt

def setAxis (s : GamepadState) (axis : Fin 6) (value : Int) : GamepadState :=
  { s with axes := Function.update s.axes axis value }

/-- `state.buttons |= bit` or `state.buttons &= ~bit`. -/
def setButton (s : GamepadState) (detail : Nat) (pressed : Bool) : GamepadState :=
  { s with
    buttons := if pressed then s.buttons ||| detailBit detail else s.buttons &&& ~~~detailBit detail }

end GamepadState

/-! ## 2. XI2 device events -/

inductive XiEventType where
  | motion
  | buttonPress
  | buttonRelease
  | other
  deriving DecidableEq, Repr

structure XIDeviceEvent where
  evtype : XiEventType
  deviceid : Int
  sourceid : Int
  detail : Int
  /-- The `mask_len * 8` bits of the valuator mask. -/
  mask : List Bool
  values : List Int
  deriving DecidableEq, Repr

/-- The array under construction, with the bridge whose clock stamps it. -/
abbrev Batch := Bridge × List InputEvent

/-- `append_event`. -/
def appendEvent (p : Batch) (type code : UInt16) (value : Int) : Batch :=
  let t := p.1.timestamp
  (t.2, p.2 ++ [{ time := t.1, type := type, code := code, value := Int32.ofInt value }])

namespace Bridge

def setState (b : Bridge) (s : GamepadState) : Bridge := { b with state := s }

/-- The motion loop: `values` is the cursor, which moves on every set bit. -/
def motionLoop : List Bool → Nat → List Int → Batch → Batch
  | [], _, _, p => p
  | false :: mask, axis, values, p => motionLoop mask (axis + 1) values p
  | true :: mask, axis, values, p =>
    let p :=
      if h : axis < 6 then
        let converted := convertAxis axis (values.headD 0)
        if converted ≠ p.1.state.axes ⟨axis, h⟩ then
          appendEvent (p.1.setState (p.1.state.setAxis ⟨axis, h⟩ converted), p.2) evAbs
            (axisCode axis) converted
        else p
      else p
    motionLoop mask (axis + 1) values.tail p

/-- `new_x`, and the block that reports it. -/
def updateHatX (p : Batch) : Batch :=
  let newX := p.1.state.hatValue 13 14
  if newX ≠ p.1.state.hatX then
    appendEvent (p.1.setState { p.1.state with hatX := newX }, p.2) evAbs absHat0x newX
  else p

/-- `new_y`, and the block that reports it. -/
def updateHatY (p : Batch) : Batch :=
  let newY := p.1.state.hatValue 11 12
  if newY ≠ p.1.state.hatY then
    appendEvent (p.1.setState { p.1.state with hatY := newY }, p.2) evAbs absHat0y newY
  else p

/-- The button branch, for a detail from 1 to 16. -/
def buttonChange (b : Bridge) (detail : Nat) (pressed : Bool) : Batch :=
  if pressed == b.state.isPressed detail then (b, [])
  else
    let p : Batch := (b.setState (b.state.setButton detail pressed), [])
    if 11 ≤ detail && detail ≤ 14 then updateHatY (updateHatX p)
    else if buttonCode detail ≠ 0 then appendEvent p evKey (buttonCode detail) pressed.toInt
    else p

/-- What an event of the current device changes and appends. -/
def eventBatch (b : Bridge) (event : XIDeviceEvent) : Batch :=
  match event.evtype with
  | .motion => motionLoop event.mask 0 event.values (b, [])
  | .buttonPress =>
    if 1 ≤ event.detail && event.detail ≤ 16 then b.buttonChange event.detail.toNat true else (b, [])
  | .buttonRelease =>
    if 1 ≤ event.detail && event.detail ≤ 16 then b.buttonChange event.detail.toNat false else (b, [])
  | .other => (b, [])

/-- `process_xi_event`. -/
def processXiEvent (b : Bridge) (event : XIDeviceEvent) (deviceId : Int) : Bridge :=
  if event.deviceid ≠ deviceId ∧ event.sourceid ≠ deviceId then b
  else
    let p := b.eventBatch event
    if p.2.isEmpty then p.1
    else
      let p := appendEvent p evSyn synReport 0
      p.1.broadcastEvents p.2

/-! ## 3. Snapshots -/

/-- The details whose buttons a snapshot reports. -/
def snapshotDetails : List Nat := [1, 2, 3, 4, 5, 6, 7, 8, 9, 10, 15, 16]

/-- The records `send_snapshot` appends: six axes, two hats, twelve buttons, SYN_REPORT. -/
def snapshotRecords (s : GamepadState) : List (UInt16 × UInt16 × Int) :=
  (List.finRange 6).map (fun i : Fin 6 => (evAbs, axisCode i, s.axes i)) ++
    [(evAbs, absHat0x, s.hatX), (evAbs, absHat0y, s.hatY)] ++
    snapshotDetails.map (fun d => (evKey, buttonCode d, (s.isPressed d).toInt)) ++
    [(evSyn, synReport, 0)]

def appendRecords (p : Batch) (records : List (UInt16 × UInt16 × Int)) : Batch :=
  records.foldl (fun p r => appendEvent p r.1 r.2.1 r.2.2) p

/-- `send_snapshot`. -/
def sendSnapshot (b : Bridge) (i : Slot) : Bridge :=
  let p := appendRecords (b, []) (snapshotRecords b.state)
  p.1.queueOrClose i (.events p.2)

end Bridge

/-! ## 4. The device -/

/-- The fields of a capability reply the bridge reads. -/
structure CapabilitiesReply where
  present : Bool
  deviceId : UInt16
  capabilities : UInt16
  vendorId : UInt32
  productId : UInt32
  inputMode : UInt8
  deriving DecidableEq, Repr

inductive XiUse where
  | floatingSlave
  | slavePointer
  | other
  deriving DecidableEq, Repr

/-- An input device as XIQueryDevice reports it, with the reply to a capability query for it
    (`none` where `_XReply` fails). -/
structure XIDeviceInfo where
  deviceid : Int
  use : XiUse
  name : Option (List UInt8)
  reply : Option CapabilitiesReply
  deriving DecidableEq, Repr

/-- What the X server answers to one `refresh_lorie_device`: the device list, `none` where the
    query fails, and whether XISelectEvents succeeds. -/
structure DeviceAnswer where
  devices : Option (List XIDeviceInfo)
  selectOk : Bool
  deriving DecidableEq, Repr

/-- The device `find_lorie_device` found. -/
structure FoundDevice where
  deviceId : Int
  capabilities : CapabilitiesReply
  name : Block 64
  deriving DecidableEq

def lorieGamepadName : List UInt8 := ascii "Lorie gamepad"

namespace Bridge

/-- `query_lorie_capabilities`: the request goes out, and the reply is accepted if it is
    present and about this device. -/
def queryLorieCapabilities (b : Bridge) (d : XIDeviceInfo) : Bridge × Option CapabilitiesReply :=
  let b := b.emit (.request b.now (.queryCapabilities (card16 d.deviceid)))
  match d.reply with
  | none => (b, none)
  | some reply =>
    if !reply.present || (reply.deviceId.toNat : Int) != d.deviceid then (b, none)
    else (b, some reply)

/-- The loop of `find_lorie_device`. -/
def findInDevices (b : Bridge) : List XIDeviceInfo → Bridge × Option FoundDevice
  | [] => (b, none)
  | d :: ds =>
    if d.use == .floatingSlave || d.use == .slavePointer then
      let r := b.queryLorieCapabilities d
      match r.2 with
      | some reply =>
        (r.1, some { deviceId := d.deviceid, capabilities := reply,
                     name := nameField (d.name.getD lorieGamepadName) })
      | none => findInDevices r.1 ds
    else findInDevices b ds

/-- `find_lorie_device`. -/
def findLorieDevice (b : Bridge) (answer : DeviceAnswer) : Bridge × Option FoundDevice :=
  match answer.devices with
  | none => (b, none)
  | some devices => b.findInDevices devices

/-- The test at the head of `refresh_lorie_device`: the device there was, unchanged. -/
def sameDevice (b : Bridge) (f : FoundDevice) : Bool :=
  decide (f.deviceId = b.lorieDeviceId) && decide (f.deviceId ≥ 0) &&
    b.lorieCapabilities == f.capabilities.capabilities &&
    b.deviceDescriptor.inputMode == f.capabilities.inputMode &&
    b.deviceDescriptor.vendorId == f.capabilities.vendorId &&
    b.deviceDescriptor.productId == f.capabilities.productId &&
    cString b.deviceDescriptor.name.bytes == cString f.name.bytes

/-- The block that takes the old device away and announces it. The state of the controller is
    cleared here. -/
def removeDevice (b : Bridge) : Bridge :=
  let b := b.emit (.removed b.lorieDeviceId)
  let b := { b with
    lorieDeviceId := -1
    lorieCapabilities := 0
    state := GamepadState.zero
    deviceDescriptor := { b.deviceDescriptor with present := 0, deviceId := -1 } }
  b.broadcastHotplug hotplugRemove

/-- The descriptor of a found device. -/
def foundDescriptor (f : FoundDevice) : DeviceDescriptor :=
  { magic := deviceMagic
    version := controlVersion
    present := 1
    capabilities :=
      if f.capabilities.capabilities &&& lorieCapRumble != 0 then deviceCapRumble else 0
    inputMode := f.capabilities.inputMode
    vendorId := f.capabilities.vendorId
    productId := f.capabilities.productId
    deviceId := Int32.ofInt f.deviceId
    name := nameField (cString f.name.bytes) }

/-- The block that takes a device into use and announces it. -/
def addDevice (b : Bridge) (f : FoundDevice) : Bridge :=
  let b := b.emit (.added f.deviceId)
  let b := { b with
    lorieDeviceId := f.deviceId
    lorieCapabilities := f.capabilities.capabilities
    deviceDescriptor := foundDescriptor f }
  b.broadcastHotplug hotplugAdd

/-- `refresh_lorie_device`. Every caller ignores its result. -/
def refreshLorieDevice (b : Bridge) (answer : DeviceAnswer) : Bridge :=
  let r := b.findLorieDevice answer
  let b := r.1
  if r.2.any b.sameDevice then b
  else
    let b := if b.lorieDeviceId ≥ 0 then b.removeDevice else b
    match r.2 with
    | none => b
    | some f =>
      -- XISelectEvents can fail after the removal was announced
      if f.deviceId < 0 || !answer.selectOk then b else b.addDevice f

end Bridge

end TermuxGamepad
