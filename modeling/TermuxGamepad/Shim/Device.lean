/-
  File:      TermuxGamepad/Shim/Device.lean
  Subject:   What a virtual descriptor does: capabilities, force feedback, control messages,
             reads (evdev_preload.c, lines 131-158, 272-478 and 563-635).

  Nothing here calls a real function, except the reads of the socket under the descriptor.
-/
import TermuxGamepad.Shim.State

namespace TermuxGamepad

open Wire

/-! ## 1. Ioctl requests -/

/-- `(req >> TG_IOC_NRSHIFT) & 0xff`. -/
def iocNr (req : UInt64) : Nat := req.toNat % 256

/-- `(req >> TG_IOC_TYPESHIFT) & 0xff`. -/
def iocType (req : UInt64) : Nat := req.toNat / 256 % 256

/-- `(req >> TG_IOC_SIZESHIFT) & ((1u << TG_IOC_SIZEBITS) - 1)`. -/
def iocSize (req : UInt64) : Nat := req.toNat / 65536 % 16384

/-- `tg_set_bit`. -/
def setBit (buf : List UInt8) (bit : Nat) : List UInt8 :=
  buf.modify (bit / 8) fun b => b ||| ((1 : UInt8) <<< UInt8.ofNat (bit % 8))

theorem setBit_length (buf : List UInt8) (bit : Nat) : (setBit buf bit).length = buf.length :=
  List.length_modify ..

/-- The bits `tg_fill_bits` sets for an event type. -/
def fillBitCodes (ev : Nat) (isDinput : Bool) : List Nat :=
  if ev = 0x01 then
    if isDinput then List.range' 0x120 12
    else [btnSouth, btnEast, btnWest, btnNorth, btnTl, btnTr, btnSelect, btnStart, btnMode,
      btnThumbl, btnThumbr, btnC].map UInt16.toNat
  else if ev = 0x03 then
    [absX, absY, absRx, absRy, absZ, absRz, absHat0x, absHat0y].map UInt16.toNat
  else if ev = 0x15 then
    [0x50, 0x60] ++ if isDinput then [0x52, 0x5a, 0x59, 0x5b, 0x5c, 0x57, 0x53, 0x55, 0x56, 0x54]
      else []
  else if ev = 0 then [0x01, 0x03, 0x00, 0x15]
  else []

/-- `tg_fill_bits`: the buffer it leaves. -/
def fillBits (len ev : Nat) (isDinput : Bool) : List UInt8 :=
  (fillBitCodes ev isDinput).foldl setBit (List.replicate len 0)

/-- The bytes of an `int` or a `tg_u32`. -/
def intBytes (n : Nat) : List UInt8 := Codec.u32.enc (UInt32.ofNat n)

/-- `tg_copy` into a buffer of `cap` bytes: what it writes. -/
def copyBytes (src : List UInt8) (cap : Nat) : List UInt8 :=
  if cap = 0 then [] else src.take (cap - 1) ++ [0]

/-- The `tg_input_absinfo` of an axis. -/
def absInfo (code : Nat) : List UInt8 :=
  let fields : Int32 × Int32 × Int32 :=
    if code = absZ.toNat ∨ code = absRz.toNat then (0, 255, 0)
    else if code = absHat0x.toNat ∨ code = absHat0y.toNat then (-1, 1, 0)
    else (-32768, 32767, 4096)
  let s32 := Codec.s32.enc
  s32 0 ++ s32 fields.1 ++ s32 fields.2.1 ++ s32 0 ++ s32 fields.2.2 ++ s32 0

namespace Shim

/-- The tail both name requests share: the string and its length with the terminator. -/
def copyName (s : Shim) (fake : FakeFd) (size : Nat) : Outcome :=
  let name := s.deviceName fake
  { result := name.length + 1, stored := copyBytes name size }

/-- `tg_fake_ioctl`. `arg` is a pointer; 0 is NULL. -/
def fakeIoctl (s : Shim) (fake : FakeFd) (req arg : UInt64) : Outcome :=
  let nr := iocNr req
  let size := iocSize req
  let p := arg ≠ 0
  if iocType req ≠ 'E'.toNat then Outcome.failed
  else if nr = 0x01 ∧ p ∧ size ≥ 4 then { result := 0, stored := intBytes 0x010001 }
  else if nr = 0x02 ∧ p ∧ size ≥ 8 then
    let dinput := s.isDinput fake
    let vendor := if dinput then 0x1209 else fake.descriptor.vendorId.toUInt16
    let product := if dinput then 0x0001 else fake.descriptor.productId.toUInt16
    { result := 0
      stored := Codec.u16.enc 3 ++ Codec.u16.enc vendor ++ Codec.u16.enc product ++
        Codec.u16.enc 0x0114 }
  else if nr = 0x06 ∧ p ∧ size ≠ 0 then s.copyName fake size
  else if nr ∈ [0x20, 0x21, 0x22, 0x23, 0x35] ∧ p then
    { result := 0, stored := fillBits size (nr - 0x20) (s.isDinput fake) }
  else if nr ≥ 0x40 ∧ nr ≤ 0x40 + 0x3f ∧ p ∧ size ≥ 24 then
    { result := 0, stored := absInfo (nr - 0x40) }
  else if nr = 0x84 ∧ p ∧ size ≥ 4 then { result := 0, stored := intBytes maxEffects }
  else Outcome.failed

/-- `tg_fake_joy_ioctl`. -/
def fakeJoyIoctl (s : Shim) (fake : FakeFd) (req arg : UInt64) : Outcome :=
  let nr := iocNr req
  let size := iocSize req
  if iocType req ≠ 'j'.toNat ∨ arg = 0 then Outcome.failed
  else if nr = 0x01 ∧ size ≥ 4 then { result := 0, stored := intBytes 0x020100 }
  else if nr = 0x11 ∧ size ≥ 1 then { result := 0, stored := [8] }
  else if nr = 0x12 ∧ size ≥ 1 then { result := 0, stored := [12] }
  else if nr = 0x13 ∧ size ≠ 0 then s.copyName fake size
  else Outcome.failed

end Shim

/-! ## 2. Force feedback -/

def ffRumble : UInt16 := 0x50
def ffPeriodic : UInt16 := 0x51
def ffConstant : UInt16 := 0x52
def ffSpring : UInt16 := 0x53
def ffFriction : UInt16 := 0x54
def ffDamper : UInt16 := 0x55
def ffInertia : UInt16 := 0x56
def ffRamp : UInt16 := 0x57
def ffGainCode : UInt16 := 0x60

/-- What the shim reads of a `struct tg_ff_effect`; `u` is the union. -/
structure FfEffect where
  type : UInt16
  id : Int16
  replayLength : UInt16
  u : List UInt8

/-- The effect that lies in a caller's memory. -/
def FfEffect.ofMemory (memory : List UInt8) : FfEffect :=
  { type := Codec.u16.dec memory
    id := Codec.s16.dec (memory.drop 2)
    replayLength := Codec.u16.dec (memory.drop 10)
    u := memory.drop 16 }

/-- `tg_scaled_abs`. -/
def scaledAbs (value : Int) : UInt16 :=
  let value := if value < 0 then -value else value
  let value := if value > 32767 then 32767 else value
  UInt16.ofNat (value * 2).toNat

/-- `tg_is_condition_effect`. -/
def isConditionEffect (type : UInt16) : Bool := type ∈ [ffSpring, ffDamper, ffInertia, ffFriction]

/-- `tg_condition_strength`, for the condition whose bytes are given. -/
def conditionStrength (condition : List UInt8) : UInt16 :=
  let strength := Codec.u16.dec condition
  let left := Codec.u16.dec (condition.drop 2)
  let strength := if left > strength then left else strength
  let coefficient := scaledAbs (Codec.s16.dec (condition.drop 4)).toInt
  let strength := if coefficient > strength then coefficient else strength
  let coefficient := scaledAbs (Codec.s16.dec (condition.drop 6)).toInt
  if coefficient > strength then coefficient else strength

/-- The low and high frequency `tg_upload_effect` stores. -/
def FfEffect.magnitudes (e : FfEffect) : UInt16 × UInt16 :=
  if e.type = ffConstant then
    let level := scaledAbs (Codec.s16.dec e.u).toInt
    (level, level)
  else if e.type = ffPeriodic then
    let magnitude := scaledAbs (Codec.s16.dec (e.u.drop 4)).toInt
    (magnitude, magnitude)
  else if e.type = ffRamp then
    let start := scaledAbs (Codec.s16.dec e.u).toInt
    let stop := scaledAbs (Codec.s16.dec (e.u.drop 2)).toInt
    let level := if start > stop then start else stop
    (level, level)
  else if isConditionEffect e.type then
    (conditionStrength e.u, conditionStrength (e.u.drop 12))
  else (Codec.u16.dec e.u, Codec.u16.dec (e.u.drop 2))

namespace Shim

/-- `tg_find_effect`; `none` for -1. -/
def findEffect (s : Shim) (fd id : Int) : Option (Fin maxEffects) :=
  if h : 0 ≤ id ∧ id < maxEffects then
    let i : Fin maxEffects := ⟨id.toNat, effectId_lt h⟩
    if (s.effectSlots i).used ∧ (s.effectSlots i).fd = fd then some i else none
  else none

/-- The slot an upload goes to: a free one for id -1, else the one it names if that is free or
    the uploader's. -/
def uploadSlot (s : Shim) (fd id : Int) : Option (Fin maxEffects) :=
  if id = -1 then (List.finRange maxEffects).find? fun i => !(s.effectSlots i).used
  else if h : 0 ≤ id ∧ id < maxEffects then
    let i : Fin maxEffects := ⟨id.toNat, effectId_lt h⟩
    if (s.effectSlots i).used ∧ (s.effectSlots i).fd ≠ fd then none else some i
  else none

def setEffect (s : Shim) (i : Fin maxEffects) (e : EffectSlot) : Shim :=
  { s with effectSlots := Function.update s.effectSlots i e }

/-- `tg_upload_effect`, on the memory the caller points to. -/
def uploadEffect (s : Shim) (fd : Int) (memory : List UInt8) : Shim × Outcome :=
  let e := FfEffect.ofMemory memory
  if ¬(e.type ∈ [ffRumble, ffConstant, ffPeriodic, ffRamp] ∨ isConditionEffect e.type) then
    (s, Outcome.failed)
  else
    match s.uploadSlot fd e.id.toInt with
    | none => (s, Outcome.failed)
    | some i =>
      (s.setEffect i
        { used := true, fd := fd, lowFrequency := e.magnitudes.1, highFrequency := e.magnitudes.2,
          durationMs := e.replayLength },
       -- the slot's number becomes the effect's id
       { result := 0, stored := memory.take 2 ++ Codec.s16.enc (Int16.ofInt i) })

/-- `tg_remove_effect`. -/
def removeEffect (s : Shim) (fd id : Int) : Shim × Outcome :=
  match s.findEffect fd id with
  | none => (s, Outcome.failed)
  | some i => (s.setEffect i { s.effectSlots i with used := false }, { result := 0, stored := [] })

/-- `tg_clear_effects`. -/
def clearEffects (s : Shim) (fd : Int) : Shim :=
  { s with
    effectSlots := fun i =>
      if (s.effectSlots i).used ∧ (s.effectSlots i).fd = fd then
        { s.effectSlots i with used := false }
      else s.effectSlots i }

/-- `tg_send_control`; `true` for 0. -/
def sendControl (s : Shim) (fd : Int) (command low high : UInt16) (durationMs : UInt32) :
    Shim × Bool :=
  let message : ControlMessage :=
    { magic := controlMagic, version := controlVersion, command := command, lowFrequency := low,
      highFrequency := high, durationMs := durationMs }
  let sent := s.sends.headD (-1)
  ({ s with sends := s.sends.tail }.emit (.control fd message sent),
    sent == controlMessageCodec.size)

/-- A magnitude under the gain. -/
def scaledByGain (s : Shim) (frequency : UInt16) : UInt16 :=
  (frequency.toUInt32 * s.ffGain.toUInt32 / 0xffff).toUInt16

/-- The body of the loop in `write`; `false` where it returns -1. -/
def writeEvent (s : Shim) (fd : Int) (event : InputEvent) : Shim × Bool :=
  if event.type ≠ evFf then (s, true)
  else if event.code = ffGainCode then
    let gain := event.value.toInt
    let gain := if gain < 0 then 0 else if gain > 0xffff then 0xffff else gain
    ({ s with ffGain := UInt16.ofNat gain.toNat }, true)
  else
    match s.findEffect fd event.code.toNat with
    | none => (s, false)
    | some slot =>
      if event.value ≤ 0 then s.sendControl fd controlStopRumble 0 0 0
      else
        let effect := s.effectSlots slot
        let duration := if effect.durationMs = 0 then 2500 else effect.durationMs.toUInt32
        s.sendControl fd controlRumble (s.scaledByGain effect.lowFrequency)
          (s.scaledByGain effect.highFrequency) duration

/-- The loop in `write`. -/
def writeEvents (s : Shim) (fd : Int) : List InputEvent → Shim × Bool
  | [] => (s, true)
  | event :: events =>
    let r := s.writeEvent fd event
    if r.2 then writeEvents r.1 fd events else r

end Shim

/-! ## 3. Reads -/

/-- `tg_dinput_button_code`. -/
def dinputButtonCode (code : UInt16) : UInt16 :=
  if code = btnSouth then 0x120
  else if code = btnEast then 0x121
  else if code = btnWest then 0x122
  else if code = btnNorth then 0x123
  else if code = btnTl then 0x124
  else if code = btnTr then 0x125
  else if code = btnSelect then 0x126
  else if code = btnStart then 0x127
  else if code = btnMode then 0x128
  else if code = btnThumbl then 0x129
  else if code = btnThumbr then 0x12a
  else if code = btnC then 0x12b
  else code

/-- One record of the caller's buffer, its button code mapped in place. -/
def dinputRecord (record : List UInt8) : List UInt8 :=
  if Codec.u16.dec (record.drop 16) = evKey then
    record.take 18 ++ Codec.u16.enc (dinputButtonCode (Codec.u16.dec (record.drop 18))) ++
      record.drop 20
  else record

/-- The first `n` records of a buffer mapped; what follows them stays. -/
def dinputRecords : Nat → List UInt8 → List UInt8
  | 0, bytes => bytes
  | n + 1, bytes =>
    dinputRecord (bytes.take inputEventCodec.size) ++
      dinputRecords n (bytes.drop inputEventCodec.size)

/-- How the loop of a joydev read ended: the answers left, what it logged, the record of the
    descriptor, the events produced and, where a real read stopped it, that read's result. -/
structure JoyRead where
  reals : List Outcome
  log : List Event
  fake : FakeFd
  produced : List JsEvent
  stopped : Option Int

/-- One answer taken into the partial record; a full record is converted. -/
def FakeFd.take (fake : FakeFd) (bytes : List UInt8) : FakeFd × Option JsEvent :=
  let raw := fake.raw ++ bytes
  if h : raw.length < inputEventCodec.size then ({ fake with raw := raw, raw_lt := h }, none)
  else
    let r := convertJoyEvent fake.initializing (inputEventCodec.dec raw)
    ({ fake with initializing := r.1, raw := [], raw_lt := raw_empty }, r.2)

/-- The loop of a joydev read, until `capacity` events are produced or a real read brings
    nothing. -/
def joyLoop (capacity : Nat) : List Outcome → FakeFd → List JsEvent → JoyRead
  | [], fake, produced =>
    if capacity ≤ produced.length then ⟨[], [], fake, produced, none⟩
    else
      let missing := inputEventCodec.size - fake.raw.length
      ⟨[], [.real (.read fake.fd (.own []) missing) Outcome.failed], fake, produced, some (-1)⟩
  | o :: reals, fake, produced =>
    if capacity ≤ produced.length then ⟨o :: reals, [], fake, produced, none⟩
    else
      let missing := inputEventCodec.size - fake.raw.length
      let o := o.ofRead missing
      let call := Event.real (.read fake.fd (.own []) missing) o
      if o.result ≤ 0 then ⟨reals, [call], fake, produced, some o.result⟩
      else
        let r := fake.take o.stored
        let rest := joyLoop capacity reals r.1 (produced ++ r.2.toList)
        { rest with log := call :: rest.log }

end TermuxGamepad
