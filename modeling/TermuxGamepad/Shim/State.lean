/-
  File:      TermuxGamepad/Shim/State.lean
  Subject:   The preloaded shim's static data (evdev_preload.c, lines 20-177) and what it does
             to the outside.

  `Shim` holds the file's static variables under their names; a function pointer that `tg_init`
  resolves is a Boolean, not null or null. As in the bridge, what the outside answers is
  consumed in call order: the real functions (`reals`), the connections to the bridge
  (`connects`) and the sends of control messages (`sends`). `log` is the history of it all.

  A path is the bytes behind the pointer, `none` for NULL. A buffer is its address, and where
  the shim itself reads it, its content.
-/
import TermuxGamepad.Client.State
import TermuxGamepad.Lib.Frames
import TermuxGamepad.Lib.Table
import TermuxGamepad.Shim.Joydev

namespace TermuxGamepad

open Wire

/-! ## 1. The environment -/

/-- The functions the shim stands in front of, by their real names. -/
inductive RealFn where
  | open_
  | open64
  | open2
  | openat
  | openat2
  | ioctl
  | close
  | write
  | read
  | stat
  | stat64
  deriving DecidableEq, Repr

abbrev Path := Option (List UInt8)

/-- The variables the shim asks for, and which real functions `dlsym` finds. -/
structure Env where
  backend : Option (List UInt8)
  mode : Option (List UInt8)
  debug : Option (List UInt8)
  evdevSocket : Option (List UInt8)
  dlsym : RealFn → Bool

/-- `tg_backend_enabled`. -/
def Env.backendEnabled (env : Env) : Bool :=
  getBackend env.backend == .auto || getBackend env.backend == .udev

/-- A value of a variable that is set and not empty. -/
def nonEmpty (value : Option (List UInt8)) : Option (List UInt8) :=
  (value.map cString).filter (· ≠ [])

/-! ## 2. The outside -/

/-- A buffer of a real call: the caller's, by its address, or one of the shim's own. -/
inductive Buffer where
  | caller (address : UInt64)
  | own (content : List UInt8)
  deriving DecidableEq, Repr

/-- A call of a real function with its arguments. -/
inductive RealCall where
  | openPath (fn : RealFn) (path : Path) (flags mode : UInt32)
  | openat (fn : RealFn) (dirfd : Int) (path : Path) (flags mode : UInt32)
  | ioctl (fd : Int) (req arg : UInt64)
  | read (fd : Int) (buffer : Buffer) (length : Nat)
  | write (fd : Int) (buffer : Buffer) (length : Nat)
  | stat (fn : RealFn) (path : Path) (output : UInt64)
  | close (fd : Int)
  deriving DecidableEq, Repr

/-- What a call came to: its result, and what the caller's buffer begins with afterwards as far
    as the call wrote to it. -/
structure Outcome where
  result : Int
  stored : List UInt8
  deriving DecidableEq, Repr

/-- The result of a call that fails. -/
def Outcome.failed : Outcome := { result := -1, stored := [] }

/-- What `read` can answer to a request for `length` bytes. -/
def Outcome.ofRead (length : Nat) (o : Outcome) : Outcome :=
  if o.result ≤ 0 then { o with stored := [] }
  else { result := (o.stored.take length).length, stored := o.stored.take length }

/-- How one attempt to reach the bridge goes: the results of `socket`, `connect` and `send`, and
    the bytes `recv` waits for. -/
structure ConnectAnswer where
  socket : Int
  connect : Int
  send : Int
  received : List UInt8
  deriving DecidableEq, Repr

inductive Event where
  | real (c : RealCall) (o : Outcome)
  | connect (fd : Int) (path : List UInt8)
  | control (fd : Int) (m : ControlMessage) (result : Int)
  | setNonblock (fd : Int)
  | setCloexec (fd : Int)
  /-- A call through a null pointer, which ends the process. -/
  | nullCall
  deriving DecidableEq

/-! ## 3. Static data -/

/-- `struct tg_fake_fd`. `raw` is `raw.bytes[0..raw_used)`, a record not yet complete. -/
structure FakeFd where
  fd : Int
  joydev : Bool
  initializing : Bool
  raw : List UInt8
  raw_lt : raw.length < inputEventCodec.size
  descriptor : DeviceDescriptor

theorem raw_empty : ([] : List UInt8).length < inputEventCodec.size := by decide

def maxFakeFds : Nat := 128
def maxEffects : Nat := 16

/-- The slot an effect id names. -/
theorem effectId_lt {id : Int} (h : 0 ≤ id ∧ id < maxEffects) : id.toNat < maxEffects := by omega

/-- `struct tg_effect_slot`. -/
structure EffectSlot where
  used : Bool
  fd : Int
  lowFrequency : UInt16
  highFrequency : UInt16
  durationMs : UInt16
  deriving DecidableEq, Repr

structure Shim where
  resolved : RealFn → Bool
  initDone : Bool
  /-- `mode_override`: `none` for -1, else whether it is DirectInput. -/
  modeOverride : Option Bool
  fakeFds : List FakeFd
  effectSlots : Fin maxEffects → EffectSlot
  ffGain : UInt16
  reals : List Outcome
  connects : List ConnectAnswer
  sends : List Int
  log : List Event

/-- A freshly loaded shim, with what the outside will answer. -/
def Shim.loaded (reals : List Outcome) (connects : List ConnectAnswer) (sends : List Int) : Shim :=
  { resolved := fun _ => false
    initDone := false
    modeOverride := none
    fakeFds := []
    effectSlots := fun _ => ⟨false, 0, 0, 0, 0⟩
    ffGain := 0xffff
    reals := reals
    connects := connects
    sends := sends
    log := [] }

namespace Shim

/-- `tg_init`. -/
def init (env : Env) (s : Shim) : Shim :=
  if s.initDone then s
  else
    { s with
      initDone := true
      modeOverride :=
        if env.mode.map cString = some (ascii "dinput") then some true
        else if env.mode.map cString = some (ascii "xinput") then some false
        else s.modeOverride
      resolved := env.dlsym }

def emit (s : Shim) (e : Event) : Shim := { s with log := s.log ++ [e] }

/-- A function pointer; `none` for null. -/
def pointer (s : Shim) (fn : RealFn) : Option RealFn := if s.resolved fn then some fn else none

/-- A real function is called and answers. -/
def callReal (s : Shim) (c : RealCall) : Shim × Outcome :=
  let o := s.reals.headD Outcome.failed
  ({ s with reals := s.reals.tail }.emit (.real c o), o)

/-! ## 4. The table of virtual descriptors -/

/-- `tg_find_fake_fd`. -/
def findFakeFd (s : Shim) (fd : Int) : Option FakeFd := Table.lookup FakeFd.fd fd s.fakeFds

/-- `tg_add_fake_fd`. -/
def addFakeFd (s : Shim) (fd : Int) (joydev : Bool) (descriptor : DeviceDescriptor) : Shim :=
  if fd < 0 ∨ (s.findFakeFd fd).isSome ∨ s.fakeFds.length ≥ maxFakeFds then s
  else
    { s with
      fakeFds := s.fakeFds ++
        [{ fd := fd, joydev := joydev, initializing := joydev, raw := [], raw_lt := raw_empty,
           descriptor := descriptor }] }

/-- `tg_del_fake_fd`. -/
def delFakeFd (s : Shim) (fd : Int) : Shim :=
  { s with fakeFds := Table.remove FakeFd.fd fd s.fakeFds }

/-- `tg_is_dinput`. -/
def isDinput (s : Shim) (fake : FakeFd) : Bool :=
  s.modeOverride.getD (fake.descriptor.inputMode == 2)

/-- `tg_device_name`. -/
def deviceName (s : Shim) (fake : FakeFd) : List UInt8 :=
  if cString fake.descriptor.name.bytes ≠ [] then cString fake.descriptor.name.bytes
  else if s.isDinput fake then ascii "Termux Virtual DirectInput Controller"
  else ascii "Termux Virtual Xbox Controller"

end Shim

end TermuxGamepad
