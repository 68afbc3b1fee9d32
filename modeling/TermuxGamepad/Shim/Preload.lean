/-
  File:      TermuxGamepad/Shim/Preload.lean
  Subject:   The eleven functions the shim exports in place of libc's (evdev_preload.c, lines
             179-270, 469-486 and 563-678).

  `open` passes `real_open_fn` on before `tg_init` has run; every other function runs `tg_init`
  first. A call of a virtual descriptor's own reads ends in the same real functions.
-/
import TermuxGamepad.Shim.Device

namespace TermuxGamepad

open Wire

/-! ## 1. Virtual nodes -/

def fakeDevnode : List UInt8 := ascii "/dev/input/event99"
def fakeHapticAliasNode : List UInt8 := ascii "/dev/input/event31"
def fakeJoydevNode : List UInt8 := ascii "/dev/input/js99"

def defaultSocket : List UInt8 :=
  ascii "/data/data/com.termux/files/usr/tmp/termux-gamepad-evdev.sock"

/-- `sizeof(un.sun_path)`. -/
def sunPathSize : Nat := 108

/-- `tg_streq`, for a path and a constant. -/
def pathIs (path : Path) (node : List UInt8) : Bool := path.map cString == some node

/-- The comparisons of the path hooks: which virtual node a path is, evdev (`false`) or joydev
    (`true`). -/
def virtualNode (path : Path) : Option Bool :=
  if pathIs path fakeDevnode then some false
  else if pathIs path fakeHapticAliasNode then some false
  else if pathIs path fakeJoydevNode then some true
  else none

/-- `TG_O_NONBLOCK`. -/
def oNonblock : UInt32 := 0x800

namespace Shim

variable (env : Env)

/-! ## 2. Close, and opening a device -/

/-- The block of `close` for an evdev descriptor: its rumble stops and its effects go. -/
def releaseEffects (s : Shim) (fd : Int) : Shim :=
  match s.findFakeFd fd with
  | none => s
  | some fake =>
    if fake.joydev then s else (s.sendControl fd controlStopRumble 0 0 0).1.clearEffects fd

/-- `close`. -/
def close (s : Shim) (fd : Int) : Shim × Outcome :=
  let s := ((s.init env).releaseEffects fd).delFakeFd fd
  if s.resolved .close then s.callReal (.close fd) else (s, Outcome.failed)

/-- The request `tg_connect_device` sends. -/
def descriptorQuery : ControlMessage :=
  { magic := controlMagic, version := controlVersion, command := controlQueryDescriptor,
    lowFrequency := 0, highFrequency := 0, durationMs := 0 }

/-- `tg_connect_device`. Its `close` is the exported one. -/
def connectDevice (s : Shim) (flags : UInt32) (joydev : Bool) : Shim × Outcome :=
  let path := (nonEmpty env.evdevSocket).getD defaultSocket
  if path.length ≥ sunPathSize then (s, Outcome.failed)
  else
    let answer := s.connects.headD ⟨-1, -1, -1, []⟩
    let s := { s with connects := s.connects.tail }
    let fd := answer.socket
    if fd < 0 then (s, Outcome.failed)
    else
      let s := s.emit (.connect fd path)
      if answer.connect ≠ 0 then ((s.close env fd).1, Outcome.failed)
      else
        let s := s.emit (.control fd descriptorQuery answer.send)
        let descriptor := deviceDescriptorCodec.dec answer.received
        if answer.send ≠ controlMessageCodec.size ∨
            answer.received.length ≠ deviceDescriptorCodec.size ∨
            descriptor.magic ≠ deviceMagic ∨ descriptor.version ≠ controlVersion ∨
            descriptor.present = 0 then
          ((s.close env fd).1, Outcome.failed)
        else
          let s := if flags &&& oNonblock ≠ 0 then s.emit (.setNonblock fd) else s
          let s := s.emit (.setCloexec fd)
          (s.addFakeFd fd joydev descriptor, { result := fd, stored := [] })

/-! ## 3. Opening a path -/

/-- `tg_debug_open_path`. -/
def debugOpenPath (s : Shim) (path : Path) : Shim :=
  match nonEmpty env.debug, path.map cString with
  | some _, some p =>
    if s.resolved .write ∧ (ascii "/dev/input/").isPrefixOf p then
      let s := (s.callReal (.write 2 (.own (ascii "termux-gamepad open: ")) 21)).1
      let s := (s.callReal (.write 2 (.own p) p.length)).1
      (s.callReal (.write 2 (.own (ascii "\n")) 1)).1
    else s
  | _, _ => s

/-- A call through a function pointer of type `tg_open_fn`. -/
def callOpen (s : Shim) (fn : Option RealFn) (path : Path) (flags mode : UInt32) : Shim × Outcome :=
  match fn with
  | none => (s.emit .nullCall, Outcome.failed)
  | some fn => s.callReal (.openPath fn path flags mode)

/-- `tg_open_common`. -/
def openCommon (s : Shim) (path : Path) (flags mode : UInt32) (fallback : Option RealFn) :
    Shim × Outcome :=
  let s := s.init env
  if !env.backendEnabled then s.callOpen fallback path flags mode
  else
    let s := s.debugOpenPath env path
    match virtualNode path with
    | some joydev => s.connectDevice env flags joydev
    | none => if fallback.isNone then (s, Outcome.failed) else s.callOpen fallback path flags mode

/-- `open`. The argument `real_open_fn` is read before `tg_open_common` initialises. -/
def open_ (s : Shim) (path : Path) (flags mode : UInt32) : Shim × Outcome :=
  s.openCommon env path flags mode (s.pointer .open_)

/-- `open64`. -/
def open64 (s : Shim) (path : Path) (flags mode : UInt32) : Shim × Outcome :=
  let s := s.init env
  s.openCommon env path flags mode ((s.pointer .open64).or (s.pointer .open_))

/-- `__open_2`. -/
def open2 (s : Shim) (path : Path) (flags : UInt32) : Shim × Outcome :=
  let s := s.init env
  s.openCommon env path flags 0 ((s.pointer .open2).or (s.pointer .open_))

/-- `openat`. -/
def openat (s : Shim) (dirfd : Int) (path : Path) (flags mode : UInt32) : Shim × Outcome :=
  let s := s.init env
  match virtualNode path with
  | some joydev => s.connectDevice env flags joydev
  | none =>
    if s.resolved .openat then s.callReal (.openat .openat dirfd path flags mode)
    else (s, Outcome.failed)

/-- `__openat_2`. -/
def openat2 (s : Shim) (dirfd : Int) (path : Path) (flags : UInt32) : Shim × Outcome :=
  let s := s.init env
  match virtualNode path with
  | some joydev => s.connectDevice env flags joydev
  | none =>
    if s.resolved .openat2 then s.callReal (.openat .openat2 dirfd path flags 0)
    else if s.resolved .openat then s.callReal (.openat .openat dirfd path flags 0)
    else (s, Outcome.failed)

/-- `tg_fake_stat`: a character device of its own. -/
def fakeStat (output : UInt64) (joydev : Bool) : Outcome :=
  if output = 0 then Outcome.failed
  else
    { result := 0
      stored := Codec.u64.enc 1 ++ Codec.u64.enc (if joydev then 199 else 99) ++
        Codec.u32.enc 0o20660 ++ Codec.u32.enc 1 ++ List.replicate 8 0 ++
        Codec.u64.enc (13 * 256 + 99) ++ List.replicate 16 0 ++ Codec.u32.enc 4096 ++
        List.replicate 68 0 }

/-- `stat`. -/
def stat (s : Shim) (path : Path) (output : UInt64) : Shim × Outcome :=
  let s := s.init env
  match virtualNode path with
  | some joydev => (s, fakeStat output joydev)
  | none =>
    if s.resolved .stat then s.callReal (.stat .stat path output) else (s, Outcome.failed)

/-- `stat64`. -/
def stat64 (s : Shim) (path : Path) (output : UInt64) : Shim × Outcome :=
  let s := s.init env
  match virtualNode path with
  | some joydev => (s, fakeStat output joydev)
  | none =>
    if s.resolved .stat64 then s.callReal (.stat .stat64 path output)
    else if s.resolved .stat then s.callReal (.stat .stat path output)
    else (s, Outcome.failed)

/-! ## 4. Using a descriptor -/

/-- `ioctl`; `memory` is what lies at `arg`. -/
def ioctl (s : Shim) (fd : Int) (req arg : UInt64) (memory : List UInt8) : Shim × Outcome :=
  let s := s.init env
  match s.findFakeFd fd with
  | some fake =>
    if fake.joydev then (s, s.fakeJoyIoctl fake req arg)
    else if iocNr req = 0x80 ∧ arg ≠ 0 ∧ iocSize req ≥ 48 then s.uploadEffect fd memory
    else if iocNr req = 0x81 ∧ iocSize req ≥ 4 then
      s.removeEffect fd (Int32.ofNat arg.toNat).toInt
    else (s, s.fakeIoctl fake req arg)
  | none =>
    if s.resolved .ioctl then s.callReal (.ioctl fd req arg) else (s, Outcome.failed)

/-- The real read of the caller's buffer. -/
def readReal (s : Shim) (fd : Int) (buffer : UInt64) (length : Nat) : Shim × Outcome :=
  if s.resolved .read then s.callReal (.read fd (.caller buffer) length) else (s, Outcome.failed)

/-- The read of a joydev descriptor. -/
def readJoydev (s : Shim) (fake : FakeFd) (buffer : UInt64) (length : Nat) : Shim × Outcome :=
  if buffer = 0 ∨ length < jsEventCodec.size then (s, Outcome.failed)
  else if !s.resolved .read then (s, Outcome.failed)
  else
    let r := joyLoop (length / jsEventCodec.size) s.reals fake []
    ({ s with
        reals := r.reals
        fakeFds := Table.update FakeFd.fd r.fake s.fakeFds
        log := s.log ++ r.log },
      if r.produced = [] then { result := r.stopped.getD 0, stored := [] }
      else
        { result := r.produced.length * jsEventCodec.size, stored := jsEventCodec.encAll r.produced })

/-- `read`. -/
def read (s : Shim) (fd : Int) (buffer : UInt64) (length : Nat) : Shim × Outcome :=
  let s := s.init env
  match s.findFakeFd fd with
  | none => s.readReal fd buffer length
  | some fake =>
    if fake.joydev then s.readJoydev fake buffer length
    else
      let r := s.readReal fd buffer length
      if !s.isDinput fake ∨ r.2.result ≤ 0 ∨ buffer = 0 then r
      else
        (r.1, { r.2 with
          stored := dinputRecords (r.2.result.toNat / inputEventCodec.size) r.2.stored })

/-- The records of a buffer. -/
def recordsOf (content : List UInt8) (count : Nat) : List InputEvent :=
  (List.range count).map fun i => inputEventCodec.dec (content.drop (i * inputEventCodec.size))

/-- `write`; `content` is what lies at `buffer`. -/
def write (s : Shim) (fd : Int) (buffer : UInt64) (content : List UInt8) (length : Nat) :
    Shim × Outcome :=
  let s := s.init env
  match s.findFakeFd fd with
  | none =>
    if s.resolved .write then s.callReal (.write fd (.caller buffer) length)
    else (s, Outcome.failed)
  | some fake =>
    if fake.joydev ∨ buffer = 0 ∨ length % inputEventCodec.size ≠ 0 then (s, Outcome.failed)
    else
      let r := s.writeEvents fd (recordsOf content (length / inputEventCodec.size))
      (r.1, if r.2 then { result := length, stored := [] } else Outcome.failed)

end Shim

/-! ## 5. Calls -/

/-- A call of an exported function with its arguments. -/
inductive Call where
  | open_ (path : Path) (flags mode : UInt32)
  | open64 (path : Path) (flags mode : UInt32)
  | open2 (path : Path) (flags : UInt32)
  | openat (dirfd : Int) (path : Path) (flags mode : UInt32)
  | openat2 (dirfd : Int) (path : Path) (flags : UInt32)
  | ioctl (fd : Int) (req arg : UInt64) (memory : List UInt8)
  | read (fd : Int) (buffer : UInt64) (length : Nat)
  | write (fd : Int) (buffer : UInt64) (content : List UInt8) (length : Nat)
  | stat (path : Path) (output : UInt64)
  | stat64 (path : Path) (output : UInt64)
  | close (fd : Int)
  deriving DecidableEq, Repr

/-- One call of the application. -/
def Shim.call (env : Env) (s : Shim) : Call → Shim × Outcome
  | .open_ path flags mode => s.open_ env path flags mode
  | .open64 path flags mode => s.open64 env path flags mode
  | .open2 path flags => s.open2 env path flags
  | .openat dirfd path flags mode => s.openat env dirfd path flags mode
  | .openat2 dirfd path flags => s.openat2 env dirfd path flags
  | .ioctl fd req arg memory => s.ioctl env fd req arg memory
  | .read fd buffer length => s.read env fd buffer length
  | .write fd buffer content length => s.write env fd buffer content length
  | .stat path output => s.stat env path output
  | .stat64 path output => s.stat64 env path output
  | .close fd => s.close env fd

end TermuxGamepad
