/-
  File:      TermuxGamepad/Identity.lean
  Subject:   One device, seen through the fake libudev and through a descriptor of the evdev
             shim: the same ids and the same name.
-/
import TermuxGamepad.Udev
import TermuxGamepad.Shim.PassThrough

namespace TermuxGamepad

open Wire

/-! ## 1. Hexadecimal strings -/

/-- The value of a hexadecimal digit. -/
def hexDigitValue (c : UInt8) : Option Nat :=
  let n := c.toNat
  if 48 ≤ n ∧ n ≤ 57 then some (n - 48)
  else if 97 ≤ n ∧ n ≤ 102 then some (n - 87)
  else if 65 ≤ n ∧ n ≤ 70 then some (n - 55)
  else none

/-- The number a hexadecimal string denotes. -/
def hexValue (s : List UInt8) : Option Nat :=
  s.foldlM (fun n c => (hexDigitValue c).map (16 * n + ·)) 0

/-- The string is four hexadecimal digits for the number. -/
def Denotes (s : Option (List UInt8)) (n : UInt16) : Prop :=
  ∃ digits, s = some digits ∧ digits.length = 4 ∧ hexValue digits = some n.toNat

theorem hexDigitValue_hexDigit : ∀ d < 16, hexDigitValue (hexDigit d) = some d := by decide

/-- The four digits, the most significant first. -/
theorem formatHex4_digits (value : UInt32) :
    formatHex4 value = [hexDigit (value.toNat / 4096 % 16), hexDigit (value.toNat / 256 % 16),
      hexDigit (value.toNat / 16 % 16), hexDigit (value.toNat % 16)] := by
  have hand : ∀ v : UInt32, (v &&& 15).toNat = v.toNat % 16 := fun v => by
    rw [UInt32.toNat_and]
    exact Nat.and_two_pow_sub_one_eq_mod _ 4
  have hshift : ∀ v : UInt32, (v >>> 4).toNat = v.toNat / 16 := fun v => by
    rw [UInt32.toNat_shiftRight]
    exact Nat.shiftRight_eq_div_pow _ 4
  simp only [formatHex4, hexLoop, hand, hshift, Nat.div_div_eq_div_mul, Nat.reduceMul]

/-- **`format_hex4`** writes the sixteen bits that the narrowing cast keeps. -/
theorem formatHex4_denotes (value : UInt32) : Denotes (some (formatHex4 value)) value.toUInt16 := by
  refine ⟨_, rfl, by rw [formatHex4_digits]; rfl, ?_⟩
  have hd : ∀ n, hexDigitValue (hexDigit (n % 16)) = some (n % 16) := fun n =>
    hexDigitValue_hexDigit _ (Nat.mod_lt _ (by decide))
  rw [formatHex4_digits]
  simp only [hexValue, List.foldlM_cons, List.foldlM_nil, hd, Option.map_some, Option.bind_eq_bind,
    Option.bind_some, Option.pure_def, UInt32.toNat_toUInt16]
  congr 1
  omega

theorem dinputIds_denote :
    Denotes (some (ascii "1209")) 0x1209 ∧ Denotes (some (ascii "0001")) 0x0001 :=
  ⟨⟨_, rfl, by decide, by decide⟩, ⟨_, rfl, by decide, by decide⟩⟩

/-! ## 2. The mode of the shim -/

/-- What TERMUX_GAMEPAD_MODE overrides the descriptor's input mode with. -/
def Env.modeOverride (env : Env) : Option Bool :=
  if env.mode.map cString = some (ascii "dinput") then some true
  else if env.mode.map cString = some (ascii "xinput") then some false
  else none

namespace Shim

variable {env : Env} {s : Shim}

/-- The mode is the environment's, once `tg_init` has read it. -/
def Moded (env : Env) (s : Shim) : Prop :=
  s.modeOverride = if s.initDone then env.modeOverride else none

theorem init_mode (h : Moded env s) : (s.init env).modeOverride = env.modeOverride := by
  unfold Moded at h
  unfold init
  split
  · rename_i hd
    rw [h, if_pos hd]
  · rename_i hd
    rw [if_neg hd] at h
    rw [Env.modeOverride, h]

theorem close_mode (s : Shim) (fd : Int) :
    (s.close env fd).1.modeOverride = (s.init env).modeOverride :=
  (close_keeps s fd).modeOverride.trans (releaseEffects_keeps (s.init env) fd).modeOverride

theorem connectDevice_mode (hs : s.initDone = true) (flags : UInt32) (joydev : Bool) :
    (s.connectDevice env flags joydev).1.modeOverride = s.modeOverride := by
  rcases @connectDevice_cases env s flags joydev with
    ⟨t, hk, e⟩ | ⟨t, fd, hk, e⟩ | ⟨t, fd, d, hk, _, e⟩ <;> rw [e]
  · exact hk.modeOverride
  · show (t.close env fd).1.modeOverride = _
    rw [close_mode, init_of_initDone (hk.initDone.trans hs)]
    exact hk.modeOverride
  · show (t.addFakeFd fd joydev d).modeOverride = _
    unfold addFakeFd
    split <;> exact hk.modeOverride

/-- Only `tg_init` sets the mode. -/
theorem call_mode (s : Shim) (c : Call) :
    (s.call env c).1.modeOverride = (s.init env).modeOverride := by
  rcases @call_cases env s c with ⟨hk, _⟩ | ⟨t, flags, joydev, hk, _, _, e⟩ | ⟨fd, rfl⟩
  · exact hk.modeOverride
  · rw [e, connectDevice_mode (hk.initDone.trans (init_initDone s))]
    exact hk.modeOverride
  · exact close_mode s fd

theorem call_moded (c : Call) (h : Moded env s) : Moded env (s.call env c).1 := by
  unfold Moded
  rw [call_initDone, if_pos rfl, call_mode, init_mode h]

theorem run_moded (reals : List Outcome) (connects : List ConnectAnswer) (sends : List Int)
    (calls : List Call) :
    Moded env (run (Session.step env) (Session.loaded reals connects sends) calls).shim :=
  have h : Moded env (Session.loaded reals connects sends).shim := rfl
  run_inv (P := fun t : Session => Moded env t.shim) (fun _ c h => call_moded c h) h calls

end Shim

/-- **The profile is the same** for the same descriptor and the same TERMUX_GAMEPAD_MODE. -/
theorem dinputMode_eq {uenv env : Env} (hmode : uenv.mode = env.mode) {u : Udev} {s : Shim}
    (hs : Shim.Moded env s) {fake : FakeFd} (hd : fake.descriptor = u.descriptor) :
    u.dinputMode uenv = (s.init env).isDinput fake := by
  have hkey : ∀ name, keyIs uenv.mode name = true ↔ env.mode.map cString = some (ascii name) := by
    intro name
    rw [keyIs, hmode, beq_iff_eq]
  unfold Shim.isDinput Udev.dinputMode
  rw [Shim.init_mode hs, Env.modeOverride, hd]
  simp only [hkey]
  split
  · rfl
  · split <;> rfl

theorem deviceName_eq {uenv env : Env} (hmode : uenv.mode = env.mode) {u : Udev} {s : Shim}
    (hs : Shim.Moded env s) {fake : FakeFd} (hd : fake.descriptor = u.descriptor) :
    u.deviceName uenv = (s.init env).deviceName fake := by
  unfold Udev.deviceName Shim.deviceName
  rw [dinputMode_eq hmode hs hd, hd]

/-! ## 3. The ioctls that tell the identity -/

/-- `struct tg_input_id`. -/
structure InputId where
  bustype : UInt16
  vendor : UInt16
  product : UInt16
  version : UInt16
  deriving DecidableEq, Repr

def inputIdCodec : Codec InputId :=
  (Codec.u16.pair (Codec.u16.pair (Codec.u16.pair Codec.u16))).imap
    (fun ⟨bustype, vendor, product, version⟩ => ⟨bustype, vendor, product, version⟩)
    (fun i => ⟨i.bustype, i.vendor, i.product, i.version⟩) (fun _ => rfl)

/-- EVIOCGID. -/
def IsGetId (req : UInt64) : Prop :=
  iocType req = 'E'.toNat ∧ iocNr req = 0x02 ∧ iocSize req ≥ inputIdCodec.size

/-- EVIOCGNAME, and JSIOCGNAME for a joydev descriptor. -/
def IsGetName (joydev : Bool) (req : UInt64) : Prop :=
  if joydev then iocType req = 'j'.toNat ∧ iocNr req = 0x13
  else iocType req = 'E'.toNat ∧ iocNr req = 0x06

namespace Shim

variable {env : Env} {s : Shim} {fd : Int} {fake : FakeFd}

theorem ioctl_getId (hfake : s.findFakeFd fd = some fake) (hj : fake.joydev = false)
    {req arg : UInt64} (hreq : IsGetId req) (harg : arg ≠ 0) (memory : List UInt8) :
    (s.ioctl env fd req arg memory).2 =
      { result := 0
        stored := inputIdCodec.enc
          { bustype := 3
            vendor := if (s.init env).isDinput fake then 0x1209
              else fake.descriptor.vendorId.toUInt16
            product := if (s.init env).isDinput fake then 0x0001
              else fake.descriptor.productId.toUInt16
            version := 0x0114 } } := by
  obtain ⟨htype, hnr, hsize⟩ := hreq
  have hsize : iocSize req ≥ 8 := hsize
  simp only [ioctl, init_findFakeFd, hfake, hj, hnr, fakeIoctl, htype]
  simp [harg, hsize, inputIdCodec, Codec.imap, Codec.pair]

theorem ioctl_getName (hfake : s.findFakeFd fd = some fake) {req arg : UInt64}
    (hreq : IsGetName fake.joydev req) (harg : arg ≠ 0)
    (hroom : ((s.init env).deviceName fake).length < iocSize req) (memory : List UInt8) :
    (s.ioctl env fd req arg memory).2 =
      { result := ((s.init env).deviceName fake).length + 1
        stored := (s.init env).deviceName fake ++ [0] } := by
  have hsize : iocSize req ≠ 0 := by omega
  have hcopy : (s.init env).copyName fake (iocSize req) =
      { result := ((s.init env).deviceName fake).length + 1
        stored := (s.init env).deviceName fake ++ [0] } := by
    simp only [copyName, copyBytes, if_neg hsize]
    rw [List.take_of_length_le (by omega)]
  unfold IsGetName at hreq
  rw [← hcopy]
  simp only [ioctl, init_findFakeFd, hfake]
  cases hj : fake.joydev <;> rw [hj] at hreq <;> obtain ⟨htype, hnr⟩ := hreq
  · simp [fakeIoctl, htype, hnr, harg, hsize]
  · simp [fakeJoyIoctl, htype, hnr, harg, hsize]

end Shim

/-! ## 4. The same device -/

/-- The ids and the name both sides show. -/
structure SameIdentity (uenv env : Env) (u : Udev) (s : Shim) (fd : Int) (joydev : Bool) :
    Prop where
  ids : joydev = false → ∀ req arg memory, IsGetId req → arg ≠ 0 →
    ∃ id, (s.ioctl env fd req arg memory).2 = { result := 0, stored := inputIdCodec.enc id } ∧
      (∀ d, Denotes (u.getPropertyValue uenv d (some (ascii "ID_VENDOR_ID"))) id.vendor ∧
        Denotes (u.getPropertyValue uenv d (some (ascii "ID_MODEL_ID"))) id.product) ∧
      Denotes (u.getSysattrValue uenv (some (ascii "id/vendor"))) id.vendor ∧
      Denotes (u.getSysattrValue uenv (some (ascii "id/product"))) id.product
  names : ∃ name, (∀ d, u.getPropertyValue uenv d (some (ascii "NAME")) = some name) ∧
    u.getSysattrValue uenv (some (ascii "name")) = some name ∧
    ∀ req arg memory, IsGetName joydev req → arg ≠ 0 → name.length < iocSize req →
      (s.ioctl env fd req arg memory).2 = { result := name.length + 1, stored := name ++ [0] }

/-- **The virtual identity agrees.** However the fake libudev and the shim came to know a device,
    and whatever TERMUX_GAMEPAD_MODE both see, the properties and attributes of the one are the
    ids and the name the ioctls of the other return. -/
theorem identity_agrees (uenv env : Env) (hmode : uenv.mode = env.mode)
    (ucalls : List (Env × UdevCall)) (reals : List Outcome) (connects : List ConnectAnswer)
    (sends : List Int) (calls : List Call) (fd : Int) (fake : FakeFd)
    (hfake : (run (Session.step env) (Session.loaded reals connects sends) calls).shim.findFakeFd fd =
      some fake)
    (hdevice : fake.descriptor = (run Udev.step Udev.loaded ucalls).descriptor) :
    SameIdentity uenv env (run Udev.step Udev.loaded ucalls)
      (run (Session.step env) (Session.loaded reals connects sends) calls).shim fd fake.joydev := by
  have hmoded := @Shim.run_moded env reals connects sends calls
  have hcached := Udev.run_cached ucalls
  generalize run Udev.step Udev.loaded ucalls = u at *
  generalize (run (Session.step env) (Session.loaded reals connects sends) calls).shim = s at *
  have hdinput := dinputMode_eq hmode hmoded hdevice
  have hname := deviceName_eq hmode hmoded hdevice
  constructor
  · intro hj req arg memory hreq harg
    have hvendor : Denotes (some (if u.dinputMode uenv then ascii "1209" else u.vendorString))
        (if (s.init env).isDinput fake then 0x1209 else fake.descriptor.vendorId.toUInt16) := by
      rw [hdinput, hdevice, hcached.vendor]
      split
      · exact dinputIds_denote.1
      · exact formatHex4_denotes _
    have hproduct : Denotes (some (if u.dinputMode uenv then ascii "0001" else u.productString))
        (if (s.init env).isDinput fake then 0x0001 else fake.descriptor.productId.toUInt16) := by
      rw [hdinput, hdevice, hcached.product]
      split
      · exact dinputIds_denote.2
      · exact formatHex4_denotes _
    exact ⟨_, Shim.ioctl_getId hfake hj hreq harg memory, fun _ => ⟨hvendor, hproduct⟩, hvendor,
      hproduct⟩
  · refine ⟨u.deviceName uenv, fun _ => rfl, rfl, fun req arg memory hreq harg hroom => ?_⟩
    rw [hname] at hroom ⊢
    exact Shim.ioctl_getName hfake hreq harg hroom memory

/-- A pad without a name, whose vendor id does not fit sixteen bits. -/
def namelessPad : DeviceDescriptor :=
  { magic := deviceMagic, version := controlVersion, present := 1, capabilities := 0,
    inputMode := 1, vendorId := 0x1045e, productId := 0x28e, deviceId := 5,
    name := nameField [] }

/-- How the bridge answers whoever asks for it. -/
def namelessAnswer : ConnectAnswer :=
  { socket := 5, connect := 0, send := 16, received := deviceDescriptorCodec.enc namelessPad }

theorem identity_agrees_nameless :
    SameIdentity plainEnv plainEnv
      (run Udev.step Udev.loaded [(plainEnv, .enumerateScanDevices namelessAnswer)])
      (run (Session.step plainEnv) (Session.loaded [] [namelessAnswer] [])
        [.open_ (some fakeDevnode) 0 0]).shim 5 false := by
  let fake : FakeFd :=
    { fd := 5, joydev := false, initializing := false, raw := [], raw_lt := raw_empty,
      descriptor := namelessPad }
  have hfake : (run (Session.step plainEnv) (Session.loaded [] [namelessAnswer] [])
      [.open_ (some fakeDevnode) 0 0]).shim.findFakeFd 5 = some fake := by rfl
  have hdevice : fake.descriptor =
      (run Udev.step Udev.loaded [(plainEnv, .enumerateScanDevices namelessAnswer)]).descriptor := by
    decide +kernel
  exact identity_agrees plainEnv plainEnv rfl _ [] _ [] _ 5 fake hfake hdevice

end TermuxGamepad
