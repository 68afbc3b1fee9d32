/-
  File:      TermuxGamepad/Udev/Devices.lean
  Subject:   The three devices of the fake libudev, and the paths that lead from one to another.

  The evdev and the joydev device are children of the parent in the path hierarchy. A device is
  found again by its path and by nothing else, the node of a child is one that the path hooks
  of the shim know, in the flavour of that child, and the entry of a list leads there (`leads`).
-/
import TermuxGamepad.Udev

namespace TermuxGamepad

open Wire

/-! ## 1. Paths -/

def fakeParentSyspath : List UInt8 := ascii "/sys/devices/virtual/termux-gamepad0/input/input99"
def fakeSyspath : List UInt8 := fakeParentSyspath ++ ascii "/event99"
def fakeJoydevSyspath : List UInt8 := fakeParentSyspath ++ ascii "/js99"

namespace Udev

/-- `device_for_syspath`. -/
def deviceForSyspath (path : Path) : Option DeviceKind :=
  if pathIs path fakeSyspath then some .evdev
  else if pathIs path fakeJoydevSyspath then some .joydev
  else if pathIs path fakeParentSyspath then some .parent
  else none

/-! ## 2. What is said of a device -/

/-- `udev_device_get_syspath`. -/
def getSyspath : DeviceKind → List UInt8
  | .evdev => fakeSyspath
  | .joydev => fakeJoydevSyspath
  | .parent => fakeParentSyspath

/-- `udev_device_get_sysname`. -/
def getSysname : DeviceKind → List UInt8
  | .evdev => ascii "event99"
  | .joydev => ascii "js99"
  | .parent => ascii "input99"

/-- `udev_device_get_parent`. -/
def getParent (d : DeviceKind) : Option DeviceKind := if d = .parent then none else some .parent

/-- `udev_device_get_parent_with_subsystem_devtype`; the type does not count. -/
def getParentWithSubsystemDevtype (d : DeviceKind) (s _t : Option (List UInt8)) :
    Option DeviceKind :=
  if d = .parent ∨ keyIs s "input" = false then none else some .parent

/-! ## 3. Ways to a device -/

variable (env : Env)

/-- `udev_device_new_from_syspath`. -/
def newFromSyspath (path : Path) : Option DeviceKind :=
  if !env.backendEnabled then none else deviceForSyspath path

/-- `udev_list_entry_get_name`, of the entry. -/
def listEntryName : List UInt8 := fakeSyspath

variable {env : Env}

/-- **A device is found by its path**, and by no other. -/
theorem newFromSyspath_iff (hon : env.backendEnabled = true) (path : Path) (d : DeviceKind) :
    newFromSyspath env path = some d ↔ path.map cString = some (getSyspath d) := by
  have hdistinct : fakeSyspath ≠ fakeJoydevSyspath ∧ fakeSyspath ≠ fakeParentSyspath ∧
      fakeJoydevSyspath ≠ fakeParentSyspath := by decide
  simp only [newFromSyspath, hon, Bool.not_true, Bool.false_eq_true, if_false, deviceForSyspath,
    pathIs, beq_iff_eq]
  generalize path.map cString = p
  cases d <;> grind [getSyspath]

/-- A child's path is its parent's and its own name. -/
theorem getSyspath_child {d p : DeviceKind} (h : getParent d = some p) :
    getSyspath d = getSyspath p ++ ascii "/" ++ getSysname d := by
  cases d <;> cases h <;> decide

/-- **The node of a child** has its name, and its flavour for the path hooks. -/
theorem getDevnode_child {d : DeviceKind} {node : List UInt8} (h : getDevnode d = some node) :
    getParent d = some .parent ∧ node = ascii "/dev/input/" ++ getSysname d ∧
      virtualNode (some node) = some (decide (d = .joydev)) := by
  cases d <;> cases h <;> decide

/-- The way from the entry of a list to the node of a device: the entry names the evdev device,
    that one has a parent in the `input` subsystem, under the parent's path there is the device,
    by its name, and its node has that name as well. -/
structure Leads (env : Env) (d : DeviceKind) (node : List UInt8) : Prop where
  entry : newFromSyspath env (some listEntryName) = some .evdev
  child : ∃ p, getParentWithSubsystemDevtype .evdev (some (ascii "input")) none = some p ∧
    newFromSyspath env (some (getSyspath p ++ ascii "/" ++ getSysname d)) = some d
  node : getDevnode d = some node ∧ node = ascii "/dev/input/" ++ getSysname d

theorem leads (hon : env.backendEnabled = true) {d : DeviceKind} {node : List UInt8}
    (hnode : getDevnode d = some node) : Leads env d node := by
  obtain ⟨hparent, hname, -⟩ := getDevnode_child hnode
  have hstring : cString (getSyspath d) = getSyspath d := by
    cases d <;> decide
  refine ⟨(newFromSyspath_iff hon _ _).mpr (by decide), ⟨.parent, by decide, ?_⟩, hnode, hname⟩
  rw [← getSyspath_child hparent]
  exact (newFromSyspath_iff hon _ _).mpr (congrArg some hstring)

end Udev

end TermuxGamepad
