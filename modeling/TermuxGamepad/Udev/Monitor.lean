/-
  File:      TermuxGamepad/Udev/Monitor.lean
  Subject:   The monitor of the fake libudev, and the users who hold references on it.

  All monitors are one static object with one descriptor. `MonitorUse` runs it together with what
  its users do: the monitors they obtained, numbered in order, the references held on each, and
  the connection behind each open descriptor. `udev_monitor_unref` closes the descriptor at every
  release, and `udev_monitor_new_from_netlink` writes over the descriptor of whoever holds one: so
  the count is kept as long as there is one monitor at a time with one reference on it.
-/
import Mathlib.Logic.Function.Basic
import TermuxGamepad.Udev.Enumeration

namespace TermuxGamepad

open Wire

/-! ## 1. The static object -/

/-- `g_monitor`, whose `pipefd[0]` is the library's `monitorFd`. -/
structure UdevMonitor where
  lib : Udev
  refs : Int
  pipefd1 : Int

namespace UdevMonitor

variable (env : Env) (m : UdevMonitor)

def loaded : UdevMonitor := { lib := Udev.loaded, refs := 0, pipefd1 := 0 }

/-- `udev_monitor_new_from_netlink`; `true` where it returns the monitor. -/
def newFromNetlink (answer : ConnectAnswer) : UdevMonitor × Bool :=
  if !env.backendEnabled then (m, false)
  else
    let lib := m.lib.step (env, .monitorNewFromNetlink answer)
    ({ lib, refs := 1, pipefd1 := -1 }, 0 ≤ lib.monitorFd)

/-- `udev_monitor_ref`. -/
def ref : UdevMonitor := { m with refs := m.refs + 1 }

/-- `udev_monitor_get_fd`. -/
def getFd : Int := if !env.backendEnabled then -1 else m.lib.monitorFd

/-- `udev_monitor_receive_device`. -/
def receiveDevice (received : List UInt8) : UdevMonitor :=
  { m with lib := m.lib.step (env, .monitorReceiveDevice received) }

/-- `udev_monitor_unref`, with the descriptors it closes. -/
def unref : UdevMonitor × List Int :=
  ({ lib := m.lib.step (env, .monitorUnref)
     refs := if m.refs > 0 then m.refs - 1 else m.refs
     pipefd1 := if m.pipefd1 ≥ 0 then -1 else m.pipefd1 },
    (if m.lib.monitorFd ≥ 0 then [m.lib.monitorFd] else []) ++
      if m.pipefd1 ≥ 0 then [m.pipefd1] else [])

variable {env m}

theorem new_disabled (h : env.backendEnabled = false) (answer : ConnectAnswer) :
    m.newFromNetlink env answer = (m, false) := by
  rw [newFromNetlink, h]
  rfl

theorem new_failed (h : env.backendEnabled = true) {answer : ConnectAnswer}
    (ha : Udev.connectBridge env answer = none) :
    m.newFromNetlink env answer =
      ({ lib := { m.lib with monitorFd := -1 }, refs := 1, pipefd1 := -1 }, false) := by
  simp [newFromNetlink, Udev.step, h, ha]

theorem connectBridge_nonneg {answer : ConnectAnswer} {fd : Int}
    (h : Udev.connectBridge env answer = some fd) : 0 ≤ fd := by
  unfold Udev.connectBridge at h
  split_ifs at h with hb hpath hsocket hconnect hsend
  cases h
  omega

theorem new_opened {answer : ConnectAnswer} {fd : Int}
    (ha : Udev.connectBridge env answer = some fd) :
    m.newFromNetlink env answer =
      ({ lib := { m.lib with monitorFd := fd }, refs := 1, pipefd1 := -1 }, true) := by
  have hb : env.backendEnabled = true := by
    by_contra hb
    rw [Udev.connectBridge, if_pos (by simpa using hb)] at ha
    cases ha
  have hfd := connectBridge_nonneg ha
  simp [newFromNetlink, Udev.step, hb, ha, hfd]

@[simp] theorem receiveDevice_monitorFd (received : List UInt8) :
    (m.receiveDevice env received).lib.monitorFd = m.lib.monitorFd := by
  unfold receiveDevice Udev.step Udev.receiveDevice
  dsimp only
  split
  · rfl
  · split
    · rfl
    · unfold Udev.updateDescriptor
      split <;> rfl

theorem getFd_eq (h : env.backendEnabled = true) : m.getFd env = m.lib.monitorFd := by
  rw [getFd, h]
  rfl

/-- A release closes the one descriptor there is, whatever the count says. -/
theorem unref_closed (hfd : 0 ≤ m.lib.monitorFd) (h1 : m.pipefd1 = -1) :
    (m.unref env).2 = [m.lib.monitorFd] := by
  rw [unref, if_pos hfd, h1]
  rfl

end UdevMonitor

/-! ## 2. The users -/

/-- The object, the descriptor of each monitor obtained, the references held on each, the monitor
    whose connection is behind an open descriptor, and the connections closed, in order. -/
structure MonitorUse where
  object : UdevMonitor
  fds : List Int
  held : Nat → Nat
  owner : Int → Option Nat
  closed : List Nat

/-- A call of a user; `k` is the monitor as the user obtained it. -/
inductive MonitorCall where
  | newFromNetlink (answer : ConnectAnswer)
  | ref (k : Nat)
  | unref (k : Nat)
  | receiveDevice (k : Nat) (received : List UInt8)
  deriving DecidableEq, Repr

namespace MonitorUse

def start : MonitorUse :=
  { object := UdevMonitor.loaded, fds := [], held := fun _ => 0, owner := fun _ => none, closed := [] }

/-- `close`, as the kernel does it. -/
def close (s : MonitorUse) (fd : Int) : MonitorUse :=
  { s with
    owner := Function.update s.owner fd none
    closed := s.closed ++ (s.owner fd).toList }

def step (env : Env) (s : MonitorUse) : MonitorCall → MonitorUse
  | .newFromNetlink answer =>
    let object := (s.object.newFromNetlink env answer).1
    if (s.object.newFromNetlink env answer).2 then
      { s with
        object
        fds := s.fds ++ [object.getFd env]
        held := Function.update s.held s.fds.length 1
        owner := Function.update s.owner (object.getFd env) (some s.fds.length) }
    else { s with object }
  | .ref k => { s with
      object := s.object.ref
      held := Function.update s.held k (s.held k + 1) }
  | .unref k =>
    (s.object.unref env).2.foldl close { s with
      object := (s.object.unref env).1
      held := Function.update s.held k (s.held k - 1) }
  | .receiveDevice _ received => { s with object := s.object.receiveDevice env received }

/-- What the kernel and the users promise: a new socket has a number that is not open, and a user
    calls on a monitor while there is a reference on it. -/
def Promised (env : Env) (s : MonitorUse) : MonitorCall → Prop
  | .newFromNetlink answer => ∀ fd ∈ Udev.connectBridge env answer, s.owner fd = none
  | .ref k => 0 < s.held k
  | .unref k => 0 < s.held k
  | .receiveDevice k _ => 0 < s.held k

instance (env : Env) (s : MonitorUse) : DecidablePred (s.Promised env) := fun c => by
  cases c <;> unfold Promised <;> infer_instance

/-- **The law of the count**: a monitor with references has its descriptor, open, and one without
    had its connection closed exactly once. -/
structure Counted (env : Env) (s : MonitorUse) : Prop where
  held : ∀ k fd, s.fds[k]? = some fd → 0 < s.held k →
    s.object.getFd env = fd ∧ s.owner fd = some k ∧ s.closed.count k = 0
  released : ∀ k < s.fds.length, s.held k = 0 → s.closed.count k = 1

/-- One monitor at a time, with one reference at each release. -/
def Alone (s : MonitorUse) : MonitorCall → Prop
  | .newFromNetlink _ => ∀ k < s.fds.length, s.held k = 0
  | .unref k => s.held k = 1
  | _ => True

instance (s : MonitorUse) : DecidablePred s.Alone := fun c => by
  cases c <;> unfold Alone <;> infer_instance

/-! ## 3. What the calls keep -/

/-- What the object and its users keep as long as there is one monitor at a time. -/
structure Kept (env : Env) (s : MonitorUse) : Prop where
  counted : s.Counted env
  one : ∀ j k, 0 < s.held j → 0 < s.held k → j = k
  fd : ∀ k, 0 < s.held k → s.fds[k]? = some s.object.lib.monitorFd
  open_ : ∀ k, 0 < s.held k → env.backendEnabled = true ∧ 0 ≤ s.object.lib.monitorFd ∧
    s.object.pipefd1 = -1
  later : ∀ k, s.fds.length ≤ k → s.closed.count k = 0

variable {env : Env} {s : MonitorUse}

theorem start_kept : start.Kept env :=
  { counted := ⟨fun _ _ _ h => absurd h (Nat.lt_irrefl 0), fun _ h => absurd h (Nat.not_lt_zero _)⟩
    one := fun _ _ h => absurd h (Nat.lt_irrefl 0)
    fd := fun _ h => absurd h (Nat.lt_irrefl 0)
    open_ := fun _ h => absurd h (Nat.lt_irrefl 0)
    later := fun _ _ => rfl }

/-- Nobody holds a monitor that was not obtained. -/
theorem Kept.held_later (h : s.Kept env) {k : Nat} (hk : s.fds.length ≤ k) : s.held k = 0 := by
  by_contra hn
  have hfd := h.fd k (Nat.pos_of_ne_zero hn)
  rw [List.getElem?_eq_none hk] at hfd
  cases hfd

/-- A call that opens and closes nothing, and leaves the references or adds one. -/
theorem Kept.quiet {t : MonitorUse} (h : s.Kept env) (hfd : t.object.lib.monitorFd =
    s.object.lib.monitorFd) (h1 : t.object.pipefd1 = s.object.pipefd1) (hfds : t.fds = s.fds)
    (howner : t.owner = s.owner) (hclosed : t.closed = s.closed)
    (hheld : ∀ k, 0 < t.held k ↔ 0 < s.held k) : t.Kept env := by
  have hget : t.object.getFd env = s.object.getFd env := by
    unfold UdevMonitor.getFd
    rw [hfd]
  constructor
  · constructor
    · intro k fd hk hpos
      rw [hget, howner, hclosed]
      exact h.counted.held k fd (hfds ▸ hk) ((hheld k).mp hpos)
    · intro k hk hzero
      have hs : s.held k = 0 := by
        have := (hheld k).mpr
        omega
      rw [hclosed]
      exact h.counted.released k (hfds ▸ hk) hs
  · exact fun j k hj hk => h.one j k ((hheld j).mp hj) ((hheld k).mp hk)
  · intro k hk
    rw [hfds, hfd]
    exact h.fd k ((hheld k).mp hk)
  · intro k hk
    rw [hfd, h1]
    exact h.open_ k ((hheld k).mp hk)
  · intro k hk
    rw [hclosed]
    exact h.later k (hfds ▸ hk)

/-- A monitor is obtained while nobody holds one. -/
theorem new_kept (h : s.Kept env) {answer : ConnectAnswer}
    (hnone : ∀ k < s.fds.length, s.held k = 0) :
    (s.step env (.newFromNetlink answer)).Kept env := by
  have hall : ∀ k, ¬0 < s.held k := fun k hk => by
    rcases Nat.lt_or_ge k s.fds.length with hlt | hge
    · have := hnone k hlt
      omega
    · have := h.held_later hge
      omega
  cases hb : env.backendEnabled with
  | false =>
    simp only [step, UdevMonitor.new_disabled hb, if_neg Bool.false_ne_true]
    exact h
  | true =>
    cases ha : Udev.connectBridge env answer with
    | none =>
      simp only [step, UdevMonitor.new_failed hb ha, if_neg Bool.false_ne_true]
      exact
        { counted := ⟨fun k _ _ hk => absurd hk (hall k), h.counted.released⟩
          one := fun j _ hj => absurd hj (hall j)
          fd := fun k hk => absurd hk (hall k)
          open_ := fun k hk => absurd hk (hall k)
          later := h.later }
    | some fd =>
      have hfd := UdevMonitor.connectBridge_nonneg ha
      simp only [step, UdevMonitor.new_opened ha, if_true, UdevMonitor.getFd_eq hb]
      -- the one monitor that is held from here on is the new one
      have hnew : ∀ k, 0 < Function.update s.held s.fds.length 1 k → k = s.fds.length :=
        fun k hk => by
          by_contra hne
          rw [Function.update_of_ne hne] at hk
          exact hall k hk
      have hat : (s.fds ++ [fd])[s.fds.length]? = some fd := List.getElem?_concat_length
      constructor
      · constructor
        · intro k fd' hk hpos
          obtain rfl := hnew k hpos
          cases hat.symm.trans hk
          exact ⟨UdevMonitor.getFd_eq hb, Function.update_self .., h.later _ (Nat.le_refl _)⟩
        · intro k hk hzero
          rw [List.length_append, List.length_singleton] at hk
          have hne : k ≠ s.fds.length := by
            rintro rfl
            change Function.update s.held s.fds.length 1 s.fds.length = 0 at hzero
            rw [Function.update_self] at hzero
            cases hzero
          exact h.counted.released k (by omega) (hnone k (by omega))
      · exact fun j k hj hk => (hnew j hj).trans (hnew k hk).symm
      · intro k hk
        obtain rfl := hnew k hk
        exact hat
      · exact fun _ _ => ⟨hb, hfd, rfl⟩
      · intro k hk
        rw [List.length_append, List.length_singleton] at hk
        exact h.later k (by omega)

/-- A release closes the connection of the monitor that is held. -/
theorem unref_eq (h : s.Kept env) {k : Nat} (hk : 0 < s.held k) :
    s.step env (.unref k) =
      { object := (s.object.unref env).1
        fds := s.fds
        held := Function.update s.held k (s.held k - 1)
        owner := Function.update s.owner s.object.lib.monitorFd none
        closed := s.closed ++ [k] } := by
  obtain ⟨hb, hfd, h1⟩ := h.open_ k hk
  have howner := (h.counted.held k _ (h.fd k hk) hk).2.1
  simp only [step, UdevMonitor.unref_closed hfd h1, List.foldl_cons, List.foldl_nil, close, howner,
    Option.toList_some]

/-- The last reference is released. -/
theorem unref_kept (h : s.Kept env) {k : Nat} (hk : s.held k = 1) :
    (s.step env (.unref k)).Kept env := by
  have hpos : 0 < s.held k := by omega
  have hlt : k < s.fds.length := by
    by_contra hge
    have := h.held_later (Nat.not_lt.mp hge)
    omega
  rw [unref_eq h hpos, hk]
  have hall : ∀ j, ¬0 < Function.update s.held k (1 - 1) j := fun j hj => by
    by_cases hjk : j = k
    · rw [hjk, Function.update_self] at hj
      exact absurd hj (Nat.lt_irrefl 0)
    · rw [Function.update_of_ne hjk] at hj
      exact hjk (h.one j k hj hpos)
  constructor
  · constructor
    · exact fun j _ _ hj => absurd hj (hall j)
    · intro j hj _
      rw [List.count_append, List.count_singleton]
      by_cases hjk : j = k
      · subst hjk
        rw [(h.counted.held j _ (h.fd j hpos) hpos).2.2, beq_self_eq_true]
        rfl
      · have hzero : s.held j = 0 := by
          by_contra hn
          exact hjk (h.one j k (Nat.pos_of_ne_zero hn) hpos)
        rw [h.counted.released j hj hzero, beq_false_of_ne (Ne.symm hjk)]
        rfl
  · exact fun j _ hj => absurd hj (hall j)
  · exact fun j hj => absurd hj (hall j)
  · exact fun j hj => absurd hj (hall j)
  · intro j hj
    have hjk : k ≠ j := Nat.ne_of_lt (Nat.lt_of_lt_of_le hlt hj)
    rw [List.count_append, List.count_singleton, h.later j hj, beq_false_of_ne hjk]
    rfl

theorem step_kept (h : s.Kept env) {c : MonitorCall} (hp : s.Promised env c) (hc : s.Alone c) :
    (s.step env c).Kept env := by
  cases c with
  | newFromNetlink answer => exact new_kept h hc
  | ref k =>
    refine h.quiet rfl rfl rfl rfl rfl fun j => ?_
    change 0 < Function.update s.held k (s.held k + 1) j ↔ _
    by_cases hjk : j = k
    · rw [hjk, Function.update_self]
      exact ⟨fun _ => hp, fun _ => Nat.succ_pos _⟩
    · rw [Function.update_of_ne hjk]
  | unref k => exact unref_kept h hc
  | receiveDevice k received =>
    exact h.quiet (UdevMonitor.receiveDevice_monitorFd received) rfl rfl rfl rfl fun _ => Iff.rfl

/-! ## 4. What breaks the law -/

/-- A second monitor takes the descriptor of the first from the object, and so does a failure to
    get one. -/
theorem new_loses (h : s.Kept env) {answer : ConnectAnswer}
    (hp : s.Promised env (.newFromNetlink answer)) (hc : ¬s.Alone (.newFromNetlink answer)) :
    ¬(s.step env (.newFromNetlink answer)).Counted env := by
  intro hq
  change ¬∀ k < s.fds.length, s.held k = 0 at hc
  push Not at hc
  obtain ⟨k, hlt, hk⟩ := hc
  have hpos : 0 < s.held k := Nat.pos_of_ne_zero hk
  obtain ⟨hb, hfd, -⟩ := h.open_ k hpos
  have hat := h.fd k hpos
  have howner := (h.counted.held k _ hat hpos).2.1
  cases ha : Udev.connectBridge env answer with
  | none =>
    have hget := (hq.held k s.object.lib.monitorFd)
    simp only [step, UdevMonitor.new_failed hb ha, if_neg Bool.false_ne_true,
      UdevMonitor.getFd_eq hb] at hget
    have hminus := (hget hat hpos).1
    omega
  | some fd =>
    have hget := (hq.held k s.object.lib.monitorFd)
    simp only [step, UdevMonitor.new_opened ha, if_true, UdevMonitor.getFd_eq hb] at hget
    rw [List.getElem?_append_left hlt, Function.update_of_ne (Nat.ne_of_lt hlt)] at hget
    have hsame := (hget hat hpos).1
    have hfree : s.owner fd = none := hp fd ha
    rw [hsame, howner] at hfree
    cases hfree

/-- A release before the last closes the connection of those who still hold the monitor. -/
theorem unref_loses (h : s.Kept env) {k : Nat} (hp : 0 < s.held k) (hc : s.held k ≠ 1) :
    ¬(s.step env (.unref k)).Counted env := by
  intro hq
  obtain ⟨hb, hfd, -⟩ := h.open_ k hp
  rw [unref_eq h hp] at hq
  have hleft : 0 < Function.update s.held k (s.held k - 1) k := by
    rw [Function.update_self]
    omega
  have hget := (hq.held k _ (h.fd k hp) hleft).1
  rw [UdevMonitor.getFd_eq hb] at hget
  change (-1 : Int) = s.object.lib.monitorFd at hget
  omega

theorem step_loses (h : s.Kept env) {c : MonitorCall} (hp : s.Promised env c) (hc : ¬s.Alone c) :
    ¬(s.step env c).Counted env := by
  cases c with
  | newFromNetlink answer => exact new_loses h hp hc
  | ref k => exact absurd trivial hc
  | unref k => exact unref_loses h hp hc
  | receiveDevice k received => exact absurd trivial hc

/-! ## 5. Runs -/

/-- **Monitors and their references**: the law of the count holds all along a run, exactly if the
    users obtain a monitor only while none is held and release only the last reference. -/
theorem monitor_counted_iff (env : Env) (calls : List MonitorCall)
    (hp : Throughout (step env) (Promised env) start calls) :
    (∀ before after, calls = before ++ after → (run (step env) start before).Counted env) ↔
      Throughout (step env) Alone start calls :=
  throughout_iff (P := Kept env) (fun _ h => h.counted) (fun _ _ h hp hc => step_kept h hp hc)
    (fun _ _ h hp hc => step_loses h hp hc) start_kept hp

/-- A monitor is used and released, a second cannot connect, and a third is used. -/
def monitorsInTurn : List MonitorCall :=
  [.newFromNetlink namelessAnswer, .receiveDevice 0 [], .unref 0,
    .newFromNetlink { namelessAnswer with connect := -1 }, .newFromNetlink namelessAnswer, .unref 1]

theorem monitor_counted_iff_inTurn :
    (∀ before after, monitorsInTurn = before ++ after →
      (run (step plainEnv) start before).Counted plainEnv) ↔
    Throughout (step plainEnv) Alone start monitorsInTurn :=
  monitor_counted_iff plainEnv monitorsInTurn (by decide +kernel)

/-- **A reference is taken and released**: the first holder loses the connection. -/
theorem second_reference_closes :
    Throughout (step plainEnv) (Promised plainEnv) start
        [.newFromNetlink namelessAnswer, .ref 0, .unref 0] ∧
      ¬(run (step plainEnv) start
        [.newFromNetlink namelessAnswer, .ref 0, .unref 0]).Counted plainEnv := by
  refine ⟨by decide +kernel, fun h => ?_⟩
  have hget := (h.held 0 5 (by decide +kernel) (by decide +kernel)).1
  exact absurd hget (by decide +kernel)

end MonitorUse

end TermuxGamepad
