/-
  File:      TermuxGamepad/Shim/PassThrough.lean
  Subject:   What the shim must leave alone: paths that are no virtual node, descriptors that
             are not open virtual ones.

  `Session` runs the application's calls and keeps, from the calls and their results alone, the
  virtual descriptors that are open. The descriptor table stays within that set
  (`call_within`), so a foreign call falls through to its real function -- which only an `open`
  before any other call does not find (`pass_through_iff`).
-/
import TermuxGamepad.Lib.Slots
import TermuxGamepad.Shim.Preload

namespace TermuxGamepad

open Wire

/-! ## 1. Foreign calls -/

namespace Call

/-- The path of a path-taking call. -/
def path : Call → Option Path
  | .open_ path _ _ | .open64 path _ _ | .open2 path _ | .openat _ path _ _ | .openat2 _ path _
  | .stat path _ | .stat64 path _ => some path
  | .ioctl .. | .read .. | .write .. | .close _ => none

/-- The descriptor of a descriptor-taking call. -/
def fd : Call → Option Int
  | .ioctl fd _ _ _ | .read fd _ _ | .write fd _ _ _ | .close fd => some fd
  | .open_ .. | .open64 .. | .open2 .. | .openat .. | .openat2 .. | .stat .. | .stat64 .. => none

def isOpen : Call → Bool
  | .open_ .. | .open64 .. | .open2 .. | .openat .. | .openat2 .. => true
  | _ => false

/-- The real function behind a call, with the caller's arguments. -/
def real : Call → RealCall
  | .open_ path flags mode => .openPath .open_ path flags mode
  | .open64 path flags mode => .openPath .open64 path flags mode
  | .open2 path flags => .openPath .open2 path flags 0
  | .openat dirfd path flags mode => .openat .openat dirfd path flags mode
  | .openat2 dirfd path flags => .openat .openat2 dirfd path flags 0
  | .ioctl fd req arg _ => .ioctl fd req arg
  | .read fd buffer length => .read fd (.caller buffer) length
  | .write fd buffer _ length => .write fd (.caller buffer) length
  | .stat path output => .stat .stat path output
  | .stat64 path output => .stat .stat64 path output
  | .close fd => .close fd

/-- The call is none of the shim's business: no virtual node, no open virtual descriptor. -/
def Foreign (opened : List Int) (c : Call) : Prop :=
  (∀ p, c.path = some p → virtualNode p = none) ∧ ∀ fd, c.fd = some fd → fd ∉ opened

/-- The open virtual descriptors after a call that came to `o`. -/
def track (opened : List Int) (c : Call) (o : Outcome) : List Int :=
  match c with
  | .close fd => opened.filter (· ≠ fd)
  | c =>
    if c.isOpen ∧ c.path.bind virtualNode ≠ none ∧ 0 ≤ o.result then o.result :: opened
    else opened

end Call

/-- A shim, and the virtual descriptors its application holds. -/
structure Session where
  shim : Shim
  opened : List Int

def Session.step (env : Env) (s : Session) (c : Call) : Session :=
  { shim := (s.shim.call env c).1, opened := c.track s.opened (s.shim.call env c).2 }

/-- The call goes to its real function, once and with nothing besides, and comes to what that
    answered. -/
def Shim.PassesOn (env : Env) (s : Shim) (c : Call) : Prop :=
  (s.call env c).1.log = s.log ++ [.real c.real (s.call env c).2]

/-- Every foreign call of a run is passed on. -/
def Transparent (env : Env) (s : Session) (calls : List Call) : Prop :=
  ∀ before c after, calls = before ++ c :: after →
    c.Foreign (run (Session.step env) s before).opened →
    (run (Session.step env) s before).shim.PassesOn env c

/-! ## 2. What a call keeps -/

namespace Shim

variable {env : Env} {s s' : Shim}

/-- The descriptors in the table. -/
def fds (s : Shim) : List Int := s.fakeFds.map FakeFd.fd

/-- Neither what `tg_init` sets nor the descriptors in the table have changed. -/
structure Keeps (s s' : Shim) : Prop where
  initDone : s'.initDone = s.initDone
  resolved : s'.resolved = s.resolved
  modeOverride : s'.modeOverride = s.modeOverride
  fds : s'.fds = s.fds

theorem Keeps.refl (s : Shim) : Keeps s s := ⟨rfl, rfl, rfl, rfl⟩

theorem Keeps.trans {s'' : Shim} (h : Keeps s s') (h' : Keeps s' s'') : Keeps s s'' :=
  ⟨h'.initDone.trans h.initDone, h'.resolved.trans h.resolved,
    h'.modeOverride.trans h.modeOverride, h'.fds.trans h.fds⟩

theorem callReal_keeps (s : Shim) (c : RealCall) : Keeps s (s.callReal c).1 := ⟨rfl, rfl, rfl, rfl⟩

theorem sendControl_keeps (s : Shim) (fd : Int) (command low high : UInt16) (durationMs : UInt32) :
    Keeps s (s.sendControl fd command low high durationMs).1 := ⟨rfl, rfl, rfl, rfl⟩

theorem clearEffects_keeps (s : Shim) (fd : Int) : Keeps s (s.clearEffects fd) := ⟨rfl, rfl, rfl, rfl⟩

theorem debugOpenPath_keeps (s : Shim) (path : Path) : Keeps s (s.debugOpenPath env path) := by
  unfold debugOpenPath
  split
  · split <;> exact ⟨rfl, rfl, rfl, rfl⟩
  · exact Keeps.refl s

theorem callOpen_keeps (s : Shim) (fn : Option RealFn) (path : Path) (flags mode : UInt32) :
    Keeps s (s.callOpen fn path flags mode).1 := by
  cases fn <;> exact ⟨rfl, rfl, rfl, rfl⟩

theorem uploadEffect_keeps (s : Shim) (fd : Int) (memory : List UInt8) :
    Keeps s (s.uploadEffect fd memory).1 := by
  unfold uploadEffect
  dsimp only
  split
  · exact Keeps.refl s
  · split <;> exact ⟨rfl, rfl, rfl, rfl⟩

theorem removeEffect_keeps (s : Shim) (fd id : Int) : Keeps s (s.removeEffect fd id).1 := by
  unfold removeEffect
  split <;> exact ⟨rfl, rfl, rfl, rfl⟩

theorem writeEvent_keeps (s : Shim) (fd : Int) (event : InputEvent) :
    Keeps s (s.writeEvent fd event).1 := by
  unfold writeEvent
  split
  · exact Keeps.refl s
  · split
    · exact ⟨rfl, rfl, rfl, rfl⟩
    · split
      · exact Keeps.refl s
      · split <;> exact sendControl_keeps ..

theorem writeEvents_keeps (fd : Int) (events : List InputEvent) (s : Shim) :
    Keeps s (s.writeEvents fd events).1 := by
  induction events generalizing s with
  | nil => exact Keeps.refl s
  | cons event events ih =>
    have h := writeEvent_keeps s fd event
    unfold writeEvents
    dsimp only
    split
    · exact h.trans (ih _)
    · exact h

/-- The loop of a joydev read changes its descriptor's record by taking bytes only. -/
theorem joyLoop_inv {P : FakeFd → Prop} (htake : ∀ f bytes, P f → P (f.take bytes).1)
    (capacity : Nat) (reals : List Outcome) {fake : FakeFd} (h : P fake) (produced : List JsEvent) :
    P (joyLoop capacity reals fake produced).fake := by
  induction reals generalizing fake produced with
  | nil => unfold joyLoop; split <;> exact h
  | cons o reals ih =>
    unfold joyLoop
    split
    · exact h
    · dsimp only
      split
      · exact h
      · exact ih (htake _ _ h) _

theorem take_fd (fake : FakeFd) (bytes : List UInt8) :
    (fake.take bytes).1.fd = fake.fd ∧ (fake.take bytes).1.joydev = fake.joydev := by
  unfold FakeFd.take
  dsimp only
  split <;> exact ⟨rfl, rfl⟩

theorem joyLoop_fd (capacity : Nat) (reals : List Outcome) (fake : FakeFd)
    (produced : List JsEvent) :
    (joyLoop capacity reals fake produced).fake.fd = fake.fd ∧
      (joyLoop capacity reals fake produced).fake.joydev = fake.joydev :=
  joyLoop_inv (P := fun f => f.fd = fake.fd ∧ f.joydev = fake.joydev)
    (fun f bytes h => ⟨(take_fd f bytes).1.trans h.1, (take_fd f bytes).2.trans h.2⟩) capacity reals
    ⟨rfl, rfl⟩ produced

theorem readReal_keeps (s : Shim) (fd : Int) (buffer : UInt64) (length : Nat) :
    Keeps s (s.readReal fd buffer length).1 := by
  unfold readReal
  split
  · exact callReal_keeps ..
  · exact Keeps.refl s

theorem readJoydev_keeps (s : Shim) (fake : FakeFd) (buffer : UInt64) (length : Nat) :
    Keeps s (s.readJoydev fake buffer length).1 := by
  unfold readJoydev
  split
  · exact Keeps.refl s
  · split
    · exact Keeps.refl s
    · exact ⟨rfl, rfl, rfl, Table.map_key_update _ _⟩

/-! ## 3. The table and the application's descriptors -/

/-- The function pointers are those `dlsym` found, once `tg_init` has run. -/
def Ready (env : Env) (s : Shim) : Prop := s.initDone = true → s.resolved = env.dlsym

/-- The table has distinct descriptors, all of them open for the application. -/
structure Within (s : Shim) (opened : List Int) : Prop where
  distinct : s.fds.Nodup
  known : ∀ fd ∈ s.fds, fd ∈ opened

theorem Keeps.within {opened : List Int} (h : Keeps s s') (hw : s.Within opened) :
    s'.Within opened :=
  ⟨h.fds ▸ hw.distinct, h.fds ▸ hw.known⟩

theorem Within.mono {opened opened' : List Int} (h : s.Within opened)
    (hsub : ∀ fd ∈ opened, fd ∈ opened') : s.Within opened' :=
  ⟨h.distinct, fun fd hfd => hsub fd (h.known fd hfd)⟩

/-- What `tg_init` leaves alone. -/
theorem init_same (env : Env) (s : Shim) : (s.init env).fakeFds = s.fakeFds ∧
    (s.init env).effectSlots = s.effectSlots ∧ (s.init env).ffGain = s.ffGain ∧
    (s.init env).sends = s.sends := by
  unfold init
  split <;> exact ⟨rfl, rfl, rfl, rfl⟩

theorem init_findFakeFd (s : Shim) (fd : Int) : (s.init env).findFakeFd fd = s.findFakeFd fd := by
  rw [findFakeFd, (init_same env s).1, findFakeFd]

theorem init_effectSlots (s : Shim) : (s.init env).effectSlots = s.effectSlots :=
  (init_same env s).2.1

theorem init_keeps_fds (s : Shim) : (s.init env).fds = s.fds := by
  rw [fds, (init_same env s).1, fds]

theorem init_within {opened : List Int} (h : s.Within opened) : (s.init env).Within opened := by
  constructor <;> rw [init_keeps_fds]
  · exact h.distinct
  · exact h.known

@[simp] theorem init_initDone (s : Shim) : (s.init env).initDone = true := by
  unfold init
  split
  · assumption
  · rfl

@[simp] theorem init_log (s : Shim) : (s.init env).log = s.log := by
  unfold init
  split <;> rfl

theorem init_resolved (h : Ready env s) : (s.init env).resolved = env.dlsym := by
  unfold init
  split
  · exact h ‹_›
  · rfl

theorem init_ready (h : Ready env s) : Ready env (s.init env) := fun _ => init_resolved h

theorem init_of_initDone (h : s.initDone = true) : s.init env = s := by rw [init, if_pos h]

/-- A call that keeps everything but `tg_init`'s doing keeps the pointers right. -/
theorem Keeps.ready (h : Keeps s s') (hr : Ready env s) : Ready env s' := by
  intro hd
  rw [h.resolved]
  exact hr (h.initDone ▸ hd)

theorem findFakeFd_eq_none {opened : List Int} {fd : Int} (h : s.Within opened)
    (hfd : fd ∉ opened) : s.findFakeFd fd = none := by
  refine Table.lookup_eq_none_iff.mpr fun f hf e => hfd ?_
  exact h.known fd (List.mem_map.mpr ⟨f, hf, e⟩)

theorem delFakeFd_within {opened : List Int} (fd : Int) (h : s.Within opened) :
    (s.delFakeFd fd).Within (opened.filter (· ≠ fd)) := by
  have hd : Table.Distinct FakeFd.fd s.fakeFds := h.distinct
  refine ⟨hd.remove fd, fun k hk => ?_⟩
  obtain ⟨f, hf, rfl⟩ := List.mem_map.mp hk
  obtain ⟨hmem, hne⟩ := (Table.mem_remove hd).mp hf
  exact List.mem_filter.mpr ⟨h.known _ (List.mem_map_of_mem hmem), decide_eq_true hne⟩

theorem addFakeFd_within {opened : List Int} {fd : Int} (joydev : Bool) (d : DeviceDescriptor)
    (h : s.Within opened) : (s.addFakeFd fd joydev d).Within (fd :: opened) := by
  unfold addFakeFd
  split
  · exact h.mono fun k hk => List.mem_cons_of_mem _ hk
  · rename_i hnew
    have hnone : s.findFakeFd fd = none := by
      rw [← Option.not_isSome_iff_eq_none]
      exact fun hs => hnew (.inr (.inl hs))
    have hd : Table.Distinct FakeFd.fd s.fakeFds := h.distinct
    refine ⟨hd.insert (Table.lookup_eq_none_iff.mp hnone), fun k hk => ?_⟩
    obtain ⟨f, hf, rfl⟩ := List.mem_map.mp hk
    rcases List.mem_append.mp hf with hf | hf
    · exact List.mem_cons_of_mem _ (h.known _ (List.mem_map_of_mem hf))
    · rw [List.mem_singleton.mp hf]
      exact List.mem_cons_self

theorem releaseEffects_keeps (s : Shim) (fd : Int) : Keeps s (s.releaseEffects fd) := by
  unfold releaseEffects
  split
  · exact Keeps.refl s
  · split
    · exact Keeps.refl s
    · exact (sendControl_keeps ..).trans (clearEffects_keeps ..)

theorem close_keeps (s : Shim) (fd : Int) :
    Keeps (((s.init env).releaseEffects fd).delFakeFd fd) (s.close env fd).1 := by
  unfold close
  dsimp only
  split
  · exact callReal_keeps ..
  · exact Keeps.refl _

theorem close_within {opened : List Int} (fd : Int) (h : s.Within opened) :
    (s.close env fd).1.Within (opened.filter (· ≠ fd)) :=
  (close_keeps s fd).within
    (delFakeFd_within fd ((releaseEffects_keeps _ fd).within (init_within h)))

theorem close_ready (fd : Int) (hr : Ready env s) : Ready env (s.close env fd).1 :=
  (close_keeps s fd).ready ((releaseEffects_keeps _ fd).ready (init_ready hr))

end Shim

/-- An event of an attempt to reach the bridge. -/
def Event.opening : Event → Bool
  | .connect .. | .setNonblock _ | .setCloexec _ => true
  | .control _ m _ => m == Shim.descriptorQuery
  | .real .. | .nullCall => false

namespace Shim

variable {env : Env} {s s' : Shim}

/-- The socket the next attempt to reach the bridge gets. -/
def nextSocket (s : Shim) : Int := (s.connects.headD ⟨-1, -1, -1, []⟩).socket

/-- An attempt consumes an answer and leaves its events, nothing else. -/
structure Attempted (s t : Shim) : Prop where
  same : t = { s with connects := t.connects, log := t.log }
  log : ∃ es, t.log = s.log ++ es ∧ ∀ e ∈ es, e.opening = true

theorem Attempted.emit {t : Shim} (h : Attempted s t) {e : Event} (he : e.opening = true) :
    Attempted s (t.emit e) := by
  obtain ⟨es, hes, hall⟩ := h.log
  refine ⟨?_, es ++ [e], ?_, List.forall_mem_append.mpr ⟨hall, by simpa using he⟩⟩
  · rw [h.same]
    rfl
  · show t.log ++ [e] = _
    rw [hes, List.append_assoc]

theorem Attempted.keeps {t : Shim} (h : Attempted s t) : Keeps s t := by
  rw [h.same]
  exact ⟨rfl, rfl, rfl, rfl⟩

/-- **What `tg_connect_device` can come to**: nothing, a socket closed again, or a descriptor. -/
theorem connectDevice_attempt (s : Shim) (flags : UInt32) (joydev : Bool) :
    (∃ t, Attempted s t ∧ s.connectDevice env flags joydev = (t, Outcome.failed)) ∨
      (∃ t, Attempted s t ∧
        s.connectDevice env flags joydev = ((t.close env s.nextSocket).1, Outcome.failed)) ∨
      ∃ t d, Attempted s t ∧ 0 ≤ s.nextSocket ∧
        s.connectDevice env flags joydev =
          (t.addFakeFd s.nextSocket joydev d, { result := s.nextSocket, stored := [] }) := by
  have hs : ∀ cs, Attempted s { s with connects := cs } := fun _ => ⟨rfl, [], by simp⟩
  unfold connectDevice
  dsimp only
  split
  · exact .inl ⟨s, hs _, rfl⟩
  · unfold nextSocket
    generalize s.connects.headD ⟨-1, -1, -1, []⟩ = answer
    split
    · exact .inl ⟨_, hs _, rfl⟩
    · rename_i hfd
      have hc := (hs s.connects.tail).emit (e := .connect answer.socket
        ((nonEmpty env.evdevSocket).getD defaultSocket)) rfl
      split
      · exact .inr (.inl ⟨_, hc, rfl⟩)
      · have hq := hc.emit (e := .control answer.socket descriptorQuery answer.send) (by
          simp [Event.opening])
        split
        · exact .inr (.inl ⟨_, hq, rfl⟩)
        · refine .inr (.inr ⟨_, _, Attempted.emit ?_ rfl, not_lt.mp hfd, rfl⟩)
          split
          · exact hq.emit rfl
          · exact hq

/-- The same, as far as pointers and table are concerned. -/
theorem connectDevice_cases (s : Shim) (flags : UInt32) (joydev : Bool) :
    (∃ t, Keeps s t ∧ s.connectDevice env flags joydev = (t, Outcome.failed)) ∨
      (∃ t fd, Keeps s t ∧
        s.connectDevice env flags joydev = ((t.close env fd).1, Outcome.failed)) ∨
      ∃ t fd d, Keeps s t ∧ 0 ≤ fd ∧
        s.connectDevice env flags joydev = (t.addFakeFd fd joydev d, { result := fd, stored := [] }) := by
  rcases @connectDevice_attempt env s flags joydev with ⟨t, h, e⟩ | ⟨t, h, e⟩ | ⟨t, d, h, hfd, e⟩
  · exact .inl ⟨t, h.keeps, e⟩
  · exact .inr (.inl ⟨t, _, h.keeps, e⟩)
  · exact .inr (.inr ⟨t, _, d, h.keeps, hfd, e⟩)

/-- A descriptor `tg_connect_device` returns comes into the table; a socket it gives up goes. -/
theorem connectDevice_within {opened : List Int} (flags : UInt32) (joydev : Bool)
    (h : s.Within opened) :
    (s.connectDevice env flags joydev).1.Within
      (if 0 ≤ (s.connectDevice env flags joydev).2.result then
        (s.connectDevice env flags joydev).2.result :: opened else opened) := by
  rcases @connectDevice_cases env s flags joydev with
    ⟨t, hk, e⟩ | ⟨t, fd, hk, e⟩ | ⟨t, fd, d, hk, hfd, e⟩ <;> rw [e]
  · exact hk.within h
  · exact (close_within fd (hk.within h)).mono fun k hk => (List.mem_filter.mp hk).1
  · rw [if_pos hfd]
    exact addFakeFd_within joydev d (hk.within h)

theorem connectDevice_ready (flags : UInt32) (joydev : Bool) (hr : Ready env s) :
    Ready env (s.connectDevice env flags joydev).1 := by
  rcases @connectDevice_cases env s flags joydev with
    ⟨t, hk, e⟩ | ⟨t, fd, hk, e⟩ | ⟨t, fd, d, hk, _, e⟩ <;> rw [e]
  · exact hk.ready hr
  · exact close_ready fd (hk.ready hr)
  · have ht := hk.ready hr
    unfold addFakeFd
    split <;> exact ht

/-! ## 4. One call -/

/-- What `tg_open_common` can come to: a virtual node is connected, every other path changes
    neither pointers nor table. -/
theorem openCommon_cases (s : Shim) (path : Path) (flags mode : UInt32) (fallback : Option RealFn) :
    Keeps (s.init env) (s.openCommon env path flags mode fallback).1 ∨
      ∃ t joydev, Keeps (s.init env) t ∧ virtualNode path = some joydev ∧
        s.openCommon env path flags mode fallback = t.connectDevice env flags joydev := by
  unfold openCommon
  dsimp only
  split
  · exact .inl (callOpen_keeps ..)
  · have hd := @debugOpenPath_keeps env (s.init env) path
    cases hv : virtualNode path with
    | some joydev => exact .inr ⟨_, joydev, hd, rfl, rfl⟩
    | none =>
      refine .inl ?_
      dsimp only
      split
      · exact hd
      · exact hd.trans (callOpen_keeps ..)

theorem init_init (s : Shim) : (s.init env).init env = s.init env :=
  init_of_initDone (init_initDone s)

/-- **What a call can do to pointers and table**: nothing after `tg_init`, what
    `tg_connect_device` does for a virtual node, or what `close` does. -/
theorem call_cases (s : Shim) (c : Call) :
    (Keeps (s.init env) (s.call env c).1 ∧ ∀ fd, c ≠ .close fd) ∨
      (∃ t flags joydev, Keeps (s.init env) t ∧ c.isOpen = true ∧
        c.path.bind virtualNode = some joydev ∧
        s.call env c = t.connectDevice env flags joydev) ∨
      ∃ fd, c = .close fd := by
  cases c with
  | open_ path flags mode =>
    rcases @openCommon_cases env s path flags mode (s.pointer .open_) with
      h | ⟨t, joydev, hk, hv, e⟩
    · exact .inl ⟨h, fun _ => Call.noConfusion⟩
    · exact .inr (.inl ⟨t, flags, joydev, hk, rfl, hv, e⟩)
  | open64 path flags mode =>
    rcases @openCommon_cases env (s.init env) path flags mode
      (((s.init env).pointer .open64).or ((s.init env).pointer .open_)) with
      h | ⟨t, joydev, hk, hv, e⟩
    · exact .inl ⟨@init_init env s ▸ h, fun _ => Call.noConfusion⟩
    · exact .inr (.inl ⟨t, flags, joydev, @init_init env s ▸ hk, rfl, hv, e⟩)
  | open2 path flags =>
    rcases @openCommon_cases env (s.init env) path flags 0
      (((s.init env).pointer .open2).or ((s.init env).pointer .open_)) with
      h | ⟨t, joydev, hk, hv, e⟩
    · exact .inl ⟨@init_init env s ▸ h, fun _ => Call.noConfusion⟩
    · exact .inr (.inl ⟨t, flags, joydev, @init_init env s ▸ hk, rfl, hv, e⟩)
  | openat dirfd path flags mode =>
    cases hv : virtualNode path with
    | some joydev =>
      refine .inr (.inl ⟨s.init env, flags, joydev, Keeps.refl _, rfl, hv, ?_⟩)
      simp only [call, openat, hv]
    | none =>
      refine .inl ⟨?_, fun _ => Call.noConfusion⟩
      simp only [call, openat, hv]
      split
      · exact callReal_keeps ..
      · exact Keeps.refl _
  | openat2 dirfd path flags =>
    cases hv : virtualNode path with
    | some joydev =>
      refine .inr (.inl ⟨s.init env, flags, joydev, Keeps.refl _, rfl, hv, ?_⟩)
      simp only [call, openat2, hv]
    | none =>
      refine .inl ⟨?_, fun _ => Call.noConfusion⟩
      simp only [call, openat2, hv]
      split
      · exact callReal_keeps ..
      · split
        · exact callReal_keeps ..
        · exact Keeps.refl _
  | ioctl fd req arg memory =>
    refine .inl ⟨?_, fun _ => Call.noConfusion⟩
    simp only [call, ioctl]
    split
    · split
      · exact Keeps.refl _
      · split
        · exact uploadEffect_keeps ..
        · split
          · exact removeEffect_keeps ..
          · exact Keeps.refl _
    · split
      · exact callReal_keeps ..
      · exact Keeps.refl _
  | read fd buffer length =>
    refine .inl ⟨?_, fun _ => Call.noConfusion⟩
    simp only [call, read]
    split
    · exact readReal_keeps ..
    · split
      · exact readJoydev_keeps ..
      · split
        · exact readReal_keeps ..
        · exact readReal_keeps ..
  | write fd buffer content length =>
    refine .inl ⟨?_, fun _ => Call.noConfusion⟩
    simp only [call, write]
    split
    · split
      · exact callReal_keeps ..
      · exact Keeps.refl _
    · split
      · exact Keeps.refl _
      · exact writeEvents_keeps ..
  | stat path output =>
    refine .inl ⟨?_, fun _ => Call.noConfusion⟩
    simp only [call, stat]
    split
    · exact Keeps.refl _
    · split
      · exact callReal_keeps ..
      · exact Keeps.refl _
  | stat64 path output =>
    refine .inl ⟨?_, fun _ => Call.noConfusion⟩
    simp only [call, stat64]
    split
    · exact Keeps.refl _
    · split
      · exact callReal_keeps ..
      · split
        · exact callReal_keeps ..
        · exact Keeps.refl _
  | close fd => exact .inr (.inr ⟨fd, rfl⟩)

/-- **The table holds open virtual descriptors only.** -/
theorem call_within {opened : List Int} (c : Call) (h : s.Within opened) :
    (s.call env c).1.Within (c.track opened (s.call env c).2) := by
  have hsub : ∀ o, (∀ fd, c ≠ .close fd) → ∀ fd ∈ opened, fd ∈ c.track opened o := by
    intro o hc fd hfd
    cases c <;> first | exact absurd rfl (hc _) | skip
    all_goals
      simp only [Call.track]
      split
      · exact List.mem_cons_of_mem _ hfd
      · exact hfd
  rcases @call_cases env s c with ⟨hk, hc⟩ | ⟨t, flags, joydev, hk, ho, hv, e⟩ | ⟨fd, rfl⟩
  · exact (hk.within (init_within h)).mono (hsub _ hc)
  · have hc : ∀ fd, c ≠ .close fd := by rintro fd rfl; cases ho
    have hw := @connectDevice_within env _ _ flags joydev (hk.within (init_within h))
    rw [e]
    refine hw.mono fun fd hfd => ?_
    by_cases hr : 0 ≤ (t.connectDevice env flags joydev).2.result
    · have htrack : c.track opened (t.connectDevice env flags joydev).2 =
          (t.connectDevice env flags joydev).2.result :: opened := by
        have hne : c.path.bind virtualNode ≠ none := by rw [hv]; exact Option.some_ne_none _
        cases c <;> first | exact if_pos ⟨ho, hne, hr⟩ | cases ho
      rwa [htrack, ← if_pos hr (t := _ :: opened)]
    · rw [if_neg hr] at hfd
      exact hsub _ hc fd hfd
  · exact close_within fd h

theorem call_ready (c : Call) (hr : Ready env s) : Ready env (s.call env c).1 := by
  rcases @call_cases env s c with ⟨hk, _⟩ | ⟨t, flags, joydev, hk, _, _, e⟩ | ⟨fd, rfl⟩
  · exact hk.ready (init_ready hr)
  · rw [e]
    exact connectDevice_ready flags joydev (hk.ready (init_ready hr))
  · exact close_ready fd hr

/-- After any call `tg_init` has run. -/
theorem call_initDone (s : Shim) (c : Call) : (s.call env c).1.initDone = true := by
  have hclose : ∀ (t : Shim) fd, (t.close env fd).1.initDone = true := by
    intro t fd
    rw [(close_keeps t fd).initDone]
    exact (releaseEffects_keeps (t.init env) fd).initDone.trans (init_initDone t)
  rcases @call_cases env s c with ⟨hk, _⟩ | ⟨t, flags, joydev, hk, _, _, e⟩ | ⟨fd, rfl⟩
  · rw [hk.initDone, init_initDone]
  · rw [e]
    have ht : t.initDone = true := by rw [hk.initDone, init_initDone]
    rcases @connectDevice_cases env t flags joydev with
      ⟨t', hk', e⟩ | ⟨t', fd, hk', e⟩ | ⟨t', fd, d, hk', _, e⟩ <;> rw [e]
    · rw [hk'.initDone, ht]
    · exact hclose t' fd
    · show (t'.addFakeFd fd joydev d).initDone = true
      unfold addFakeFd
      split <;> rw [← hk'.initDone] at ht <;> exact ht
  · exact hclose s fd

/-- An initialised `tg_open_common` hands a path that is no virtual node to its fallback. -/
theorem openCommon_real (hon : env.backendEnabled = true) (hdebug : nonEmpty env.debug = none)
    (hs : s.initDone = true) {path : Path} (hv : virtualNode path = none) (flags mode : UInt32)
    (fn : RealFn) :
    s.openCommon env path flags mode (some fn) = s.callReal (.openPath fn path flags mode) := by
  have hdbg : s.debugOpenPath env path = s := by simp only [debugOpenPath, hdebug]
  simp only [openCommon, init_of_initDone hs, hon, hdbg, hv]
  rfl

theorem callReal_log (s : Shim) (c : RealCall) :
    ((s.init env).callReal c).1.log = s.log ++ [.real c ((s.init env).callReal c).2] := by
  show (s.init env).log ++ _ = _
  rw [init_log]
  rfl

/-- **A foreign call is passed on**, by an `open` only if `tg_init` has run before it. -/
theorem foreign_passesOn {opened : List Int} {c : Call} (hon : env.backendEnabled = true)
    (hdebug : nonEmpty env.debug = none) (hdlsym : ∀ fn, env.dlsym fn = true) (hr : Ready env s)
    (hw : s.Within opened) (hf : c.Foreign opened)
    (hinit : (∃ path flags mode, c = .open_ path flags mode) → s.initDone = true) :
    s.PassesOn env c := by
  have hres : ∀ fn, (s.init env).resolved fn = true := by
    intro fn
    rw [init_resolved hr]
    exact hdlsym fn
  have hptr : ∀ fn, (s.init env).pointer fn = some fn := fun fn => if_pos (hres fn)
  have hfind : ∀ fd, c.fd = some fd → (s.init env).findFakeFd fd = none :=
    fun fd h => findFakeFd_eq_none (init_within hw) (hf.2 fd h)
  have hnode : ∀ path, c.path = some path → virtualNode path = none := hf.1
  unfold PassesOn
  cases c with
  | open_ path flags mode =>
    have hs := @init_of_initDone env _ (hinit ⟨path, flags, mode, rfl⟩)
    have hfn : s.pointer .open_ = some .open_ := hs ▸ hptr .open_
    have he : s.call env (.open_ path flags mode) =
        (s.init env).callReal (.openPath .open_ path flags mode) := by
      rw [call, open_, hfn, openCommon_real hon hdebug (hs ▸ init_initDone s) (hnode path rfl), hs]
    rw [he]
    exact callReal_log ..
  | open64 path flags mode =>
    have he : s.call env (.open64 path flags mode) =
        (s.init env).callReal (.openPath .open64 path flags mode) := by
      rw [call, open64, hptr, Option.some_or,
        openCommon_real hon hdebug (init_initDone s) (hnode path rfl)]
    rw [he]
    exact callReal_log ..
  | open2 path flags =>
    have he : s.call env (.open2 path flags) =
        (s.init env).callReal (.openPath .open2 path flags 0) := by
      rw [call, open2, hptr, Option.some_or,
        openCommon_real hon hdebug (init_initDone s) (hnode path rfl)]
    rw [he]
    exact callReal_log ..
  | openat dirfd path flags mode =>
    simp only [call, openat, hnode path rfl, hres, if_true]
    exact callReal_log ..
  | openat2 dirfd path flags =>
    simp only [call, openat2, hnode path rfl, hres, if_true]
    exact callReal_log ..
  | ioctl fd req arg memory =>
    simp only [call, ioctl, hfind fd rfl, hres, if_true]
    exact callReal_log ..
  | read fd buffer length =>
    simp only [call, read, readReal, hfind fd rfl, hres, if_true]
    exact callReal_log ..
  | write fd buffer content length =>
    simp only [call, write, hfind fd rfl, hres, if_true]
    exact callReal_log ..
  | stat path output =>
    simp only [call, stat, hnode path rfl, hres, if_true]
    exact callReal_log ..
  | stat64 path output =>
    simp only [call, stat64, hnode path rfl, hres, if_true]
    exact callReal_log ..
  | close fd =>
    -- the descriptor is not in the table: nothing is released and nothing goes
    have hrel : (s.init env).releaseEffects fd = s.init env := by
      simp only [releaseEffects, hfind fd rfl]
    have hdel : (s.init env).delFakeFd fd = s.init env := by
      have hnone := Table.remove_of_notMem (Table.lookup_eq_none_iff.mp (hfind fd rfl))
      unfold delFakeFd
      rw [hnone]
    simp only [call, close, hrel, hdel, hres, if_true]
    exact callReal_log ..

end Shim

/-! ## 5. Runs -/

section Runs

variable {env : Env}

/-- What every run keeps. -/
structure Session.Sound (env : Env) (s : Session) : Prop where
  ready : s.shim.Ready env
  within : s.shim.Within s.opened

theorem step_sound (s : Session) (c : Call) (h : s.Sound env) : (s.step env c).Sound env :=
  ⟨Shim.call_ready c h.ready, Shim.call_within c h.within⟩

/-- The start of an application. -/
def Session.loaded (reals : List Outcome) (connects : List ConnectAnswer) (sends : List Int) :
    Session := { shim := Shim.loaded reals connects sends, opened := [] }

theorem loaded_sound (reals : List Outcome) (connects : List ConnectAnswer) (sends : List Int) :
    (Session.loaded reals connects sends).Sound env :=
  ⟨fun h => Bool.noConfusion h, ⟨List.nodup_nil, fun _ h => absurd h List.not_mem_nil⟩⟩

/-- `tg_init` has run once anything was called. -/
theorem run_initDone (s : Session) {calls : List Call} (h : calls ≠ []) :
    (run (Session.step env) s calls).shim.initDone = true := by
  obtain ⟨before, c, rfl⟩ := (List.eq_nil_or_concat calls).resolve_left h
  rw [List.concat_eq_append, run_concat]
  exact Shim.call_initDone _ c

/-- An `open` that is the first call of all finds no real function. -/
theorem first_open_dropped (hon : env.backendEnabled = true) (hdebug : nonEmpty env.debug = none)
    (reals : List Outcome) (connects : List ConnectAnswer) (sends : List Int) {path : Path}
    (hv : virtualNode path = none) (flags mode : UInt32) :
    (Shim.loaded reals connects sends).call env (.open_ path flags mode) =
      ((Shim.loaded reals connects sends).init env, Outcome.failed) := by
  have hfn : (Shim.loaded reals connects sends).pointer .open_ = none := rfl
  have hdbg : ∀ t : Shim, t.debugOpenPath env path = t := by
    intro t
    simp only [Shim.debugOpenPath, hdebug]
  rw [Shim.call, Shim.open_, hfn]
  simp only [Shim.openCommon, hon, hdbg, hv]
  rfl

/-- **Pass-through**: from a freshly loaded shim every foreign call of a run reaches its real
    function, exactly if the run does not begin with an `open` of a path that is no virtual
    node. -/
theorem pass_through_iff (hon : env.backendEnabled = true) (hdebug : nonEmpty env.debug = none)
    (hdlsym : ∀ fn, env.dlsym fn = true) (reals : List Outcome) (connects : List ConnectAnswer)
    (sends : List Int) (calls : List Call) :
    Transparent env (Session.loaded reals connects sends) calls ↔
      ¬∃ path flags mode rest, calls = .open_ path flags mode :: rest ∧ virtualNode path = none := by
  constructor
  · rintro ht ⟨path, flags, mode, rest, rfl, hv⟩
    have hf : (Call.open_ path flags mode).Foreign [] :=
      ⟨fun p hp => Option.some.inj hp ▸ hv, fun _ _ => List.not_mem_nil⟩
    have hpass := ht [] _ rest rfl hf
    have he := first_open_dropped hon hdebug reals connects sends hv flags mode
    change (Shim.loaded reals connects sends).PassesOn env _ at hpass
    rw [Shim.PassesOn, he, Shim.init_log] at hpass
    exact absurd (List.self_eq_append_right.mp hpass) (List.cons_ne_nil _ _)
  · intro hfirst before c after hcalls hf
    have hs : (run (Session.step env) (Session.loaded reals connects sends) before).Sound env :=
      run_inv step_sound (loaded_sound reals connects sends) before
    refine Shim.foreign_passesOn hon hdebug hdlsym hs.ready hs.within hf ?_
    rintro ⟨path, flags, mode, rfl⟩
    refine run_initDone _ fun hb => hfirst ⟨path, flags, mode, after, ?_, hf.1 path rfl⟩
    rw [hcalls, hb, List.nil_append]

end Runs

/-! ## 6. Two runs -/

/-- No variable is set, and `dlsym` finds everything. -/
def plainEnv : Env :=
  { backend := none, mode := none, debug := none, evdevSocket := none, dlsym := fun _ => true }

/-- A program that reads a file. -/
def fileReader : List Call :=
  [.stat (some (ascii "/etc/hosts")) 4096, .open_ (some (ascii "/etc/hosts")) 0 0,
    .read 3 8192 100, .close 3]

/-- Its calls after a `stat`, which initialises the shim, all arrive. -/
theorem pass_through_iff_fileReader :
    Transparent plainEnv (Session.loaded [] [] []) fileReader ↔
      ¬∃ path flags mode rest, fileReader = .open_ path flags mode :: rest ∧
        virtualNode path = none :=
  pass_through_iff (by decide) (by decide) (fun _ => rfl) [] [] [] fileReader

/-- **The first call of a process is an `open`**: it fails, and libc never hears of it. -/
theorem first_open_lost :
    ¬Transparent plainEnv (Session.loaded [⟨3, []⟩] [] [])
      [.open_ (some (ascii "/etc/hosts")) 0 0] := by
  intro h
  have hf : (Call.open_ (some (ascii "/etc/hosts")) 0 0).Foreign [] :=
    ⟨fun p hp => Option.some.inj hp ▸ by decide, fun _ _ => List.not_mem_nil⟩
  have hpass : (_ : List Event) = _ := h [] _ [] rfl hf
  exact absurd hpass (by decide)

end TermuxGamepad
