/-
  File:      TermuxGamepad/Shim/Hooks.lean
  Subject:   The seven path hooks: which of them take a path for a virtual node, and when.

  A hook serves a path as a node of a flavour, or hands it on to its real function. The three
  hooks that go through `tg_open_common` look at the backend first, the other four do not
  (`path_hooks_iff`). The first `open` of a process has no real function yet: with the backend
  it gives up there, without it a null pointer is called.
-/
import TermuxGamepad.Shim.Effects

namespace TermuxGamepad

open Wire

/-! ## 1. The decision of a hook -/

/-- What a path hook does for a virtual node of the given flavour. -/
def Call.service (env : Env) (t : Shim) (joydev : Bool) : Call → Shim × Outcome
  | .open_ _ flags _ | .open64 _ flags _ | .open2 _ flags | .openat _ _ flags _
  | .openat2 _ _ flags => t.connectDevice env flags joydev
  | .stat _ output | .stat64 _ output => (t, Shim.fakeStat output joydev)
  | _ => (t, Outcome.failed)

/-- A line of the debug output. -/
def Event.isDebug : Event → Bool
  | .real (.write fd (.own _) _) _ => fd == 2
  | _ => false

namespace Shim

/-- Only debug output has been written since. -/
def Debugged (env : Env) (s t : Shim) : Prop :=
  ∃ path, t = s.init env ∨ t = (s.init env).debugOpenPath env path

/-- The hook hands the path on: a real call, after debug output. -/
def HandsOn (env : Env) (s : Shim) (c : Call) : Prop :=
  ∃ es, (∀ e ∈ es, e.isDebug = true) ∧
    (s.call env c).1.log = s.log ++ es ++ [.real c.real (s.call env c).2]

/-- The hook lets the path alone: it has no function to hand it to. -/
def GivesUp (env : Env) (s : Shim) (c : Call) : Prop :=
  s.pointer .open_ = none ∧ ∃ t, Debugged env s t ∧ s.call env c = (t, Outcome.failed)

/-- **The decision of a hook**: it serves the path as a node of a flavour, or it does not. -/
def Decides (env : Env) (s : Shim) (c : Call) : Option Bool → Prop
  | some joydev => ∃ t, Debugged env s t ∧ s.call env c = c.service env t joydev
  | none => s.HandsOn env c ∨ s.GivesUp env c

/-- **All hooks take one decision on the path**, and without the backend each performs only the
    real call. -/
structure HooksAgree (env : Env) (s : Shim) (path : Path) : Prop where
  agree : ∃ d, ∀ c : Call, c.path = some path → s.Decides env c d
  gated : env.backendEnabled = false → ∀ c : Call, c.path = some path → s.PassesOn env c

variable {env : Env} {s : Shim} {path : Path}

/-! ## 2. Handing on and serving -/

/-- The log has grown by debug output only. -/
def Chatted (s t : Shim) : Prop :=
  ∃ es, (∀ e ∈ es, e.isDebug = true) ∧ t.log = s.log ++ es

theorem Chatted.refl (s : Shim) : Chatted s s := ⟨[], by simp, (List.append_nil _).symm⟩

theorem Chatted.trans {t u : Shim} (h : Chatted s t) (h' : Chatted t u) : Chatted s u := by
  obtain ⟨es, hes, hlog⟩ := h
  obtain ⟨es', hes', hlog'⟩ := h'
  exact ⟨es ++ es', List.forall_mem_append.mpr ⟨hes, hes'⟩, by rw [hlog', hlog, List.append_assoc]⟩

theorem callReal_chatted (s : Shim) (content : List UInt8) (length : Nat) :
    Chatted s (s.callReal (.write 2 (.own content) length)).1 :=
  ⟨[.real (.write 2 (.own content) length) (s.callReal (.write 2 (.own content) length)).2],
    by simp [Event.isDebug], rfl⟩

theorem debugOpenPath_chatted (s : Shim) (path : Path) : Chatted s (s.debugOpenPath env path) := by
  unfold debugOpenPath
  split
  · split
    · exact (callReal_chatted ..).trans ((callReal_chatted ..).trans (callReal_chatted ..))
    · exact .refl s
  · exact .refl s

theorem Debugged.chatted {t : Shim} (h : Debugged env s t) : Chatted s t := by
  have hinit : Chatted s (s.init env) := ⟨[], by simp, by rw [init_log, List.append_nil]⟩
  obtain ⟨path, rfl | rfl⟩ := h
  · exact hinit
  · exact hinit.trans (debugOpenPath_chatted _ path)

/-- A real call after debug output is a call handed on. -/
theorem handsOn_of_real {t : Shim} {c : Call} (ht : Debugged env s t)
    (he : s.call env c = t.callReal c.real) : s.HandsOn env c := by
  obtain ⟨es, hes, hlog⟩ := ht.chatted
  refine ⟨es, hes, ?_⟩
  rw [he, ← hlog]
  rfl

/-- `tg_open_common` with a function to fall back to. -/
theorem openCommon_eq (s : Shim) (path : Path) (flags mode : UInt32) (fn : RealFn) :
    s.openCommon env path flags mode (some fn) =
      if env.backendEnabled then
        match virtualNode path with
        | some joydev => ((s.init env).debugOpenPath env path).connectDevice env flags joydev
        | none => ((s.init env).debugOpenPath env path).callReal (.openPath fn path flags mode)
      else (s.init env).callReal (.openPath fn path flags mode) := by
  unfold openCommon
  dsimp only
  cases env.backendEnabled with
  | false => rfl
  | true =>
    cases virtualNode path <;> rfl

/-- `tg_open_common` on a path that is to be handed on. -/
theorem openCommon_hands_on (s : Shim) (flags mode : UInt32) (fn : RealFn)
    (h : env.backendEnabled = false ∨ virtualNode path = none) :
    ∃ t, (t = s.init env ∨ t = (s.init env).debugOpenPath env path ∧ env.backendEnabled = true) ∧
      s.openCommon env path flags mode (some fn) = t.callReal (.openPath fn path flags mode) := by
  rw [openCommon_eq]
  cases hon : env.backendEnabled with
  | false => exact ⟨_, Or.inl rfl, rfl⟩
  | true =>
    have hv := h.resolve_left (by rw [hon]; decide)
    rw [hv]
    exact ⟨_, Or.inr ⟨rfl, rfl⟩, rfl⟩

/-- The function pointers of an initialised shim. -/
theorem pointer_some (hdlsym : ∀ fn, env.dlsym fn = true) (hr : Ready env s) (fn : RealFn) :
    (s.init env).pointer fn = some fn :=
  if_pos (by rw [init_resolved hr]; exact hdlsym fn)

/-- **A path that is no virtual node is handed on by every hook**, and by the hooks of
    `tg_open_common` every path without the backend. -/
theorem hands_on {c : Call} (hdlsym : ∀ fn, env.dlsym fn = true) (hr : Ready env s)
    (hpath : c.path = some path)
    (hfn : (∃ path flags mode, c = .open_ path flags mode) → s.pointer .open_ = some .open_)
    (hv : virtualNode path = none) :
    ∃ t, (t = s.init env ∨ t = (s.init env).debugOpenPath env path ∧ env.backendEnabled = true) ∧
      s.call env c = t.callReal c.real := by
  have hptr := pointer_some hdlsym hr
  have hres : ∀ fn, (s.init env).resolved fn = true := by
    intro fn
    rw [init_resolved hr]
    exact hdlsym fn
  cases c with
  | open_ path' flags mode =>
    obtain rfl := Option.some.inj hpath
    obtain ⟨t, ht, he⟩ := @openCommon_hands_on env path' s flags mode .open_ (Or.inr hv)
    exact ⟨t, ht, by rw [call, open_, hfn ⟨path', flags, mode, rfl⟩, he]; rfl⟩
  | open64 path' flags mode =>
    obtain rfl := Option.some.inj hpath
    obtain ⟨t, ht, he⟩ := @openCommon_hands_on env path' (s.init env) flags mode .open64 (Or.inr hv)
    rw [init_init] at ht
    exact ⟨t, ht, by rw [call, open64, hptr, Option.some_or, he]; rfl⟩
  | open2 path' flags =>
    obtain rfl := Option.some.inj hpath
    obtain ⟨t, ht, he⟩ := @openCommon_hands_on env path' (s.init env) flags 0 .open2 (Or.inr hv)
    rw [init_init] at ht
    exact ⟨t, ht, by rw [call, open2, hptr, Option.some_or, he]; rfl⟩
  | openat dirfd path' flags mode =>
    obtain rfl := Option.some.inj hpath
    refine ⟨_, Or.inl rfl, ?_⟩
    simp only [call, openat, hv, hres, if_true]
    rfl
  | openat2 dirfd path' flags =>
    obtain rfl := Option.some.inj hpath
    refine ⟨_, Or.inl rfl, ?_⟩
    simp only [call, openat2, hv, hres, if_true]
    rfl
  | stat path' output =>
    obtain rfl := Option.some.inj hpath
    refine ⟨_, Or.inl rfl, ?_⟩
    simp only [call, stat, hv, hres, if_true]
    rfl
  | stat64 path' output =>
    obtain rfl := Option.some.inj hpath
    refine ⟨_, Or.inl rfl, ?_⟩
    simp only [call, stat64, hv, hres, if_true]
    rfl
  | ioctl fd req arg memory => cases hpath
  | read fd buffer length => cases hpath
  | write fd buffer content length => cases hpath
  | close fd => cases hpath

/-- **A virtual node is served by every hook** while the backend is enabled. -/
theorem serves {c : Call} {joydev : Bool} (hon : env.backendEnabled = true)
    (hpath : c.path = some path) (hv : virtualNode path = some joydev) :
    ∃ t, Debugged env s t ∧ s.call env c = c.service env t joydev := by
  have hcommon : ∀ (u : Shim) (flags mode : UInt32) (fallback : Option RealFn),
      u.openCommon env path flags mode fallback =
        ((u.init env).debugOpenPath env path).connectDevice env flags joydev := by
    intro u flags mode fallback
    unfold openCommon
    simp only [hon, hv]
    rfl
  have hdebug : Debugged env s ((s.init env).debugOpenPath env path) := ⟨path, Or.inr rfl⟩
  have hplain : Debugged env s (s.init env) := ⟨path, Or.inl rfl⟩
  cases c with
  | open_ path' flags mode =>
    obtain rfl := Option.some.inj hpath
    exact ⟨_, hdebug, hcommon s flags mode _⟩
  | open64 path' flags mode =>
    obtain rfl := Option.some.inj hpath
    have he := hcommon (s.init env) flags mode
      (((s.init env).pointer .open64).or ((s.init env).pointer .open_))
    rw [init_init] at he
    exact ⟨_, hdebug, he⟩
  | open2 path' flags =>
    obtain rfl := Option.some.inj hpath
    have he := hcommon (s.init env) flags 0
      (((s.init env).pointer .open2).or ((s.init env).pointer .open_))
    rw [init_init] at he
    exact ⟨_, hdebug, he⟩
  | openat dirfd path' flags mode =>
    obtain rfl := Option.some.inj hpath
    exact ⟨_, hplain, by simp only [call, openat, hv]; rfl⟩
  | openat2 dirfd path' flags =>
    obtain rfl := Option.some.inj hpath
    exact ⟨_, hplain, by simp only [call, openat2, hv]; rfl⟩
  | stat path' output =>
    obtain rfl := Option.some.inj hpath
    exact ⟨_, hplain, by simp only [call, stat, hv]; rfl⟩
  | stat64 path' output =>
    obtain rfl := Option.some.inj hpath
    exact ⟨_, hplain, by simp only [call, stat64, hv]; rfl⟩
  | ioctl fd req arg memory => cases hpath
  | read fd buffer length => cases hpath
  | write fd buffer content length => cases hpath
  | close fd => cases hpath

/-! ## 3. Where the hooks part -/

/-- A `stat` of a virtual node is no real call, whatever the backend. -/
theorem stat_not_passed {joydev : Bool} (hv : virtualNode path = some joydev) (output : UInt64) :
    ¬s.PassesOn env (.stat path output) := by
  intro hpass
  have hcall : s.call env (.stat path output) = (s.init env, fakeStat output joydev) := by
    simp only [call, stat, hv]
  rw [PassesOn, hcall, init_log] at hpass
  exact absurd (List.self_eq_append_right.mp hpass) (List.cons_ne_nil _ _)

/-- The first `open` of a process finds no real function, and without the backend it calls that. -/
theorem first_open_not_passed (hoff : env.backendEnabled = false) (reals : List Outcome)
    (connects : List ConnectAnswer) (sends : List Int) (flags mode : UInt32) :
    ¬(loaded reals connects sends).PassesOn env (.open_ path flags mode) := by
  intro hpass
  have hcall : (loaded reals connects sends).call env (.open_ path flags mode) =
      (((loaded reals connects sends).init env).emit .nullCall, Outcome.failed) := by
    show (loaded reals connects sends).openCommon env path flags mode none = _
    unfold openCommon
    simp only [hoff]
    rfl
  rw [PassesOn, hcall] at hpass
  have hlast : [Event.nullCall] = [.real (Call.open_ path flags mode).real Outcome.failed] := by
    change ((loaded reals connects sends).init env).log ++ [.nullCall] = _ at hpass
    rw [init_log] at hpass
    exact List.append_cancel_left hpass
  cases hlast

/-- With the backend `open` lets such a path alone, before it has a function to hand it to. -/
theorem open_givesUp (hon : env.backendEnabled = true) (hv : virtualNode path = none)
    (hptr : s.pointer .open_ = none) (flags mode : UInt32) :
    s.GivesUp env (.open_ path flags mode) := by
  refine ⟨hptr, (s.init env).debugOpenPath env path, ⟨path, Or.inr rfl⟩, ?_⟩
  show s.openCommon env path flags mode (s.pointer .open_) = _
  unfold openCommon
  simp only [hptr, hon, hv]
  rfl

/-- **No hook serves a path that is no virtual node** while the backend is enabled, from the first
    call on. -/
theorem decides_none {c : Call} (hdlsym : ∀ fn, env.dlsym fn = true) (hr : Ready env s)
    (hon : env.backendEnabled = true) (hpath : c.path = some path) (hv : virtualNode path = none) :
    s.Decides env c none := by
  by_cases hfirst : (∃ path flags mode, c = .open_ path flags mode) ∧ s.pointer .open_ = none
  · obtain ⟨⟨path', flags, mode, rfl⟩, hptr⟩ := hfirst
    obtain rfl := Option.some.inj hpath
    exact Or.inr (open_givesUp hon hv hptr flags mode)
  · have hfn : (∃ path flags mode, c = .open_ path flags mode) → s.pointer .open_ = some .open_ := by
      intro hopen
      have hsome := fun hnone => hfirst ⟨hopen, hnone⟩
      unfold pointer at hsome ⊢
      split
      · rfl
      · rename_i hno
        exact absurd (if_neg hno) hsome
    obtain ⟨t, ht, he⟩ := hands_on hdlsym hr hpath hfn hv
    exact Or.inl (handsOn_of_real ⟨path, ht.imp id fun h => h.1⟩ he)

end Shim

/-! ## 4. Runs -/

/-- **All path hooks take the same decision**, and none interferes without the backend, exactly if
    the backend is enabled, or the path is no virtual node and the first call of the process is
    behind. From then on a path that is no virtual node is handed on by every hook. -/
theorem path_hooks_iff (env : Env) (hdlsym : ∀ fn, env.dlsym fn = true) (reals : List Outcome)
    (connects : List ConnectAnswer) (sends : List Int) (calls : List Call) (path : Path) :
    let s := (run (Session.step env) (Session.loaded reals connects sends) calls).shim
    (s.HooksAgree env path ↔
        env.backendEnabled = true ∨ virtualNode path = none ∧ calls ≠ []) ∧
      (virtualNode path = none → calls ≠ [] → ∀ c : Call, c.path = some path → s.HandsOn env c) := by
  have hloaded : (Session.loaded reals connects sends).Sound env := loaded_sound reals connects sends
  have hsound := run_inv step_sound hloaded calls
  intro s
  have hhands : virtualNode path = none → calls ≠ [] → ∀ c : Call, c.path = some path →
      ∃ t, (t = s.init env ∨ t = (s.init env).debugOpenPath env path ∧ env.backendEnabled = true) ∧
        s.call env c = t.callReal c.real := by
    intro hv hcalls c hc
    refine Shim.hands_on hdlsym hsound.ready hc (fun _ => ?_) hv
    -- after the first call `open` has found its function
    have hinit : s.init env = s := Shim.init_of_initDone (run_initDone _ hcalls)
    rw [← hinit]
    exact Shim.pointer_some hdlsym hsound.ready .open_
  have hon_hands : virtualNode path = none → calls ≠ [] → ∀ c : Call, c.path = some path →
      s.HandsOn env c := by
    intro hv hcalls c hc
    obtain ⟨t, ht, he⟩ := hhands hv hcalls c hc
    exact Shim.handsOn_of_real ⟨path, ht.imp id fun h => h.1⟩ he
  refine ⟨⟨?_, ?_⟩, hon_hands⟩
  · rintro ⟨-, hgated⟩
    cases hon : env.backendEnabled with
    | true => exact Or.inl rfl
    | false =>
      refine Or.inr ⟨?_, ?_⟩
      · by_contra hno
        obtain ⟨joydev, hv⟩ := Option.ne_none_iff_exists'.mp hno
        exact Shim.stat_not_passed hv 0 (hgated hon (.stat path 0) rfl)
      · rintro rfl
        exact Shim.first_open_not_passed hon reals connects sends 0 0
          (hgated hon (.open_ path 0 0) rfl)
  · intro h
    refine ⟨?_, fun hoff c hc => ?_⟩
    · cases hv : virtualNode path with
      | none =>
        rcases h with hon | ⟨-, hcalls⟩
        · exact ⟨none, fun c hc => Shim.decides_none hdlsym hsound.ready hon hc hv⟩
        · exact ⟨none, fun c hc => Or.inl (hon_hands hv hcalls c hc)⟩
      | some joydev =>
        have hon := h.resolve_right fun h => by
          rw [hv] at h
          cases h.1
        exact ⟨some joydev, fun c hc => Shim.serves hon hc hv⟩
    · obtain ⟨hv, hcalls⟩ := h.resolve_left fun hon => by
        rw [hon] at hoff
        cases hoff
      obtain ⟨t, rfl | ⟨-, hon⟩, he⟩ := hhands hv hcalls c hc
      · rw [Shim.PassesOn, he]
        exact Shim.callReal_log ..
      · rw [hoff] at hon
        cases hon

theorem path_hooks_iff_hosts :
    let s := (run (Session.step plainEnv) (Session.loaded [] [] []) fileReader).shim
    s.HooksAgree plainEnv (some (ascii "/etc/hosts")) ∧
      s.HandsOn plainEnv (.open_ (some (ascii "/etc/hosts")) 0 0) := by
  have h := path_hooks_iff plainEnv (fun _ => rfl) [] [] [] fileReader (some (ascii "/etc/hosts"))
  exact ⟨h.1.mpr (Or.inl (by decide)), h.2 (by decide) (by decide) _ rfl⟩

/-- **The backend is off**: `openat` connects to the bridge all the same. -/
theorem openat_ignores_backend :
    ¬(run (Session.step { plainEnv with backend := some (ascii "off") })
        (Session.loaded [] [openAnswer 3] []) fileReader).shim.HooksAgree
      { plainEnv with backend := some (ascii "off") } (some fakeDevnode) := by
  intro h
  have hpass : (_ : List Event) = _ := h.gated (by decide) (.openat (-100) (some fakeDevnode) 0 0) rfl
  exact absurd hpass (by decide +kernel)

end TermuxGamepad
