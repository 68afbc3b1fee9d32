/-
  File:      TermuxGamepad/Shim/Registry.lean
  Subject:   The table of virtual descriptors against what the application holds.

  `Registrar` runs the application's calls and keeps, from the calls alone, an entry for every
  virtual descriptor it holds: the flavour and the device descriptor of its own open, and the bytes
  its own reads took. A call leaves the table alone, connects a node, closes, or reads a joydev
  descriptor (`call_table`); each is what happens to the entries, except where the table is full
  (`registry_iff`).
-/
import Mathlib.Data.Option.Basic
import TermuxGamepad.Shim.Effects
import TermuxGamepad.Shim.JoyStream

namespace TermuxGamepad

open Wire

/-! ## 1. What the application holds -/

/-- An open virtual descriptor: its flavour, the descriptor the bridge sent when it was opened, and
    the bytes the shim itself has taken from the socket since, which is for a joydev one only. -/
structure Entry where
  joydev : Bool
  descriptor : DeviceDescriptor
  taken : List UInt8

/-- The table's record is that of the entry: the partial record is what the bytes leave over. -/
structure FakeFd.Shows (fake : FakeFd) (e : Entry) : Prop where
  joydev : fake.joydev = e.joydev
  descriptor : fake.descriptor = e.descriptor
  raw : fake.raw = inputEventCodec.remainder e.taken
  initializing : e.joydev = true →
    fake.initializing = (convertAll true (inputEventCodec.records e.taken)).1

/-- A session, and the entries of the descriptors its application holds. -/
structure Registrar where
  session : Session
  entries : Int → Option Entry

namespace Registrar

/-- Nothing has been called yet. -/
def loaded (reals : List Outcome) (connects : List ConnectAnswer) (sends : List Int) : Registrar :=
  { session := Session.loaded reals connects sends, entries := fun _ => none }

/-- The entries after a call on the shim. -/
def track (env : Env) (s : Shim) (entries : Int → Option Entry) (c : Call) : Int → Option Entry :=
  match c with
  | .close fd => Function.update entries fd none
  | .read fd buffer length =>
    let more := consumed fd ((s.read env fd buffer length).1.log.drop s.log.length)
    Function.update entries fd ((entries fd).map fun e => { e with taken := e.taken ++ more })
  | c =>
    match c.opens env with
    | some joydev =>
      let fd := (s.call env c).2.result
      if 0 ≤ fd then
        Function.update entries fd (some ⟨joydev, deviceDescriptorCodec.dec s.greeting, []⟩)
      else entries
    | none => entries

def step (env : Env) (r : Registrar) (c : Call) : Registrar :=
  { session := r.session.step env c, entries := track env r.session.shim r.entries c }

/-- A socket gets a number that is not in use, as POSIX has it. -/
def FreshSocket (env : Env) (r : Registrar) (c : Call) : Prop :=
  c.opens env ≠ none → r.session.shim.nextSocket ∉ r.session.opened

/-- A node that is opened finds room in the table. -/
def Room (env : Env) (r : Registrar) (c : Call) : Prop :=
  c.opens env ≠ none → 0 ≤ (r.session.shim.call env c).2.result →
    r.session.shim.fakeFds.length < maxFakeFds

/-- **The table is the registry**: one record for every descriptor the application holds, with the
    contents of its entry, no second one, and none for the others; and a close leaves the record of
    every other descriptor as it is. -/
structure Registered (env : Env) (r : Registrar) : Prop where
  distinct : r.session.shim.fds.Nodup
  found : ∀ fd, Option.Rel FakeFd.Shows (r.session.shim.findFakeFd fd) (r.entries fd)
  undisturbed : ∀ fd fd', fd' ≠ fd →
    (r.session.shim.close env fd).1.findFakeFd fd' = r.session.shim.findFakeFd fd'

instance (env : Env) (r : Registrar) (c : Call) : Decidable (r.FreshSocket env c) :=
  inferInstanceAs (Decidable (_ → _))

instance (env : Env) (r : Registrar) (c : Call) : Decidable (r.Room env c) :=
  inferInstanceAs (Decidable (_ → _ → _))

end Registrar

/-! ## 2. What a call does to the table -/

namespace Shim

variable {env : Env} {s t : Shim}

/-- Neither the table nor the answers to come from the bridge have changed. -/
structure Still (s t : Shim) : Prop where
  fakeFds : t.fakeFds = s.fakeFds
  connects : t.connects = s.connects

theorem Still.refl (s : Shim) : Still s s := ⟨rfl, rfl⟩

theorem Still.trans {u : Shim} (h : Still s t) (h' : Still t u) : Still s u :=
  ⟨h'.fakeFds.trans h.fakeFds, h'.connects.trans h.connects⟩

theorem Still.find (h : Still s t) (fd : Int) : t.findFakeFd fd = s.findFakeFd fd := by
  rw [findFakeFd, h.fakeFds, findFakeFd]

theorem init_still (s : Shim) : Still s (s.init env) := by
  unfold init
  split <;> exact ⟨rfl, rfl⟩

theorem callReal_still (s : Shim) (c : RealCall) : Still s (s.callReal c).1 := ⟨rfl, rfl⟩

theorem debugOpenPath_still (s : Shim) (path : Path) : Still s (s.debugOpenPath env path) := by
  unfold debugOpenPath
  split
  · split <;> exact ⟨rfl, rfl⟩
  · exact .refl s

theorem callOpen_still (s : Shim) (fn : Option RealFn) (path : Path) (flags mode : UInt32) :
    Still s (s.callOpen fn path flags mode).1 := by
  cases fn <;> exact ⟨rfl, rfl⟩

theorem uploadEffect_still (s : Shim) (fd : Int) (memory : List UInt8) :
    Still s (s.uploadEffect fd memory).1 := by
  unfold uploadEffect
  dsimp only
  split
  · exact .refl s
  · split <;> exact ⟨rfl, rfl⟩

theorem removeEffect_still (s : Shim) (fd id : Int) : Still s (s.removeEffect fd id).1 := by
  unfold removeEffect
  split <;> exact ⟨rfl, rfl⟩

theorem writeEvent_still (s : Shim) (fd : Int) (event : InputEvent) :
    Still s (s.writeEvent fd event).1 := by
  unfold writeEvent
  split
  · exact .refl s
  split
  · exact ⟨rfl, rfl⟩
  split
  · exact .refl s
  split <;> exact ⟨rfl, rfl⟩

theorem writeEvents_still (fd : Int) (events : List InputEvent) (s : Shim) :
    Still s (s.writeEvents fd events).1 := by
  induction events generalizing s with
  | nil => exact .refl s
  | cons event events ih =>
    have h := writeEvent_still s fd event
    unfold writeEvents
    dsimp only
    split
    · exact h.trans (ih _)
    · exact h

theorem readReal_still (s : Shim) (fd : Int) (buffer : UInt64) (length : Nat) :
    Still s (s.readReal fd buffer length).1 := by
  unfold readReal
  split
  · exact callReal_still ..
  · exact .refl s

/-- The node is connected, or it is none and the table is left alone. -/
def Connects (env : Env) (s : Shim) (node : Option Bool) (r : Shim × Outcome) : Prop :=
  (Still s r.1 ∧ node = none) ∨
    ∃ t flags joydev, Still s t ∧ node = some joydev ∧ r = t.connectDevice env flags joydev

theorem Connects.init {node : Option Bool} {r : Shim × Outcome}
    (h : Connects env (s.init env) node r) : Connects env s node r := by
  rcases h with ⟨h, hn⟩ | ⟨t, flags, joydev, h, hn, hr⟩
  · exact Or.inl ⟨(init_still s).trans h, hn⟩
  · exact Or.inr ⟨t, flags, joydev, (init_still s).trans h, hn, hr⟩

theorem openCommon_connects (s : Shim) (path : Path) (flags mode : UInt32)
    (fallback : Option RealFn) :
    Connects env s (if env.backendEnabled then virtualNode path else none)
      (s.openCommon env path flags mode fallback) := by
  have hinit := @init_still env s
  unfold openCommon
  dsimp only
  cases env.backendEnabled with
  | false => exact Or.inl ⟨hinit.trans (callOpen_still ..), rfl⟩
  | true =>
    have hd := hinit.trans (@debugOpenPath_still env (s.init env) path)
    simp only [Bool.not_true, Bool.false_eq_true, if_false, if_true]
    cases virtualNode path with
    | some joydev => exact Or.inr ⟨_, flags, joydev, hd, rfl, rfl⟩
    | none =>
      refine Or.inl ⟨?_, rfl⟩
      dsimp only
      split
      · exact hd
      · exact hd.trans (callOpen_still ..)

/-- The real function behind a path hook, or none. -/
theorem connects_node (s : Shim) (path : Path) (flags : UInt32) {r : Shim × Outcome}
    (hr : Still s r.1) :
    Connects env s (virtualNode path)
      (match virtualNode path with
        | some joydev => s.connectDevice env flags joydev
        | none => r) := by
  cases virtualNode path with
  | some joydev => exact Or.inr ⟨s, flags, joydev, .refl s, rfl, rfl⟩
  | none => exact Or.inl ⟨hr, rfl⟩

/-- **What a call can do to the table**: connect a node, take a descriptor out, change the record
    of the descriptor that is read, or nothing. -/
theorem call_table (s : Shim) (c : Call) :
    (Connects env s (c.opens env) (s.call env c) ∧ (∀ fd, c ≠ .close fd) ∧
        ∀ fd buffer length, c ≠ .read fd buffer length) ∨
      (∃ fd, c = .close fd) ∨ ∃ fd buffer length, c = .read fd buffer length := by
  have hreal : ∀ (t : Shim) (b : Bool) (rc : RealCall),
      Still t (if b then t.callReal rc else (t, Outcome.failed)).1 := by
    intro t b rc
    cases b
    · exact .refl t
    · exact callReal_still t rc
  cases c with
  | close fd => exact Or.inr (Or.inl ⟨fd, rfl⟩)
  | read fd buffer length => exact Or.inr (Or.inr ⟨fd, buffer, length, rfl⟩)
  | open_ path flags mode =>
    exact Or.inl ⟨openCommon_connects s path flags mode _, fun _ => Call.noConfusion,
      fun _ _ _ => Call.noConfusion⟩
  | open64 path flags mode =>
    exact Or.inl ⟨.init (openCommon_connects (s.init env) path flags mode _),
      fun _ => Call.noConfusion, fun _ _ _ => Call.noConfusion⟩
  | open2 path flags =>
    exact Or.inl ⟨.init (openCommon_connects (s.init env) path flags 0 _),
      fun _ => Call.noConfusion, fun _ _ _ => Call.noConfusion⟩
  | openat dirfd path flags mode =>
    refine Or.inl ⟨.init (connects_node _ path flags ?_), fun _ => Call.noConfusion,
      fun _ _ _ => Call.noConfusion⟩
    exact hreal ..
  | openat2 dirfd path flags =>
    refine Or.inl ⟨.init (connects_node _ path flags ?_), fun _ => Call.noConfusion,
      fun _ _ _ => Call.noConfusion⟩
    split
    · exact callReal_still ..
    · exact hreal ..
  | ioctl fd req arg memory =>
    refine Or.inl ⟨.init (Or.inl ⟨?_, rfl⟩), fun _ => Call.noConfusion, fun _ _ _ => Call.noConfusion⟩
    simp only [call, ioctl]
    split
    · split
      · exact .refl _
      split
      · exact uploadEffect_still ..
      split
      · exact removeEffect_still ..
      · exact .refl _
    · exact hreal ..
  | write fd buffer content length =>
    refine Or.inl ⟨.init (Or.inl ⟨?_, rfl⟩), fun _ => Call.noConfusion, fun _ _ _ => Call.noConfusion⟩
    simp only [call, write]
    split
    · exact hreal ..
    · split
      · exact .refl _
      · exact writeEvents_still ..
  | stat path output =>
    refine Or.inl ⟨.init (Or.inl ⟨?_, rfl⟩), fun _ => Call.noConfusion, fun _ _ _ => Call.noConfusion⟩
    simp only [call, stat]
    split
    · exact .refl _
    · exact hreal ..
  | stat64 path output =>
    refine Or.inl ⟨.init (Or.inl ⟨?_, rfl⟩), fun _ => Call.noConfusion, fun _ _ _ => Call.noConfusion⟩
    simp only [call, stat64]
    split
    · exact .refl _
    · split
      · exact callReal_still ..
      · exact hreal ..

/-! ## 3. Closing, opening, reading -/

/-- **A close** takes its descriptor out and leaves every other record as it is. -/
theorem close_find (hd : s.fds.Nodup) (fd fd' : Int) :
    (s.close env fd).1.findFakeFd fd' = if fd' = fd then none else s.findFakeFd fd' := by
  have hdist : Table.Distinct FakeFd.fd s.fakeFds := hd
  have hreleased : ((s.init env).releaseEffects fd).fakeFds = s.fakeFds := by
    rw [← (@init_still env s).fakeFds]
    unfold releaseEffects
    split
    · rfl
    · split <;> rfl
  have hclosed : (s.close env fd).1.fakeFds = Table.remove FakeFd.fd fd s.fakeFds := by
    rw [← hreleased]
    unfold close
    dsimp only
    split <;> rfl
  rw [findFakeFd, hclosed, Table.lookup_remove hdist]
  rfl

/-- The record of a node just opened. -/
def newFake (fd : Int) (joydev : Bool) (d : DeviceDescriptor) : FakeFd :=
  { fd := fd, joydev := joydev, initializing := joydev, raw := [], raw_lt := raw_empty,
    descriptor := d }

/-- A new descriptor comes into the table, if there is room. -/
theorem addFakeFd_find {fd : Int} (hfresh : s.findFakeFd fd = none) (hfd : 0 ≤ fd) (joydev : Bool)
    (d : DeviceDescriptor) (fd' : Int) :
    (s.addFakeFd fd joydev d).findFakeFd fd' =
      if s.fakeFds.length < maxFakeFds ∧ fd' = fd then some (newFake fd joydev d)
      else s.findFakeFd fd' := by
  unfold addFakeFd
  by_cases hroom : s.fakeFds.length < maxFakeFds
  · have hnot : ¬(fd < 0 ∨ (s.findFakeFd fd).isSome = true ∨ s.fakeFds.length ≥ maxFakeFds) := by
      rw [hfresh]
      simp only [Option.isSome_none, Bool.false_eq_true, false_or, not_or]
      omega
    rw [if_neg hnot]
    unfold findFakeFd at *
    dsimp only
    rw [Table.lookup_append]
    by_cases hc : fd' = fd
    · rw [if_pos hc.symm, if_pos ⟨hroom, hc⟩, hc, hfresh]
      rfl
    · rw [if_neg (fun e => hc e.symm), if_neg (fun h => hc h.2), Option.or_none]
  · rw [if_pos (Or.inr (Or.inr (Nat.not_lt.mp hroom))), if_neg (fun h => hroom h.1)]

/-- **An open that succeeds** has the descriptor the bridge sent it. -/
theorem connectDevice_opens {flags : UInt32} {joydev : Bool}
    (h : 0 ≤ (s.connectDevice env flags joydev).2.result) :
    ∃ t, Attempted s t ∧ 0 ≤ s.nextSocket ∧ s.connectDevice env flags joydev =
      (t.addFakeFd s.nextSocket joydev (deviceDescriptorCodec.dec s.greeting),
        { result := s.nextSocket, stored := [] }) := by
  have hs : ∀ cs, Attempted s { s with connects := cs } := fun _ => ⟨rfl, [], by simp⟩
  have hfail : ∀ {p : Prop}, 0 ≤ Outcome.failed.result → p := fun h => by cases h
  unfold connectDevice at h ⊢
  dsimp only at h ⊢
  unfold nextSocket greeting
  generalize s.connects.headD ⟨-1, -1, -1, []⟩ = answer at h ⊢
  split at h
  · exact hfail h
  rename_i hpath
  rw [if_neg hpath]
  split at h
  · exact hfail h
  rename_i hfd
  rw [if_neg hfd]
  split at h
  · exact hfail h
  rename_i hconnect
  rw [if_neg hconnect]
  split at h
  · exact hfail h
  rename_i hgood
  rw [if_neg hgood]
  have hc := (hs s.connects.tail).emit (e := .connect answer.socket
    ((nonEmpty env.evdevSocket).getD defaultSocket)) rfl
  have hq := hc.emit (e := .control answer.socket descriptorQuery answer.send) (by
    simp [Event.opening])
  refine ⟨_, Attempted.emit ?_ rfl, not_lt.mp hfd, rfl⟩
  split
  · exact hq.emit rfl
  · exact hq

/-- **What connecting a node does to the table.** -/
theorem connectDevice_find (hd : s.fds.Nodup) (hfresh : s.findFakeFd s.nextSocket = none)
    (flags : UInt32) (joydev : Bool) (fd' : Int) :
    (s.connectDevice env flags joydev).1.findFakeFd fd' =
      if 0 ≤ (s.connectDevice env flags joydev).2.result ∧ s.fakeFds.length < maxFakeFds ∧
          fd' = (s.connectDevice env flags joydev).2.result then
        some (newFake fd' joydev (deviceDescriptorCodec.dec s.greeting))
      else s.findFakeFd fd' := by
  have hsame : ∀ t, Attempted s t → t.fakeFds = s.fakeFds := by
    intro t ht
    rw [ht.same]
  have hfind : ∀ t, Attempted s t → ∀ fd, t.findFakeFd fd = s.findFakeFd fd := by
    intro t ht fd
    rw [findFakeFd, hsame t ht, findFakeFd]
  by_cases hresult : 0 ≤ (s.connectDevice env flags joydev).2.result
  · obtain ⟨t, ht, hfd, he⟩ := connectDevice_opens hresult
    rw [he, addFakeFd_find ((hfind t ht _).trans hfresh) hfd, hsame t ht, hfind t ht]
    by_cases hc : s.fakeFds.length < maxFakeFds ∧ fd' = s.nextSocket
    · rw [if_pos hc, if_pos ⟨hfd, hc⟩, hc.2]
    · rw [if_neg hc, if_neg fun h => hc h.2]
  · rw [if_neg fun h => hresult h.1]
    rcases @connectDevice_attempt env s flags joydev with ⟨t, ht, he⟩ | ⟨t, ht, he⟩ | ⟨t, d, -, hfd, he⟩
    · rw [he]
      exact hfind t ht fd'
    · have hdt : t.fds.Nodup := by
        rw [fds, hsame t ht]
        exact hd
      rw [he, close_find hdt, hfind t ht]
      split
      · rename_i hc
        rw [hc, hfresh]
      · rfl
    · rw [he] at hresult
      exact absurd hfd hresult

/-- The same after what leaves the table alone: the number the socket gets is not in use. -/
theorem Within.connect_found {opened : List Int} (h : s.Within opened)
    (hfresh : s.nextSocket ∉ opened) (ht : Still s t) (flags : UInt32) (joydev : Bool) (fd : Int) :
    (t.connectDevice env flags joydev).1.findFakeFd fd =
      if 0 ≤ (t.connectDevice env flags joydev).2.result ∧ s.fakeFds.length < maxFakeFds ∧
          fd = (t.connectDevice env flags joydev).2.result then
        some (newFake fd joydev (deviceDescriptorCodec.dec s.greeting))
      else s.findFakeFd fd := by
  have hsocket : t.nextSocket = s.nextSocket := by
    rw [nextSocket, ht.connects, nextSocket]
  have hgreeting : t.greeting = s.greeting := by
    rw [greeting, ht.connects, greeting]
  have hnew : t.findFakeFd t.nextSocket = none := by
    rw [hsocket, ht.find]
    exact findFakeFd_eq_none h hfresh
  have hd : t.fds.Nodup := by
    rw [fds, ht.fakeFds]
    exact h.distinct
  rw [connectDevice_find hd hnew, ht.fakeFds, hgreeting, ht.find]

/-- **A read of a joydev descriptor** changes its own record only, and not the device of that. -/
theorem read_find {fd : Int} {fake : FakeFd} (hfind : s.findFakeFd fd = some fake)
    (hjoy : fake.joydev = true) (buffer : UInt64) (length : Nat) :
    (∀ fake', (s.read env fd buffer length).1.findFakeFd fd = some fake' →
      fake'.descriptor = fake.descriptor) ∧
    ∀ fd', fd' ≠ fd → (s.read env fd buffer length).1.findFakeFd fd' = s.findFakeFd fd' := by
  have hinit := @init_findFakeFd env s
  have hread : s.read env fd buffer length = (s.init env).readJoydev fake buffer length := by
    unfold read
    simp only [hinit fd, hfind, hjoy, if_true]
  have hkey : fake.fd = fd := (Table.lookup_mem hfind).2
  rw [hread]
  rcases readJoydev_stored (s.init env) fake buffer length with he | ⟨capacity, hs, -⟩
  · rw [he]
    refine ⟨fun fake' h => ?_, fun fd' _ => hinit fd'⟩
    rw [hinit fd, hfind] at h
    rw [← Option.some.inj h]
  · obtain ⟨hfd, -⟩ := joyLoop_fd capacity (s.init env).reals fake []
    have hold : Table.lookup FakeFd.fd (joyLoop capacity (s.init env).reals fake []).fake.fd
        (s.init env).fakeFds = some fake := by
      rw [hfd, hkey]
      exact (hinit fd).trans hfind
    rw [hs]
    refine ⟨fun fake' h => ?_, fun fd' hne => ?_⟩
    · have hfound := Table.lookup_update hold
      rw [hfd, hkey] at hfound
      obtain rfl := Option.some.inj (hfound.symm.trans h)
      refine joyLoop_inv (P := fun f => f.descriptor = fake.descriptor) (fun f bytes h => ?_) capacity
        (s.init env).reals rfl []
      unfold FakeFd.take
      dsimp only
      split <;> exact h
    · exact (Table.lookup_update_ne (by rw [hfd, hkey]; exact hne)).trans (hinit fd')

/-- Reads of an evdev descriptor, and of one the table does not have, go to the caller's buffer. -/
theorem read_real {fd : Int} (h : ∀ fake, s.findFakeFd fd = some fake → fake.joydev = false)
    (buffer : UInt64) (length : Nat) :
    Still s (s.read env fd buffer length).1 ∧
      consumed fd ((s.read env fd buffer length).1.log.drop s.log.length) = [] := by
  have hinit := @init_findFakeFd env s
  have hreal : Still s ((s.init env).readReal fd buffer length).1 ∧
      consumed fd (((s.init env).readReal fd buffer length).1.log.drop s.log.length) = [] := by
    refine ⟨(init_still s).trans (readReal_still ..), ?_⟩
    unfold readReal
    split
    · rw [callReal_log, List.drop_left]
      rfl
    · rw [init_log, List.drop_length]
      rfl
  unfold read
  dsimp only
  rw [hinit fd]
  cases hfind : s.findFakeFd fd with
  | none => exact hreal
  | some fake =>
    dsimp only
    rw [if_neg (by rw [h fake hfind]; decide)]
    split
    · exact hreal
    · exact hreal

end Shim

/-! ## 4. One call -/

namespace Registrar

variable {env : Env} {r : Registrar} {c : Call}

/-- What every run keeps that meets the conditions. -/
structure Kept (env : Env) (r : Registrar) : Prop where
  sound : r.session.Sound env
  found : ∀ fd, Option.Rel FakeFd.Shows (r.session.shim.findFakeFd fd) (r.entries fd)

theorem Kept.registered (h : r.Kept env) : r.Registered env :=
  ⟨h.sound.within.distinct, h.found, fun fd fd' hne => by
    rw [Shim.close_find h.sound.within.distinct, if_neg hne]⟩

/-- The entries after a call that is neither a close nor a read. -/
theorem track_other (s : Shim) (entries : Int → Option Entry) (hclose : ∀ fd, c ≠ .close fd)
    (hread : ∀ fd buffer length, c ≠ .read fd buffer length) :
    track env s entries c =
      match c.opens env with
      | some joydev =>
        if 0 ≤ (s.call env c).2.result then
          Function.update entries (s.call env c).2.result
            (some ⟨joydev, deviceDescriptorCodec.dec s.greeting, []⟩)
        else entries
      | none => entries := by
  cases c with
  | close fd => exact absurd rfl (hclose fd)
  | read fd buffer length => exact absurd rfl (hread fd buffer length)
  | _ => rfl

/-- A new record shows its entry: nothing has been read. -/
theorem newFake_shows (fd : Int) (joydev : Bool) (d : DeviceDescriptor) :
    (Shim.newFake fd joydev d).Shows ⟨joydev, d, []⟩ := by
  obtain ⟨hrec, hrem⟩ := @Codec.records_of_lt _ inputEventCodec [] (by decide)
  exact ⟨rfl, rfl, hrem.symm, fun h => by rw [hrec]; exact h⟩

/-- **Connecting a node**: the number it gets is not in use. -/
theorem connect_found {t : Shim} {flags : UInt32} {joydev : Bool} (h : r.Kept env)
    (hfresh : r.FreshSocket env c) (ht : Shim.Still r.session.shim t)
    (hnode : c.opens env = some joydev)
    (he : r.session.shim.call env c = t.connectDevice env flags joydev) (fd : Int) :
    (r.session.shim.call env c).1.findFakeFd fd =
      if 0 ≤ (r.session.shim.call env c).2.result ∧ r.session.shim.fakeFds.length < maxFakeFds ∧
          fd = (r.session.shim.call env c).2.result then
        some (Shim.newFake fd joydev (deviceDescriptorCodec.dec r.session.shim.greeting))
      else r.session.shim.findFakeFd fd := by
  rw [he]
  exact h.sound.within.connect_found (hfresh (by rw [hnode]; exact Option.some_ne_none _)) ht flags
    joydev fd

/-- **Each call does to the table what it does to the entries.** -/
theorem step_kept (h : r.Kept env) (hfresh : r.FreshSocket env c) (hroom : r.Room env c) :
    (r.step env c).Kept env := by
  refine ⟨step_sound r.session c h.sound, fun fd' => ?_⟩
  have hd := h.sound.within.distinct
  show Option.Rel FakeFd.Shows ((r.session.shim.call env c).1.findFakeFd fd')
    (track env r.session.shim r.entries c fd')
  rcases @Shim.call_table env r.session.shim c with
    ⟨hconn, hclose, hread⟩ | ⟨fd, rfl⟩ | ⟨fd, buffer, length, rfl⟩
  · rw [track_other _ _ hclose hread]
    rcases hconn with ⟨hstill, hnode⟩ | ⟨t, flags, joydev, ht, hnode, he⟩
    · rw [hnode, hstill.find]
      exact h.found fd'
    · rw [connect_found h hfresh ht hnode he, hnode]
      dsimp only
      by_cases hresult : 0 ≤ (r.session.shim.call env c).2.result
      · have hlen := hroom (by rw [hnode]; exact Option.some_ne_none _) hresult
        rw [if_pos hresult]
        by_cases hfd : fd' = (r.session.shim.call env c).2.result
        · rw [if_pos ⟨hresult, hlen, hfd⟩, hfd, Function.update_self]
          exact .some (newFake_shows ..)
        · rw [if_neg fun hc => hfd hc.2.2, Function.update_of_ne hfd]
          exact h.found fd'
      · rw [if_neg fun hc => hresult hc.1, if_neg hresult]
        exact h.found fd'
  · show Option.Rel _ ((r.session.shim.close env fd).1.findFakeFd fd')
      (Function.update r.entries fd none fd')
    rw [Shim.close_find hd]
    by_cases hfd : fd' = fd
    · rw [if_pos hfd, hfd, Function.update_self]
      exact .none
    · rw [if_neg hfd, Function.update_of_ne hfd]
      exact h.found fd'
  · show Option.Rel _ ((r.session.shim.read env fd buffer length).1.findFakeFd fd')
      (Function.update r.entries fd ((r.entries fd).map fun e => _) fd')
    by_cases hjoy : ∃ fake, r.session.shim.findFakeFd fd = some fake ∧ fake.joydev = true
    · obtain ⟨fake, hfind, hjoydev⟩ := hjoy
      obtain ⟨hdesc, hothers⟩ := @Shim.read_find env _ fd fake hfind hjoydev buffer length
      by_cases hfd : fd' = fd
      · subst hfd
        have hold := h.found fd'
        rw [hfind] at hold
        rw [Function.update_self]
        generalize r.entries fd' = entry at hold ⊢
        obtain ⟨hold⟩ := hold
        rename_i e
        have hreads : Shim.Reads fd' r.session.shim e.taken
            (convertAll true (inputEventCodec.records e.taken)).2 :=
          ⟨fake, hfind, hjoydev, hold.raw, hold.initializing (hold.joydev ▸ hjoydev), rfl⟩
        obtain ⟨log, hlog, fake', hfind', hjoy', hreader⟩ := @Shim.read_reads env _ _ _ _ hreads buffer length
        rw [hfind', hlog, List.drop_left]
        exact .some ⟨hjoy'.trans (hjoydev.symm.trans hold.joydev),
          (hdesc fake' hfind').trans hold.descriptor, hreader.raw, fun _ => hreader.initializing⟩
      · rw [hothers fd' hfd, Function.update_of_ne hfd]
        exact h.found fd'
    · obtain ⟨hstill, hnothing⟩ := @Shim.read_real env r.session.shim fd (fun fake hfind => by
        cases hj : fake.joydev with
        | false => rfl
        | true => exact absurd ⟨fake, hfind, hj⟩ hjoy) buffer length
      have hsame : ∀ more : List UInt8, more = [] →
          Function.update r.entries fd ((r.entries fd).map fun e =>
            { e with taken := e.taken ++ more }) = r.entries := by
        rintro _ rfl
        refine Function.update_eq_self_iff.mpr ?_
        cases r.entries fd with
        | none => rfl
        | some e => exact congrArg some (congrArg (Entry.mk _ _) (List.append_nil _))
      rw [hsame _ hnothing, hstill.find]
      exact h.found fd'

/-- **A node that is opened while the table is full** is a descriptor nothing is known of. -/
theorem full_loses (h : r.Kept env) (hfresh : r.FreshSocket env c) (hroom : ¬r.Room env c) :
    ¬(r.step env c).Registered env := by
  intro hreg
  obtain ⟨hopens, hresult, hfull⟩ : c.opens env ≠ none ∧ 0 ≤ (r.session.shim.call env c).2.result ∧
      ¬r.session.shim.fakeFds.length < maxFakeFds := by
    unfold Room at hroom
    push Not at hroom
    exact ⟨hroom.1, hroom.2.1, Nat.not_lt.mpr hroom.2.2⟩
  have hfound := hreg.found (r.session.shim.call env c).2.result
  change Option.Rel _ ((r.session.shim.call env c).1.findFakeFd _)
    (track env r.session.shim r.entries c _) at hfound
  rcases @Shim.call_table env r.session.shim c with
    ⟨hconn, hclose, hread⟩ | ⟨fd, rfl⟩ | ⟨fd, buffer, length, rfl⟩
  · rcases hconn with ⟨-, hnode⟩ | ⟨t, flags, joydev, ht, hnode, he⟩
    · exact hopens hnode
    · have hsocket : (r.session.shim.call env c).2.result = r.session.shim.nextSocket := by
        rw [he] at hresult ⊢
        obtain ⟨u, -, -, hu⟩ := Shim.connectDevice_opens hresult
        rw [hu, Shim.nextSocket, ht.connects, Shim.nextSocket]
      have hnone : r.session.shim.findFakeFd (r.session.shim.call env c).2.result = none := by
        rw [hsocket]
        exact Shim.findFakeFd_eq_none h.sound.within (hfresh hopens)
      rw [connect_found h hfresh ht hnode he, if_neg fun hc => hfull hc.2.1, hnone,
        track_other _ _ hclose hread, hnode] at hfound
      dsimp only at hfound
      rw [if_pos hresult, Function.update_self] at hfound
      cases hfound
  · exact hopens rfl
  · exact hopens rfl

theorem loaded_kept (reals : List Outcome) (connects : List ConnectAnswer) (sends : List Int) :
    (loaded reals connects sends).Kept env :=
  ⟨loaded_sound reals connects sends, fun _ => .none⟩

end Registrar

/-! ## 5. Runs -/

/-- **The registry of virtual descriptors**: in every run the table is what the application holds,
    exactly if no node is opened while the table is full. -/
theorem registry_iff (env : Env) (reals : List Outcome) (connects : List ConnectAnswer)
    (sends : List Int) (calls : List Call)
    (hfresh : Throughout (Registrar.step env) (Registrar.FreshSocket env)
      (Registrar.loaded reals connects sends) calls) :
    (∀ before after, calls = before ++ after →
      (run (Registrar.step env) (Registrar.loaded reals connects sends) before).Registered env) ↔
    Throughout (Registrar.step env) (Registrar.Room env) (Registrar.loaded reals connects sends)
      calls :=
  throughout_iff (P := Registrar.Kept env) (fun _ h => h.registered)
    (fun _ _ h hf hr => Registrar.step_kept h hf hr)
    (fun _ _ h hf hr => Registrar.full_loses h hf hr) (Registrar.loaded_kept reals connects sends)
    hfresh

/-- Three nodes are opened, one of them closed, and a record is read in two pieces. -/
def threeNodes : List Call :=
  [.open_ (some fakeDevnode) 0 0, .open_ (some fakeJoydevNode) 0 0, .open_ (some fakeJoydevNode) 0 0,
    .read 4 4096 8, .close 3, .read 4 4096 8, .close 5]

theorem registry_iff_threeNodes :
    (∀ before after, threeNodes = before ++ after →
      (run (Registrar.step plainEnv) (Registrar.loaded
        [⟨1, List.replicate 20 0⟩, ⟨-1, []⟩, ⟨0, []⟩, ⟨1, List.replicate 30 0⟩, ⟨-1, []⟩, ⟨0, []⟩]
        [openAnswer 3, openAnswer 4, openAnswer 5] [16, 16]) before).Registered plainEnv) ↔
    Throughout (Registrar.step plainEnv) (Registrar.Room plainEnv) (Registrar.loaded
        [⟨1, List.replicate 20 0⟩, ⟨-1, []⟩, ⟨0, []⟩, ⟨1, List.replicate 30 0⟩, ⟨-1, []⟩, ⟨0, []⟩]
        [openAnswer 3, openAnswer 4, openAnswer 5] [16, 16]) threeNodes :=
  registry_iff plainEnv _ _ _ threeNodes (by decide +kernel)

/-- **The 129th descriptor**: the open succeeds, and the table has no record of it. -/
theorem registry_overflows :
    Throughout (Registrar.step plainEnv) (Registrar.FreshSocket plainEnv)
        (Registrar.loaded [] ((List.range 129).map fun k : Nat => openAnswer (3 + k)) [])
        (List.replicate 129 (.open_ (some fakeDevnode) 0 0)) ∧
      ¬(run (Registrar.step plainEnv)
        (Registrar.loaded [] ((List.range 129).map fun k : Nat => openAnswer (3 + k)) [])
        (List.replicate 129 (.open_ (some fakeDevnode) 0 0))).Registered plainEnv := by
  refine ⟨by decide +kernel, fun h => ?_⟩
  have hfound := h.found 131
  have hnone : (run (Registrar.step plainEnv)
      (Registrar.loaded [] ((List.range 129).map fun k : Nat => openAnswer (3 + k)) [])
      (List.replicate 129 (.open_ (some fakeDevnode) 0 0))).session.shim.findFakeFd 131 = none :=
    Option.isNone_iff_eq_none.mp (by decide +kernel)
  have hsome : ((run (Registrar.step plainEnv)
      (Registrar.loaded [] ((List.range 129).map fun k : Nat => openAnswer (3 + k)) [])
      (List.replicate 129 (.open_ (some fakeDevnode) 0 0))).entries 131).isSome = true := by
    decide +kernel
  rw [hnone] at hfound
  generalize (run (Registrar.step plainEnv) _ _).entries 131 = entry at hfound hsome
  cases hfound
  cases hsome

end TermuxGamepad
