/-
  File:      TermuxGamepad/Bridge/Decoder.lean
  Subject:   The control bytes of one client, however `recv` cuts them.

  `decodeWhole` is the decoder as its purpose asks for it: all the bytes at once, cut into
  messages, executed in order up to the first one that is rejected. The code keeps a fragment in
  `control` from call to call instead. `control` is the only thing the two disagree on in
  between, and no command looks at it: every operation commutes with `setControl`.
-/
import TermuxGamepad.Bridge.Rounds

namespace TermuxGamepad

open Wire

namespace Bridge

/-! ## 1. The control buffer apart -/

/-- The bridge with other bytes in the control buffer of a slot. -/
def setControl (b : Bridge) (i : Slot) (x : List UInt8) : Bridge :=
  b.setClient i { b.clients i with control := x }

variable {b : Bridge} {i : Slot} {x y : List UInt8}

@[simp] theorem setControl_self : ((b.setControl i x).clients i) =
    { b.clients i with control := x } := setClient_self ..

@[simp] theorem setControl_setControl : (b.setControl i x).setControl i y = b.setControl i y := by
  simp [setControl, setClient]

theorem setControl_control (b : Bridge) (i : Slot) : b.setControl i (b.clients i).control = b := by
  simp [setControl, setClient]

/-- The same bridge up to the control buffer of a slot. -/
def Alike (i : Slot) (b b' : Bridge) : Prop := ∃ x, b' = b.setControl i x

theorem Alike.refl (i : Slot) (b : Bridge) : Alike i b b := ⟨_, (setControl_control b i).symm⟩

theorem setControl_alike (b : Bridge) (i : Slot) (x : List UInt8) : Alike i b (b.setControl i x) :=
  ⟨x, rfl⟩

theorem emitFor_setControl (b : Bridge) (i : Slot) (x : List UInt8) (e : Conn → Out) :
    (b.setControl i x).emitFor i e = (b.emitFor i e).setControl i x := by
  have h : ((b.setControl i x).clients i).fd = (b.clients i).fd := by rw [setControl_self]
  cases hfd : (b.clients i).fd with
  | none => rw [emitFor_none hfd, emitFor_none (h.trans hfd)]
  | some c =>
    rw [emitFor_some hfd, emitFor_some (h.trans hfd)]
    rfl

/-- The clients' table with other bytes in one control buffer. -/
def editControl (i : Slot) (x : List UInt8) (clients : Slot → Client) : Slot → Client :=
  Function.update clients i { clients i with control := x }

theorem editControl_ne {clients : Slot → Client} {j : Slot} (h : j ≠ i) :
    editControl i x clients j = clients j := Function.update_of_ne h ..

theorem editControl_update_ne (clients : Slot → Client) {j : Slot} (h : j ≠ i) (c : Client) :
    editControl i x (Function.update clients j c) = Function.update (editControl i x clients) j c := by
  unfold editControl
  rw [Function.update_of_ne (Ne.symm h), Function.update_comm h]

/-- The scan of `update_rumble` looks at no control buffer. -/
def RumbleScan.edit (i : Slot) (x : List UInt8) (s : RumbleScan) : RumbleScan :=
  { s with clients := editControl i x s.clients }

theorem scanRumble_edit (now : Nat) (i : Slot) (x : List UInt8) (s : RumbleScan) (j : Slot) :
    scanRumble now (s.edit i x) j = (scanRumble now s j).edit i x := by
  by_cases h : j = i
  · subst h
    have hj : (s.edit j x).clients j = { s.clients j with control := x } := Function.update_self ..
    unfold scanRumble
    simp only [hj]
    split
    · rfl
    split
    · simp [RumbleScan.edit, editControl]
    · rfl
  · have hj : (s.edit i x).clients j = s.clients j := editControl_ne h
    unfold scanRumble
    simp only [hj]
    split
    · rfl
    split
    · simp only [RumbleScan.edit, editControl_update_ne _ h]
    · rfl

theorem scanClients_setControl (b : Bridge) (i : Slot) (x : List UInt8) (now : Nat) :
    (b.setControl i x).scanClients now = (b.scanClients now).edit i x :=
  sweep_comm (g := RumbleScan.edit i x) (scanRumble_edit now i x)
    { clients := b.clients, low := 0, high := 0, longestRemaining := 0 }

theorem sendLorieRumble_setControl (b : Bridge) (low high : UInt16) (d : UInt32) :
    (b.setControl i x).sendLorieRumble low high d =
      (b.sendLorieRumble low high d).setControl i x := by
  have hcan : (b.setControl i x).canRumble = b.canRumble := rfl
  unfold sendLorieRumble
  rw [hcan]
  split
  · rfl
  · split <;> rfl

theorem decideRumble_setControl (b : Bridge) (s : RumbleScan) (force : Bool) :
    (b.setControl i x).decideRumble (s.edit i x) force =
      (b.decideRumble s force).setControl i x := by
  have hlow : (b.setControl i x).activeRumbleLow = b.activeRumbleLow := rfl
  have hhigh : (b.setControl i x).activeRumbleHigh = b.activeRumbleHigh := rfl
  unfold decideRumble
  simp only [RumbleScan.edit, hlow, hhigh, sendLorieRumble_setControl]
  split <;> split <;> rfl

theorem held_setControl (b : Bridge) (i : Slot) (x : List UInt8) :
    (b.setControl i x).held = b.held := by
  have hj : ∀ j, ((b.setControl i x).clients j).fd = (b.clients j).fd ∧
      ((b.setControl i x).clients j).toRumble = (b.clients j).toRumble := by
    intro j
    by_cases h : j = i
    · subst h
      simp
    · simp [setControl, h]
  unfold held
  simp only [(hj _).1, (hj _).2]

theorem updateRumble_setControl (b : Bridge) (i : Slot) (x : List UInt8) (force : Bool) :
    (b.setControl i x).updateRumble force = (b.updateRumble force).setControl i x := by
  have hclock : (b.setControl i x).monotonicMs =
      (b.monotonicMs.1, b.monotonicMs.2.setControl i x) := rfl
  have hscan := scanClients_setControl b.monotonicMs.2 i x b.monotonicMs.1
  have hdecide := decideRumble_setControl (i := i) (x := x) { b.monotonicMs.2 with
    clients := (b.monotonicMs.2.scanClients b.monotonicMs.1).clients }
    (b.monotonicMs.2.scanClients b.monotonicMs.1) force
  have hclients : { b.monotonicMs.2.setControl i x with
      clients := ((b.monotonicMs.2.scanClients b.monotonicMs.1).edit i x).clients } =
      ({ b.monotonicMs.2 with
        clients := (b.monotonicMs.2.scanClients b.monotonicMs.1).clients } : Bridge).setControl i x :=
    rfl
  unfold updateRumble
  simp only [hclock, hscan, held_setControl]
  rw [hclients, hdecide]
  rfl

/-! ## 2. Operations on the client -/

/-- A closed record has no control bytes to differ in. -/
theorem closeClient_setControl (b : Bridge) (i : Slot) (x : List UInt8) :
    (b.setControl i x).closeClient i = b.closeClient i := by
  have hon : ((b.setControl i x).clients i).toRumble = (b.clients i).toRumble := by
    rw [setControl_self]
  have hfree : ((b.emitFor i .closed).setControl i x).setClient i Client.free =
      (b.emitFor i .closed).setClient i Client.free := by
    simp [setControl, setClient]
  unfold closeClient
  simp only [hon, emitFor_setControl, hfree]

theorem flushClient_setControl (b : Bridge) (i : Slot) (x : List UInt8) :
    (b.setControl i x).flushClient i = ((b.flushClient i).1.setControl i x, (b.flushClient i).2) := by
  unfold flushClient
  simp only [setControl_self]
  cases hfd : (b.clients i).fd with
  | none => rfl
  | some c =>
    by_cases hok : (flushLoop b.sends (b.clients i).output []).ok = true <;>
      simp [setControl, setClient, emit, hok]

theorem queueBytes_setControl (b : Bridge) (i : Slot) (x : List UInt8) (m : Message) :
    (b.setControl i x).queueBytes i m =
      ((b.queueBytes i m).1.setControl i x, (b.queueBytes i m).2) := by
  unfold queueBytes
  simp only [setControl_self]
  cases hfd : (b.clients i).fd with
  | none => rfl
  | some c =>
    dsimp only
    split
    · rfl
    · rw [← flushClient_setControl]
      simp [setControl, setClient, emit]

theorem queueOrClose_alike (b : Bridge) (i : Slot) (x : List UInt8) (m : Message) :
    Alike i (b.queueOrClose i m) ((b.setControl i x).queueOrClose i m) := by
  unfold queueOrClose
  simp only [queueBytes_setControl]
  split
  · exact setControl_alike ..
  · rw [closeClient_setControl]
    exact .refl ..

theorem appendRecords_setControl (records : List (UInt16 × UInt16 × Int)) (b : Bridge)
    (evs : List InputEvent) :
    appendRecords (b.setControl i x, evs) records =
      ((appendRecords (b, evs) records).1.setControl i x, (appendRecords (b, evs) records).2) := by
  induction records generalizing b evs with
  | nil => rfl
  | cons r records ih => exact ih b.timestamp.2 _

theorem sendSnapshot_alike (b : Bridge) (i : Slot) (x : List UInt8) :
    Alike i (b.sendSnapshot i) ((b.setControl i x).sendSnapshot i) := by
  have hstate : (b.setControl i x).state = b.state := rfl
  unfold sendSnapshot
  simp only [hstate, appendRecords_setControl]
  exact queueOrClose_alike ..

/-- Two results that are the same but for the control buffer. -/
def AlikeResult (i : Slot) (r r' : Bridge × Bool) : Prop := Alike i r.1 r'.1 ∧ r'.2 = r.2

theorem setRumble_setControl (b : Bridge) (i : Slot) (x : List UInt8) (r : Rumble) :
    (b.setControl i x).setRumble i r = (b.setRumble i r).setControl i x := by
  simp [setRumble, setControl, setClient]

theorem setKind_setControl (b : Bridge) (i : Slot) (x : List UInt8) (k : ClientKind) :
    (b.setControl i x).setKind i k = (b.setKind i k).setControl i x := by
  simp [setKind, setControl, setClient]

/-- **No command looks at the control buffer.** -/
theorem handleCommand_alike (b : Bridge) (i : Slot) (x : List UInt8) (m : ControlMessage) :
    AlikeResult i (b.handleCommand i m) ((b.setControl i x).handleCommand i m) := by
  have hclock : (b.setControl i x).monotonicMs =
      (b.monotonicMs.1, b.monotonicMs.2.setControl i x) := rfl
  have hdesc : (b.setControl i x).deviceDescriptor = b.deviceDescriptor := rfl
  have hmsg : ∀ action, (b.setControl i x).hotplugMessage action = b.hotplugMessage action :=
    fun _ => rfl
  unfold handleCommand
  simp only [hclock, hdesc, hmsg, setRumble_setControl, setKind_setControl,
    updateRumble_setControl, queueBytes_setControl, emitFor_setControl]
  split
  · exact ⟨setControl_alike .., rfl⟩
  split
  · exact ⟨setControl_alike .., rfl⟩
  split
  · split
    · exact ⟨setControl_alike .., rfl⟩
    · have hp : ∀ b' : Bridge, (b'.setControl i x).deviceDescriptor = b'.deviceDescriptor :=
        fun _ => rfl
      rw [hp]
      split
      · exact ⟨sendSnapshot_alike .., rfl⟩
      · exact ⟨setControl_alike .., rfl⟩
  split
  · exact ⟨setControl_alike .., rfl⟩
  · exact ⟨setControl_alike .., rfl⟩

/-! ## 3. Messages in order -/

/-- The record with one more message handled. -/
def noted (c : Client) (m : ControlMessage) (d : DeviceDescriptor) : Client :=
  { c with commands := c.commands ++ [(m, d)] }

/-- Magic and version of a message. -/
def wellHeaded (m : ControlMessage) : Bool := m.magic == controlMagic && m.version == controlVersion

/-- One message: rejected for its header, or handled. -/
def execute (b : Bridge) (i : Slot) (m : ControlMessage) : Bridge × Bool :=
  if !wellHeaded m then (b.emitFor i .invalid, false)
  else (b.setClient i (noted (b.clients i) m b.deviceDescriptor)).handleCommand i m

/-- Messages in order, up to the first that fails, and as long as the client is there. -/
def executeAll (i : Slot) : Bridge → List ControlMessage → Bridge × Bool
  | b, [] => (b, true)
  | b, m :: ms =>
    if (b.clients i).fd.isNone then (b, true)
    else if (b.execute i m).2 then executeAll i (b.execute i m).1 ms else b.execute i m

theorem executeAll_gone (h : (b.clients i).fd = none) (ms : List ControlMessage) :
    executeAll i b ms = (b, true) := by
  cases ms with
  | nil => rfl
  | cons m ms => rw [executeAll, h, Option.isNone_none, if_pos rfl]

theorem executeAll_append (b : Bridge) (ms ms' : List ControlMessage) :
    executeAll i b (ms ++ ms') =
      if (executeAll i b ms).2 then executeAll i (executeAll i b ms).1 ms' else executeAll i b ms := by
  induction ms generalizing b with
  | nil => rfl
  | cons m ms ih =>
    rw [List.cons_append, executeAll, executeAll]
    by_cases hfd : (b.clients i).fd = none
    · simp [hfd, executeAll_gone]
    have hthere : ¬ (b.clients i).fd.isNone = true := by simpa using hfd
    simp only [if_neg hthere]
    by_cases hok : (b.execute i m).2 = true
    · simp only [if_pos hok]
      exact ih _
    · simp only [if_neg hok]

theorem execute_alike (b : Bridge) (i : Slot) (x : List UInt8) (m : ControlMessage) :
    AlikeResult i (b.execute i m) ((b.setControl i x).execute i m) := by
  have hnoted : (b.setControl i x).setClient i
      (noted ((b.setControl i x).clients i) m (b.setControl i x).deviceDescriptor) =
      (b.setClient i (noted (b.clients i) m b.deviceDescriptor)).setControl i x := by
    simp [setControl, setClient, noted]
  unfold execute
  split
  · rw [emitFor_setControl]
    exact ⟨setControl_alike .., rfl⟩
  · rw [hnoted]
    exact handleCommand_alike ..

theorem Alike.fd {b' : Bridge} (h : Alike i b b') : (b'.clients i).fd = (b.clients i).fd := by
  obtain ⟨x, rfl⟩ := h
  rw [setControl_self]

/-- Alike bridges are equal once their control buffers are. -/
theorem Alike.eq {b' : Bridge} (h : Alike i b b') :
    b' = b.setControl i (b'.clients i).control := by
  obtain ⟨x, rfl⟩ := h
  rw [setControl_self]

theorem executeAll_alike (b : Bridge) (i : Slot) (x : List UInt8) (ms : List ControlMessage) :
    AlikeResult i (executeAll i b ms) (executeAll i (b.setControl i x) ms) := by
  induction ms generalizing b x with
  | nil => exact ⟨setControl_alike .., rfl⟩
  | cons m ms ih =>
    have hfd : ((b.setControl i x).clients i).fd = (b.clients i).fd := by rw [setControl_self]
    obtain ⟨hstate, hok⟩ := execute_alike b i x m
    rw [executeAll, executeAll, hfd, hok]
    split
    · exact ⟨setControl_alike .., rfl⟩
    split
    · obtain ⟨x', hx'⟩ := hstate
      rw [hx']
      exact ih ..
    · exact ⟨hstate, hok⟩

theorem execute_stays (m : ControlMessage) (hok : (b.execute i m).2 = true) :
    (((b.execute i m).1.clients i).fd = none ∧ ((b.execute i m).1.clients i).control = []) ∨
      (((b.execute i m).1.clients i).fd = (b.clients i).fd ∧
        ((b.execute i m).1.clients i).control = (b.clients i).control) := by
  unfold execute at hok ⊢
  split at hok
  · cases hok
  · rename_i hhead
    rw [if_neg hhead]
    rcases (handleCommand_handled _ i m hok).stays with h | ⟨h1, h2⟩
    · exact Or.inl ⟨congrArg Link.fd h, congrArg Link.control h⟩
    · rw [setClient_self] at h1 h2
      exact Or.inr ⟨h1, h2⟩

/-- A client that is gone after its messages left an empty control buffer. -/
theorem executeAll_freed (ms : List ControlMessage) (hfd : (b.clients i).fd ≠ none)
    (hok : (executeAll i b ms).2 = true) (hgone : ((executeAll i b ms).1.clients i).fd = none) :
    ((executeAll i b ms).1.clients i).control = [] := by
  induction ms generalizing b with
  | nil => exact absurd hgone hfd
  | cons m ms ih =>
    rw [executeAll, if_neg (by simpa using hfd)] at hok hgone ⊢
    split at hok
    · rename_i hr
      rw [if_pos hr] at hgone ⊢
      rcases execute_stays m hr with ⟨h1, h2⟩ | ⟨h1, _⟩
      · rw [executeAll_gone h1]
        exact h2
      · exact ih (h1 ▸ hfd) hok hgone
    · rename_i hr
      exact absurd hok hr

theorem messageLoop_nil (h : (b.clients i).control = []) (fuel : Nat) :
    messageLoop fuel b i = (b, true) := by
  cases fuel with
  | zero => rfl
  | succ fuel =>
    unfold messageLoop
    simp only [h]
    exact if_pos (by decide)

/-- The client is gone with an empty control buffer, or is there with these bytes in it. -/
def Leaves (i : Slot) (b : Bridge) (rest : List UInt8) : Prop :=
  ((b.clients i).fd = none ∧ (b.clients i).control = []) ∨
    ((b.clients i).fd ≠ none ∧ (b.clients i).control = rest)

/-- **The message loop executes the whole messages in `control` and leaves the rest.** -/
theorem messageLoop_eq (fuel : Nat) (b : Bridge) (i : Slot) (s : List UInt8)
    (hfuel : s.length ≤ fuel) (hfd : (b.clients i).fd ≠ none) :
    AlikeResult i (executeAll i b (controlMessageCodec.records s))
        (messageLoop fuel (b.setControl i s) i) ∧
      ((messageLoop fuel (b.setControl i s) i).2 = true →
        Leaves i (messageLoop fuel (b.setControl i s) i).1 (controlMessageCodec.remainder s)) := by
  induction fuel generalizing b s with
  | zero =>
    obtain rfl := List.length_eq_zero_iff.mp (Nat.le_zero.mp hfuel)
    refine ⟨⟨setControl_alike .., rfl⟩, fun _ => Or.inr ?_⟩
    show ((b.setControl i []).clients i).fd ≠ none ∧ ((b.setControl i []).clients i).control = _
    rw [setControl_self]
    exact ⟨hfd, rfl⟩
  | succ fuel ih =>
    have htake : (b.setControl i s).setClient i (takeMessage ((b.setControl i s).clients i)
        (controlMessageCodec.dec s) (b.setControl i s).deviceDescriptor) =
        (b.setClient i (noted (b.clients i) (controlMessageCodec.dec s)
          b.deviceDescriptor)).setControl i (s.drop 16) := by
      simp [setControl, setClient, noted, takeMessage]
    have hcontrol : ((b.setControl i s).clients i).control = s := by rw [setControl_self]
    unfold messageLoop
    simp only [hcontrol, htake]
    split
    · rename_i hlt
      obtain ⟨hrec, hrem⟩ := controlMessageCodec.records_of_lt hlt
      rw [hrec, hrem]
      refine ⟨⟨setControl_alike .., rfl⟩, fun _ => Or.inr ⟨?_, hcontrol⟩⟩
      rw [setControl_self]
      exact hfd
    rename_i hge
    obtain ⟨hrec, hrem⟩ := controlMessageCodec.records_of_le (by decide) (Nat.not_lt.mp hge)
    have hlen : (s.drop 16).length ≤ fuel := by
      rw [List.length_drop]
      omega
    rw [hrec, hrem, executeAll, if_neg (by simpa using hfd)]
    generalize controlMessageCodec.dec s = m at htake ⊢
    by_cases hhead : wellHeaded m = true
    · have hbad : ¬ (m.magic != controlMagic || m.version != controlVersion) = true := by
        simpa [wellHeaded] using hhead
      have hexec : b.execute i m =
          (b.setClient i (noted (b.clients i) m b.deviceDescriptor)).handleCommand i m := by
        rw [execute, hhead]
        rfl
      have halike := handleCommand_alike
        (b.setClient i (noted (b.clients i) m b.deviceDescriptor)) i (s.drop 16) m
      rw [← hexec] at halike
      rw [if_neg hbad, halike.2]
      by_cases hok : (b.execute i m).2 = true
      · rw [if_pos hok, if_pos hok]
        have hstays := (handleCommand_handled _ i m (halike.2.trans hok)).stays
        rw [setControl_self] at hstays
        generalize ((b.setClient i (noted (b.clients i) m b.deviceDescriptor)).setControl i
          (s.drop 16)).handleCommand i m = r at halike hstays ⊢
        rcases hstays with hfree | ⟨hsame, hctl⟩
        · have hgone : (r.1.clients i).fd = none := congrArg Link.fd hfree
          rw [messageLoop_nil (congrArg Link.control hfree), executeAll_gone (halike.1.fd ▸ hgone)]
          exact ⟨⟨halike.1, rfl⟩, fun _ => Or.inl ⟨hgone, congrArg Link.control hfree⟩⟩
        · have hr : r.1 = (b.execute i m).1.setControl i (s.drop 16) := by
            rw [halike.1.eq, hctl]
          have hthere : ((b.execute i m).1.clients i).fd ≠ none := by
            rw [← halike.1.fd, hsame, setClient_self]
            exact hfd
          rw [hr]
          exact ih (b.execute i m).1 (s.drop 16) hlen hthere
      · rw [if_neg hok, if_neg hok]
        exact ⟨halike, fun h => absurd (halike.2.symm.trans h) hok⟩
    · have hbad : (m.magic != controlMagic || m.version != controlVersion) = true := by
        simp only [wellHeaded, Bool.and_eq_true, beq_iff_eq, not_and] at hhead
        simp only [Bool.or_eq_true, bne_iff_ne]
        tauto
      have hexec : b.execute i m = (b.emitFor i .invalid, false) := by
        rw [execute, Bool.eq_false_iff.mpr hhead]
        rfl
      rw [if_pos hbad, hexec, emitFor_setControl]
      exact ⟨⟨setControl_alike .., rfl⟩, fun h => by cases h⟩

/-! ## 4. The whole string -/

/-- A message the decoder accepts: its header is right and its command is known. -/
def goodMessage (m : ControlMessage) : Bool :=
  wellHeaded m && (m.command == controlRumble || m.command == controlStopRumble ||
    m.command == controlQueryDescriptor || m.command == controlMonitor)

/-- **The decoder with all bytes at hand.** The messages before the first bad one are executed; a
    bad one, or a reply that cannot be queued, ends the client; else the remainder is kept. -/
def decodeWhole (b : Bridge) (i : Slot) (bytes : List UInt8) : Bridge :=
  if (b.clients i).fd.isNone then b
  else
    let stream := (b.clients i).control ++ bytes
    let messages := controlMessageCodec.records stream
    let good := messages.takeWhile goodMessage
    let r := executeAll i b good
    if !r.2 then r.1.closeClient i
    else if (r.1.clients i).fd.isNone then r.1
    else if good.length < messages.length then (r.1.emitFor i .invalid).closeClient i
    else r.1.setControl i (controlMessageCodec.remainder stream)

/-- What is left of the client once its messages are executed. -/
def settled (i : Slot) (r : Bridge × Bool) (rest : List UInt8) : Bridge :=
  if !r.2 then r.1.closeClient i
  else if (r.1.clients i).fd.isNone then r.1
  else r.1.setControl i rest

theorem settled_alike {r r' : Bridge × Bool} (h : AlikeResult i r r')
    (hgone : r.2 = true → (r.1.clients i).fd = none →
      (r.1.clients i).control = [] ∧ (r'.1.clients i).control = []) (rest : List UInt8) :
    settled i r' rest = settled i r rest := by
  obtain ⟨⟨x, hx⟩, hok⟩ := h
  have hfd : (r'.1.clients i).fd = (r.1.clients i).fd := by rw [hx, setControl_self]
  unfold settled
  rw [hok, hfd]
  split
  · rw [hx, closeClient_setControl]
  split
  · rename_i hok' hnone
    obtain ⟨h1, h2⟩ := hgone (by simpa using hok') (by simpa using hnone)
    have hxnil : x = [] := by
      rw [hx, setControl_self] at h2
      exact h2
    rw [hx, hxnil, ← h1, setControl_control]
  · rw [hx, setControl_setControl]

/-- Closing forgets what was noted. -/
theorem closeClient_noted (b : Bridge) (i : Slot) (m : ControlMessage) (d : DeviceDescriptor) :
    ((b.setClient i (noted (b.clients i) m d)).emitFor i .invalid).closeClient i =
      (b.emitFor i .invalid).closeClient i := by
  unfold closeClient emitFor
  cases hfd : (b.clients i).fd with
  | none => simp [noted, hfd, setClient]
  | some c => simp [noted, hfd, setClient, emit]

/-- A bad message fails, and closing afterwards leaves the same whatever was noted of it. -/
theorem execute_bad {m : ControlMessage} (hm : goodMessage m = false) :
    (b.execute i m).2 = false ∧
      (b.execute i m).1.closeClient i = (b.emitFor i .invalid).closeClient i := by
  unfold execute
  split
  · exact ⟨rfl, rfl⟩
  · rename_i hhead
    have hcmd : (m.command == controlRumble) = false ∧ (m.command == controlStopRumble) = false ∧
        (m.command == controlQueryDescriptor) = false ∧ (m.command == controlMonitor) = false := by
      simpa [and_assoc] using
        (Bool.and_eq_false_iff.mp hm).resolve_left (by simpa using hhead)
    have hb : (b.setClient i (noted (b.clients i) m b.deviceDescriptor)).handleCommand i m =
        ((b.setClient i (noted (b.clients i) m b.deviceDescriptor)).emitFor i .invalid, false) := by
      unfold handleCommand
      simp only [hcmd.1, hcmd.2.1, hcmd.2.2.1, hcmd.2.2.2, Bool.false_eq_true, if_false]
    rw [hb]
    exact ⟨rfl, closeClient_noted ..⟩

/-- Messages before the first bad one, then that one. -/
theorem executeAll_good (b : Bridge) (i : Slot) (ms : List ControlMessage) :
    let good := ms.takeWhile goodMessage
    let r := executeAll i b good
    if r.2 = true ∧ (r.1.clients i).fd ≠ none ∧ good.length < ms.length then
      (executeAll i b ms).2 = false ∧
        (executeAll i b ms).1.closeClient i = (r.1.emitFor i .invalid).closeClient i
    else executeAll i b ms = r := by
  have hms : ms = ms.takeWhile goodMessage ++ ms.dropWhile goodMessage := by simp
  have happend := executeAll_append (i := i) b (ms.takeWhile goodMessage) (ms.dropWhile goodMessage)
  rw [← hms] at happend
  dsimp only
  rw [happend]
  generalize hr : executeAll i b (ms.takeWhile goodMessage) = r
  by_cases hok : r.2 = true
  · rw [if_pos hok]
    by_cases hfd : (r.1.clients i).fd = none
    · rw [if_neg fun h => h.2.1 hfd, executeAll_gone hfd]
      exact Prod.ext rfl hok.symm
    cases hrest : ms.dropWhile goodMessage with
    | nil =>
      rw [hrest, List.append_nil] at hms
      rw [if_neg fun h => absurd h.2.2 (by rw [← hms]; exact Nat.lt_irrefl _)]
      exact Prod.ext rfl hok.symm
    | cons m rest =>
      have hbad : goodMessage m = false := by
        have h := List.head?_dropWhile_not goodMessage ms
        rw [hrest] at h
        simpa using h
      have hlen : (ms.takeWhile goodMessage).length < ms.length := by
        have h := congrArg List.length hms
        rw [hrest, List.length_append, List.length_cons] at h
        omega
      obtain ⟨h1, h2⟩ := execute_bad (b := r.1) (i := i) hbad
      rw [if_pos ⟨hok, hfd, hlen⟩, executeAll, if_neg (by simpa using hfd), h1,
        if_neg Bool.false_ne_true]
      exact ⟨h1, h2⟩
  · rw [if_neg hok, if_neg fun h => hok h.1]

/-- The whole-string decoder in terms of all its messages. -/
theorem decodeWhole_eq (bytes : List UInt8) (hfd : (b.clients i).fd ≠ none) :
    b.decodeWhole i bytes =
      settled i (executeAll i b (controlMessageCodec.records ((b.clients i).control ++ bytes)))
        (controlMessageCodec.remainder ((b.clients i).control ++ bytes)) := by
  unfold decodeWhole
  rw [if_neg (by simpa using hfd)]
  dsimp only
  generalize (b.clients i).control ++ bytes = stream
  have h := executeAll_good b i (controlMessageCodec.records stream)
  dsimp only at h
  generalize controlMessageCodec.records stream = ms at h ⊢
  generalize executeAll i b (ms.takeWhile goodMessage) = r at h ⊢
  by_cases hok : r.2 = true
  · by_cases hgone : (r.1.clients i).fd = none
    · rw [if_neg fun h => h.2.1 hgone] at h
      rw [h, settled, hok, hgone]
      rfl
    · by_cases hlen : (ms.takeWhile goodMessage).length < ms.length
      · rw [if_pos ⟨hok, hgone, hlen⟩] at h
        rw [settled, h.1, hok, if_neg (by simp), if_neg (by simpa using hgone), if_pos hlen]
        exact h.2.symm
      · rw [if_neg fun h => hlen h.2.2] at h
        rw [h, settled, hok, if_neg (by simp), if_neg (by simpa using hgone), if_neg hlen,
          if_neg (by simp), if_neg (by simpa using hgone)]
  · rw [if_neg fun h => hok h.1] at h
    rw [h, settled, Bool.eq_false_iff.mpr hok]
    rfl

/-- **One piece**: the receive call decodes it behind what `control` holds. -/
theorem readable_decodes {p : List UInt8} (hp : p ≠ [])
    (hroom : p.length ≤ controlBufferSize - (b.clients i).control.length)
    (hfd : (b.clients i).fd ≠ none) : b.act (.readable i (.data p)) = b.decodeWhole i p := by
  have hfull : (b.clients i).control.length ≠ controlBufferSize := by
    intro h
    rw [h, Nat.sub_self, Nat.le_zero, List.length_eq_zero_iff] at hroom
    exact hp hroom
  have hsome : (b.clients i).fd.isSome = true := by
    cases h : (b.clients i).fd with
    | none => exact absurd h hfd
    | some _ => rfl
  rw [decodeWhole_eq p hfd]
  show (if (b.clients i).fd.isSome then b.serveReadable i (.data p) else b) = _
  rw [if_pos hsome]
  cases p with
  | nil => exact absurd rfl hp
  | cons x p =>
    have hrecv : b.receiveControlMessages i (.data (x :: p)) =
        messageLoop ((b.clients i).control ++ x :: p).length
          (b.setControl i ((b.clients i).control ++ x :: p)) i := by
      unfold receiveControlMessages
      dsimp only
      rw [if_neg hfull, List.take_of_length_le hroom]
      rfl
    obtain ⟨halike, hrest⟩ := messageLoop_eq _ b i ((b.clients i).control ++ x :: p) le_rfl hfd
    rw [← hrecv] at halike hrest
    unfold serveReadable
    dsimp only
    have hfreed := executeAll_freed (i := i) (b := b)
      (controlMessageCodec.records ((b.clients i).control ++ x :: p)) hfd
    generalize b.receiveControlMessages i (.data (x :: p)) = r at halike hrest
    rw [← settled_alike halike (fun hok hnone => ?_)]
    · unfold settled
      by_cases hok : r.2 = true
      · rw [hok, if_pos rfl, if_neg (by simp)]
        rcases hrest hok with ⟨hnone, _⟩ | ⟨hthere, hctl⟩
        · rw [if_pos (by simpa using hnone)]
        · rw [if_neg (by simpa using hthere), ← hctl, setControl_control]
      · rw [if_neg hok, if_pos (by simpa using hok)]
    · refine ⟨hfreed hok hnone, ?_⟩
      rcases hrest (halike.2.trans hok) with ⟨_, hctl⟩ | ⟨hthere, _⟩
      · exact hctl
      · exact absurd (halike.1.fd.trans hnone) hthere

/-- **Two pieces are one.** -/
theorem decodeWhole_append (b : Bridge) (i : Slot) (p q : List UInt8) :
    (b.decodeWhole i p).decodeWhole i q = b.decodeWhole i (p ++ q) := by
  by_cases hfd : (b.clients i).fd = none
  · simp [decodeWhole, hfd]
  obtain ⟨hrec, hrem⟩ :=
    controlMessageCodec.records_append (by decide) ((b.clients i).control ++ p) q
  have hfreed := executeAll_freed (i := i) (b := b)
    (controlMessageCodec.records ((b.clients i).control ++ p)) hfd
  rw [decodeWhole_eq p hfd, decodeWhole_eq (p ++ q) hfd, ← List.append_assoc, hrec, hrem,
    executeAll_append]
  generalize controlMessageCodec.remainder ((b.clients i).control ++ p) = rest
  generalize executeAll i b (controlMessageCodec.records ((b.clients i).control ++ p)) = r
    at hfreed ⊢
  by_cases hok : r.2 = true
  · rw [if_pos hok]
    by_cases hgone : (r.1.clients i).fd = none
    · have hsettled : settled i r rest = r.1 := by
        rw [settled, hok, if_neg (by simp), if_pos (by simpa using hgone)]
      rw [hsettled, executeAll_gone hgone, settled, if_neg (by simp),
        if_pos (by simpa using hgone), decodeWhole, if_pos (by simpa using hgone)]
    · have hsettled : settled i r rest = r.1.setControl i rest := by
        rw [settled, hok, if_neg (by simp), if_neg (by simpa using hgone)]
      have hthere : ((r.1.setControl i rest).clients i).fd ≠ none := by
        rw [setControl_self]
        exact hgone
      have hctl : ((r.1.setControl i rest).clients i).control = rest := by rw [setControl_self]
      rw [hsettled, decodeWhole_eq q hthere, hctl]
      have halike := executeAll_alike r.1 i rest (controlMessageCodec.records (rest ++ q))
      refine settled_alike halike (fun hok' hnone => ⟨executeAll_freed _ hgone hok' hnone, ?_⟩) _
      exact executeAll_freed _ hthere (halike.2.trans hok') (halike.1.fd.trans hnone)
  · have hclosed : settled i r rest = r.1.closeClient i := by
      rw [settled, if_pos (by simpa using hok)]
    have hnone : ((r.1.closeClient i).clients i).fd = none :=
      congrArg Link.fd (closeClient_toLink_self ..)
    rw [if_neg hok, hclosed, decodeWhole, if_pos (by simpa using hnone), settled,
      if_pos (by simpa using hok)]

/-! ## 5. Pieces -/

/-- One `receive_control_messages` after the other, each on the piece that `recv` returned. -/
def feed (b : Bridge) (i : Slot) (ps : List (List UInt8)) : Bridge :=
  ps.foldl (fun b p => b.act (.readable i (.data p))) b

/-- What `recv` can return, piece by piece, as long as the client is there. -/
def Receivable (i : Slot) : Bridge → List (List UInt8) → Prop
  | _, [] => True
  | b, p :: ps =>
    ((b.clients i).fd.isSome → p ≠ [] ∧
      p.length ≤ controlBufferSize - (b.clients i).control.length) ∧
    Receivable i (b.act (.readable i (.data p))) ps

theorem feed_eq (h : Sound b) (ps : List (List UInt8)) (hps : Receivable i b ps) :
    b.feed i ps = b.decodeWhole i ps.flatten := by
  induction ps generalizing b with
  | nil =>
    show b = b.decodeWhole i []
    by_cases hfd : (b.clients i).fd = none
    · simp [decodeWhole, hfd]
    obtain ⟨hrec, hrem⟩ := controlMessageCodec.records_of_lt (h.short i)
    rw [decodeWhole_eq [] hfd, List.append_nil, hrec, hrem, executeAll, settled, if_neg (by simp),
      if_neg (by simpa using hfd), setControl_control]
  | cons p ps ih =>
    obtain ⟨hp, hrest⟩ := hps
    show (b.act (.readable i (.data p))).feed i ps = _
    rw [ih (act_sound h _) hrest, List.flatten_cons, ← decodeWhole_append]
    congr 1
    by_cases hfd : (b.clients i).fd = none
    · have hact : b.act (.readable i (.data p)) = b := by
        show (if (b.clients i).fd.isSome then _ else b) = b
        rw [hfd]
        rfl
      rw [hact, decodeWhole, hfd]
      rfl
    · have hsome : (b.clients i).fd.isSome = true := by
        simpa [Option.isSome_iff_ne_none] using hfd
      exact readable_decodes (hp hsome).1 (hp hsome).2 hfd

theorem feed_sound (h : Sound b) (ps : List (List UInt8)) : Sound (b.feed i ps) :=
  run_inv (P := Sound) (fun _ p hb => act_sound hb (.readable i (.data p))) h ps

/-- **Control decoding does not depend on chunking.** In every reachable state, whatever the
    sockets and the clock answer, two ways of cutting a client's bytes into receive results lead
    to the same bridge: the one in which all bytes were decoded at once. And in between fewer
    than 16 bytes wait in `control`, which is never full. -/
theorem decoding_chunk_independent (opcode : Int) (answer : DeviceAnswer) (inputs : List Input)
    (sends : List SendResult) (ticks : List Nat) (stamps : List Timeval) (i : Slot)
    (ps qs : List (List UInt8)) :
    let b := (run step (boot opcode answer) inputs).withEnv sends ticks stamps
    Receivable i b ps → Receivable i b qs → ps.flatten = qs.flatten →
      b.feed i ps = b.feed i qs ∧ b.feed i ps = b.decodeWhole i ps.flatten ∧
      ∀ pre post, ps = pre ++ post →
        ((b.feed i pre).clients i).control.length < 16 ∧
          ((b.feed i pre).clients i).control.length ≠ controlBufferSize := by
  intro b hps hqs hsame
  have h : Sound b := (run_sound opcode answer inputs).env sends ticks stamps
  refine ⟨?_, feed_eq h ps hps, fun pre post _ => ?_⟩
  · rw [feed_eq h ps hps, feed_eq h qs hqs, hsame]
  · have hpre := (feed_sound h pre (i := i)).short
    exact ⟨hpre i, hpre.room i⟩

/-- A connection in slot 0. -/
def justAccepted : List Input := [quietly (.accept (.conn 0 true))]

/-- A STOP_RUMBLE and a MONITOR command. -/
def stopThenMonitor : List UInt8 := commandBytes controlStopRumble ++ commandBytes controlMonitor

/-- Both at once, or cut inside the first and inside the second. -/
theorem decoding_chunk_independent_split :
    let b := (run step (boot 1 padAnswer) justAccepted).withEnv [] [] []
    b.feed slot0 [stopThenMonitor] = b.feed slot0
      [stopThenMonitor.take 5, (stopThenMonitor.drop 5).take 20, stopThenMonitor.drop 25] := by
  refine (decoding_chunk_independent 1 padAnswer justAccepted [] [] [] slot0 [stopThenMonitor]
    [stopThenMonitor.take 5, (stopThenMonitor.drop 5).take 20, stopThenMonitor.drop 25]
    ⟨fun _ => ?_, trivial⟩ ⟨fun _ => ?_, fun _ => ?_, fun _ => ?_, trivial⟩ ?_).1 <;> decide +kernel

end Bridge

end TermuxGamepad
