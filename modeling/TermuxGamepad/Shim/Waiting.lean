/-
  File:      TermuxGamepad/Shim/Waiting.lean
  Subject:   When a read of a joydev descriptor in blocking mode waits.

  The loop of a read asks the socket until the caller's buffer is full; an empty socket is no
  reason to stop, its read waits. `Fed` says that the answers to a call are those of a socket with
  a given content, `Waits` that the call reads on where that is used up. A call that has an event
  to return does not wait exactly if the content fills the buffer (`joydev_read_waits_iff`).
-/
import TermuxGamepad.Shim.Registry

namespace TermuxGamepad

open Wire

/-! ## 1. A socket and its content -/

/-- The reads of a call get the content of the socket, each of them some of what is left. What a
    read of the empty socket waits for is open. -/
def Fed : List UInt8 → List Event → Prop
  | _, [] => True
  | socket, .real _ o :: log =>
    socket = [] ∨ o.stored ≠ [] ∧ o.stored <+: socket ∧ Fed (socket.drop o.stored.length) log
  | _, _ => False

/-- A call reads on where the content of the socket is used up. -/
def Waits : List UInt8 → List Event → Prop
  | _, [] => False
  | socket, .real _ o :: log => socket = [] ∨ Waits (socket.drop o.stored.length) log
  | _, _ => False

/-- The events that a partial record and the content of the socket complete. -/
def FakeFd.available (fake : FakeFd) (socket : List UInt8) : List JsEvent :=
  (convertAll fake.initializing (inputEventCodec.records (fake.raw ++ socket))).2

/-- What a call has added to the log. -/
def Shim.loggedBy (env : Env) (s : Shim) (fd : Int) (buffer : UInt64) (length : Nat) : List Event :=
  (s.read env fd buffer length).1.log.drop s.log.length

/-- **The read returns what there is**: it does not wait, and it returns the events, as far as the
    buffer goes. -/
def Shim.ReturnsAtOnce (env : Env) (s : Shim) (fake : FakeFd) (socket : List UInt8) (buffer : UInt64)
    (length : Nat) : Prop :=
  ¬Waits socket (s.loggedBy env fake.fd buffer length) ∧
    (s.read env fake.fd buffer length).2 =
      { result := ((fake.available socket).take (length / jsEventCodec.size)).length * jsEventCodec.size
        stored := jsEventCodec.encAll ((fake.available socket).take (length / jsEventCodec.size)) }

instance decidableFed : ∀ (socket : List UInt8) (log : List Event), Decidable (Fed socket log)
  | _, [] => isTrue trivial
  | socket, .real _ o :: log =>
    haveI := decidableFed (socket.drop o.stored.length) log
    inferInstanceAs (Decidable (socket = [] ∨ o.stored ≠ [] ∧ o.stored <+: socket ∧ Fed _ log))
  | _, .connect .. :: _ => isFalse id
  | _, .control .. :: _ => isFalse id
  | _, .setNonblock _ :: _ => isFalse id
  | _, .setCloexec _ :: _ => isFalse id
  | _, .nullCall :: _ => isFalse id

instance decidableWaits : ∀ (socket : List UInt8) (log : List Event), Decidable (Waits socket log)
  | _, [] => isFalse id
  | socket, .real _ o :: log =>
    haveI := decidableWaits (socket.drop o.stored.length) log
    inferInstanceAs (Decidable (socket = [] ∨ Waits _ log))
  | _, .connect .. :: _ => isFalse id
  | _, .control .. :: _ => isFalse id
  | _, .setNonblock _ :: _ => isFalse id
  | _, .setCloexec _ :: _ => isFalse id
  | _, .nullCall :: _ => isFalse id

/-! ## 2. One answer -/

theorem fed_cons {socket : List UInt8} (hne : socket ≠ []) (c : RealCall) (o : Outcome)
    (log : List Event) :
    Fed socket (.real c o :: log) ↔
      o.stored ≠ [] ∧ o.stored <+: socket ∧ Fed (socket.drop o.stored.length) log :=
  or_iff_right hne

theorem waits_cons {socket : List UInt8} (hne : socket ≠ []) (c : RealCall) (o : Outcome)
    (log : List Event) :
    Waits socket (.real c o :: log) ↔ Waits (socket.drop o.stored.length) log :=
  or_iff_right hne

/-- Without further bytes nothing is complete. -/
theorem available_nil (fake : FakeFd) : fake.available [] = [] := by
  rw [FakeFd.available, List.append_nil, (@Codec.records_of_lt _ inputEventCodec _ fake.raw_lt).1]
  rfl

/-- **A piece of the content**, of which no more is taken than the record lacks. -/
theorem available_take (fake : FakeFd) (piece rest : List UInt8)
    (hroom : fake.raw.length + piece.length ≤ inputEventCodec.size) :
    fake.available (piece ++ rest) =
      (fake.take piece).2.toList ++ (fake.take piece).1.available rest := by
  unfold FakeFd.available FakeFd.take
  dsimp only
  rw [← List.append_assoc]
  split
  · rfl
  · rename_i hfull
    have hlen : (fake.raw ++ piece).length = inputEventCodec.size := by
      rw [List.length_append] at hfull ⊢
      omega
    obtain ⟨hrec, -⟩ := @Codec.records_of_le _ inputEventCodec (fake.raw ++ piece ++ rest)
      (by decide) (by
        rw [List.length_append, hlen]
        omega)
    rw [hrec, inputEventCodec.dec_append _ rest (le_of_eq hlen.symm), List.drop_left' hlen]
    rfl

/-! ## 3. The loop -/

/-- **The loop waits exactly if the content does not fill the buffer.** -/
theorem joyLoop_waits (capacity : Nat) (reals : List Outcome) {fake : FakeFd}
    {produced : List JsEvent} {socket : List UInt8} (hroom : produced.length ≤ capacity)
    (hfed : Fed socket (joyLoop capacity reals fake produced).log) :
    (capacity ≤ produced.length + (fake.available socket).length →
      ¬Waits socket (joyLoop capacity reals fake produced).log ∧
        (joyLoop capacity reals fake produced).produced =
          produced ++ (fake.available socket).take (capacity - produced.length)) ∧
    (produced.length + (fake.available socket).length < capacity →
      Waits socket (joyLoop capacity reals fake produced).log) := by
  induction reals generalizing fake produced socket with
  | nil =>
    unfold joyLoop at hfed ⊢
    by_cases hfull : capacity ≤ produced.length
    · rw [if_pos hfull, show capacity - produced.length = 0 by omega]
      exact ⟨fun _ => ⟨id, (List.append_nil _).symm⟩, fun h => by omega⟩
    · rw [if_neg hfull] at hfed ⊢
      cases socket with
      | nil =>
        rw [available_nil]
        exact ⟨fun h => by simp only [List.length_nil] at h; omega, fun _ => Or.inl rfl⟩
      | cons b bs => exact absurd rfl ((fed_cons (List.cons_ne_nil b bs) ..).mp hfed).1
  | cons o reals ih =>
    unfold joyLoop at hfed ⊢
    by_cases hfull : capacity ≤ produced.length
    · rw [if_pos hfull, show capacity - produced.length = 0 by omega]
      exact ⟨fun _ => ⟨id, (List.append_nil _).symm⟩, fun h => by omega⟩
    rw [if_neg hfull] at hfed ⊢
    dsimp only at hfed ⊢
    by_cases hempty : socket = []
    · subst hempty
      rw [available_nil]
      refine ⟨fun h => by simp only [List.length_nil] at h; omega, fun _ => ?_⟩
      split <;> exact Or.inl rfl
    generalize hpiece : o.ofRead (inputEventCodec.size - fake.raw.length) = answer at hfed ⊢
    by_cases hnothing : answer.result ≤ 0
    · rw [if_pos hnothing] at hfed
      have hstored : answer.stored = [] := by
        rw [← hpiece] at hnothing ⊢
        exact ofRead_nothing hnothing
      exact absurd hstored ((fed_cons hempty ..).mp hfed).1
    · rw [if_neg hnothing] at hfed ⊢
      obtain ⟨-, ⟨rest, rfl⟩, hfed'⟩ := (fed_cons hempty ..).mp hfed
      have hlen : fake.raw.length + answer.stored.length ≤ inputEventCodec.size := by
        have hraw := fake.raw_lt
        have hread := ofRead_length (inputEventCodec.size - fake.raw.length) o
        rw [hpiece] at hread
        omega
      have hsplit := available_take fake answer.stored rest hlen
      rw [List.drop_left] at hfed'
      have hone : (fake.take answer.stored).2.toList.length ≤ 1 := by
        cases (fake.take answer.stored).2 <;> simp
      have hnext := ih (by rw [List.length_append]; omega) hfed'
      rw [waits_cons hempty, List.drop_left, hsplit]
      rw [List.length_append] at hnext ⊢
      refine ⟨fun h => ?_, fun h => hnext.2 (by omega)⟩
      obtain ⟨hwaits, hproduced⟩ := hnext.1 (by omega)
      refine ⟨hwaits, ?_⟩
      have hwhole : (fake.take answer.stored).2.toList.take (capacity - produced.length) =
          (fake.take answer.stored).2.toList := List.take_of_length_le (by omega)
      rw [hproduced, List.append_assoc, List.take_append, hwhole, Nat.sub_sub]

/-! ## 4. The call -/

/-- **A joydev read does not wait once it has something to return**, exactly if the bytes in the
    socket complete as many events as the caller's buffer holds. -/
theorem joydev_read_waits_iff (env : Env) (s : Shim) (fake : FakeFd) (socket : List UInt8)
    (buffer : UInt64) (length : Nat) (hfind : s.findFakeFd fake.fd = some fake)
    (hjoy : fake.joydev = true) (hbuffer : buffer ≠ 0) (hlength : jsEventCodec.size ≤ length)
    (hread : (s.init env).resolved .read = true)
    (hfed : Fed socket (s.loggedBy env fake.fd buffer length)) :
    (fake.available socket ≠ [] → s.ReturnsAtOnce env fake socket buffer length) ↔
      fake.available socket = [] ∨ length / jsEventCodec.size ≤ (fake.available socket).length := by
  have hinit : (s.init env).findFakeFd fake.fd = some fake :=
    (Shim.init_findFakeFd s _).trans hfind
  have hcall : s.read env fake.fd buffer length = (s.init env).readJoydev fake buffer length := by
    unfold Shim.read
    simp only [hinit, hjoy, if_true]
  have hcapacity : 0 < length / jsEventCodec.size := Nat.div_pos hlength (by decide)
  set loop := joyLoop (length / jsEventCodec.size) (s.init env).reals fake [] with hloop
  have hlog : s.loggedBy env fake.fd buffer length = loop.log := by
    have hgrown : (s.read env fake.fd buffer length).1.log = s.log ++ loop.log := by
      rw [hcall]
      unfold Shim.readJoydev
      rw [if_neg (by rw [not_or]; exact ⟨hbuffer, by omega⟩), if_neg (by rw [hread]; decide)]
      exact congrArg (· ++ loop.log) (Shim.init_log s)
    rw [Shim.loggedBy, hgrown, List.drop_left]
  have hresult : loop.produced ≠ [] → (s.read env fake.fd buffer length).2 =
      { result := loop.produced.length * jsEventCodec.size,
        stored := jsEventCodec.encAll loop.produced } := by
    intro hne
    rw [hcall]
    unfold Shim.readJoydev
    rw [if_neg (by rw [not_or]; exact ⟨hbuffer, by omega⟩), if_neg (by rw [hread]; decide)]
    exact if_neg hne
  rw [hlog] at hfed
  obtain ⟨henough, hshort⟩ := @joyLoop_waits _ _ _ [] _ (Nat.zero_le _) hfed
  rw [← hloop, List.length_nil, Nat.zero_add] at henough hshort
  constructor
  · intro h
    by_cases hnone : fake.available socket = []
    · exact Or.inl hnone
    · refine Or.inr (Nat.le_of_not_lt fun hlt => ?_)
      obtain ⟨hwaits, -⟩ := h hnone
      rw [hlog] at hwaits
      exact hwaits (hshort hlt)
  · rintro h hne
    obtain ⟨hwaits, hproduced⟩ := henough (h.resolve_left hne)
    rw [List.nil_append, Nat.sub_zero] at hproduced
    refine ⟨by rw [hlog]; exact hwaits, ?_⟩
    rw [hresult ?_, hproduced]
    rw [hproduced]
    intro hnil
    rcases List.take_eq_nil_iff.mp hnil with h0 | h0
    · omega
    · exact hne h0

/-- A joydev descriptor, just opened, and what its reads will get. -/
def joydevOpened (reals : List Outcome) : Shim :=
  ((Shim.loaded reals [openAnswer 3] []).call plainEnv (.open_ (some fakeJoydevNode) 0 0)).1

/-- Its record. -/
def joydevFake : FakeFd := Shim.newFake 3 true (deviceDescriptorCodec.dec (openAnswer 3).received)

/-- The press of a button, as the bridge sends it. -/
def pressed : List UInt8 :=
  inputEventCodec.encAll [{ time := ⟨0, 0⟩, type := evKey, code := btnSouth, value := 1 },
    { time := ⟨0, 0⟩, type := evSyn, code := synReport, value := 0 }]

theorem joydev_read_waits_iff_one :
    (joydevFake.available pressed ≠ [] →
        (joydevOpened [⟨24, pressed⟩]).ReturnsAtOnce plainEnv joydevFake pressed 4096 8) ↔
      joydevFake.available pressed = [] ∨ 8 / jsEventCodec.size ≤ (joydevFake.available pressed).length :=
  joydev_read_waits_iff plainEnv (joydevOpened [⟨24, pressed⟩]) joydevFake pressed 4096 8 rfl rfl
    (by decide) (by decide) (by decide +kernel) (by decide +kernel)

/-- **A buffer for two events**: the press is there, and the read goes on to an empty socket. -/
theorem joydev_read_waits :
    joydevFake.available pressed ≠ [] ∧
      ¬(joydevOpened [⟨24, pressed⟩, ⟨24, pressed.drop 24⟩]).ReturnsAtOnce plainEnv joydevFake pressed
        4096 16 := by
  refine ⟨by decide +kernel, fun h => ?_⟩
  exact absurd h.1 (not_not.mpr (by decide +kernel))

end TermuxGamepad
