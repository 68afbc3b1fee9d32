/-
  File:      TermuxGamepad/Shim/JoyStream.lean
  Subject:   A joydev descriptor as a translator of a byte stream.

  Whatever pieces the socket hands out and whatever buffers the reads bring, the events returned
  are the translation of the whole records consumed (`joyReads_translated`). The partial record is
  the remainder of the bytes, the flag `initializing` says that no SYN_REPORT was among the
  records: `Reader` is the invariant, `joyLoop_reads` the step.
-/
import Mathlib.Data.List.TakeWhile
import TermuxGamepad.Shim.PassThrough

namespace TermuxGamepad

open Wire

/-! ## 1. The translation -/

/-- What a record becomes, during the initial report or after it. -/
def joyEvent (initializing : Bool) (e : InputEvent) : Option JsEvent :=
  (convertJoyEvent initializing e).2

def InputEvent.isSync (e : InputEvent) : Bool := e.type = evSyn && e.code = synReport

/-- **The in-order translation** of a list of records: those before the first SYN_REPORT are the
    initial report. -/
def translated (es : List InputEvent) : List JsEvent :=
  (es.takeWhile fun e => !e.isSync).filterMap (joyEvent true) ++
    (es.dropWhile fun e => !e.isSync).filterMap (joyEvent false)

theorem joyEvent_sync {e : InputEvent} (h : e.isSync = true) (initializing : Bool) :
    convertJoyEvent initializing e = (false, none) := by
  unfold convertJoyEvent
  exact if_pos (by simpa [InputEvent.isSync] using h)

theorem convertJoyEvent_other {e : InputEvent} (h : e.isSync = false) (initializing : Bool) :
    convertJoyEvent initializing e = (initializing, joyEvent initializing e) := by
  have hflag : (convertJoyEvent initializing e).1 = initializing := by
    unfold convertJoyEvent
    dsimp only
    rw [if_neg (by simpa [InputEvent.isSync] using h)]
    split
    · rfl
    · split <;> rfl
  exact Prod.ext hflag rfl

theorem init_flag : ∀ initializing : Bool,
    (jsEventAxis ||| if initializing then jsEventInit else 0) &&& jsEventInit =
        (if initializing then jsEventInit else 0) ∧
      (jsEventButton ||| if initializing then jsEventInit else 0) &&& jsEventInit =
        if initializing then jsEventInit else 0 := by
  decide

/-- The events carry JS_EVENT_INIT exactly during the initial report. -/
theorem joyEvent_init {initializing : Bool} {e : InputEvent} {j : JsEvent}
    (h : joyEvent initializing e = some j) :
    j.type &&& jsEventInit = if initializing then jsEventInit else 0 := by
  unfold joyEvent convertJoyEvent at h
  dsimp only at h
  split at h
  · cases h
  split at h
  · obtain ⟨n, -, rfl⟩ := Option.map_eq_some_iff.mp h
    exact (init_flag initializing).1
  split at h
  · obtain ⟨n, -, rfl⟩ := Option.map_eq_some_iff.mp h
    exact (init_flag initializing).2
  · cases h

/-- The records one after another, as the reader takes them. -/
def convertAll : Bool → List InputEvent → Bool × List JsEvent
  | initializing, [] => (initializing, [])
  | initializing, e :: es =>
    let r := convertJoyEvent initializing e
    let rest := convertAll r.1 es
    (rest.1, r.2.toList ++ rest.2)

theorem convertAll_append (initializing : Bool) (es es' : List InputEvent) :
    convertAll initializing (es ++ es') =
      ((convertAll (convertAll initializing es).1 es').1,
        (convertAll initializing es).2 ++ (convertAll (convertAll initializing es).1 es').2) := by
  induction es generalizing initializing with
  | nil => rfl
  | cons e es ih => simp only [List.cons_append, convertAll, ih, List.append_assoc]

theorem convertAll_done (es : List InputEvent) :
    convertAll false es = (false, es.filterMap (joyEvent false)) := by
  induction es with
  | nil => rfl
  | cons e es ih =>
    unfold convertAll
    dsimp only
    cases hs : e.isSync with
    | true =>
      have hnone : joyEvent false e = none := congrArg Prod.snd (joyEvent_sync hs false)
      rw [joyEvent_sync hs, List.filterMap_cons_none hnone, ih]
      rfl
    | false =>
      rw [convertJoyEvent_other hs, ih]
      cases hj : joyEvent false e with
      | none => rw [List.filterMap_cons_none hj]; rfl
      | some j => rw [List.filterMap_cons_some hj]; rfl

/-- **The reader's order is the translation.** -/
theorem convertAll_eq (es : List InputEvent) : (convertAll true es).2 = translated es := by
  induction es with
  | nil => rfl
  | cons e es ih =>
    unfold convertAll
    dsimp only
    cases hs : e.isSync with
    | true =>
      have hnone : joyEvent false e = none := congrArg Prod.snd (joyEvent_sync hs false)
      have htake : (e :: es).takeWhile (fun e => !e.isSync) = [] :=
        List.takeWhile_cons_of_neg (by simp [hs])
      have hdrop : (e :: es).dropWhile (fun e => !e.isSync) = e :: es :=
        List.dropWhile_cons_of_neg (by simp [hs])
      rw [joyEvent_sync hs, convertAll_done, translated, htake, hdrop, List.filterMap_cons_none hnone]
      rfl
    | false =>
      have htake : (e :: es).takeWhile (fun e => !e.isSync) =
          e :: es.takeWhile fun e => !e.isSync := List.takeWhile_cons_of_pos (by simp [hs])
      have hdrop : (e :: es).dropWhile (fun e => !e.isSync) =
          es.dropWhile fun e => !e.isSync := List.dropWhile_cons_of_pos (by simp [hs])
      rw [convertJoyEvent_other hs, ih, translated, translated, htake, hdrop]
      cases hj : joyEvent true e with
      | none => rw [List.filterMap_cons_none hj]; rfl
      | some j => rw [List.filterMap_cons_some hj]; rfl

/-- The translation grows with the records. -/
theorem translated_prefix {es es' : List InputEvent} (h : es <+: es') :
    translated es <+: translated es' := by
  obtain ⟨more, rfl⟩ := h
  rw [← convertAll_eq, ← convertAll_eq, convertAll_append]
  exact List.prefix_append _ _

/-- Behind a SYN_REPORT nothing belongs to the initial report. -/
theorem translated_sync (before after : List InputEvent) {sync : InputEvent}
    (hsync : sync.isSync = true) :
    translated (before ++ sync :: after) = translated before ++ after.filterMap (joyEvent false) := by
  rw [← convertAll_eq, ← convertAll_eq, convertAll_append]
  unfold convertAll
  dsimp only
  rw [joyEvent_sync hsync, convertAll_done]
  rfl

/-- Without a SYN_REPORT everything does. -/
theorem translated_initial {es : List InputEvent} (h : ∀ e ∈ es, e.isSync = false) :
    translated es = es.filterMap (joyEvent true) := by
  have hall : ∀ e ∈ es, (!e.isSync) = true := fun e he => by rw [h e he]; rfl
  rw [translated, List.takeWhile_eq_self_iff.mpr hall, List.dropWhile_eq_nil_iff.mpr hall,
    List.filterMap_nil, List.append_nil]

/-! ## 2. The loop of a read -/

/-- The bytes the reads of a descriptor got from the socket. -/
def consumed (fd : Int) (log : List Event) : List UInt8 :=
  log.flatMap fun e =>
    match e with
    | .real (.read fd' (.own _) _) o => if fd' = fd then o.stored else []
    | _ => []

theorem consumed_append (fd : Int) (log log' : List Event) :
    consumed fd (log ++ log') = consumed fd log ++ consumed fd log' := List.flatMap_append

theorem consumed_read (fd : Int) (missing : Nat) (o : Outcome) :
    consumed fd [.real (.read fd (.own []) missing) o] = o.stored := by
  simp [consumed]

/-- A reader that has consumed the bytes: the partial record is what is left over of them, and
    `events` is what the whole records became. -/
structure Reader (fake : FakeFd) (bytes : List UInt8) (events : List JsEvent) : Prop where
  raw : fake.raw = inputEventCodec.remainder bytes
  initializing : fake.initializing = (convertAll true (inputEventCodec.records bytes)).1
  events : events = (convertAll true (inputEventCodec.records bytes)).2

/-- **One piece**, of which no more is taken than the record lacks. -/
theorem Reader.take {fake : FakeFd} {bytes : List UInt8} {events : List JsEvent}
    (h : Reader fake bytes events) (piece : List UInt8)
    (hroom : fake.raw.length + piece.length ≤ inputEventCodec.size) :
    Reader (fake.take piece).1 (bytes ++ piece) (events ++ (fake.take piece).2.toList) := by
  have hlen : (inputEventCodec.remainder bytes ++ piece).length ≤ inputEventCodec.size := by
    rw [List.length_append, ← h.raw]
    exact hroom
  have hpush := inputEventCodec.records_push (by decide) bytes hlen
  rw [← h.raw] at hpush
  unfold FakeFd.take
  dsimp only
  rcases hpush with ⟨hlt, hrec, hrem⟩ | ⟨hfull, hrec, hrem⟩
  · rw [dif_pos hlt]
    exact ⟨hrem.symm, hrec ▸ h.initializing, by rw [hrec, ← h.events]; exact List.append_nil _⟩
  · rw [dif_neg (by omega)]
    refine ⟨hrem.symm, ?_, ?_⟩
    · rw [hrec, convertAll_append, ← h.initializing]
      rfl
    · rw [hrec, convertAll_append, ← h.initializing, ← h.events]
      exact congrArg (events ++ ·) (List.append_nil _).symm

theorem ofRead_length (length : Nat) (o : Outcome) : (o.ofRead length).stored.length ≤ length := by
  unfold Outcome.ofRead
  split
  · exact Nat.zero_le _
  · exact List.length_take_le ..

theorem ofRead_nothing {length : Nat} {o : Outcome} (h : (o.ofRead length).result ≤ 0) :
    (o.ofRead length).stored = [] := by
  unfold Outcome.ofRead at h ⊢
  split at h
  · rw [if_pos ‹_›]
  · rw [if_neg ‹_›]
    have hlen : ((o.stored.take length).length : Int) ≤ 0 := h
    exact List.length_eq_zero_iff.mp (show (o.stored.take length).length = 0 by omega)

/-- **The loop**: what it consumes is what it adds to the stream, and what it produces is what the
    stream gives. -/
theorem joyLoop_reads (capacity : Nat) (reals : List Outcome) {fake : FakeFd} {bytes : List UInt8}
    {events produced : List JsEvent} (h : Reader fake bytes (events ++ produced)) :
    let r := joyLoop capacity reals fake produced
    Reader r.fake (bytes ++ consumed fake.fd r.log) (events ++ r.produced) := by
  induction reals generalizing fake bytes produced with
  | nil =>
    unfold joyLoop
    split
    · simpa [consumed] using h
    · simpa [consumed, Outcome.failed] using h
  | cons o reals ih =>
    unfold joyLoop
    split
    · simpa [consumed] using h
    · dsimp only
      split
      · rename_i hnone
        rw [consumed_read, ofRead_nothing hnone, List.append_nil]
        exact h
      · have hraw := fake.raw_lt
        have hlen := ofRead_length (inputEventCodec.size - fake.raw.length) o
        have hstep := h.take (o.ofRead (inputEventCodec.size - fake.raw.length)).stored (by omega)
        rw [List.append_assoc] at hstep
        have hrest := ih hstep
        dsimp only at hrest
        rw [(Shim.take_fd fake _).1] at hrest
        rw [show ∀ (e : Event) (l : List Event), consumed fake.fd (e :: l) =
          consumed fake.fd [e] ++ consumed fake.fd l from fun e l => consumed_append _ [e] l,
          consumed_read, ← List.append_assoc]
        exact hrest

/-! ## 3. Reads of a descriptor -/

namespace Shim

/-- Reads with the given buffers and lengths one after another, and the events they return. -/
def joyReads (env : Env) (fd : Int) : Shim → List (UInt64 × Nat) → Shim × List JsEvent
  | s, [] => (s, [])
  | s, (buffer, length) :: calls =>
    let r := s.read env fd buffer length
    let rest := joyReads env fd r.1 calls
    (rest.1, jsEventCodec.records r.2.stored ++ rest.2)

/-- The descriptor is a joydev reader that has consumed the bytes and returned the events. -/
def Reads (fd : Int) (s : Shim) (bytes : List UInt8) (events : List JsEvent) : Prop :=
  ∃ fake, s.findFakeFd fd = some fake ∧ fake.joydev = true ∧ Reader fake bytes events

variable {env : Env} {s : Shim} {fd : Int} {bytes : List UInt8} {events : List JsEvent}

/-- What a read returns is what it produced. -/
theorem readJoydev_stored (s : Shim) (fake : FakeFd) (buffer : UInt64) (length : Nat) :
    s.readJoydev fake buffer length = (s, Outcome.failed) ∨
      ∃ capacity, let r := joyLoop capacity s.reals fake []
        (s.readJoydev fake buffer length).1 =
            { s with
              reals := r.reals
              fakeFds := Table.update FakeFd.fd r.fake s.fakeFds
              log := s.log ++ r.log } ∧
          jsEventCodec.records (s.readJoydev fake buffer length).2.stored = r.produced := by
  unfold readJoydev
  split
  · exact Or.inl rfl
  · split
    · exact Or.inl rfl
    · refine Or.inr ⟨length / jsEventCodec.size, rfl, ?_⟩
      dsimp only
      split
      · rename_i hnil
        rw [hnil]
        exact (@Codec.records_of_lt _ jsEventCodec [] (by decide)).1
      · exact jsEventCodec.records_encAll (by decide) _

/-- **One read.** -/
theorem read_reads (h : Reads fd s bytes events) (buffer : UInt64) (length : Nat) :
    ∃ log, (s.read env fd buffer length).1.log = s.log ++ log ∧
      Reads fd (s.read env fd buffer length).1 (bytes ++ consumed fd log)
        (events ++ jsEventCodec.records (s.read env fd buffer length).2.stored) := by
  obtain ⟨fake, hfind, hjoy, hreader⟩ := h
  have hkey : fake.fd = fd := (Table.lookup_mem hfind).2
  have hinit : (s.init env).findFakeFd fd = some fake := (init_findFakeFd s fd).trans hfind
  have hread : s.read env fd buffer length = (s.init env).readJoydev fake buffer length := by
    unfold read
    simp only [hinit, hjoy, if_true]
  rw [hread]
  rcases readJoydev_stored (s.init env) fake buffer length with he | ⟨capacity, hs, hstored⟩
  · refine ⟨[], ?_, fake, ?_, hjoy, ?_⟩
    · rw [he, List.append_nil]
      exact init_log s
    · rw [he]
      exact hinit
    · rw [he]
      show Reader fake (bytes ++ []) (events ++ jsEventCodec.records [])
      rw [(@Codec.records_of_lt _ jsEventCodec [] (by decide)).1, List.append_nil, List.append_nil]
      exact hreader
  · have hloop := @joyLoop_reads capacity (s.init env).reals fake bytes events []
      (by rw [List.append_nil]; exact hreader)
    obtain ⟨hfd, hjoy'⟩ := joyLoop_fd capacity (s.init env).reals fake []
    rw [hkey] at hloop
    refine ⟨(joyLoop capacity (s.init env).reals fake []).log, ?_,
      (joyLoop capacity (s.init env).reals fake []).fake, ?_, hjoy'.trans hjoy, ?_⟩
    · rw [hs]
      exact congrArg (· ++ _) (init_log s)
    · rw [hs]
      have hkey' : (joyLoop capacity (s.init env).reals fake []).fake.fd = fd := hfd.trans hkey
      have hold : Table.lookup FakeFd.fd (joyLoop capacity (s.init env).reals fake []).fake.fd
          (s.init env).fakeFds = some fake := by
        rw [hkey']
        exact hinit
      have hfound := Table.lookup_update hold
      rw [hkey'] at hfound
      exact hfound
    · rw [hstored]
      exact hloop

/-- **Any number of reads.** -/
theorem joyReads_reads (calls : List (UInt64 × Nat)) (h : Reads fd s bytes events) :
    ∃ log, (joyReads env fd s calls).1.log = s.log ++ log ∧
      Reads fd (joyReads env fd s calls).1 (bytes ++ consumed fd log)
        (events ++ (joyReads env fd s calls).2) := by
  induction calls generalizing s bytes events with
  | nil => exact ⟨[], (List.append_nil _).symm, by simpa [joyReads, consumed] using h⟩
  | cons call calls ih =>
    obtain ⟨buffer, length⟩ := call
    obtain ⟨log, hlog, hone⟩ := @read_reads env s fd bytes events h buffer length
    obtain ⟨log', hlog', hrest⟩ := ih hone
    refine ⟨log ++ log', ?_, ?_⟩
    · show (joyReads env fd (s.read env fd buffer length).1 calls).1.log = _
      rw [hlog', hlog, List.append_assoc]
    · rw [consumed_append, ← List.append_assoc]
      show Reads fd (joyReads env fd (s.read env fd buffer length).1 calls).1 _
        (events ++ (jsEventCodec.records (s.read env fd buffer length).2.stored ++
          (joyReads env fd (s.read env fd buffer length).1 calls).2))
      rw [← List.append_assoc]
      exact hrest

/-- **What the reads of a fresh descriptor return is the translation of what they consumed.** -/
theorem joyReads_translated (h : Reads fd s [] []) (calls : List (UInt64 × Nat)) :
    (joyReads env fd s calls).2 = translated (inputEventCodec.records
      (consumed fd ((joyReads env fd s calls).1.log.drop s.log.length))) := by
  obtain ⟨log, hlog, fake, -, -, hreader⟩ := @joyReads_reads env s fd [] [] calls h
  rw [hlog, List.drop_left, ← convertAll_eq]
  exact hreader.events

/-! ## 4. A descriptor that was just opened -/

/-- Opening succeeded with a descriptor the shim did not know, and took it into its table. -/
structure OpensJoydev (env : Env) (s : Shim) (flags : UInt32) (fd : Int) : Prop where
  result : (s.connectDevice env flags true).2.result = fd
  nonneg : 0 ≤ fd
  new : s.findFakeFd fd = none
  virtual : ((s.connectDevice env flags true).1.findFakeFd fd).isSome = true

/-- What `tg_connect_device` received on its new connection. -/
def greeting (s : Shim) : List UInt8 := (s.connects.headD ⟨-1, -1, -1, []⟩).received

theorem addFakeFd_fresh {d : DeviceDescriptor} (hnew : s.findFakeFd fd = none)
    (h : ((s.addFakeFd fd true d).findFakeFd fd).isSome = true) :
    ∃ fake, (s.addFakeFd fd true d).findFakeFd fd = some fake ∧ fake.joydev = true ∧
      fake.raw = [] ∧ fake.initializing = true := by
  unfold addFakeFd at h ⊢
  split at h
  · rw [hnew] at h
    cases h
  · rw [if_neg ‹_›]
    refine ⟨⟨fd, true, true, [], by decide, d⟩, ?_, rfl, rfl, rfl⟩
    unfold findFakeFd Table.lookup at hnew ⊢
    rw [List.find?_append, hnew]
    simp

theorem Reads.of_fresh {fake : FakeFd} (hfind : s.findFakeFd fd = some fake) (hjoy : fake.joydev = true)
    (hraw : fake.raw = []) (hinit : fake.initializing = true) : Reads fd s [] [] := by
  obtain ⟨hrec, hrem⟩ := @Codec.records_of_lt _ inputEventCodec [] (by decide)
  refine ⟨fake, hfind, hjoy, hraw.trans hrem.symm, ?_, ?_⟩ <;> rw [hrec]
  · exact hinit
  · rfl

/-- Opening succeeds on a greeting that is the descriptor of a device. -/
theorem connectDevice_greeting {flags : UInt32} {joydev : Bool}
    (h : 0 ≤ (s.connectDevice env flags joydev).2.result) :
    s.greeting.length = deviceDescriptorCodec.size ∧
      (deviceDescriptorCodec.dec s.greeting).magic = deviceMagic ∧
      (deviceDescriptorCodec.dec s.greeting).present ≠ 0 := by
  have hfail : ∀ {p : Prop}, 0 ≤ Outcome.failed.result → p := fun h => by cases h
  unfold connectDevice at h
  dsimp only at h
  split at h
  · exact hfail h
  split at h
  · exact hfail h
  split at h
  · exact hfail h
  split at h
  · exact hfail h
  rename_i hgood
  simp only [not_or, not_not] at hgood
  obtain ⟨-, hlen, hmagic, -, hpresent⟩ := hgood
  exact ⟨hlen, hmagic, hpresent⟩

/-- **A descriptor just opened is a reader that has consumed nothing.** -/
theorem OpensJoydev.reads {flags : UInt32} (h : OpensJoydev env s flags fd) :
    Reads fd (s.connectDevice env flags true).1 [] [] := by
  obtain ⟨hresult, hnonneg, hnew, hvirtual⟩ := h
  have hfailed : ∀ t : Shim, s.connectDevice env flags true ≠ (t, Outcome.failed) := by
    intro t ht
    rw [ht] at hresult
    have hfd : (-1 : Int) = fd := hresult
    omega
  rcases @connectDevice_attempt env s flags true with ⟨t, -, he⟩ | ⟨t, -, he⟩ | ⟨t, d, ht, -, he⟩
  · exact absurd he (hfailed _)
  · exact absurd he (hfailed _)
  · have hsocket : s.nextSocket = fd := by
      rw [he] at hresult
      exact hresult
    rw [he, hsocket] at hvirtual
    have hold : t.findFakeFd fd = none := by
      rw [ht.same]
      exact hnew
    obtain ⟨fake, hfind, hjoy, hraw, hinit⟩ := addFakeFd_fresh hold hvirtual
    rw [he, hsocket]
    exact .of_fresh hfind hjoy hraw hinit

end Shim

end TermuxGamepad
