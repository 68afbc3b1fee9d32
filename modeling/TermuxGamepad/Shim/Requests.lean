/-
  File:      TermuxGamepad/Shim/Requests.lean
  Subject:   What an ioctl request on a virtual descriptor may do, by its word.

  The word carries a type letter, a number and a size. The capability requests change nothing and
  write within the size (`fakeIoctl_stored`, `fakeJoyIoctl_stored`). Two things go past the word:
  the effect requests are told by their number alone, and a name request returns the length of the
  name where it wrote less (`ioctl_respects_iff`).
-/
import TermuxGamepad.Shim.Effects

namespace TermuxGamepad

open Wire

/-! ## 1. What a request word promises -/

/-- EVIOCSFF and EVIOCRMFF. -/
def isEffectRequest (req : UInt64) : Bool :=
  iocType req == 'E'.toNat && (iocNr req == 0x80 || iocNr req == 0x81)

/-- EVIOCGNAME on an evdev descriptor, JSIOCGNAME on a joydev one. -/
def isNameRequest (joydev : Bool) (req : UInt64) : Bool :=
  if joydev then iocType req == 'j'.toNat && iocNr req == 0x13
  else iocType req == 'E'.toNat && iocNr req == 0x06

namespace Shim

/-- **The request respects its word**, on the descriptor `fake`. -/
structure Respects (env : Env) (s : Shim) (fake : FakeFd) (req arg : UInt64) (memory : List UInt8) :
    Prop where
  /-- The effect table changes for the effect requests of an evdev descriptor only. -/
  effects : (s.ioctl env fake.fd req arg memory).1.effectSlots ≠ s.effectSlots →
    fake.joydev = false ∧ isEffectRequest req = true
  /-- Every other accepted request changes nothing and writes within its size. -/
  others : ¬(fake.joydev = false ∧ isEffectRequest req = true) →
    (s.ioctl env fake.fd req arg memory).2.result ≠ -1 →
    (s.ioctl env fake.fd req arg memory).1 = s.init env ∧
      (s.ioctl env fake.fd req arg memory).2.stored.length ≤ iocSize req
  /-- The count a name request returns is that of the bytes it wrote. -/
  names : isNameRequest fake.joydev req = true →
    (s.ioctl env fake.fd req arg memory).2.result ≠ -1 →
    (s.ioctl env fake.fd req arg memory).2.result =
      (s.ioctl env fake.fd req arg memory).2.stored.length

/-- The slot an upload would take, and what it would store there. -/
def uploadOf (s : Shim) (fd : Int) (memory : List UInt8) : Option (Fin maxEffects × EffectSlot) :=
  let e := FfEffect.ofMemory memory
  if e.supported then
    (s.uploadSlot fd e.id.toInt).map fun i =>
      (i, { used := true, fd := fd, lowFrequency := e.magnitudes.1,
            highFrequency := e.magnitudes.2, durationMs := e.replayLength })
  else none

/-- The request does not reach what goes past its word: under another letter than 'E' it carries no
    effect that is to be stored and names none that is to be removed, and a name request leaves
    room for the name. -/
structure Proper (env : Env) (s : Shim) (fake : FakeFd) (req arg : UInt64) (memory : List UInt8) :
    Prop where
  upload : fake.joydev = false → iocType req ≠ 'E'.toNat → iocNr req = 0x80 → arg ≠ 0 →
    48 ≤ iocSize req → ∀ p ∈ s.uploadOf fake.fd memory, s.effectSlots p.1 = p.2
  remove : fake.joydev = false → iocType req ≠ 'E'.toNat → iocNr req = 0x81 → 4 ≤ iocSize req →
    s.findEffect fake.fd (Int32.ofNat arg.toNat).toInt = none
  name : isNameRequest fake.joydev req = true → arg ≠ 0 → iocSize req ≠ 0 →
    ((s.init env).deviceName fake).length + 1 ≤ iocSize req

end Shim

/-! ## 2. What is written -/

theorem fillBits_length (len ev : Nat) (isDinput : Bool) : (fillBits len ev isDinput).length = len := by
  have hfold : ∀ (codes : List Nat) (buf : List UInt8), (codes.foldl setBit buf).length = buf.length := by
    intro codes
    induction codes with
    | nil => exact fun _ => rfl
    | cons code codes ih => exact fun buf => (ih _).trans (setBit_length buf code)
  exact (hfold _ _).trans List.length_replicate

theorem intBytes_length (n : Nat) : (intBytes n).length = 4 := Codec.u32.enc_length _

theorem absInfo_length (code : Nat) : (absInfo code).length = 24 := by
  have h : ∀ v : Int32, (Codec.s32.enc v).length = 4 := Codec.s32.enc_length
  simp only [absInfo, List.length_append, h]

/-- `tg_copy` fills its buffer at most. -/
theorem copyBytes_length (src : List UInt8) {cap : Nat} (hcap : cap ≠ 0) :
    (copyBytes src cap).length = min src.length (cap - 1) + 1 := by
  rw [copyBytes, if_neg hcap, List.length_append, List.length_take]
  simp only [List.length_singleton]
  omega

theorem copyBytes_le (src : List UInt8) (cap : Nat) : (copyBytes src cap).length ≤ cap := by
  by_cases hcap : cap = 0
  · rw [copyBytes, if_pos hcap]
    exact Nat.zero_le _
  · rw [copyBytes_length src hcap]
    omega

namespace Shim

variable {env : Env} {s : Shim} {fake : FakeFd} {req arg : UInt64} {memory : List UInt8}

/-- **The capability requests** of an evdev descriptor write within their size. -/
theorem fakeIoctl_stored (s : Shim) (fake : FakeFd) (req arg : UInt64) :
    (s.fakeIoctl fake req arg).stored.length ≤ iocSize req := by
  have hu16 : ∀ v : UInt16, (Codec.u16.enc v).length = 2 := Codec.u16.enc_length
  unfold fakeIoctl
  dsimp only
  split
  · exact Nat.zero_le _
  split
  · rename_i h
    rw [intBytes_length]
    exact h.2.2
  split
  · rename_i h
    simp only [List.length_append, hu16]
    exact h.2.2
  split
  · exact copyBytes_le ..
  split
  · exact Nat.le_of_eq (fillBits_length ..)
  split
  · rename_i h
    rw [absInfo_length]
    exact h.2.2.2
  split
  · rename_i h
    rw [intBytes_length]
    exact h.2.2
  · exact Nat.zero_le _

/-- The same, of a joydev descriptor. -/
theorem fakeJoyIoctl_stored (s : Shim) (fake : FakeFd) (req arg : UInt64) :
    (s.fakeJoyIoctl fake req arg).stored.length ≤ iocSize req := by
  unfold fakeJoyIoctl
  dsimp only
  split
  · exact Nat.zero_le _
  split
  · rename_i h
    rw [intBytes_length]
    exact h.2
  split
  · rename_i h
    exact h.2
  split
  · rename_i h
    exact h.2
  split
  · exact copyBytes_le ..
  · exact Nat.zero_le _

/-! ## 3. The dispatch -/

/-- What `ioctl` does on a virtual descriptor, after `tg_init`. -/
def dispatch (s : Shim) (fake : FakeFd) (req arg : UInt64) (memory : List UInt8) : Shim × Outcome :=
  if fake.joydev then (s, s.fakeJoyIoctl fake req arg)
  else if iocNr req = 0x80 ∧ arg ≠ 0 ∧ iocSize req ≥ 48 then s.uploadEffect fake.fd memory
  else if iocNr req = 0x81 ∧ iocSize req ≥ 4 then
    s.removeEffect fake.fd (Int32.ofNat arg.toNat).toInt
  else (s, s.fakeIoctl fake req arg)

theorem ioctl_dispatch (h : s.findFakeFd fake.fd = some fake) :
    s.ioctl env fake.fd req arg memory = (s.init env).dispatch fake req arg memory := by
  have hinit : (s.init env).findFakeFd fake.fd = some fake := (init_findFakeFd s _).trans h
  simp only [ioctl, hinit, dispatch]

/-- An upload is what `uploadOf` says. -/
theorem uploadEffect_eq (s : Shim) (fd : Int) (memory : List UInt8) :
    s.uploadEffect fd memory =
      match s.uploadOf fd memory with
      | none => (s, Outcome.failed)
      | some p => (s.setEffect p.1 p.2,
          { result := 0, stored := memory.take 2 ++ Codec.s16.enc (Int16.ofInt p.1) }) := by
  unfold uploadEffect uploadOf FfEffect.supported
  dsimp only
  by_cases h : (FfEffect.ofMemory memory).type ∈ [ffRumble, ffConstant, ffPeriodic, ffRamp] ∨
      isConditionEffect (FfEffect.ofMemory memory).type = true
  · have hsup : (decide ((FfEffect.ofMemory memory).type ∈ [ffRumble, ffConstant, ffPeriodic, ffRamp]) ||
        isConditionEffect (FfEffect.ofMemory memory).type) = true := by simpa using h
    rw [if_neg (not_not.mpr h), if_pos hsup]
    cases s.uploadSlot fd (FfEffect.ofMemory memory).id.toInt <;> rfl
  · have hsup : ¬(decide ((FfEffect.ofMemory memory).type ∈ [ffRumble, ffConstant, ffPeriodic, ffRamp]) ||
        isConditionEffect (FfEffect.ofMemory memory).type) = true := by simpa using h
    rw [if_pos h, if_neg hsup]

/-- A name request that has somewhere to write to copies the name. -/
theorem dispatch_name (s : Shim) (h : isNameRequest fake.joydev req = true) (harg : arg ≠ 0)
    (hsize : iocSize req ≠ 0) :
    s.dispatch fake req arg memory = (s, s.copyName fake (iocSize req)) := by
  unfold dispatch
  cases hjoy : fake.joydev with
  | true =>
    rw [hjoy] at h
    obtain ⟨htype, hnr⟩ : iocType req = 'j'.toNat ∧ iocNr req = 0x13 := by
      simpa [isNameRequest] using h
    simp [fakeJoyIoctl, htype, hnr, harg, hsize]
  | false =>
    rw [hjoy] at h
    obtain ⟨htype, hnr⟩ : iocType req = 'E'.toNat ∧ iocNr req = 0x06 := by
      simpa [isNameRequest] using h
    simp [fakeIoctl, htype, hnr, harg, hsize]

/-- One that has not is refused. -/
theorem dispatch_name_refused (s : Shim) (h : isNameRequest fake.joydev req = true)
    (hnone : ¬(arg ≠ 0 ∧ iocSize req ≠ 0)) : (s.dispatch fake req arg memory).2.result = -1 := by
  unfold dispatch
  cases hjoy : fake.joydev with
  | true =>
    rw [hjoy] at h
    obtain ⟨htype, hnr⟩ : iocType req = 'j'.toNat ∧ iocNr req = 0x13 := by
      simpa [isNameRequest] using h
    by_cases harg : arg = 0
    · simp [fakeJoyIoctl, harg, Outcome.failed]
    · have hsize : iocSize req = 0 := by simpa [harg] using hnone
      simp [fakeJoyIoctl, htype, hnr, hsize, Outcome.failed]
  | false =>
    rw [hjoy] at h
    obtain ⟨htype, hnr⟩ : iocType req = 'E'.toNat ∧ iocNr req = 0x06 := by
      simpa [isNameRequest] using h
    by_cases harg : arg = 0
    · simp [fakeIoctl, htype, hnr, harg, Outcome.failed]
    · have hsize : iocSize req = 0 := by simpa [harg] using hnone
      simp [fakeIoctl, htype, hnr, hsize, Outcome.failed]

/-- The count is that of the bytes written exactly if there is room for the name. -/
theorem copyName_count (s : Shim) (fake : FakeFd) {size : Nat} (hsize : size ≠ 0) :
    (s.copyName fake size).result = (s.copyName fake size).stored.length ↔
      (s.deviceName fake).length + 1 ≤ size := by
  have hlen := copyBytes_length (s.deviceName fake) hsize
  show ((s.deviceName fake).length + 1 : Int) = (copyBytes (s.deviceName fake) size).length ↔ _
  rw [hlen]
  omega

/-- The name requests respect their word where there is room for the name. -/
theorem names_iff (h : s.findFakeFd fake.fd = some fake) :
    (isNameRequest fake.joydev req = true →
        (s.ioctl env fake.fd req arg memory).2.result ≠ -1 →
        (s.ioctl env fake.fd req arg memory).2.result =
          (s.ioctl env fake.fd req arg memory).2.stored.length) ↔
      (isNameRequest fake.joydev req = true → arg ≠ 0 → iocSize req ≠ 0 →
        ((s.init env).deviceName fake).length + 1 ≤ iocSize req) := by
  rw [ioctl_dispatch h]
  refine forall_congr' fun hname => ?_
  by_cases hwhere : arg ≠ 0 ∧ iocSize req ≠ 0
  · rw [dispatch_name _ hname hwhere.1 hwhere.2, ← copyName_count _ fake hwhere.2]
    have haccepted : ((s.init env).copyName fake (iocSize req)).result ≠ -1 := by
      show (((s.init env).deviceName fake).length + 1 : Int) ≠ -1
      omega
    exact ⟨fun hc _ _ => hc haccepted, fun hc _ => hc hwhere.1 hwhere.2⟩
  · have hrefused := @dispatch_name_refused fake req arg memory (s.init env) hname hwhere
    exact ⟨fun _ ha hs => absurd ⟨ha, hs⟩ hwhere, fun _ hne => absurd hrefused hne⟩

theorem uploadOf_init (s : Shim) (fd : Int) (memory : List UInt8) :
    (s.init env).uploadOf fd memory = s.uploadOf fd memory := by
  unfold uploadOf uploadSlot
  rw [init_effectSlots]

theorem findEffect_init (s : Shim) (fd id : Int) : (s.init env).findEffect fd id = s.findEffect fd id := by
  unfold findEffect
  rw [init_effectSlots]

/-- Storing what a slot has changes nothing. -/
theorem setEffect_same {i : Fin maxEffects} {e : EffectSlot} (h : s.effectSlots i = e) :
    s.setEffect i e = s := by
  unfold setEffect
  rw [← h, Function.update_eq_self]

theorem setEffect_changes {i : Fin maxEffects} {e : EffectSlot} (h : s.effectSlots i ≠ e) :
    (s.setEffect i e).effectSlots ≠ s.effectSlots := by
  intro hsame
  have hi : Function.update s.effectSlots i e i = s.effectSlots i := congrFun hsame i
  rw [Function.update_self] at hi
  exact h hi.symm

/-- An effect that is found is in use. -/
theorem findEffect_used {fd id : Int} {i : Fin maxEffects} (h : s.findEffect fd id = some i) :
    (s.effectSlots i).used = true := by
  unfold findEffect at h
  split at h
  · dsimp only at h
    split at h
    · rename_i hused
      rw [← Option.some.inj h]
      exact hused.1
    · cases h
  · cases h

/-- **A proper request respects its word.** -/
theorem Proper.respects (h : s.findFakeFd fake.fd = some fake)
    (hp : s.Proper env fake req arg memory) : s.Respects env fake req arg memory := by
  have hletter : fake.joydev = false → (iocNr req = 0x80 ∨ iocNr req = 0x81) →
      ¬(fake.joydev = false ∧ isEffectRequest req = true) → iocType req ≠ 'E'.toNat := by
    intro hjoy hnr hno htype
    refine hno ⟨hjoy, ?_⟩
    rcases hnr with hnr | hnr <;> simp [isEffectRequest, htype, hnr]
  -- under another letter the table stays as it is
  have hkept : ¬(fake.joydev = false ∧ isEffectRequest req = true) →
      ((s.init env).dispatch fake req arg memory).1 = s.init env ∧
        (((s.init env).dispatch fake req arg memory).2.result ≠ -1 →
          ((s.init env).dispatch fake req arg memory).2.stored.length ≤ iocSize req) := by
    intro hno
    unfold dispatch
    split
    · exact ⟨rfl, fun _ => fakeJoyIoctl_stored ..⟩
    rename_i hjoy
    rw [Bool.not_eq_true] at hjoy
    split
    · rename_i hup
      rw [uploadEffect_eq, uploadOf_init]
      have hsame := hp.upload hjoy (hletter hjoy (Or.inl hup.1) hno) hup.1 hup.2.1 hup.2.2
      cases hof : s.uploadOf fake.fd memory with
      | none => exact ⟨rfl, fun _ => Nat.zero_le _⟩
      | some p =>
        have hslot : (s.init env).effectSlots p.1 = p.2 := by
          rw [init_effectSlots]
          exact hsame p hof
        have hlen : (memory.take 2 ++ Codec.s16.enc (Int16.ofInt p.1)).length ≤ 4 := by
          have hs16 : (Codec.s16.enc (Int16.ofInt p.1)).length = 2 := Codec.s16.enc_length _
          rw [List.length_append, hs16, List.length_take]
          omega
        exact ⟨setEffect_same hslot, fun _ => by
          have hsize := hup.2.2
          exact hlen.trans (by omega)⟩
    split
    · rename_i hrm
      have hnone := hp.remove hjoy (hletter hjoy (Or.inr hrm.1) hno) hrm.1 hrm.2
      unfold removeEffect
      rw [findEffect_init, hnone]
      exact ⟨rfl, fun _ => Nat.zero_le _⟩
    · exact ⟨rfl, fun _ => fakeIoctl_stored ..⟩
  refine ⟨fun hchanged => ?_, fun hno hacc => ?_, (names_iff h).mpr hp.name⟩
  · by_contra hno
    rw [ioctl_dispatch h, (hkept hno).1, init_effectSlots] at hchanged
    exact hchanged rfl
  · rw [ioctl_dispatch h] at hacc ⊢
    exact ⟨(hkept hno).1, (hkept hno).2 hacc⟩

/-- **A request that respects its word is proper.** -/
theorem Respects.proper (h : s.findFakeFd fake.fd = some fake)
    (hr : s.Respects env fake req arg memory) : s.Proper env fake req arg memory := by
  have hkept : iocType req ≠ 'E'.toNat →
      ((s.init env).dispatch fake req arg memory).1.effectSlots = (s.init env).effectSlots := by
    intro htype
    by_contra hchanged
    rw [← ioctl_dispatch h, init_effectSlots] at hchanged
    have heffect := (hr.effects hchanged).2
    unfold isEffectRequest at heffect
    rw [Bool.and_eq_true, beq_iff_eq] at heffect
    exact htype heffect.1
  refine ⟨fun hjoy htype hnr harg hsize p hof => ?_, fun hjoy htype hnr hsize => ?_,
    (names_iff h).mp hr.names⟩
  · have hdispatch : (s.init env).dispatch fake req arg memory =
        (s.init env).uploadEffect fake.fd memory := by
      rw [dispatch, if_neg (by rw [hjoy]; decide), if_pos ⟨hnr, harg, hsize⟩]
    have hsame := hkept htype
    rw [hdispatch, uploadEffect_eq, uploadOf_init, Option.mem_def.mp hof] at hsame
    by_contra hne
    exact setEffect_changes (by rw [init_effectSlots]; exact hne) hsame
  · have hdispatch : (s.init env).dispatch fake req arg memory =
        (s.init env).removeEffect fake.fd (Int32.ofNat arg.toNat).toInt := by
      rw [dispatch, if_neg (by rw [hjoy]; decide), if_neg (by rw [hnr]; omega), if_pos ⟨hnr, hsize⟩]
    have hsame := hkept htype
    rw [hdispatch] at hsame
    cases hfind : s.findEffect fake.fd (Int32.ofNat arg.toNat).toInt with
    | none => rfl
    | some i =>
      rw [removeEffect, findEffect_init, hfind] at hsame
      refine absurd hsame (setEffect_changes fun hslot => ?_)
      have hused := findEffect_used hfind
      rw [← @init_effectSlots env, hslot] at hused
      cases hused

end Shim

/-- **The dispatch of an ioctl respects the request word**, exactly if the request reaches neither
    an effect request under a wrong letter nor a name longer than its buffer. -/
theorem ioctl_respects_iff (env : Env) (s : Shim) (fake : FakeFd) (req arg : UInt64)
    (memory : List UInt8) (h : s.findFakeFd fake.fd = some fake) :
    s.Respects env fake req arg memory ↔ s.Proper env fake req arg memory :=
  ⟨fun hr => hr.proper h, fun hp => hp.respects h⟩

/-- An evdev descriptor, just opened. -/
def evdevOpened : Shim :=
  ((Shim.loaded [] [openAnswer 3] []).call plainEnv (.open_ (some fakeDevnode) 0 0)).1

/-- Its record. -/
def evdevFake : FakeFd :=
  { fd := 3, joydev := false, initializing := false, raw := [], raw_lt := raw_empty,
    descriptor := deviceDescriptorCodec.dec (openAnswer 3).received }

/-- EVIOCSFF of a rumble effect under a new id stores it, and respects its word. -/
theorem ioctl_respects_iff_upload :
    let memory := Codec.u16.enc ffRumble ++ Codec.s16.enc (-1) ++ List.replicate 44 0
    (evdevOpened.ioctl plainEnv 3 0x40304580 4096 memory).1.effectSlots ≠ evdevOpened.effectSlots ∧
      evdevOpened.Respects plainEnv evdevFake 0x40304580 4096 memory := by
  intro memory
  refine ⟨fun hsame => absurd (congrFun hsame ⟨0, by decide⟩) (by decide +kernel),
    (ioctl_respects_iff plainEnv evdevOpened evdevFake 0x40304580 4096 memory rfl).mpr ?_⟩
  exact ⟨fun _ htype => absurd rfl htype, fun _ htype => absurd rfl htype,
    fun hname => absurd hname (by decide)⟩

/-- **Two requests past their word**: one of another type letter, with the number of EVIOCSFF,
    stores an effect; and EVIOCGNAME(8) writes eight bytes and returns 31. -/
theorem ioctl_past_word :
    ¬evdevOpened.Respects plainEnv evdevFake 0x40304a80 4096
        (Codec.u16.enc ffRumble ++ Codec.s16.enc (-1) ++ List.replicate 44 0) ∧
      ¬evdevOpened.Respects plainEnv evdevFake 0x80084506 4096 [] := by
  refine ⟨fun h => ?_, fun h => ?_⟩
  · have heffect := (h.effects (fun hsame => absurd (congrFun hsame ⟨0, by decide⟩) (by decide +kernel))).2
    exact absurd heffect (by decide +kernel)
  · exact absurd (h.names (by decide +kernel) (by decide +kernel)) (by decide +kernel)

end TermuxGamepad
