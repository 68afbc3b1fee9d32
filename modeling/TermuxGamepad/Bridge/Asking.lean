/-
  File:      TermuxGamepad/Bridge/Asking.lean
  Subject:   A connection that brings one QUERY_DESCRIPTOR and nothing else.

  Such a connection is answered once, and from then on it is sent batches: `asked_once` says so of
  all that was ever queued on it, also where the client is dropped in the middle.
-/
import Mathlib.Data.Set.List
import TermuxGamepad.Bridge.Decoder
import TermuxGamepad.Bridge.Opening
import TermuxGamepad.Bridge.Replies

namespace TermuxGamepad

open Wire

namespace Bridge

variable {b : Bridge} {i : Slot} {c : Conn} {m : ControlMessage} {taken : List UInt8}

/-! ## 1. A receive call -/

/-- **The command is answered once.** -/
theorem messageLoop_greets (hm : m.command = controlQueryDescriptor)
    (hcontrol : (b.clients i).control <+: controlMessageCodec.enc m) (fuel : Nat) (c : Conn) :
    ∃ ms, Adds b (messageLoop fuel b i).1 c ms ∧ Greets ms := by
  cases fuel with
  | zero => exact ⟨[], Silent.refl b c, Or.inl rfl⟩
  | succ fuel =>
    unfold messageLoop
    dsimp only
    split
    · exact ⟨[], Silent.refl b c, Or.inl rfl⟩
    rename_i hlen
    have hwhole := prefix_whole hcontrol (Nat.not_lt.mp hlen)
    split
    · exact ⟨[], emitFor_silent b i (fun _ => rfl) c, Or.inl rfl⟩
    · rw [hwhole, controlMessageCodec.dec_enc]
      generalize hb₁ : b.setClient i (takeMessage (b.clients i) m b.deviceDescriptor) = b₁
      have hsilent : Silent b b₁ := .of_log (hb₁ ▸ rfl)
      obtain ⟨ms, hms⟩ := handleCommand_adds b₁ i m c
      refine ⟨ms, ?_, hms.greets hm⟩
      split
      · rename_i hok
        -- nothing of the command is left to be taken for another one
        have hleft : (b₁.clients i).control = [] := by
          rw [← hb₁, setClient_self]
          show (b.clients i).control.drop 16 = []
          rw [hwhole]
          exact List.drop_eq_nil_of_le (Nat.le_of_eq (controlMessageCodec.enc_length m))
        have hnone : ((b₁.handleCommand i m).1.clients i).control = [] := by
          rcases (handleCommand_handled b₁ i m hok).stays with hfree | ⟨-, hsame⟩
          · exact congrArg Link.control hfree
          · exact hsame.trans hleft
        rw [messageLoop_nil hnone]
        exact hsilent.adds hms.adds
      · exact hsilent.adds hms.adds

/-- **A receive call** on such a connection, whose answer comes at most once. -/
theorem serveReadable_greets (h : (b.clients i).toLink.Serves m taken)
    (hm : m.command = controlQueryDescriptor) (r : RecvResult)
    (hfit : taken ++ received (b.clients i).toLink r <+: controlMessageCodec.enc m) (c : Conn) :
    ∃ ms, Adds b (b.serveReadable i r) c ms ∧ Greets ms ∧ ((b.clients i).queued ≠ [] → ms = []) := by
  have hnext : (b.clients i).control ++ received (b.clients i).toLink r <+:
        controlMessageCodec.enc m ∧
      ((b.clients i).queued ≠ [] → (b.clients i).control ++ received (b.clients i).toLink r = []) := by
    cases h with
    | waiting hcommands hcontrol hkind hq => exact ⟨hcontrol.symm ▸ hfit, fun hne => absurd hq hne⟩
    | stream d batches hm' htaken hcommands hcontrol hkind hq =>
      have hnil : received (b.clients i).toLink r = [] := by
        have hlen := hfit.length_le
        rw [List.length_append, htaken] at hlen
        exact List.eq_nil_of_length_eq_zero (by omega)
      have hboth : (b.clients i).control ++ received (b.clients i).toLink r = [] :=
        List.append_eq_nil_iff.mpr ⟨hcontrol, hnil⟩
      exact ⟨hboth ▸ List.nil_prefix, fun _ => hboth⟩
    | monitor d ms hm' htaken hcommands hcontrol hkind hq =>
      rw [hm] at hm'
      exact absurd hm' (by decide)
  have hcall : ∃ ms, Adds b (b.receiveControlMessages i r).1 c ms ∧ Greets ms ∧
      ((b.clients i).queued ≠ [] → ms = []) := by
    have hsilent : ∀ b', Silent b b' → ∃ ms, Adds b b' c ms ∧ Greets ms ∧
        ((b.clients i).queued ≠ [] → ms = []) := fun b' hs => ⟨[], hs c, Or.inl rfl, fun _ => rfl⟩
    unfold receiveControlMessages
    dsimp only
    split
    · exact hsilent b (.refl b)
    split
    · exact hsilent _ (emitFor_silent b i fun _ => rfl)
    · exact hsilent b (.refl b)
    · exact hsilent _ (emitFor_silent b i fun _ => rfl)
    · rename_i x bs
      obtain ⟨hfront, hnil⟩ := hnext
      generalize hs : (b.clients i).control ++ (x :: bs).take
        (controlBufferSize - (b.clients i).control.length) = s
      replace hfront : s <+: controlMessageCodec.enc m := hs ▸ hfront
      replace hnil : (b.clients i).queued ≠ [] → s = [] := fun hne => hs ▸ hnil hne
      generalize hb₁ : b.setClient i { b.clients i with control := s } = b₁
      have hsame : Silent b b₁ := .of_log (hb₁ ▸ rfl)
      have hcontrol : (b₁.clients i).control = s := by rw [← hb₁, setClient_self]
      by_cases hq : (b.clients i).queued = []
      · obtain ⟨ms, hms, hgreets⟩ := messageLoop_greets hm (hcontrol.symm ▸ hfront) s.length c
        exact ⟨ms, hsame.adds hms, hgreets, fun hne => absurd hq hne⟩
      · rw [hnil hq]
        exact ⟨[], hsame c, Or.inl rfl, fun _ => rfl⟩
  obtain ⟨ms, hms, hrest⟩ := hcall
  unfold serveReadable
  dsimp only
  split
  · exact ⟨ms, hms, hrest⟩
  · exact ⟨ms, hms.silent (closeClient_silent _ i), hrest⟩

/-! ## 2. An action -/

/-- The queue of a connection in a slot has the bytes the record has. -/
theorem queuedOn_bytes (hs : Sound b) (hw : (b.clients i).toLink.Whole)
    (hc : (b.clients i).fd = some c) :
    (queuedOn c b.log).flatMap Message.bytes = (b.clients i).queued.flatMap Message.bytes := by
  have hacc := phase_accounts c b.log
  rw [hs.tracked.isOpen i c hc, if_neg (by simp)] at hacc
  rw [← hacc.2, hacc.1]
  exact hw

theorem descriptor_bytes_ne (d : DeviceDescriptor) (ms : List Message) :
    (Message.descriptor d :: ms).flatMap Message.bytes ≠ [] := by
  intro hnil
  have hlen := congrArg List.length (List.append_eq_nil_iff.mp hnil).1
  rw [show (Message.bytes (.descriptor d)).length = _ from deviceDescriptorCodec.enc_length d] at hlen
  exact absurd hlen (by decide)

/-- **Every action keeps it**: what is queued on the connection is one answer, and batches. -/
theorem act_greets (hs : Sound b) (hw : ∀ i, (b.clients i).toLink.Whole)
    (h : b.ServesOn c m taken) (hm : m.command = controlQueryDescriptor) {a : Action}
    (hfit : taken ++ b.takes a c <+: controlMessageCodec.enc m) (hq : Greets (queuedOn c b.log)) :
    Greets (queuedOn c (b.act a).log) := by
  have hsame : Adds b (b.act a) c [] → Greets (queuedOn c (b.act a).log) := fun hadds => by
    rw [hadds, List.append_nil]
    exact hq
  by_cases hlooks : a.looks = true
  · -- hotplug messages go to monitors, and this is none
    obtain ⟨answer, rfl⟩ := Action.looks_eq hlooks
    obtain ⟨ms, hms, hx⟩ := (refreshLorieDevice_adds b answer c).2
    cases ms with
    | nil => exact hsame hms
    | cons x ms =>
      obtain ⟨-, i, hi, hkind⟩ := hx x List.mem_cons_self
      cases h.slot i hi with
      | waiting _ _ hk _ => exact absurd (hk.symm.trans hkind) (by decide)
      | stream _ _ _ _ _ _ hk _ => exact absurd (hk.symm.trans hkind) (by decide)
      | monitor _ _ hm' _ _ _ _ _ =>
        rw [hm] at hm'
        exact absurd hm' (by decide)
  rcases act_adds b (Bool.not_eq_true _ ▸ hlooks) c with hadds | ⟨i, r, -, rfl, hi, -⟩ |
    ⟨event, ms, rfl, hms, hx⟩
  · exact hsame hadds
  · have hact : b.act (.readable i r) = b.serveReadable i r := if_pos (by rw [hi]; rfl)
    have htakes : b.takes (.readable i r) c = received (b.clients i).toLink r := if_pos hi
    rw [htakes] at hfit
    obtain ⟨ms, hms, hgreets, honce⟩ := serveReadable_greets (h.slot i hi) hm r hfit c
    rw [hact, hms]
    by_cases hnone : (b.clients i).queued = []
    · -- the first answer: nothing was queued before
      have hbytes := queuedOn_bytes hs (hw i) hi
      rw [hnone] at hbytes
      rcases hq with hq | ⟨d, batches, hq⟩
      · rw [hq]
        exact hgreets
      · rw [hq] at hbytes
        exact absurd hbytes (descriptor_bytes_ne d _)
    · rw [honce hnone, List.append_nil]
      exact hq
  · cases ms with
    | nil => exact hsame hms
    | cons x ms =>
      obtain ⟨-, -, -, i, hi, hkind⟩ := hx x List.mem_cons_self
      obtain ⟨batches, hbatches⟩ : x :: ms ∈ Set.range (List.map Message.events) := by
        rw [Set.range_list_map]
        intro y hy
        obtain ⟨evs, hevs, -⟩ := hx y hy
        exact ⟨evs, hevs.symm⟩
      rcases hq with hq | ⟨d, before, hq⟩
      · -- an event client was answered
        have hbytes := queuedOn_bytes hs (hw i) hi
        rw [hq] at hbytes
        cases h.slot i hi with
        | waiting _ _ hk _ => exact absurd (hk.symm.trans hkind) (by decide)
        | stream d _ _ _ _ _ _ hqueued =>
          rw [hqueued] at hbytes
          exact absurd hbytes.symm (descriptor_bytes_ne d _)
        | monitor _ _ hm' _ _ _ _ _ =>
          rw [hm] at hm'
          exact absurd hm' (by decide)
      · rw [hms, hq, ← hbatches]
        exact Or.inr ⟨d, before ++ batches, by rw [List.map_append]; rfl⟩

/-! ## 3. Runs -/

/-- The bytes a run takes off a connection. -/
def brought (c : Conn) : Bridge → List Input → List UInt8
  | _, [] => []
  | b, inp :: inputs => b.takes inp.action c ++ brought c (b.step inp) inputs

theorem brought_concat (c : Conn) (b : Bridge) (inputs : List Input) (inp : Input) :
    brought c b (inputs ++ [inp]) =
      brought c b inputs ++ (run step b inputs).takes inp.action c := by
  induction inputs generalizing b with
  | nil => simp [brought]
  | cons inp' inputs ih => rw [List.cons_append, brought, ih, brought, run_cons, List.append_assoc]

/-- **One question, one answer**: in every run, what is queued on a connection that brings one
    QUERY_DESCRIPTOR and nothing else is nothing, or a descriptor and batches. -/
theorem asked_once (opcode : Int) (answer : DeviceAnswer) (inputs : List Input) (c : Conn)
    (hm : m.command = controlQueryDescriptor)
    (hfit : brought c (boot opcode answer) inputs <+: controlMessageCodec.enc m) :
    (run step (boot opcode answer) inputs).ServesOn c m (brought c (boot opcode answer) inputs) ∧
      Greets (queuedOn c (run step (boot opcode answer) inputs).log) := by
  induction inputs using List.reverseRecOn with
  | nil =>
    refine ⟨⟨fun i hi => ?_, fun _ => rfl⟩, Or.inl (boot_queued opcode answer c)⟩
    rw [run_nil, boot_free] at hi
    cases hi
  | append_singleton inputs inp ih =>
    rw [brought_concat] at hfit
    obtain ⟨hserves, hgreets⟩ := ih ((List.prefix_append _ _).trans hfit)
    let b := (run step (boot opcode answer) inputs).withEnv inp.sends inp.ticks inp.stamps
    have hsound : Sound b := (run_sound opcode answer inputs).env inp.sends inp.ticks inp.stamps
    have hserves' : b.ServesOn c m (brought c (boot opcode answer) inputs) :=
      ⟨hserves.slot, hserves.unseen⟩
    rw [run_concat, brought_concat]
    exact ⟨hserves'.act hsound.tracked (Or.inl hm) hfit,
      act_greets hsound (fun i => run_whole opcode answer inputs i) hserves' hm hfit hgreets⟩

end Bridge

end TermuxGamepad
