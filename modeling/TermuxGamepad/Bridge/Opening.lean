/-
  File:      TermuxGamepad/Bridge/Opening.lean
  Subject:   How the queue of a connection begins.

  The first thing queued on a connection is the answer to its first commands, and it tells device
  and state of that moment. `Opening` names the step; `run_opening` finds it in every run.
-/
import Mathlib.Data.List.Induction
import TermuxGamepad.Bridge.Queueing

namespace TermuxGamepad

open Wire

namespace Bridge

variable {b : Bridge} {c : Conn}

/-! ## 1. One step -/

/-- **What a step adds**: something only where a slot holds the connection, and on an empty queue
    only replies. -/
theorem step_adds (ho : Opened b) (inp : Input) (c : Conn) :
    ∃ ms, Adds b (b.step inp) c ms ∧ (ms = [] ∨ (∃ i, (b.clients i).fd = some c) ∧
      (queuedOn c b.log = [] → Replies b.state b.deviceDescriptor ms)) := by
  -- a client that has a kind was answered: its queue is not empty
  have hkind : ∀ {kind} {ms : List Message}, kind ≠ .uninitialized →
      (∀ x ∈ ms, ∃ i, (b.clients i).fd = some c ∧ (b.clients i).kind = kind) →
      ms = [] ∨ (∃ i, (b.clients i).fd = some c) ∧
        (queuedOn c b.log = [] → Replies b.state b.deviceDescriptor ms) := by
    intro kind ms hkind hx
    cases ms with
    | nil => exact Or.inl rfl
    | cons m ms =>
      obtain ⟨i, hi, hk⟩ := hx m List.mem_cons_self
      refine Or.inr ⟨⟨i, hi⟩, fun hnone => ?_⟩
      rcases ho i c hi with ⟨hu, -⟩ | ⟨_, _, hq, -⟩
      · exact absurd (hk.symm.trans hu) hkind
      · rw [hnone] at hq
        cases hq
  let b₁ := b.withEnv inp.sends inp.ticks inp.stamps
  by_cases ha : inp.action.looks = true
  · obtain ⟨answer, ha⟩ := Action.looks_eq ha
    obtain ⟨ms, hms, hx⟩ := (refreshLorieDevice_adds b₁ answer c).2
    rw [step, ha]
    exact ⟨ms, hms, hkind (by decide) fun x hmem => (hx x hmem).2⟩
  · rcases act_adds b₁ (Bool.not_eq_true _ ▸ ha) c with h' | ⟨i, r, ms, -, hi, h'⟩ | ⟨_, ms, -, h', hx⟩
    · exact ⟨[], h', Or.inl rfl⟩
    · exact ⟨ms, h'.adds, Or.inr ⟨⟨i, hi⟩, fun _ => h'.replies⟩⟩
    · have hevents : ClientKind.events ≠ .uninitialized := by decide
      refine ⟨ms, h', hkind hevents fun x hmem => ?_⟩
      obtain ⟨_, _, _, hi⟩ := hx x hmem
      exact hi

theorem boot_queued (opcode : Int) (answer : DeviceAnswer) (c : Conn) :
    queuedOn c (boot opcode answer).log = [] := by
  unfold boot
  split
  · obtain ⟨ms, hms, hx⟩ := (refreshLorieDevice_adds (Bridge.init opcode) answer c).2
    rw [hms]
    cases ms with
    | nil => rfl
    | cons m ms =>
      obtain ⟨-, i, hi, -⟩ := hx m List.mem_cons_self
      cases hi
  · rfl

/-! ## 2. Runs -/

/-- The step after `pre` is the first to queue anything on the connection: it queued `ms`, replies
    that tell the state it met. What came later is `rest`, and nothing did if `ms` was cut. -/
structure Opening (start : Bridge) (inputs : List Input) (c : Conn) (pre : List Input)
    (ms rest : List Message) : Prop where
  before : ∃ inp post, inputs = pre ++ inp :: post ∧
    queuedOn c (run step start (pre ++ [inp])).log = ms
  empty : queuedOn c (run step start pre).log = []
  replies : Replies (run step start pre).state (run step start pre).deviceDescriptor ms
  some : ms ≠ []
  queued : queuedOn c (run step start inputs).log = ms ++ rest
  whole : Answered ms ∨ rest = []

theorem Opening.append {start : Bridge} {inputs pre : List Input} {ms rest ms' : List Message}
    (h : Opening start inputs c pre ms rest) {inp : Input}
    (ha : Adds (run step start inputs) (run step start (inputs ++ [inp])) c ms')
    (hw : ms' = [] ∨ Answered (queuedOn c (run step start inputs).log)) :
    Opening start (inputs ++ [inp]) c pre ms (rest ++ ms') := by
  obtain ⟨inp₀, post, hin, hms⟩ := h.before
  refine ⟨⟨inp₀, post ++ [inp], by rw [hin, List.append_assoc, List.cons_append], hms⟩, h.empty,
    h.replies, h.some, by rw [ha, h.queued, List.append_assoc], ?_⟩
  rcases h.whole with hms | rfl
  · exact Or.inl hms
  · rcases hw with rfl | hw
    · exact Or.inr rfl
    · rw [h.queued, List.append_nil] at hw
      exact Or.inl hw

/-- **Every queue begins with replies** to commands, in the state of that moment. -/
theorem run_opening (opcode : Int) (answer : DeviceAnswer) (inputs : List Input) (c : Conn) :
    queuedOn c (run step (boot opcode answer) inputs).log = [] ∨
      ∃ pre ms rest, Opening (boot opcode answer) inputs c pre ms rest := by
  induction inputs using List.reverseRecOn with
  | nil => exact Or.inl (boot_queued opcode answer c)
  | append_singleton inputs inp ih =>
    have hopened := run_opened opcode answer inputs
    obtain ⟨ms', hms', hcase⟩ := step_adds hopened inp c
    rw [← run_concat step] at hms'
    rcases ih with hnone | ⟨pre, ms, rest, h⟩
    · rcases hcase with rfl | ⟨-, hreplies⟩
      · left
        rw [hms', hnone, List.append_nil]
      · by_cases hnil : ms' = []
        · left
          rw [hms', hnone, hnil, List.append_nil]
        · have hq : queuedOn c (run step (boot opcode answer) (inputs ++ [inp])).log = ms' := by
            rw [hms', hnone, List.nil_append]
          exact Or.inr ⟨inputs, ms', [], ⟨⟨inp, [], rfl, hq⟩, hnone, hreplies hnone, hnil,
            by rw [hq, List.append_nil], Or.inr rfl⟩⟩
    · refine Or.inr ⟨pre, ms, rest ++ ms', h.append hms' (hcase.imp id fun ⟨⟨i, hi⟩, _⟩ => ?_)⟩
      rcases hopened i c hi with ⟨-, hq⟩ | ha
      · rw [h.queued] at hq
        exact absurd (List.append_eq_nil_iff.mp hq).1 h.some
      · exact ha

/-- A queue that begins with the descriptor of a device goes on with a snapshot, if at all. -/
theorem Opening.snapshot {start : Bridge} {inputs pre : List Input} {d : DeviceDescriptor}
    {ms rest : List Message} (h : Opening start inputs c pre (.descriptor d :: ms) rest)
    (hd : d.present ≠ 0) :
    ms = [] ∧ rest = [] ∨ ∃ evs ms', IsSnapshot (run step start pre).state evs ∧ ms = .events evs :: ms' := by
  cases h.replies with
  | absent habsent _ => exact absurd habsent hd
  | cut =>
    refine Or.inl ⟨rfl, h.whole.resolve_left ?_⟩
    rintro ⟨m, rest', heq, hm⟩
    obtain ⟨rfl, rfl⟩ := List.cons.inj heq
    exact hm _ rfl hd rfl
  | snapshot hs _ => exact Or.inr ⟨_, _, hs, rfl⟩

end Bridge

end TermuxGamepad
