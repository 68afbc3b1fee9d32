/-
  File:      TermuxGamepad/Bridge/Moments.lean
  Subject:   What an event client has seen on the way: moments of the bridge, in order.

  The view a client ends up with is that of Bridge/Replica.lean. Here the views before it: behind
  every batch of records a client has each axis, hat and button at the value the bridge had at one
  moment of the run, never a mixture of two, and a later batch never shows an earlier moment
  (`views_are_moments`).
-/
import TermuxGamepad.Bridge.Replies

namespace TermuxGamepad

open Wire

/-- The reports of each batch of records among the messages. -/
def reportBatches (ms : List Message) : List (List ((UInt16 × UInt16) × Int32)) :=
  ms.filterMap fun m =>
    match m with
    | .events evs => some (evs.map InputEvent.report)
    | _ => none

theorem reportBatches_append (ms ms' : List Message) :
    reportBatches (ms ++ ms') = reportBatches ms ++ reportBatches ms' := List.filterMap_append

theorem reportBatches_hotplugs (hs : List HotplugMessage) :
    reportBatches (hs.map .hotplug) = [] := by
  induction hs with
  | nil => rfl
  | cons h hs ih => exact ih

/-- The batches are the reports, cut. -/
theorem reports_batches (ms : List Message) : reports ms = (reportBatches ms).flatten := by
  induction ms with
  | nil => rfl
  | cons m ms ih =>
    cases m with
    | events evs => exact congrArg (evs.map InputEvent.report ++ ·) ih
    | _ => exact ih

/-- The commands of a client that wants the records, and asks only while a device is there. -/
def Subscribes (commands : List (ControlMessage × DeviceDescriptor)) : Prop :=
  ∀ x ∈ commands, x.1.command ≠ controlMonitor ∧
    (x.1.command = controlQueryDescriptor → x.2.present ≠ 0)

instance decidableSubscribes (commands : List (ControlMessage × DeviceDescriptor)) :
    Decidable (Subscribes commands) :=
  inferInstanceAs (Decidable (∀ x ∈ commands, _ ∧ _))

theorem Subscribes.of_concat {commands : List (ControlMessage × DeviceDescriptor)}
    {m : ControlMessage} {d : DeviceDescriptor} (h : Subscribes (commands ++ [(m, d)])) :
    Subscribes commands ∧ m.command ≠ controlMonitor ∧
      (m.command = controlQueryDescriptor → d.present ≠ 0) :=
  ⟨fun x hx => h x (List.mem_append_left _ hx),
    h (m, d) (List.mem_append_right _ (List.mem_singleton.mpr rfl))⟩

/-! ## 1. Links -/

/-- Nothing is queued yet, or the batches queued follow the history of the state. -/
def Traced (hist : List (Control → Int32)) (l : Link) : Prop :=
  Subscribes l.commands → (l.kind = .uninitialized ∧ l.queued = []) ∨
    (EventClient l.commands ∧ Follows Control.key hist (reportBatches l.queued))

variable {hist : List (Control → Int32)} {s : GamepadState} {d : DeviceDescriptor} {l l' : Link}

theorem traced_silent (hkind : l.kind = .uninitialized) (hqueued : l.queued = []) :
    Traced hist l := fun _ => Or.inl ⟨hkind, hqueued⟩

/-- The state went on, and nothing joined. -/
theorem Traced.next (h : Traced hist l) (v : Control → Int32) : Traced (hist ++ [v]) l := fun hs =>
  (h hs).imp_right fun hf => ⟨hf.1, .next v hf.2⟩

/-- **Every handled message keeps it**: a snapshot reports the state of this moment. -/
theorem Traced.handled {m : ControlMessage} (h : Traced (hist ++ [s.shown]) l)
    (hh : Link.Handled s d m (l.took m d) l') : Traced (hist ++ [s.shown]) l' := by
  cases hh with
  | freed hl =>
    subst hl
    exact traced_silent rfl rfl
  | rumble hcmd hl =>
    subst hl
    intro hs
    refine (h hs.of_concat.1).imp_right fun hf => ⟨⟨?_, fun x hx => (hs x hx).1⟩, hf.2⟩
    obtain ⟨⟨x, hx, hq⟩, -⟩ := hf.1
    exact ⟨x, List.mem_append_left _ hx, hq⟩
  | absent hcmd hd hg =>
    intro hs
    rw [hg.commands] at hs
    exact absurd hd (hs.of_concat.2.2 hcmd)
  | snapshot evs hcmd hd hsnap hg =>
    intro hs
    have hclient : EventClient l'.commands :=
      ⟨⟨(m, d), hg.commands ▸ List.mem_append_right _ (List.mem_singleton.mpr rfl), hcmd, hd⟩,
        fun x hx => (hs x hx).1⟩
    have hqueued : reportBatches l'.queued =
        reportBatches l.queued ++ [evs.map InputEvent.report] := by
      rw [hg.queued, reportBatches_append]
      rfl
    have hold : Follows Control.key (hist ++ [s.shown]) (reportBatches l.queued) := by
      rw [hg.commands] at hs
      rcases h hs.of_concat.1 with ⟨-, hq⟩ | hf
      · rw [hq]
        exact Follows.silent ..
      · exact hf.2
    refine Or.inr ⟨hclient, ?_⟩
    rw [hqueued]
    refine .report _ hold ?_
    rw [List.flatten_append, List.flatten_singleton]
    exact snapshot_tells hsnap _
  | monitor hcmd hg =>
    intro hs
    rw [hg.commands] at hs
    exact absurd hcmd hs.of_concat.2.1

namespace Bridge

variable {b : Bridge} {i : Slot}

/-! ## 2. Steps -/

/-- **Every action keeps it**, if the clients see the state afterwards: at most one batch joins, and
    it accounts for the state of this moment. -/
theorem act_traced {a : Action} (h : Traced hist (b.clients i).toLink) (hv : Viewed (b.act a)) :
    Traced (hist ++ [(b.act a).state.shown]) ((b.act a).clients i).toLink := by
  rcases act_slot b a i with ⟨c, -, hl⟩ | ⟨r, -, -, he⟩ | ⟨ms, ho, hk, -⟩
  · rw [hl]
    exact traced_silent rfl rfl
  · rw [he, (serveReadable_frame b i r).1.state]
    exact serveReadable_inv (P := Traced (hist ++ [b.state.shown])) b i r
      (fun l l' hl _ hh => hl.handled hh) (traced_silent rfl rfl) (h.next _)
  · rcases hk with hfree | hg
    · rw [hfree]
      exact traced_silent rfl rfl
    intro hs
    rw [hg.commands] at hs
    rcases h hs with ⟨hkind, hq⟩ | ⟨hclient, hf⟩
    · have hms : ms = [] := by
        cases ho with
        | nothing => rfl
        | batch evs hk' => rw [hkind] at hk'; cases hk'
        | hotplug hs hk' => rw [hkind] at hk'; cases hk'
      exact Or.inl ⟨hg.kind.trans hkind, by rw [hg.queued, hq, hms]; rfl⟩
    · have hclient' : EventClient ((b.act a).clients i).toLink.commands := by
        rw [hg.commands]
        exact hclient
      refine Or.inr ⟨hclient', ?_⟩
      have htells := (hv.views i hclient').tells
      rw [reports_batches, hg.queued, reportBatches_append] at htells
      rw [hg.queued, reportBatches_append]
      cases ho with
      | nothing => exact (List.append_nil _).symm ▸ .next _ hf
      | batch evs _ => exact .report _ (.next _ hf) htells
      | hotplug hs _ =>
        rw [reportBatches_hotplugs, List.append_nil]
        exact .next _ hf

/-! ## 3. Runs -/

/-- The values the controls had, from the start of the run to its end. -/
def history (b : Bridge) (inputs : List Input) : List (Control → Int32) :=
  (List.range (inputs.length + 1)).map fun n => (run step b (inputs.take n)).state.shown

theorem history_concat (b : Bridge) (inputs : List Input) (inp : Input) :
    history b (inputs ++ [inp]) =
      history b inputs ++ [(run step b (inputs ++ [inp])).state.shown] := by
  unfold history
  rw [List.length_append, List.length_singleton, List.range_succ, List.map_append,
    List.map_singleton, List.take_of_length_le (by simp)]
  refine congrArg (· ++ _) (List.map_congr_left fun n hn => ?_)
  rw [List.take_append_of_le_length (Nat.le_of_lt_succ (List.mem_range.mp hn))]

theorem history_moment {b : Bridge} {inputs : List Input} {n : Nat} {v : Control → Int32}
    (h : (history b inputs)[n]? = some v) :
    n ≤ inputs.length ∧ v = (run step b (inputs.take n)).state.shown := by
  obtain ⟨hn, hv⟩ := List.getElem?_eq_some_iff.mp h
  unfold history at hn hv
  rw [List.length_map, List.length_range] at hn
  rw [List.getElem_map, List.getElem_range] at hv
  exact ⟨Nat.le_of_lt_succ hn, hv.symm⟩

variable {opcode : Int} {answer : DeviceAnswer} {inputs : List Input}

/-- The batches of every client that wants the records follow the history. -/
theorem run_traced
    (hspares : ∀ pre inp post, inputs = pre ++ inp :: post →
      Spares (run step (boot opcode answer) pre) inp)
    (i : Slot) (pre post : List Input) (heq : inputs = pre ++ post) :
    Traced (history (boot opcode answer) pre)
      ((run step (boot opcode answer) pre).clients i).toLink := by
  have hviewed : ∀ pre post, inputs = pre ++ post → Viewed (run step (boot opcode answer) pre) :=
    run_viewed fun pre inp post heq _ => hspares pre inp post heq
  induction pre using List.reverseRecOn generalizing post with
  | nil =>
    have hfree : ((boot opcode answer).clients i).toLink = Link.free := by
      unfold boot
      split
      · exact refresh_other (Bridge.init opcode) answer ClientKind.noConfusion
      · rfl
    rw [run_nil, hfree]
    exact traced_silent rfl rfl
  | append_singleton pre inp ih =>
    have h := ih (inp :: post) (by rw [heq, List.append_assoc, List.singleton_append])
    have hv := hviewed _ _ heq
    rw [history_concat]
    rw [run_concat] at hv ⊢
    exact act_traced (b := (run step (boot opcode answer) pre).withEnv inp.sends inp.ticks
      inp.stamps) h hv

/-- **An event client sees moments of the bridge, in order.** In a run whose steps take no device
    away while a client sees a control that is not at rest, take a client that asked for the
    descriptor only while a device was there. Behind each batch of records queued for it, the
    records so far give every control the value it had at one moment of the run; and a later batch
    has no earlier moment. -/
theorem views_are_moments (opcode : Int) (answer : DeviceAnswer) (inputs : List Input)
    (hspares : ∀ pre inp post, inputs = pre ++ inp :: post →
      Spares (run step (boot opcode answer) pre) inp)
    (i : Slot) (hs : Subscribes ((run step (boot opcode answer) inputs).clients i).commands) :
    ∃ moment : Nat → Nat,
      (∀ n m, n ≤ m →
        m < (reportBatches ((run step (boot opcode answer) inputs).clients i).queued).length →
        moment n ≤ moment m) ∧
      ∀ n, n < (reportBatches ((run step (boot opcode answer) inputs).clients i).queued).length →
        moment n ≤ inputs.length ∧ ∀ c : Control,
          (latest ((reportBatches ((run step (boot opcode answer) inputs).clients i).queued).take
            (n + 1)).flatten c.key).map Int32.toInt =
          some ((run step (boot opcode answer) (inputs.take (moment n))).state.value c) := by
  have hinputs : inputs = inputs ++ [] := (List.append_nil _).symm
  rcases run_traced hspares i inputs [] hinputs hs with ⟨-, hq⟩ | ⟨-, hf⟩
  · refine ⟨fun _ => 0, fun _ _ _ _ => Nat.le_refl 0, fun n hn => ?_⟩
    rw [hq] at hn
    exact absurd hn (Nat.not_lt_zero n)
  · obtain ⟨moment, hmono, hvalues⟩ := hf.moments
    refine ⟨moment, hmono, fun n hn => ?_⟩
    obtain ⟨v, hv, ht⟩ := hvalues n hn
    obtain ⟨hle, rfl⟩ := history_moment hv
    refine ⟨hle, fun c => ?_⟩
    rw [ht c, Option.map_some]
    exact congrArg some ((run_inRange opcode answer _).shown_toInt c)

/-- A client asks for the descriptor, and the left stick moves out and back. -/
def stickReturns : List Input :=
  [quietly (.accept (.conn 0 true)),
    quietly (.readable slot0 (.data (commandBytes controlQueryDescriptor))),
    quietly (.xEvent (.device ⟨.motion, 5, 5, 0, [true], [1000]⟩)),
    quietly (.xEvent (.device ⟨.motion, 5, 6, 0, [true], [0]⟩))]

theorem views_are_moments_stick : ∃ moment : Nat → Nat, moment 0 ≤ moment 1 ∧ moment 1 ≤ moment 2 ∧
    (run step (boot 1 padAnswer) (stickReturns.take (moment 1))).state.value (.axis 0) = 1000 := by
  have hno : ∀ inp ∈ stickReturns, inp.action.looks = false := by decide
  obtain ⟨moment, hmono, hvalues⟩ := views_are_moments 1 padAnswer stickReturns
    (fun pre inp post heq answer ha => by
      have hlooks := hno inp (heq ▸ List.mem_append_right _ List.mem_cons_self)
      rw [ha] at hlooks
      cases hlooks)
    slot0 (by decide +kernel)
  have hlen : (reportBatches
      ((run step (boot 1 padAnswer) stickReturns).clients slot0).queued).length = 3 := by
    decide +kernel
  have hseen : (latest ((reportBatches
      ((run step (boot 1 padAnswer) stickReturns).clients slot0).queued).take 2).flatten
        (Control.axis 0).key).map Int32.toInt = some 1000 := by
    decide +kernel
  rw [hlen] at hmono hvalues
  refine ⟨moment, hmono 0 1 (by decide) (by decide), hmono 1 2 (by decide) (by decide), ?_⟩
  exact Option.some.inj (((hvalues 1 (by decide)).2 (.axis 0)).symm.trans hseen)

end Bridge

end TermuxGamepad
