/-
  File:      TermuxGamepad/Bridge/Rounds.lean
  Subject:   Rounds of the main loop, and whom they drop.

  A round is a sequence of actions (`iteration_acts`), so it is a run and keeps what every run
  keeps (`iteration_is_run`). Poll results are taken per slot at the top of a round and used
  after the first pump and the acceptances; `Fresh` says that no slot polled with an error has
  been handed to another connection in between. Where it holds, whoever is closed is closed for
  a fault of its own; where it fails, the new occupant is closed for its predecessor's.
-/
import TermuxGamepad.Bridge.Stream

namespace TermuxGamepad

open Wire

namespace Bridge

/-! ## 1. A round is a run -/

/-- Some actions lead from one state to the other. -/
def Acts (b b' : Bridge) : Prop := ∃ as : List Action, b' = as.foldl act b

theorem Acts.refl (b : Bridge) : Acts b b := ⟨[], rfl⟩

theorem Acts.one (b : Bridge) (a : Action) : Acts b (b.act a) := ⟨[a], rfl⟩

theorem Acts.trans {a b c : Bridge} (h : Acts a b) (h' : Acts b c) : Acts a c := by
  obtain ⟨as, rfl⟩ := h
  obtain ⟨as', rfl⟩ := h'
  exact ⟨as ++ as', List.foldl_append.symm⟩

theorem pumpXEvents_acts (b : Bridge) (es : List XEvent) : Acts b (b.pumpXEvents es) := by
  refine ⟨es.map .xEvent, ?_⟩
  rw [List.foldl_map]
  rfl

theorem acceptClients_acts (b : Bridge) (rs : List AcceptResult) : Acts b (b.acceptClients rs) := by
  refine ⟨rs.map .accept, ?_⟩
  rw [List.foldl_map]
  rfl

theorem beforeService_acts (b : Bridge) (r : Round) :
    Acts (b.withEnv r.sends r.ticks r.stamps) (b.beforeService r) := by
  unfold beforeService
  dsimp only
  have h1 : Acts (b.withEnv r.sends r.ticks r.stamps)
      (if r.displayReady then (b.withEnv r.sends r.ticks r.stamps).pumpXEvents r.firstEvents
        else b.withEnv r.sends r.ticks r.stamps) := by
    split
    · exact pumpXEvents_acts ..
    · exact .refl _
  split
  · exact h1.trans (acceptClients_acts ..)
  · exact h1

theorem hangUp_acts {b : Bridge} {i : Slot} (hfd : (b.clients i).fd.isSome) :
    Acts b (b.hangUp i) := by
  refine ⟨[.hangup i], ?_⟩
  show b.hangUp i = if (b.clients i).fd.isSome then b.hangUp i else b
  rw [if_pos hfd]

theorem serveReadable_acts {b : Bridge} {i : Slot} (hfd : (b.clients i).fd.isSome)
    (r : RecvResult) : Acts b (b.serveReadable i r) := by
  refine ⟨[.readable i r], ?_⟩
  show b.serveReadable i r = if (b.clients i).fd.isSome then b.serveReadable i r else b
  rw [if_pos hfd]

theorem serveWritable_acts {b : Bridge} {i : Slot} (hfd : (b.clients i).fd.isSome) :
    Acts b (b.serveWritable i) := by
  refine ⟨[.writable i], ?_⟩
  show b.serveWritable i = if (b.clients i).fd.isSome then b.serveWritable i else b
  rw [if_pos hfd]

theorem served_fd (b : Bridge) (i j : Slot) (revents : Revents) :
    ((b.served i revents).1.clients j).fd = (b.clients j).fd := by
  unfold served
  split
  · by_cases hj : j = i
    · subst hj
      exact (flushClient_grew b j).fd
    · rw [flushClient_clients_ne b hj]
  · rfl

/-- **The branch for one client**, by what poll reported. -/
theorem serveClient_cases (b : Bridge) (i : Slot) (revents : Revents) (r : RecvResult) :
    ((b.clients i).fd = none ∧ b.serveClient i revents r = b) ∨
      ((b.clients i).fd.isSome ∧
        (((b.served i revents).2 = false ∧
            b.serveClient i revents r = (b.served i revents).1.closeClient i) ∨
          ((b.served i revents).2 = true ∧
            ((revents.pollErr = true ∧ b.serveClient i revents r = (b.served i revents).1.hangUp i) ∨
              (revents.pollErr = false ∧ revents.pollIn = true ∧
                b.serveClient i revents r = (b.served i revents).1.serveReadable i r) ∨
              (revents.pollErr = false ∧ b.serveClient i revents r = (b.served i revents).1))))) := by
  unfold serveClient
  dsimp only
  generalize b.served i revents = f
  cases hfd : (b.clients i).fd with
  | none => exact Or.inl ⟨rfl, rfl⟩
  | some c =>
    refine Or.inr ⟨rfl, ?_⟩
    cases hok : f.2 with
    | false => exact Or.inl ⟨rfl, rfl⟩
    | true =>
      refine Or.inr ⟨rfl, ?_⟩
      cases revents.pollErr with
      | true => exact Or.inl ⟨rfl, rfl⟩
      | false =>
        cases revents.pollIn with
        | true => exact Or.inr (Or.inl ⟨rfl, rfl, rfl⟩)
        | false => exact Or.inr (Or.inr ⟨rfl, rfl⟩)

/-- A flush that succeeds is the poll-out branch; one that fails is followed by the close. -/
theorem served_acts {b : Bridge} {i : Slot} (hfd : (b.clients i).fd.isSome) (revents : Revents) :
    Acts b (if (b.served i revents).2 then (b.served i revents).1
      else (b.served i revents).1.closeClient i) := by
  unfold served
  split
  · exact serveWritable_acts hfd
  · exact .refl b

theorem serveClient_acts (b : Bridge) (i : Slot) (revents : Revents) (r : RecvResult) :
    Acts b (b.serveClient i revents r) := by
  rcases serveClient_cases b i revents r with ⟨_, h⟩ | ⟨hfd, ⟨hok, h⟩ | ⟨hok, hrest⟩⟩
  · rw [h]
    exact .refl b
  · have hacts := served_acts hfd revents
    rw [hok] at hacts
    rw [h]
    exact hacts
  · have hacts := served_acts hfd revents
    rw [hok, if_pos rfl] at hacts
    have hfd' : ((b.served i revents).1.clients i).fd.isSome := by rwa [served_fd]
    rcases hrest with ⟨_, h⟩ | ⟨_, _, h⟩ | ⟨_, h⟩
    · rw [h]
      exact hacts.trans (hangUp_acts hfd')
    · rw [h]
      exact hacts.trans (serveReadable_acts hfd' r)
    · rw [h]
      exact hacts

/-- The clients served, in slot order. -/
def afterService (b : Bridge) (r : Round) : Bridge :=
  sweep maxClients (fun s i => s.serveClient i (b.pollResult r i) (r.received i)) (b.beforeService r)

theorem afterService_acts (b : Bridge) (r : Round) : Acts (b.beforeService r) (b.afterService r) :=
  sweep_rel Acts.refl (fun _ _ _ => Acts.trans) (fun s i => serveClient_acts s i _ _) _

theorem iteration_acts (b : Bridge) (r : Round) :
    ∃ as : List Action, b.iteration r =
      (as ++ [Action.tick]).foldl act (b.withEnv r.sends r.ticks r.stamps) := by
  obtain ⟨as, has⟩ := ((beforeService_acts b r).trans (afterService_acts b r)).trans
    (pumpXEvents_acts _ r.lastEvents)
  refine ⟨as, ?_⟩
  rw [List.foldl_append, ← has]
  rfl

/-- Actions in a row are a run in which every step goes on with the answers left over. -/
theorem foldl_act_is_run (as : List Action) (b : Bridge) :
    ∃ inputs, as.foldl act b = run step b inputs := by
  induction as generalizing b with
  | nil => exact ⟨[], rfl⟩
  | cons a as ih =>
    obtain ⟨inputs, h⟩ := ih (b.act a)
    exact ⟨{ action := a, sends := b.sends, ticks := b.ticks, stamps := b.stamps } :: inputs, h⟩

/-- **A round of the main loop is a run.** -/
theorem iteration_is_run (b : Bridge) (r : Round) :
    ∃ inputs, b.iteration r = run step b inputs := by
  obtain ⟨as, h⟩ := iteration_acts b r
  have hfirst : ∀ a as', ∃ inputs,
      (a :: as').foldl act (b.withEnv r.sends r.ticks r.stamps) = run step b inputs := by
    intro a as'
    obtain ⟨inputs, hrun⟩ := foldl_act_is_run as' ((b.withEnv r.sends r.ticks r.stamps).act a)
    exact ⟨{ action := a, sends := r.sends, ticks := r.ticks, stamps := r.stamps } :: inputs, hrun⟩
  rw [h]
  cases as with
  | nil => exact hfirst _ _
  | cons a as' => exact hfirst a (as' ++ [.tick])

theorem Sound.acts {b b' : Bridge} (h : Sound b) (ha : Acts b b') : Sound b' := by
  obtain ⟨as, rfl⟩ := ha
  induction as generalizing b with
  | nil => exact h
  | cons a as ih => exact ih (act_sound h a)

theorem iteration_sound {b : Bridge} (h : Sound b) (r : Round) : Sound (b.iteration r) := by
  obtain ⟨as, has⟩ := iteration_acts b r
  exact (h.env r.sends r.ticks r.stamps).acts ⟨_, has⟩

end Bridge

/-! ## 2. What joins the history -/

/-- Neither a hang-up nor an acceptance. -/
def Out.calm : Out → Bool
  | .hungUp _ | .connected _ | .turnedAway _ => false
  | _ => true

namespace Bridge

/-- The history grew, by calm events. -/
def Calm (b b' : Bridge) : Prop := ∃ l, b'.log = b.log ++ l ∧ ∀ o ∈ l, o.calm = true

theorem Calm.of_log {b b' : Bridge} (h : b'.log = b.log) : Calm b b' := Joins.of_log h

theorem Calm.refl (b : Bridge) : Calm b b := .of_log rfl

theorem Calm.trans {a b c : Bridge} (h : Calm a b) (h' : Calm b c) : Calm a c := Joins.trans h h'

theorem emit_calm (b : Bridge) {o : Out} (h : o.calm = true) : Calm b (b.emit o) := Joins.emit b h

theorem ofClient_calm {o : Out} (h : o.ofClient = true) : o.calm = true := by
  cases o <;> first
    | rfl
    | cases h

theorem calm_blind : Blind Calm := joins_blind (fun _ _ => rfl) fun _ _ => rfl

theorem emitClient_calm (b : Bridge) (o : Out) (h : o.ofClient = true) : Calm b (b.emit o) :=
  emit_calm b (ofClient_calm h)

/-- **No operation on clients hangs up or accepts.** -/
theorem calm_parts : Parts Calm := calm_blind.parts emitClient_calm

theorem calm_spans (i : Slot) : Spans Calm i := calm_blind.spans emitClient_calm i

theorem dispatchXEvent_calm (b : Bridge) (e : XEvent) : Calm b (b.dispatchXEvent e) := by
  cases e with
  | hierarchyChanged answer =>
    refine calm_parts.refreshLorieDevice (fun hs => ?_) (fun c => emit_calm c rfl)
      (fun c f => emit_calm c rfl) b answer
    obtain ⟨reqs, rfl, hreqs⟩ := hs
    refine ⟨reqs, rfl, fun o ho => ?_⟩
    obtain ⟨t, d, rfl⟩ := hreqs o ho
    rfl
  | device event =>
    refine calm_parts.processXiEvent (fun hs => ?_) b event _
    obtain ⟨s, ts, rfl⟩ := hs
    exact .of_log rfl

theorem pumpXEvents_calm (b : Bridge) (es : List XEvent) : Calm b (b.pumpXEvents es) := by
  induction es generalizing b with
  | nil => exact .refl b
  | cons e es ih => exact (dispatchXEvent_calm b e).trans (ih _)

/-- **The history only grows.** -/
theorem act_log (b : Bridge) (a : Action) : ∃ l, (b.act a).log = b.log ++ l := by
  have hcalm : ∀ b', Calm b b' → ∃ l, b'.log = b.log ++ l := fun b' ⟨l, hl, _⟩ => ⟨l, hl⟩
  cases a with
  | xEvent e => exact hcalm _ (dispatchXEvent_calm b e)
  | accept r =>
    show ∃ l, (b.acceptClient r).log = b.log ++ l
    unfold acceptClient
    split
    · exact ⟨[], by simp⟩
    dsimp only
    split
    · exact ⟨[], by simp⟩
    split
    · exact ⟨_, rfl⟩
    split <;> exact ⟨_, rfl⟩
  | writable i =>
    show ∃ l, (if (b.clients i).fd.isSome then b.serveWritable i else b).log = b.log ++ l
    split
    · exact hcalm _ ((calm_spans i).serveWritable b)
    · exact ⟨[], by simp⟩
  | readable i r =>
    show ∃ l, (if (b.clients i).fd.isSome then b.serveReadable i r else b).log = b.log ++ l
    split
    · exact hcalm _ ((calm_spans i).serveReadable b r)
    · exact ⟨[], by simp⟩
  | hangup i =>
    show ∃ l, (if (b.clients i).fd.isSome then b.hangUp i else b).log = b.log ++ l
    split
    · obtain ⟨l, hl, -⟩ := calm_parts.close (b.emitFor i .hungUp) i
      cases hfd : (b.clients i).fd with
      | none =>
        rw [emitFor_none hfd] at hl
        exact ⟨l, by rw [hangUp, emitFor_none hfd, hl]⟩
      | some c =>
        rw [emitFor_some hfd] at hl
        exact ⟨.hungUp c :: l, by rw [hangUp, emitFor_some hfd, hl, emit_log]; simp⟩
    · exact ⟨[], by simp⟩
  | tick => exact hcalm _ (calm_blind.updateRumble b false)

/-! ## 3. Whom a round drops -/

/-- The history of a round grew, by calm events and by hang-ups of connections in `q`. -/
def Hangs (q : Conn → Prop) (b b' : Bridge) : Prop :=
  ∃ l, b'.log = b.log ++ l ∧ ∀ o ∈ l, o.calm = true ∨ ∃ c, o = .hungUp c ∧ q c

theorem Calm.hangs {q : Conn → Prop} {b b' : Bridge} (h : Calm b b') : Hangs q b b' := by
  obtain ⟨l, hl, hc⟩ := h
  exact ⟨l, hl, fun o ho => Or.inl (hc o ho)⟩

theorem Hangs.trans {q : Conn → Prop} {a b c : Bridge} (h : Hangs q a b) (h' : Hangs q b c) :
    Hangs q a c := by
  obtain ⟨l, hl, hc⟩ := h
  obtain ⟨l', hl', hc'⟩ := h'
  refine ⟨l ++ l', by rw [hl', hl, List.append_assoc], fun o ho => ?_⟩
  rcases List.mem_append.mp ho with ho | ho
  · exact hc o ho
  · exact hc' o ho

theorem Hangs.mono {q q' : Conn → Prop} {b b' : Bridge} (h : Hangs q b b') (hq : ∀ c, q c → q' c) :
    Hangs q' b b' := by
  obtain ⟨l, hl, hc⟩ := h
  exact ⟨l, hl, fun o ho => (hc o ho).imp_right fun ⟨c, h1, h2⟩ => ⟨c, h1, hq c h2⟩⟩

theorem served_calm (b : Bridge) (i : Slot) (revents : Revents) : Calm b (b.served i revents).1 := by
  unfold served
  split
  · exact calm_parts.flushClient b i
  · exact .refl b

/-- The branch for one client hangs up on nobody but the client in its slot, and only where poll
    reported an error for that slot. -/
theorem serveClient_hangs (b : Bridge) (i : Slot) (revents : Revents) (r : RecvResult) :
    Hangs (fun c => (b.clients i).fd = some c ∧ revents.pollErr = true) b
      (b.serveClient i revents r) := by
  rcases serveClient_cases b i revents r with ⟨_, h⟩ | ⟨hfd, ⟨_, h⟩ | ⟨_, ⟨herr, h⟩ | ⟨_, _, h⟩ | ⟨_, h⟩⟩⟩ <;>
    rw [h]
  · exact (Calm.refl b).hangs
  · exact ((served_calm b i revents).trans (calm_parts.close ..)).hangs
  · obtain ⟨c, hc⟩ := Option.isSome_iff_exists.mp hfd
    have hc' : ((b.served i revents).1.clients i).fd = some c := (served_fd ..).trans hc
    have hemit : Hangs (fun c => (b.clients i).fd = some c ∧ revents.pollErr = true)
        (b.served i revents).1 ((b.served i revents).1.emit (.hungUp c)) :=
      ⟨[_], rfl, fun o ho => Or.inr ⟨c, List.mem_singleton.mp ho, hc, herr⟩⟩
    unfold hangUp
    rw [emitFor_some hc']
    exact ((served_calm b i revents).hangs.trans hemit).trans (calm_parts.close ..).hangs
  · exact ((served_calm b i revents).trans ((calm_spans i).serveReadable ..)).hangs
  · exact (served_calm b i revents).hangs

theorem serveClient_fd (b : Bridge) (i : Slot) (revents : Revents) (r : RecvResult) (j : Slot) :
    ((b.serveClient i revents r).clients j).fd = (b.clients j).fd ∨
      ((b.serveClient i revents r).clients j).fd = none := by
  have hclose : ∀ c : Bridge, (c.clients j).fd = (b.clients j).fd →
      ((c.closeClient i).clients j).fd = (b.clients j).fd ∨ ((c.closeClient i).clients j).fd = none :=
    fun c hc => hc ▸ (closeClient_stays c i j).1
  have hs := served_fd b i j revents
  rcases serveClient_cases b i revents r with ⟨_, h⟩ | ⟨_, ⟨_, h⟩ | ⟨_, ⟨_, h⟩ | ⟨_, _, h⟩ | ⟨_, h⟩⟩⟩ <;>
    rw [h]
  · exact Or.inl rfl
  · exact hclose _ hs
  · exact hclose _ ((congrArg (fun t => (t j).fd) (emitFor_clients _ i _)).trans hs)
  · exact hs ▸ serveReadable_fd _ i r j
  · exact Or.inl hs

/-- **Serving hangs up on nobody but those in a slot polled with an error.** -/
theorem serveClients_hangs (b : Bridge) (r : Round) (l : List Slot) (s : Bridge) :
    Hangs (fun c => ∃ i, (s.clients i).fd = some c ∧ (b.pollResult r i).pollErr = true) s
      (l.foldl (fun s i => s.serveClient i (b.pollResult r i) (r.received i)) s) := by
  induction l generalizing s with
  | nil => exact (Calm.refl s).hangs
  | cons i l ih =>
    rw [List.foldl_cons]
    refine (Hangs.mono (serveClient_hangs s i (b.pollResult r i) (r.received i))
      fun c hc => ⟨i, hc⟩).trans ((ih _).mono fun c ⟨j, hj, herr⟩ => ⟨j, ?_, herr⟩)
    rcases serveClient_fd s i (b.pollResult r i) (r.received i) j with h1 | h1
    · exact h1 ▸ hj
    · rw [h1] at hj
      cases hj

/-- The state after the first pump. -/
def pumped (b : Bridge) (r : Round) : Bridge :=
  if r.displayReady then (b.withEnv r.sends r.ticks r.stamps).pumpXEvents r.firstEvents
  else b.withEnv r.sends r.ticks r.stamps

theorem beforeService_eq (b : Bridge) (r : Round) :
    b.beforeService r =
      if r.serverReady then (b.pumped r).acceptClients r.accepts else b.pumped r := rfl

theorem pumped_calm (b : Bridge) (r : Round) : Calm b (b.pumped r) := by
  unfold pumped
  split
  · exact Calm.trans (.of_log rfl) (pumpXEvents_calm ..)
  · exact .of_log rfl

theorem dispatchXEvent_seen (b : Bridge) (e : XEvent) : (b.dispatchXEvent e).seen = b.seen := by
  cases e with
  | hierarchyChanged answer =>
    refine refreshLorieDevice_inv (P := fun b' => b'.seen = b.seen) answer ?_ ?_ ?_
    · rintro c ⟨reqs, rfl, -⟩
      rfl
    · exact fun c _ h => (frame_parts.broadcast c.gone .monitor _).seen.trans h
    · exact fun c f _ _ h => (frame_parts.broadcast (c.came f) .monitor _).seen.trans h
  | device event =>
    have hb : (b.eventBatch event).1.seen = b.seen := by
      obtain ⟨s, ts, h⟩ := eventBatch_same b event
      rw [h]
    show (b.processXiEvent event b.lorieDeviceId).seen = b.seen
    rcases processXiEvent_cases b event b.lorieDeviceId with h | ⟨_, h⟩ | ⟨b', evs, hb', _, h⟩ <;>
      rw [h]
    · exact hb
    · exact (frame_parts.broadcast b' .events _).seen.trans (hb'.frame.seen.trans hb)

/-- At start-up there is no client. -/
theorem boot_free (opcode : Int) (answer : DeviceAnswer) (i : Slot) :
    ((boot opcode answer).clients i).fd = none := by
  have hseen : (boot opcode answer).seen = [] := by
    unfold boot
    split
    · exact dispatchXEvent_seen (Bridge.init opcode) (.hierarchyChanged answer)
    · rfl
  cases hc : ((boot opcode answer).clients i).fd with
  | none => rfl
  | some c =>
    have hmem := (run_sound opcode answer []).tracked.isSeen i c hc
    rw [run_nil, hseen] at hmem
    cases hmem

theorem pumpXEvents_kept (b : Bridge) (es : List XEvent) :
    (b.pumpXEvents es).seen = b.seen ∧ b.StaysAll (b.pumpXEvents es) := by
  induction es generalizing b with
  | nil => exact ⟨rfl, .refl b⟩
  | cons e es ih =>
    obtain ⟨h1, h2⟩ := ih (b.dispatchXEvent e)
    exact ⟨h1.trans (dispatchXEvent_seen b e), (dispatchXEvent_stays b e).trans h2⟩

theorem pumped_kept (b : Bridge) (r : Round) :
    (b.pumped r).seen = b.seen ∧ b.StaysAll (b.pumped r) := by
  unfold pumped
  split
  · obtain ⟨h1, h2⟩ := pumpXEvents_kept (b.withEnv r.sends r.ticks r.stamps) r.firstEvents
    exact ⟨h1, h2⟩
  · exact ⟨rfl, .refl b⟩

/-- What acceptance adds to the history. -/
theorem acceptClients_log (b : Bridge) (rs : List AcceptResult) :
    ∃ l, (b.acceptClients rs).log = b.log ++ l ∧
      ∀ o ∈ l, ∃ c nb, .conn c nb ∈ rs ∧ (o = .connected c ∨ o = .turnedAway c) := by
  induction rs generalizing b with
  | nil => exact ⟨[], by simp [acceptClients], fun _ ho => absurd ho List.not_mem_nil⟩
  | cons a rs ih =>
    have hone : ∃ l, (b.acceptClient a).log = b.log ++ l ∧
        ∀ o ∈ l, ∃ c nb, a = .conn c nb ∧ (o = .connected c ∨ o = .turnedAway c) := by
      unfold acceptClient
      split
      · exact ⟨[], by simp, by simp⟩
      dsimp only
      split
      · exact ⟨[], by simp, by simp⟩
      split
      · exact ⟨[_], rfl, by simp⟩
      split <;> exact ⟨[_], rfl, by simp⟩
    obtain ⟨l, hl, hc⟩ := hone
    obtain ⟨l', hl', hc'⟩ := ih (b.acceptClient a)
    refine ⟨l ++ l', ?_, fun o ho => ?_⟩
    · rw [← List.append_assoc, ← hl, ← hl']
      rfl
    · rcases List.mem_append.mp ho with ho | ho
      · obtain ⟨c, nb, h1, h2⟩ := hc o ho
        exact ⟨c, nb, h1 ▸ List.mem_cons_self, h2⟩
      · obtain ⟨c, nb, h1, h2⟩ := hc' o ho
        exact ⟨c, nb, List.mem_cons_of_mem _ h1, h2⟩

/-- Acceptance fills free records and leaves the others alone; whoever it takes is new. -/
theorem acceptClients_toLink (b : Bridge) (rs : List AcceptResult) (i : Slot) :
    ((b.acceptClients rs).clients i).toLink = (b.clients i).toLink ∨
      ∃ c, (b.clients i).fd = none ∧ c ∉ b.seen ∧
        ((b.acceptClients rs).clients i).toLink = (acceptedClient c).toLink := by
  induction rs generalizing b with
  | nil => exact Or.inl rfl
  | cons a rs ih =>
    have hsub := (acceptClient_same b a).2.2.2.2.2
    rcases acceptClient_toLink b a i with h1 | ⟨c, h1, h2, _, h4⟩
    · rcases ih (b.acceptClient a) with h5 | ⟨c, h5, h6, h7⟩
      · exact Or.inl (h5.trans h1)
      · exact Or.inr ⟨c, (congrArg Link.fd h1) ▸ h5, fun hc => h6 (hsub hc), h7⟩
    · rcases ih (b.acceptClient a) with h5 | ⟨c', h5, _, _⟩
      · exact Or.inr ⟨c, h1, h2, h5.trans h4⟩
      · rw [congrArg Link.fd h4] at h5
        cases h5

theorem acceptClients_seen (b : Bridge) (rs : List AcceptResult) :
    b.seen ⊆ (b.acceptClients rs).seen ∧ ∀ c nb, .conn c nb ∈ rs → c ∈ (b.acceptClients rs).seen := by
  induction rs generalizing b with
  | nil => exact ⟨fun _ h => h, fun _ _ h => absurd h List.not_mem_nil⟩
  | cons a rs ih =>
    obtain ⟨h1, h2⟩ := ih (b.acceptClient a)
    have hsub := (acceptClient_same b a).2.2.2.2.2
    refine ⟨fun c hc => h1 (hsub hc), fun c nb hc => ?_⟩
    rcases List.mem_cons.mp hc with rfl | hc
    · refine h1 ?_
      unfold acceptClient
      dsimp only
      split
      · assumption
      split
      · exact List.mem_cons_self
      split <;> exact List.mem_cons_self
    · exact h2 c nb hc

/-- Who sits in a slot when the clients are served. -/
theorem beforeService_takes {b : Bridge} {r : Round} {i : Slot} {c : Conn}
    (h : ((b.beforeService r).clients i).fd = some c) :
    (b.clients i).fd = some c ∨
      (c ∉ b.seen ∧ ((b.beforeService r).clients i).toLink = (acceptedClient c).toLink) := by
  obtain ⟨hseen, hstays⟩ := pumped_kept b r
  have hpump : ((b.pumped r).clients i).fd = some c → (b.clients i).fd = some c := by
    intro hc
    rcases (hstays i).1 with h1 | h1
    · exact h1 ▸ hc
    · rw [h1] at hc
      cases hc
  rw [beforeService_eq] at h ⊢
  split at h
  · rename_i hready
    rw [if_pos hready]
    rcases acceptClients_toLink (b.pumped r) r.accepts i with h1 | ⟨c', _, h2, h3⟩
    · exact Or.inl (hpump (congrArg Link.fd h1 ▸ h))
    · have hcc : c' = c := Option.some.inj ((congrArg Link.fd h3).symm.trans h)
      subst hcc
      exact Or.inr ⟨hseen ▸ h2, h3⟩
  · exact Or.inl (hpump h)

theorem iteration_log_beforeService (b : Bridge) (r : Round) :
    ∃ l, (b.iteration r).log = (b.beforeService r).log ++ l := by
  obtain ⟨l3, hl3, -⟩ := serveClients_hangs b r (List.finRange maxClients) (b.beforeService r)
  obtain ⟨l4, hl4, -⟩ := (pumpXEvents_calm (b.afterService r) r.lastEvents).trans
    (calm_blind.updateRumble _ false)
  refine ⟨l3 ++ l4, ?_⟩
  show (((b.afterService r).pumpXEvents r.lastEvents).updateRumble false).log = _
  rw [hl4, show (b.afterService r).log = _ from hl3, List.append_assoc]

/-- **What a round adds to the history**: calm events, acceptances of the connections waiting, and
    hang-ups of those in a slot polled with an error. -/
theorem iteration_log (b : Bridge) (r : Round) :
    ∃ l, (b.iteration r).log = b.log ++ l ∧ ∀ o ∈ l, o.calm = true ∨
      (∃ c, o = .hungUp c ∧ ∃ i, ((b.beforeService r).clients i).fd = some c ∧
        (b.pollResult r i).pollErr = true) ∨
      ∃ c nb, r.serverReady = true ∧ .conn c nb ∈ r.accepts ∧
        (o = .connected c ∨ o = .turnedAway c) := by
  obtain ⟨l1, hl1, hc1⟩ := pumped_calm b r
  obtain ⟨l2, hl2, hc2⟩ : ∃ l, (b.beforeService r).log = (b.pumped r).log ++ l ∧
      ∀ o ∈ l, ∃ c nb, r.serverReady = true ∧ .conn c nb ∈ r.accepts ∧
        (o = .connected c ∨ o = .turnedAway c) := by
    rw [beforeService_eq]
    split
    · rename_i hready
      obtain ⟨l, hl, hc⟩ := acceptClients_log (b.pumped r) r.accepts
      refine ⟨l, hl, fun o ho => ?_⟩
      obtain ⟨c, nb, h⟩ := hc o ho
      exact ⟨c, nb, hready, h⟩
    · exact ⟨[], by simp, by simp⟩
  obtain ⟨l3, hl3, hc3⟩ := serveClients_hangs b r (List.finRange maxClients) (b.beforeService r)
  obtain ⟨l4, hl4, hc4⟩ := (pumpXEvents_calm (b.afterService r) r.lastEvents).trans
    (calm_blind.updateRumble _ false)
  refine ⟨l1 ++ l2 ++ l3 ++ l4, ?_, fun o ho => ?_⟩
  · show (((b.afterService r).pumpXEvents r.lastEvents).updateRumble false).log = _
    rw [hl4, show (b.afterService r).log = _ from hl3, hl2, hl1]
    simp only [List.append_assoc]
  · simp only [List.mem_append] at ho
    rcases ho with ((ho | ho) | ho) | ho
    · exact Or.inl (hc1 o ho)
    · exact Or.inr (Or.inr (hc2 o ho))
    · exact (hc3 o ho).imp_right Or.inl
    · exact Or.inl (hc4 o ho)

/-! ## 4. Own faults -/

/-- What a round adds to the history. -/
def events (b : Bridge) (r : Round) : List Out := (b.iteration r).log.drop b.log.length

/-- The fault is the connection's own: poll reported an error for the slot it was in, its send
    failed, its output buffer overflowed, its bytes ended or were no valid message. -/
def OwnFault (b : Bridge) (r : Round) (c : Conn) : Prop :=
  (∃ i, (b.clients i).fd = some c ∧ (b.pollResult r i).pollErr = true) ∨
    .sendFailed c ∈ b.events r ∨ .overflow c ∈ b.events r ∨ .recvEnded c ∈ b.events r ∨
      .invalid c ∈ b.events r

/-- Every client a round drops is dropped for its own fault. -/
def DropsForOwnFault (b : Bridge) (r : Round) : Prop := ∀ c, .closed c ∈ b.events r → b.OwnFault r c

/-- The same, counting the connections `accept_clients` turns away at once. -/
def ClosesForOwnFault (b : Bridge) (r : Round) : Prop :=
  ∀ c, .closed c ∈ b.events r ∨ .turnedAway c ∈ b.events r → b.OwnFault r c

/-- No slot polled with an error is handed to another connection before the clients are served. -/
def Fresh (b : Bridge) (r : Round) : Prop :=
  ∀ i, (b.pollResult r i).pollErr = true →
    ((b.beforeService r).clients i).fd = (b.clients i).fd ∨ ((b.beforeService r).clients i).fd = none

/-- Every new connection gets a slot. -/
def Seated (b : Bridge) (r : Round) : Prop :=
  r.serverReady = true → ∀ c nb, .conn c nb ∈ r.accepts → c ∉ b.seen →
    ∃ i, ((b.beforeService r).clients i).fd = some c

variable {b : Bridge} {r : Round}

theorem mem_events {l : List Out} (h : (b.iteration r).log = b.log ++ l) : b.events r = l := by
  unfold events
  rw [h, List.drop_left]

theorem log_eq_events (b : Bridge) (r : Round) :
    (b.iteration r).log = b.log ++ b.events r := by
  obtain ⟨l, hl, -⟩ := iteration_log b r
  rw [mem_events hl, hl]

/-- An event of a connection the bridge had not seen is an event of the round. -/
theorem mem_events_of_new (h : Sound b) {c : Conn} (hc : c ∉ b.seen) {o : Out}
    (ho : o ∈ (b.iteration r).log) (hoc : o.conn = some c) : o ∈ b.events r := by
  rw [log_eq_events] at ho
  exact (List.mem_append.mp ho).resolve_left fun ho' =>
    fresh_silent (h.tracked.fresh c hc) o ho' hoc

/-- The rule for "its own fault": no hang-up that was another's. -/
theorem ownFault_of_breaks (hfresh : b.Fresh r) {c : Conn} {o : Out} (ho : o ∈ b.events r)
    (hoc : o.conn = some c) (hb : o.breaks = true) : b.OwnFault r c := by
  obtain ⟨l, hl, hc⟩ := iteration_log b r
  rw [mem_events hl] at ho
  cases o with
  | overflow c' | sendFailed c' | recvEnded c' | invalid c' =>
    cases hoc
    simp [OwnFault, mem_events hl, ho]
  | hungUp c' =>
    cases hoc
    rcases hc _ ho with h | ⟨c'', h, i, hi, herr⟩ | ⟨_, _, _, _, h⟩
    · cases h
    · cases h
      refine Or.inl ⟨i, ?_, herr⟩
      rcases hfresh i herr with h1 | h1
      · exact h1 ▸ hi
      · rw [h1] at hi
        cases hi
    · rcases h with h | h <;> cases h
  | _ => cases hb

/-- **Where no poll result is stale, everyone is dropped for a fault of its own.** -/
theorem drops_of_fresh (h : Sound b) (hfresh : b.Fresh r) : b.DropsForOwnFault r := by
  intro c hc
  have hlog := log_eq_events b r
  obtain ⟨pre, post, hsplit⟩ := List.append_of_mem hc
  have hbad := ((iteration_sound h r).tracked.settled c).1
  rw [hlog, hsplit, ← List.append_assoc] at hbad
  have hbroken := broken_of_closed hbad
  rw [phase_append] at hbroken
  obtain ⟨o, ho, hoc, hb⟩ := breaks_of_broken (h.tracked.settled c).2 hbroken
  refine ownFault_of_breaks hfresh ?_ hoc hb
  rw [hsplit]
  exact List.mem_append_left _ ho

/-- A client nothing was queued for is not dropped by a flush. -/
theorem served_of_empty {i : Slot} (h : (b.clients i).output = []) (revents : Revents) :
    (b.served i revents).2 = true := by
  have hflush : (b.flushClient i).2 = true := by
    unfold flushClient
    dsimp only
    split
    · rfl
    · rw [h, flushLoop]
      rfl
  unfold served
  split
  · exact hflush
  · rfl

theorem serveClient_toLink_ne (b : Bridge) {i j : Slot} (hj : j ≠ i) (revents : Revents)
    (r : RecvResult) : ((b.serveClient i revents r).clients j).toLink = (b.clients j).toLink := by
  have hs : ((b.served i revents).1.clients j).toLink = (b.clients j).toLink := by
    unfold served
    split
    · rw [flushClient_clients_ne b hj]
    · rfl
  rcases serveClient_cases b i revents r with ⟨_, h⟩ | ⟨_, ⟨_, h⟩ | ⟨_, ⟨_, h⟩ | ⟨_, _, h⟩ | ⟨_, h⟩⟩⟩ <;>
    rw [h]
  · rw [closeClient_toLink_ne _ hj, hs]
  · rw [hangUp, closeClient_toLink_ne _ hj, emitFor_clients, hs]
  · rw [(serveReadable_frame _ i r).2 j hj, hs]
  · exact hs

/-- The new occupant of a slot polled with an error is hung up on. -/
theorem stale_hungUp {i : Slot} {c : Conn} (herr : (b.pollResult r i).pollErr = true)
    (hlink : ((b.beforeService r).clients i).toLink = (acceptedClient c).toLink) :
    .hungUp c ∈ (b.iteration r).log := by
  obtain ⟨pre, post, hsplit⟩ := List.append_of_mem (List.mem_finRange i)
  have hnodup := hsplit ▸ List.nodup_finRange maxClients
  have hi : i ∉ pre := fun hmem =>
    (List.nodup_append.mp hnodup).2.2 i hmem i List.mem_cons_self rfl
  -- the clients before slot `i` leave its record alone
  have hbefore : ∀ (l : List Slot) (s : Bridge), i ∉ l →
      ((l.foldl (fun s i => s.serveClient i (b.pollResult r i) (r.received i)) s).clients i).toLink =
        (s.clients i).toLink := by
    intro l
    induction l with
    | nil => exact fun _ _ => rfl
    | cons j l ih =>
      intro s hmem
      obtain ⟨hij, hl⟩ := not_or.mp (mt List.mem_cons.mpr hmem)
      exact (ih _ hl).trans (serveClient_toLink_ne s hij _ _)
  have hs := (hbefore pre (b.beforeService r) hi).trans hlink
  obtain ⟨l3, hl3, -⟩ := (pumpXEvents_calm (b.afterService r) r.lastEvents).trans
    (calm_blind.updateRumble _ false)
  have hafter : b.afterService r =
      (i :: post).foldl (fun s i => s.serveClient i (b.pollResult r i) (r.received i))
        (pre.foldl (fun s i => s.serveClient i (b.pollResult r i) (r.received i))
          (b.beforeService r)) := by
    unfold afterService sweep
    rw [hsplit, List.foldl_append]
  generalize pre.foldl (fun s i => s.serveClient i (b.pollResult r i) (r.received i))
    (b.beforeService r) = s at hs hafter
  rw [List.foldl_cons] at hafter
  obtain ⟨l2, hl2, -⟩ := serveClients_hangs b r post
    (s.serveClient i (b.pollResult r i) (r.received i))
  have hserve : .hungUp c ∈ (s.serveClient i (b.pollResult r i) (r.received i)).log := by
    have hfd : (s.clients i).fd = some c := congrArg Link.fd hs
    have hok := served_of_empty (congrArg Link.output hs) (b.pollResult r i)
    rcases serveClient_cases s i (b.pollResult r i) (r.received i) with
      ⟨hnone, _⟩ | ⟨_, ⟨hfail, _⟩ | ⟨_, ⟨_, he⟩ | ⟨hno, _, _⟩ | ⟨hno, _⟩⟩⟩
    · rw [hfd] at hnone
      cases hnone
    · rw [hok] at hfail
      cases hfail
    · rw [he, hangUp, emitFor_some ((served_fd ..).trans hfd)]
      obtain ⟨l, hl, -⟩ := calm_parts.close ((s.served i (b.pollResult r i)).1.emit (.hungUp c)) i
      rw [hl]
      simp
    · rw [herr] at hno
      cases hno
    · rw [herr] at hno
      cases hno
  show .hungUp c ∈ (((b.afterService r).pumpXEvents r.lastEvents).updateRumble false).log
  rw [hl3, hafter, hl2]
  simp [hserve]

/-- **Where a poll result is stale, the new occupant is dropped for no fault of its own.** -/
theorem fresh_of_drops (h : Sound b) (hdrops : b.DropsForOwnFault r) : b.Fresh r := by
  intro i herr
  by_contra hstale
  obtain ⟨hne, hsome⟩ := not_or.mp hstale
  obtain ⟨c, hc⟩ := Option.ne_none_iff_exists'.mp hsome
  rcases beforeService_takes hc with hold | ⟨hnew, hlink⟩
  · exact hne (hc.trans hold.symm)
  have hsettled := (iteration_sound h r).tracked.settled c
  have hhung := stale_hungUp herr hlink
  obtain ⟨pre, post, hsplit⟩ := List.append_of_mem hhung
  have hclosed : .closed c ∈ (b.iteration r).log := by
    rw [hsplit] at hsettled ⊢
    have hpost := (fault_then_closed rfl rfl hsettled.1 hsettled.2).1
    exact List.mem_append_right _ (List.mem_cons_of_mem _ hpost)
  have hother : ∀ o, o.breaks = true → o.conn = some c → o ∈ b.events r → o = .hungUp c := by
    intro o hb hoc ho
    have hmem : o ∈ (b.iteration r).log := by
      rw [log_eq_events]
      exact List.mem_append_right _ ho
    exact breaks_once hsettled.1 hsettled.2 hmem hhung hb rfl hoc rfl
  rcases hdrops c (mem_events_of_new h hnew hclosed rfl) with ⟨j, hj, _⟩ | ho | ho | ho | ho
  · exact hnew (h.tracked.isSeen j c hj)
  · cases hother _ rfl rfl ho
  · cases hother _ rfl rfl ho
  · cases hother _ rfl rfl ho
  · cases hother _ rfl rfl ho

/-! ## 5. Connections turned away -/

theorem beforeService_sound (h : Sound b) (r : Round) : Sound (b.beforeService r) :=
  (h.env r.sends r.ticks r.stamps).acts (beforeService_acts b r)

/-- Acceptance leaves a new connection in a slot or turns it away. -/
theorem accepts_or_turnsAway {p : Phase} {c : Conn} {l : List Out} (hp : p ≠ .closed)
    (hl : ∀ o ∈ l, ∃ c', o = .connected c' ∨ o = .turnedAway c')
    (h : l.foldl (Phase.see c) p = .closed) : .turnedAway c ∈ l := by
  induction l generalizing p with
  | nil => exact absurd h hp
  | cons o l ih =>
    rw [List.foldl_cons] at h
    have hl' : ∀ o ∈ l, ∃ c', o = .connected c' ∨ o = .turnedAway c' := fun o ho =>
      hl o (List.mem_cons_of_mem _ ho)
    by_cases hoc : o.conn = some c
    · obtain ⟨c', rfl | rfl⟩ := hl o List.mem_cons_self
      · refine List.mem_cons_of_mem _ (ih ?_ hl' h)
        rw [Phase.see_of_eq hoc]
        cases p <;> exact Phase.noConfusion
      · have hcc : c' = c := Option.some.inj hoc
        exact hcc ▸ List.mem_cons_self
    · rw [Phase.see_of_ne hoc] at h
      exact List.mem_cons_of_mem _ (ih hp hl' h)

/-- **A connection that gets no slot is turned away.** -/
theorem turnedAway_of_unseated (h : Sound b) (hready : r.serverReady = true) {c : Conn} {nb : Bool}
    (hc : .conn c nb ∈ r.accepts) (hnew : c ∉ b.seen)
    (hno : ∀ i, ((b.beforeService r).clients i).fd ≠ some c) :
    .turnedAway c ∈ b.events r := by
  have hb1 := beforeService_sound h r
  have hbs : b.beforeService r = (b.pumped r).acceptClients r.accepts := by
    rw [beforeService_eq, if_pos hready]
  have hseen : c ∈ (b.beforeService r).seen := hbs ▸ (acceptClients_seen _ r.accepts).2 c nb hc
  have hclosed := hb1.tracked.gone c hseen hno
  obtain ⟨l, hl, hcalm⟩ := pumped_calm b r
  obtain ⟨l', hl', hacc⟩ := acceptClients_log (b.pumped r) r.accepts
  have hpumped : phase c (b.pumped r).log = .fresh := by
    have hsound : Sound (b.pumped r) := by
      unfold pumped
      split
      · exact (h.env r.sends r.ticks r.stamps).acts (pumpXEvents_acts ..)
      · exact h.env ..
    exact hsound.tracked.fresh c ((pumped_kept b r).1 ▸ hnew)
  rw [hbs, hl', phase_append, hpumped] at hclosed
  have hmem : .turnedAway c ∈ l' := accepts_or_turnsAway Phase.noConfusion
    (fun o ho => let ⟨c', _, _, h⟩ := hacc o ho; ⟨c', h⟩) hclosed
  refine mem_events_of_new h hnew ?_ rfl
  obtain ⟨l3, hl3⟩ := iteration_log_beforeService b r
  rw [hl3, hbs, hl']
  simp [hmem]

/-- A connection turned away has no fault of its own. -/
theorem turnedAway_not_ownFault (h : Sound b) {c : Conn} (hc : .turnedAway c ∈ b.events r) :
    ¬ b.OwnFault r c := by
  have hlog := log_eq_events b r
  have hmem : .turnedAway c ∈ (b.iteration r).log := by
    rw [hlog]
    exact List.mem_append_right _ hc
  obtain ⟨-, honly⟩ := turnedAway_alone ((iteration_sound h r).tracked.settled c).1 hmem
  have hother : ∀ o, o.conn = some c → o ∈ b.events r → o = .turnedAway c := fun o hoc ho =>
    honly o (hlog ▸ List.mem_append_right _ ho) hoc
  rintro (⟨i, hi, _⟩ | ho | ho | ho | ho)
  · have hopen := h.tracked.isOpen i c hi
    rw [if_neg (by simp)] at hopen
    have hfirst : phase c b.log = .fresh := by
      refine phase_of_silent (l := b.log) (p := .fresh) fun o ho hoc => ?_
      have := honly o (hlog ▸ List.mem_append_left _ ho) hoc
      subst this
      have hclosed := turnedAway_alone (h.tracked.settled c).1 ho
      rw [hopen] at hclosed
      cases hclosed.1
    rw [hopen] at hfirst
    cases hfirst
  · cases hother _ rfl ho
  · cases hother _ rfl ho
  · cases hother _ rfl ho
  · cases hother _ rfl ho

/-- Whoever is turned away was new and got no slot. -/
theorem unseated_of_turnedAway (h : Sound b) {c : Conn} (hc : .turnedAway c ∈ b.events r) :
    ¬ b.Seated r := by
  intro hseated
  obtain ⟨l, hl, hkinds⟩ := iteration_log b r
  rw [mem_events hl] at hc
  obtain ⟨nb, hready, hmem⟩ : ∃ nb, r.serverReady = true ∧ .conn c nb ∈ r.accepts := by
    rcases hkinds _ hc with h1 | ⟨c', h1, _⟩ | ⟨c', nb, h1, h2, h3 | h3⟩
    · cases h1
    · cases h1
    · cases h3
    · cases h3
      exact ⟨nb, h1, h2⟩
  have hend := ((iteration_sound h r).tracked.settled c).1
  have hnew : c ∉ b.seen := by
    intro hseen
    obtain ⟨pre, post, rfl⟩ := List.append_of_mem hc
    rw [hl, ← List.append_assoc] at hend
    have hsilent := fresh_silent (fresh_of_turnedAway hend)
    have hfresh : phase c b.log = .fresh := phase_of_silent fun o ho =>
      hsilent o (List.mem_append_left _ ho)
    by_cases hi : ∃ i, (b.clients i).fd = some c
    · obtain ⟨i, hi⟩ := hi
      rw [h.tracked.isOpen i c hi, if_neg (by simp)] at hfresh
      cases hfresh
    · rw [h.tracked.gone c hseen fun i hc' => hi ⟨i, hc'⟩] at hfresh
      cases hfresh
  obtain ⟨i, hi⟩ := hseated hready c nb hmem hnew
  have hopen := (beforeService_sound h r).tracked.isOpen i c hi
  rw [if_neg (by simp)] at hopen
  -- the slot's occupant is open, and its only event is that it was turned away
  have haway : .turnedAway c ∈ (b.beforeService r).log := by
    by_contra hno
    have hsilent : phase c (b.beforeService r).log = .fresh := by
      refine phase_of_silent (l := (b.beforeService r).log) (p := .fresh) fun o ho hoc => hno ?_
      have hall := (turnedAway_alone hend (by rw [hl]; exact List.mem_append_right _ hc)).2
      obtain ⟨l', hl'⟩ := iteration_log_beforeService b r
      have := hall o (by rw [hl']; exact List.mem_append_left _ ho) hoc
      exact this ▸ ho
    rw [hopen] at hsilent
    cases hsilent
  have hclosed := (turnedAway_alone (by rw [hopen]; exact Phase.noConfusion) haway).1
  rw [hopen] at hclosed
  cases hclosed

/-! ## 6. When a round meets the conditions -/

/-- A connection that is closed now was closed since. -/
theorem closed_mem {p : Phase} {c : Conn} {l : List Out} (hp : p ≠ .closed) (hp' : p ≠ .fresh)
    (h : l.foldl (Phase.see c) p = .closed) : .closed c ∈ l := by
  induction l generalizing p with
  | nil => exact absurd h hp
  | cons o l ih =>
    rw [List.foldl_cons] at h
    by_cases ho : o.conn = some c
    · rw [Phase.see_of_eq ho] at h
      by_cases hn : p.next o = .closed
      · have hclosed : ∃ c', o = .closed c' := by
          cases p <;> cases o <;> simp_all [Phase.next]
          split at hn <;> cases hn
        obtain ⟨c', rfl⟩ := hclosed
        rw [Option.some.inj ho]
        exact List.mem_cons_self
      · exact List.mem_cons_of_mem _ (ih hn (Phase.next_ne_fresh p o) h)
    · rw [Phase.see_of_ne ho] at h
      exact List.mem_cons_of_mem _ (ih hp hp' h)

/-- The first pump of the round drops a connection that is polled with an error, and a new one is
    waiting at the door. -/
structure Vacates (b : Bridge) (r : Round) : Prop where
  pumps : r.displayReady = true
  accepts : r.serverReady = true
  drops : ∃ i c, (b.clients i).fd = some c ∧ (b.pollResult r i).pollErr = true ∧
    .closed c ∈ (b.pumped r).log
  waits : ∃ c nb, .conn c nb ∈ r.accepts ∧ c ∉ b.seen

/-- **Only such a round makes a poll result stale.** -/
theorem vacates_of_stale (h : Sound b) (hstale : ¬b.Fresh r) : b.Vacates r := by
  unfold Fresh at hstale
  push Not at hstale
  obtain ⟨i, herr, hne, hsome⟩ := hstale
  obtain ⟨c', hc'⟩ := Option.ne_none_iff_exists'.mp hsome
  obtain ⟨c, hc⟩ : ∃ c, (b.clients i).fd = some c := by
    cases hfd : (b.clients i).fd with
    | none =>
      rw [pollResult, hfd] at herr
      cases herr
    | some c => exact ⟨c, rfl⟩
  have hnew := (beforeService_takes hc').resolve_left fun hold => hne (hc'.trans hold.symm)
  obtain ⟨-, hstays⟩ := pumped_kept b r
  have hready : r.serverReady = true := by
    by_contra hno
    rw [beforeService_eq, if_neg hno] at hne hsome
    exact (hstays i).1.elim hne hsome
  have hbs : b.beforeService r = (b.pumped r).acceptClients r.accepts := by
    rw [beforeService_eq, if_pos hready]
  -- the slot is free after the pump
  have hfree : ((b.pumped r).clients i).fd = none := by
    rcases (hstays i).1 with hsame | hnone
    · rcases acceptClients_toLink (b.pumped r) r.accepts i with h1 | ⟨_, h1, -⟩
      · exact absurd ((congrArg (fun s : Bridge => (s.clients i).fd) hbs).trans
          ((congrArg Link.fd h1).trans hsame)) hne
      · exact h1
    · exact hnone
  have hsound : Sound (b.pumped r) := by
    unfold pumped
    split
    · exact (h.env r.sends r.ticks r.stamps).acts (pumpXEvents_acts ..)
    · exact h.env ..
  have hgone := hsound.tracked.gone c ((pumped_kept b r).1 ▸ h.tracked.isSeen i c hc) fun j hj => by
    have hold : (b.clients j).fd = some c := by
      rcases (hstays j).1 with h1 | h1
      · exact h1 ▸ hj
      · rw [h1] at hj
        cases hj
    rw [h.tracked.distinct j i c hold hc, hfree] at hj
    cases hj
  have hopen := h.tracked.isOpen i c hc
  rw [if_neg (by simp)] at hopen
  refine ⟨?_, hready, ⟨i, c, hc, herr, ?_⟩, ?_⟩
  · by_contra hno
    rw [pumped, if_neg hno] at hfree
    exact absurd (hc.symm.trans hfree) (Option.some_ne_none c)
  · obtain ⟨l, hl, -⟩ := pumped_calm b r
    rw [hl, phase_append, hopen] at hgone
    rw [hl]
    exact List.mem_append_right _ (closed_mem Phase.noConfusion Phase.noConfusion hgone)
  · by_contra hno
    push Not at hno
    -- nobody new is waiting, so nobody takes the slot
    obtain ⟨l, hl, hacc⟩ := acceptClients_log (b.pumped r) r.accepts
    have hopen' := (beforeService_sound h r).tracked.isOpen i c' hc'
    rw [if_neg (by simp), hbs, hl, phase_append,
      hsound.tracked.fresh c' ((pumped_kept b r).1 ▸ hnew.1)] at hopen'
    have hfresh : l.foldl (Phase.see c') .fresh = .fresh := phase_of_silent fun o ho hoc => by
      obtain ⟨c₀, nb, hmem, rfl | rfl⟩ := hacc o ho <;> cases hoc <;> exact hnew.1 (hno _ nb hmem)
    rw [hfresh] at hopen'
    cases hopen'

/-- A new connection that gets no slot cannot be made non-blocking, or the table is full. -/
theorem refuses_of_unseated {rs : List AcceptResult} {c : Conn} {nb : Bool}
    (hc : .conn c nb ∈ rs) (hnew : c ∉ b.seen)
    (hno : ∀ i, ((b.acceptClients rs).clients i).fd ≠ some c) :
    .conn c false ∈ rs ∨ ∀ i, ((b.acceptClients rs).clients i).fd ≠ none := by
  induction rs generalizing b with
  | nil => exact absurd hc List.not_mem_nil
  | cons a rs ih =>
    have hfull : ∀ (s : Bridge) (i : Slot), (s.clients i).fd ≠ none →
        ((s.acceptClients rs).clients i).fd = (s.clients i).fd := fun s i hi => by
      rcases acceptClients_toLink s rs i with h1 | ⟨_, h1, -⟩
      · exact congrArg Link.fd h1
      · exact absurd h1 hi
    by_cases ha : ∃ nb', a = .conn c nb'
    · obtain ⟨nb', rfl⟩ := ha
      cases nb' with
      | false => exact Or.inl List.mem_cons_self
      | true =>
        right
        intro i
        cases hfree : freeSlot { b with seen := c :: b.seen } with
        | some k =>
          have hk : ((b.acceptClient (.conn c true)).clients k).fd = some c := by
            simp only [acceptClient, hnew, hfree]
            exact congrArg (fun l : Client => l.fd) (setClient_self ..)
          exact absurd ((hfull _ k (by rw [hk]; exact Option.some_ne_none c)).trans hk) (hno k)
        | none =>
          have hb : ((b.acceptClient (.conn c true)).clients i).fd = (b.clients i).fd := by
            simp only [acceptClient, hnew, hfree]
            rfl
          have hi : (b.clients i).fd ≠ none := by
            simpa using List.find?_eq_none.mp hfree i (List.mem_finRange i)
          rw [← hb] at hi
          exact (hfull _ i hi) ▸ hi
    · have hmem : .conn c nb ∈ rs := (List.mem_cons.mp hc).resolve_left fun he => ha ⟨nb, he.symm⟩
      have hseen : c ∉ (b.acceptClient a).seen := by
        unfold acceptClient
        split
        · exact hnew
        rename_i c' nb'
        have hne : c ∉ c' :: b.seen := fun hm => (List.mem_cons.mp hm).elim
          (fun he => ha ⟨nb', by rw [he]⟩) hnew
        dsimp only
        split
        · exact hnew
        split
        · exact hne
        split <;> exact hne
      exact (ih hmem hseen hno).imp_left (List.mem_cons_of_mem _)

/-- A new connection that cannot be made non-blocking is waiting, or every slot is taken after the
    acceptances. -/
def Crowded (b : Bridge) (r : Round) : Prop :=
  r.serverReady = true ∧ ∃ c nb, .conn c nb ∈ r.accepts ∧ c ∉ b.seen ∧
    (.conn c false ∈ r.accepts ∨ ∀ i, ((b.beforeService r).clients i).fd ≠ none)

theorem crowded_of_unseated (h : ¬b.Seated r) : b.Crowded r := by
  unfold Seated at h
  push Not at h
  obtain ⟨hready, c, nb, hmem, hnew, hno⟩ := h
  have hbs : b.beforeService r = (b.pumped r).acceptClients r.accepts := by
    rw [beforeService_eq, if_pos hready]
  refine ⟨hready, c, nb, hmem, hnew, ?_⟩
  rw [hbs] at hno ⊢
  exact refuses_of_unseated hmem ((pumped_kept b r).1 ▸ hnew) hno

/-- **Who is dropped, and for what.** In every reachable state and every round: the clients the
    round drops are all dropped for their own fault exactly if no slot polled with an error
    changes hands before the clients are served; counting the connections turned away at the
    door, exactly if also every new connection gets a slot. The first fails only in a round whose
    first pump drops a client polled with an error while a new one waits, the second only where
    a new connection stays blocking or finds the table full. -/
theorem drops_own_fault_iff (opcode : Int) (answer : DeviceAnswer) (inputs : List Input)
    (r : Round) :
    let b := run step (boot opcode answer) inputs
    (b.DropsForOwnFault r ↔ b.Fresh r) ∧ (b.ClosesForOwnFault r ↔ b.Fresh r ∧ b.Seated r) ∧
      (¬b.Fresh r → b.Vacates r) ∧ (¬b.Seated r → b.Crowded r) := by
  have h := run_sound opcode answer inputs
  dsimp only
  generalize run step (boot opcode answer) inputs = b at h
  refine ⟨⟨fresh_of_drops h, drops_of_fresh h⟩, ⟨fun hcl => ⟨?_, ?_⟩, fun ⟨hf, hs⟩ c hc => ?_⟩,
    vacates_of_stale h, crowded_of_unseated⟩
  · exact fresh_of_drops h fun c hc => hcl c (Or.inl hc)
  · intro hready c nb hc hnew
    by_contra hno
    have haway := turnedAway_of_unseated h hready hc hnew fun i hi => hno ⟨i, hi⟩
    exact turnedAway_not_ownFault h haway (hcl c (Or.inr haway))
  · rcases hc with hc | hc
    · exact drops_of_fresh h hf c hc
    · exact absurd hs (unseated_of_turnedAway h hc)

/-- A gamepad as XIQueryDevice lists it. -/
def padInfo : XIDeviceInfo where
  deviceid := 5
  use := .slavePointer
  name := none
  reply := some ⟨true, 5, 1, 1, 2, 0⟩

def padAnswer : DeviceAnswer := ⟨some [padInfo], true⟩

def noAnswer : DeviceAnswer := ⟨some [], true⟩

/-- A command without parameters, as a client sends it. -/
def commandBytes (command : UInt16) : List UInt8 :=
  controlMessageCodec.enc ⟨controlMagic, controlVersion, command, 0, 0, 0⟩

/-- An action while the sockets take no bytes and the clock stands still. -/
def quietly (a : Action) : Input := { action := a, sends := [], ticks := [], stamps := [] }

def slot0 : Slot := ⟨0, by decide⟩

def slot1 : Slot := ⟨1, by decide⟩

/-- A client that asked for events, in slot 0. -/
def oneClient : List Input :=
  [quietly (.accept (.conn 0 true)),
    quietly (.readable slot0 (.data (commandBytes controlQueryDescriptor)))]

/-- The client hangs up while an axis moves, and reconnects: the broadcast to the old connection
    fails, and the new one takes its slot. -/
def reconnect : Round where
  displayReady := true
  serverReady := true
  revents _ := ⟨false, false, true⟩
  firstEvents := [.device ⟨.motion, 5, 5, 0, [true], [1000]⟩]
  accepts := [.conn 1 true]
  received _ := .again
  lastEvents := []
  sends := [.failed]
  ticks := []
  stamps := []

/-- The hang-up of the old connection closes the new one. -/
theorem reconnect_drops_other :
    ¬ ∀ opcode answer inputs r, DropsForOwnFault (run step (boot opcode answer) inputs) r := by
  intro h
  have hclosed : .closed 1 ∈ events (run step (boot 1 padAnswer) oneClient) reconnect := by
    decide +kernel
  rcases h 1 padAnswer oneClient reconnect 1 hclosed with ⟨i, hi, _⟩ | ho | ho | ho | ho
  · revert i
    decide +kernel
  · revert ho
    decide +kernel
  · revert ho
    decide +kernel
  · revert ho
    decide +kernel
  · revert ho
    decide +kernel

end Bridge

end TermuxGamepad
