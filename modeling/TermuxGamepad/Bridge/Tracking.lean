/-
  File:      TermuxGamepad/Bridge/Tracking.lean
  Subject:   The controller state is the X device's, and every change of it is reported once.

  `Reflects` says what the state is after a history of XI2 events: each axis the last value
  reported under its bit, each button the last event of its detail, each hat its two directions.
  `Reports` says what a call appends: one record for each control that changed, which replayed
  on the old values give the new ones. `tracks_device` proves both for every history.
-/
import Mathlib.Data.List.Induction
import TermuxGamepad.Bridge.Controls

namespace TermuxGamepad

open Wire

/-! ## 1. What an event says -/

namespace XIDeviceEvent

/-- The value a motion event reports under an axis' own bit: the values are packed, one for each
    set bit. -/
def valuator (e : XIDeviceEvent) (axis : Nat) : Option Int :=
  if e.evtype = .motion ∧ e.mask.getD axis false = true then
    e.values[(e.mask.take axis).count true]?
  else none

/-- Press or release of a detail. -/
def press (e : XIDeviceEvent) (detail : Nat) : Option Bool :=
  if e.detail = detail then
    match e.evtype with
    | .buttonPress => some true
    | .buttonRelease => some false
    | _ => none
  else none

/-- A motion event carries one value for each set bit of its mask. -/
def Packed (e : XIDeviceEvent) : Prop := e.evtype = .motion → e.values.length = e.mask.count true

/-- The event is of the device. -/
def own (e : XIDeviceEvent) (deviceId : Int) : Bool :=
  e.deviceid == deviceId || e.sourceid == deviceId

end XIDeviceEvent

/-- The last answer in a history. -/
def lastOf {α β : Type} (f : α → Option β) (es : List α) : Option β := (es.filterMap f).getLast?

theorem lastOf_concat {α β : Type} (f : α → Option β) (es : List α) (e : α) :
    lastOf f (es ++ [e]) = (f e).or (lastOf f es) := by
  unfold lastOf
  rw [List.filterMap_append, List.getLast?_append]
  cases h : f e <;> simp [h]

/-- **The state after a history of events**, from a zero state. -/
structure Reflects (deviceId : Int) (es : List XIDeviceEvent) (s : GamepadState) : Prop where
  axes : ∀ i : Fin 6,
    s.axes i =
      (lastOf (XIDeviceEvent.valuator · i) (es.filter (·.own deviceId))).elim 0 (convertAxis i)
  buttons : ∀ d, 1 ≤ d → d ≤ 16 →
    (s.buttons.getLsbD (d - 1) = true ↔
      lastOf (XIDeviceEvent.press · d) (es.filter (·.own deviceId)) = some true)
  hatX : s.hatX = (s.isPressed 14).toInt - (s.isPressed 13).toInt
  hatY : s.hatY = (s.isPressed 12).toInt - (s.isPressed 11).toInt

/-! ## 2. What a batch reports -/

/-- The values a reader has after the records, from those of a state. -/
def GamepadState.replay (s : GamepadState) (evs : List InputEvent) (c : Control) : Int :=
  ((latest (evs.map InputEvent.report) c.key).map Int32.toInt).getD (s.value c)

/-- The records are one for each control that changed, and they give the new values. -/
structure Reports (s s' : GamepadState) (evs : List InputEvent) : Prop where
  once : ∃ cs : List Control, cs.Nodup ∧ (∀ c, c ∈ cs ↔ s.value c ≠ s'.value c) ∧
    evs.map InputEvent.report = cs.map fun c => (c.key, s'.shown c)
  replay : s.replay evs = s'.value

/-- The controls a batch has reported. -/
structure Changed (s : GamepadState) (p : Batch) (cs : List Control) : Prop where
  nodup : cs.Nodup
  mem : ∀ c, c ∈ cs ↔ s.value c ≠ p.1.state.value c
  records : p.2.map InputEvent.report = cs.map fun c => (c.key, p.1.state.shown c)

theorem Changed.refl (b : Bridge) : Changed b.state (b, []) [] :=
  ⟨List.nodup_nil, by simp, rfl⟩

/-- A control changes that had not, and its record is appended. -/
theorem Changed.append {s : GamepadState} {p : Batch} {cs : List Control} (h : Changed s p cs)
    {c : Control} (hc : c ∉ cs) {v : Int} (hv : v ≠ p.1.state.value c) {s' : GamepadState}
    (hs : s'.value = Function.update p.1.state.value c v) :
    Changed s (appendEvent (p.1.setState s', p.2) c.key.1 c.key.2 v) (cs ++ [c]) where
  nodup := by
    rw [List.nodup_append_comm]
    exact List.nodup_cons.mpr ⟨hc, h.nodup⟩
  mem := fun c' => by
    have hold : s.value c = p.1.state.value c := by
      by_contra hne
      exact hc ((h.mem c).mpr hne)
    show c' ∈ cs ++ [c] ↔ s.value c' ≠ s'.value c'
    rw [hs, List.mem_append, List.mem_singleton, h.mem]
    by_cases hcc : c' = c
    · subst hcc
      simpa [hold] using Ne.symm hv
    · simp [hcc]
  records := by
    have hkeep : ∀ c' ∈ cs, (c'.key, p.1.state.shown c') = (c'.key, s'.shown c') := by
      intro c' hc'
      have hne : c' ≠ c := fun e => hc (e ▸ hc')
      rw [GamepadState.shown_update hs, Function.update_of_ne hne]
    have hlast : s'.shown c = Int32.ofInt v := by
      rw [GamepadState.shown_update hs, Function.update_self]
    show ((p.2 ++ [_]).map InputEvent.report) = (cs ++ [c]).map fun c => (c.key, s'.shown c)
    rw [List.map_append, List.map_append, h.records, List.map_congr_left hkeep]
    simp [InputEvent.report, hlast]

/-- In range, the records' values are the values themselves. -/
theorem replay_of_carries {s s' : GamepadState} {evs : List InputEvent} (hs : s.InRange)
    (hs' : s'.InRange) (h : Carries Control.key s.shown (evs.map InputEvent.report) s'.shown) :
    s.replay evs = s'.value := by
  funext c
  have hc := h c
  unfold GamepadState.replay
  rw [← hs'.shown_toInt c, ← hc]
  cases latest (evs.map InputEvent.report) c.key with
  | none => exact (hs.shown_toInt c).symm
  | some x => rfl

namespace Bridge

/-- The loop reports axes from the current one on. -/
theorem motionLoop_changed {s : GamepadState} (mask : List Bool) (axis : Nat) (values : List Int)
    (p : Batch) {cs : List Control} (h : Changed s p cs)
    (hcs : ∀ c ∈ cs, ∃ i : Fin 6, c = .axis i ∧ i.val < axis) (hlen : p.2.length ≤ min axis 6) :
    ∃ cs', Changed s (motionLoop mask axis values p) cs' ∧
      (motionLoop mask axis values p).2.length ≤ 6 := by
  fun_induction motionLoop mask axis values p generalizing cs with
  | case1 axis values p => exact ⟨cs, h, by omega⟩
  | case2 mask axis values p ih =>
    refine ih h (fun c hc => ?_) (by omega)
    obtain ⟨i, rfl, hi⟩ := hcs c hc
    exact ⟨i, rfl, by omega⟩
  | case3 mask axis values p p' =>
    rename_i ih
    have hnext : ∀ c ∈ cs, ∃ i : Fin 6, c = .axis i ∧ i.val < axis + 1 := by
      intro c hc
      obtain ⟨i, rfl, hi⟩ := hcs c hc
      exact ⟨i, rfl, by omega⟩
    by_cases hlt : axis < 6
    · by_cases hne : convertAxis axis (values.headD 0) ≠ p.1.state.axes ⟨axis, hlt⟩
      · have hp' : p' = appendEvent (p.1.setState (p.1.state.setAxis ⟨axis, hlt⟩
            (convertAxis axis (values.headD 0))), p.2) evAbs (axisCode axis)
            (convertAxis axis (values.headD 0)) := by
          simp only [p', dif_pos hlt, if_pos hne]
        have hnew : Control.axis ⟨axis, hlt⟩ ∉ cs := by
          intro hmem
          obtain ⟨i, hi, hlti⟩ := hcs _ hmem
          rw [← Control.axis.inj hi] at hlti
          exact absurd hlti (lt_irrefl axis)
        refine @ih (cs ++ [.axis ⟨axis, hlt⟩]) ?_ ?_ ?_
        · rw [hp']
          exact h.append hnew hne (GamepadState.value_setAxis ..)
        · intro c hc
          rcases List.mem_append.mp hc with hc | hc
          · exact hnext c hc
          · exact ⟨⟨axis, hlt⟩, List.mem_singleton.mp hc, Nat.lt_succ_self axis⟩
        · rw [hp']
          simp only [appendEvent, List.length_append, List.length_singleton]
          omega
      · have hp' : p' = p := by simp only [p', dif_pos hlt, if_neg hne]
        rw [hp'] at ih ⊢
        exact ih h hnext (by omega)
    · have hp' : p' = p := by simp only [p', dif_neg hlt]
      rw [hp'] at ih ⊢
      exact ih h hnext (by omega)

theorem updateHatX_changed {s : GamepadState} {p : Batch} (h : Changed s p []) :
    ∃ cs, Changed s (updateHatX p) cs ∧ .hatY ∉ cs ∧ (updateHatX p).2.length ≤ 1 := by
  have hp : p.2 = [] := List.map_eq_nil_iff.mp h.records
  unfold updateHatX
  dsimp only
  split
  · rename_i hne
    refine ⟨[.hatX], h.append (c := .hatX) List.not_mem_nil hne (GamepadState.value_hatX ..),
      by decide, ?_⟩
    simp [appendEvent, hp]
  · exact ⟨[], h, List.not_mem_nil, by simp [hp]⟩

theorem updateHatY_changed {s : GamepadState} {p : Batch} {cs : List Control}
    (h : Changed s p cs) (hc : .hatY ∉ cs) (hlen : p.2.length ≤ 1) :
    ∃ cs, Changed s (updateHatY p) cs ∧ (updateHatY p).2.length ≤ 2 := by
  unfold updateHatY
  dsimp only
  split
  · rename_i hne
    refine ⟨_, h.append (c := .hatY) hc hne (GamepadState.value_hatY ..), ?_⟩
    simpa [appendEvent] using hlen
  · exact ⟨cs, h, by omega⟩

theorem buttonChange_changed (b : Bridge) {detail : Nat} (hd : 1 ≤ detail ∧ detail ≤ 16)
    (pressed : Bool) : ∃ cs, Changed b.state (b.buttonChange detail pressed) cs ∧
      (b.buttonChange detail pressed).2.length ≤ 6 := by
  unfold buttonChange
  split
  · exact ⟨[], .refl b, by simp⟩
  · rename_i hwas
    rcases detail_cases hd with hdir | ⟨k, rfl⟩
    · have hset : Changed b.state (b.setState (b.state.setButton detail pressed), []) [] := by
        refine ⟨List.nodup_nil, fun c => ?_, rfl⟩
        show c ∈ [] ↔ b.state.value c ≠ (b.state.setButton detail pressed).value c
        simp [GamepadState.value_setDirection b.state hdir pressed]
      have hif : (decide (11 ≤ detail) && decide (detail ≤ 14)) = true := by simp [hdir]
      obtain ⟨cs, hx, hy, hlen⟩ := updateHatX_changed hset
      obtain ⟨cs', hxy, hlen'⟩ := updateHatY_changed hx hy hlen
      rw [if_pos hif]
      exact ⟨cs', hxy, by omega⟩
    · have hif : ¬(decide (11 ≤ buttonDetail k) && decide (buttonDetail k ≤ 14)) = true := by
        simpa using buttonDetail_no_direction k
      have hne : pressed.toInt ≠ b.state.value (.button k) := by
        show pressed.toInt ≠ (b.state.isPressed (buttonDetail k)).toInt
        revert hwas
        cases pressed <;> cases b.state.isPressed (buttonDetail k) <;> decide
      rw [if_neg hif, if_pos (buttonDetail_code k)]
      exact ⟨_, (Changed.refl b).append (c := .button k) List.not_mem_nil hne
        (GamepadState.value_setButton ..), by simp [appendEvent]⟩

/-- **A batch has one record for each control its event changes**, six at most. -/
theorem eventBatch_changed (b : Bridge) (event : XIDeviceEvent) :
    ∃ cs, Changed b.state (b.eventBatch event) cs ∧ (b.eventBatch event).2.length ≤ 6 := by
  have hbutton : ∀ pressed, ∃ cs, Changed b.state
      (if 1 ≤ event.detail && event.detail ≤ 16 then b.buttonChange event.detail.toNat pressed
        else (b, [])) cs ∧
      (if 1 ≤ event.detail && event.detail ≤ 16 then b.buttonChange event.detail.toNat pressed
        else (b, [])).2.length ≤ 6 := by
    intro pressed
    split
    · rename_i hd
      simp only [Bool.and_eq_true, decide_eq_true_eq] at hd
      exact buttonChange_changed b ⟨by omega, by omega⟩ pressed
    · exact ⟨[], .refl b, by simp⟩
  unfold eventBatch
  split
  · exact motionLoop_changed _ 0 _ _ (.refl b) (by simp) (by simp)
  · exact hbutton true
  · exact hbutton false
  · exact ⟨[], .refl b, by simp⟩

theorem eventBatch_reports {b : Bridge} (h : b.state.InRange) (event : XIDeviceEvent) :
    Reports b.state (b.eventBatch event).1.state (b.eventBatch event).2 := by
  obtain ⟨cs, hcs, -⟩ := eventBatch_changed b event
  exact ⟨⟨cs, hcs.nodup, hcs.mem, hcs.records⟩,
    replay_of_carries h (eventBatch_inRange h event) (eventBatch_carries b event)⟩

/-! ## 3. What a call does to the state -/

/-- The loop writes each axis the value under its bit. -/
theorem motionLoop_axes (mask : List Bool) (axis : Nat) (values : List Int) (p : Batch)
    (i : Fin 6) :
    (motionLoop mask axis values p).1.state.axes i =
      if axis ≤ i ∧ mask.getD (i - axis) false = true then
        convertAxis i (values.getD ((mask.take (i - axis)).count true) 0)
      else p.1.state.axes i := by
  have hlast : ∀ {n : Nat}, n ≤ i → ¬n + 1 ≤ i → (i : Nat) - n = 0 := by omega
  have hnext : ∀ {n : Nat}, n + 1 ≤ i → (i : Nat) - n = (i - (n + 1)) + 1 := by omega
  fun_induction motionLoop mask axis values p with
  | case1 => simp
  | case2 mask axis values p ih =>
    rw [ih]
    by_cases h1 : axis + 1 ≤ i
    · have h0 : axis ≤ i := by omega
      simp [h0, h1, hnext h1]
    · by_cases h0 : axis ≤ i
      · simp [h1, hlast h0 h1]
      · simp [h0, h1]
  | case3 mask axis values p p' ih =>
    rw [ih]
    by_cases h1 : axis + 1 ≤ i
    · have h0 : axis ≤ i := by omega
      have hkeep : p'.1.state.axes i = p.1.state.axes i := by
        simp only [p']
        split
        · have hne : i ≠ ⟨axis, ‹_›⟩ := fun e => by
            rw [e] at h1
            exact absurd h1 (Nat.not_succ_le_self axis)
          split
          · exact Function.update_of_ne hne ..
          · rfl
        · rfl
      have hval : values.tail.getD ((mask.take (i - (axis + 1))).count true) 0 =
          values.getD ((mask.take (i - (axis + 1))).count true + 1) 0 := by
        cases values <;> simp
      rw [hkeep, hval]
      simp [h0, h1, hnext h1]
    · by_cases h0 : axis ≤ i
      · have hi : i = ⟨axis, by omega⟩ := Fin.ext (by simp only; omega)
        have hset : p'.1.state.axes i = convertAxis axis (values.headD 0) := by
          have hlt : axis < 6 := by omega
          simp only [p', dif_pos hlt]
          rw [hi]
          split
          · exact Function.update_self ..
          · rename_i hsame
            exact (not_not.mp hsame).symm
        have hval : values.headD 0 = values.getD 0 0 := by cases values <;> rfl
        have hax : (i : Nat) = axis := by rw [hi]
        rw [if_neg (by omega), hset, hval]
        simp [hax]
      · have hkeep : p'.1.state.axes i = p.1.state.axes i := by
          simp only [p']
          split
          · have hne : i ≠ ⟨axis, ‹_›⟩ := fun e => h0 (by rw [e])
            split
            · exact Function.update_of_ne hne ..
            · rfl
          · rfl
        simp [h0, h1, hkeep]

/-- It writes nothing else. -/
theorem motionLoop_rest (mask : List Bool) (axis : Nat) (values : List Int) (p : Batch) :
    (motionLoop mask axis values p).1.state =
      { p.1.state with axes := (motionLoop mask axis values p).1.state.axes } := by
  fun_induction motionLoop mask axis values p with
  | case1 => rfl
  | case2 mask axis values p ih => exact ih
  | case3 mask axis values p p' ih =>
    have hp' : p'.1.state = { p.1.state with axes := p'.1.state.axes } := by
      simp only [p']
      split
      · split <;> rfl
      · rfl
    rw [hp'] at ih
    exact ih

theorem updateHats_state (p : Batch) :
    (updateHatY (updateHatX p)).1.state =
      { p.1.state with hatX := p.1.state.hatValue 13 14, hatY := p.1.state.hatValue 11 12 } := by
  have hx : (updateHatX p).1.state = { p.1.state with hatX := p.1.state.hatValue 13 14 } := by
    unfold updateHatX
    dsimp only
    split
    · rfl
    · rename_i h
      rw [not_not.mp h]
  have hy : (updateHatY (updateHatX p)).1.state =
      { (updateHatX p).1.state with hatY := (updateHatX p).1.state.hatValue 11 12 } := by
    unfold updateHatY
    dsimp only
    split
    · rfl
    · rename_i h
      rw [not_not.mp h]
  rw [hy, hx]
  rfl

/-- The hats say what their directions say. -/
def HatsSettled (s : GamepadState) : Prop := s.hatX = s.hatValue 13 14 ∧ s.hatY = s.hatValue 11 12

/-- The button branch sets the detail's button and leaves the axes; the hats follow. -/
theorem buttonChange_state (b : Bridge) (detail : Nat) (hd : 1 ≤ detail ∧ detail ≤ 16)
    (pressed : Bool) (hhats : HatsSettled b.state) :
    (b.buttonChange detail pressed).1.state.axes = b.state.axes ∧
    (∀ d, 1 ≤ d → d ≤ 16 → (b.buttonChange detail pressed).1.state.isPressed d =
      if d = detail then pressed else b.state.isPressed d) ∧
    HatsSettled (b.buttonChange detail pressed).1.state := by
  have hset : ∀ d, 1 ≤ d → d ≤ 16 → (b.state.setButton detail pressed).isPressed d =
      if d = detail then pressed else b.state.isPressed d := fun d h1 h2 =>
    isPressed_setButton b.state ⟨hd.1, by omega⟩ ⟨h1, by omega⟩ pressed
  unfold buttonChange
  split
  · rename_i hsame
    refine ⟨rfl, fun d _ _ => ?_, hhats⟩
    split
    · rename_i he
      rw [he]
      exact (beq_iff_eq.mp hsame).symm
    · rfl
  · dsimp only
    by_cases hdir : 11 ≤ detail ∧ detail ≤ 14
    · have hif : (decide (11 ≤ detail) && decide (detail ≤ 14)) = true := by simp [hdir]
      rw [if_pos hif, updateHats_state]
      exact ⟨rfl, hset, rfl, rfl⟩
    · have hif : ¬(decide (11 ≤ detail) && decide (detail ≤ 14)) = true := by simpa using hdir
      have hother : ∀ d, 11 ≤ d → d ≤ 14 →
          (b.state.setButton detail pressed).isPressed d = b.state.isPressed d := fun d h1 h2 => by
        rw [hset d (by omega) (by omega), if_neg (by omega)]
      have hsettled : HatsSettled (b.state.setButton detail pressed) := by
        refine ⟨hhats.1.trans ?_, hhats.2.trans ?_⟩ <;> unfold GamepadState.hatValue
        · rw [hother 13 (by decide) (by decide), hother 14 (by decide) (by decide)]
        · rw [hother 11 (by decide) (by decide), hother 12 (by decide) (by decide)]
      rw [if_neg hif]
      split <;> exact ⟨rfl, hset, hsettled⟩

theorem eventBatch_axes (b : Bridge) {e : XIDeviceEvent} (he : e.Packed)
    (hhats : HatsSettled b.state) (i : Fin 6) :
    (b.eventBatch e).1.state.axes i = (e.valuator i).elim (b.state.axes i) (convertAxis i) := by
  have hbutton : ∀ pressed, (if 1 ≤ e.detail && e.detail ≤ 16 then
      b.buttonChange e.detail.toNat pressed else (b, [])).1.state.axes i = b.state.axes i := by
    intro pressed
    split
    · rename_i hd
      simp only [Bool.and_eq_true, decide_eq_true_eq] at hd
      rw [(buttonChange_state b e.detail.toNat ⟨by omega, by omega⟩ pressed hhats).1]
    · rfl
  unfold eventBatch XIDeviceEvent.valuator
  cases htype : e.evtype with
  | motion =>
    show (motionLoop e.mask 0 e.values (b, [])).1.state.axes i = _
    rw [motionLoop_axes]
    by_cases hbit : e.mask.getD i false = true
    · -- the bit's own value is there: the bits before it and itself are among the set bits
      obtain ⟨hlt, hget⟩ : ∃ h : (i : Nat) < e.mask.length, e.mask[(i : Nat)] = true := by
        rw [List.getD_eq_getElem?_getD] at hbit
        cases hget : e.mask[(i : Nat)]? with
        | none => simp [hget] at hbit
        | some bit =>
          obtain ⟨hlt, heq⟩ := List.getElem?_eq_some_iff.mp hget
          exact ⟨hlt, by simpa [heq, hget] using hbit⟩
      have hsplit : e.mask = e.mask.take i ++ true :: e.mask.drop (i + 1) := by
        rw [← hget, List.getElem_cons_drop, List.take_append_drop]
      have hcount : (e.mask.take i).count true < e.values.length := by
        rw [he htype]
        conv_rhs => rw [hsplit]
        rw [List.count_append, List.count_cons_self]
        omega
      rw [if_pos ⟨Nat.zero_le _, hbit⟩, if_pos ⟨rfl, hbit⟩, List.getElem?_eq_getElem hcount,
        List.getD_eq_getElem?_getD]
      simp [List.getElem?_eq_getElem hcount]
    · rw [if_neg (fun h => hbit h.2), if_neg (fun h => hbit h.2)]
      rfl
  | buttonPress => simpa using hbutton true
  | buttonRelease => simpa using hbutton false
  | other => simp

theorem eventBatch_buttons (b : Bridge) (e : XIDeviceEvent) (hhats : HatsSettled b.state) :
    (∀ d, 1 ≤ d → d ≤ 16 → (b.eventBatch e).1.state.isPressed d =
      (e.press d).getD (b.state.isPressed d)) ∧ HatsSettled (b.eventBatch e).1.state := by
  have hbutton : ∀ pressed : Bool, e.evtype = (if pressed then .buttonPress else .buttonRelease) →
      let p := if 1 ≤ e.detail && e.detail ≤ 16 then b.buttonChange e.detail.toNat pressed
        else (b, [])
      (∀ d : Nat, 1 ≤ d → d ≤ 16 → p.1.state.isPressed d =
        (e.press d).getD (b.state.isPressed d)) ∧ HatsSettled p.1.state := by
    intro pressed htype p
    have hpress : ∀ d : Nat, e.press d = if e.detail = d then some pressed else none := by
      intro d
      unfold XIDeviceEvent.press
      rw [htype]
      cases pressed <;> rfl
    by_cases hd : 1 ≤ e.detail ∧ e.detail ≤ 16
    · have hp : p = b.buttonChange e.detail.toNat pressed := by simp [p, hd]
      obtain ⟨_, hb, hh⟩ :=
        buttonChange_state b e.detail.toNat ⟨by omega, by omega⟩ pressed hhats
      rw [hp]
      refine ⟨fun d h1 h2 => ?_, hh⟩
      have hiff : d = e.detail.toNat ↔ e.detail = d := by omega
      rw [hb d h1 h2, hpress]
      by_cases heq : e.detail = d
      · rw [if_pos (hiff.mpr heq), if_pos heq]
        rfl
      · rw [if_neg (mt hiff.mp heq), if_neg heq]
        rfl
    · have hp : p = (b, []) := if_neg (by simpa using hd)
      rw [hp]
      refine ⟨fun d h1 h2 => ?_, hhats⟩
      rw [hpress, if_neg (by omega)]
      rfl
  have hnone : e.evtype = .motion ∨ e.evtype = .other → ∀ d : Nat, e.press d = none := by
    intro htype d
    unfold XIDeviceEvent.press
    rcases htype with htype | htype <;> rw [htype] <;> split <;> rfl
  unfold eventBatch
  cases htype : e.evtype with
  | motion =>
    have hrest := motionLoop_rest e.mask 0 e.values (b, [])
    refine ⟨fun d _ _ => ?_, ?_⟩
    · show (motionLoop e.mask 0 e.values (b, [])).1.state.isPressed d = _
      rw [hnone (.inl htype), hrest]
      rfl
    · show HatsSettled (motionLoop e.mask 0 e.values (b, [])).1.state
      rw [hrest]
      exact hhats
  | buttonPress => exact hbutton true htype
  | buttonRelease => exact hbutton false htype
  | other =>
    refine ⟨fun d _ _ => ?_, hhats⟩
    rw [hnone (.inr htype)]
    rfl

/-! ## 4. The history -/

/-- What a call emits: nothing where nothing changed, else a record for each change, closed by
    SYN_REPORT, sixteen records at most, to the event clients. -/
structure CallReports (b : Bridge) (event : XIDeviceEvent) (deviceId : Int) : Prop where
  other : event.own deviceId = false → b.processXiEvent event deviceId = b
  own : event.own deviceId = true → ∃ evs,
    Reports b.state (b.processXiEvent event deviceId).state evs ∧
    ∃ before : Bridge, before.clients = b.clients ∧ before.log = b.log ∧
      if evs = [] then b.processXiEvent event deviceId = before
      else ∃ syn : InputEvent, syn.body = synBody ∧ evs.length + 1 ≤ 16 ∧
        b.processXiEvent event deviceId = before.broadcastEvents (evs ++ [syn])

theorem processXiEvent_state {b : Bridge} {event : XIDeviceEvent} {deviceId : Int}
    (hown : event.own deviceId = true) :
    (b.processXiEvent event deviceId).state = (b.eventBatch event).1.state := by
  have hnot : ¬(event.deviceid ≠ deviceId ∧ event.sourceid ≠ deviceId) := by
    simpa [XIDeviceEvent.own, or_iff_not_imp_left] using hown
  unfold processXiEvent
  rw [if_neg hnot]
  dsimp only
  split
  · rfl
  · exact (frame_parts.broadcast _ .events _).state

theorem processXiEvent_other (b : Bridge) {event : XIDeviceEvent} {deviceId : Int}
    (hown : event.own deviceId = false) : b.processXiEvent event deviceId = b := by
  have hother : event.deviceid ≠ deviceId ∧ event.sourceid ≠ deviceId := by
    simpa [XIDeviceEvent.own] using hown
  unfold processXiEvent
  rw [if_pos hother]

theorem processXiEvent_reports {b : Bridge} (h : b.state.InRange) (event : XIDeviceEvent)
    (deviceId : Int) : CallReports b event deviceId where
  other := processXiEvent_other b
  own := fun hown => by
    obtain ⟨_, _, hlen⟩ := eventBatch_changed b event
    obtain ⟨s, ts, hsame⟩ := eventBatch_same b event
    have hnot : ¬(event.deviceid ≠ deviceId ∧ event.sourceid ≠ deviceId) := by
      simpa [XIDeviceEvent.own, or_iff_not_imp_left] using hown
    refine ⟨(b.eventBatch event).2, ?_, ?_⟩
    · rw [processXiEvent_state hown]
      exact eventBatch_reports h event
    · unfold processXiEvent
      rw [if_neg hnot]
      dsimp only
      by_cases hempty : (b.eventBatch event).2 = []
      · refine ⟨(b.eventBatch event).1, by rw [hsame], by rw [hsame], ?_⟩
        rw [if_pos hempty, if_pos (List.isEmpty_iff.mpr hempty)]
      · refine ⟨(b.eventBatch event).1.timestamp.2, ?_, ?_, ?_⟩
        · show (b.eventBatch event).1.clients = _
          rw [hsame]
        · show (b.eventBatch event).1.log = _
          rw [hsame]
        · rw [if_neg hempty, if_neg (mt List.isEmpty_iff.mp hempty)]
          exact ⟨_, rfl, by omega, rfl⟩

/-- The calls of `process_xi_event` in a row. -/
def processAll (b : Bridge) (deviceId : Int) (es : List XIDeviceEvent) : Bridge :=
  run (fun b e => b.processXiEvent e deviceId) b es

theorem processXiEvent_reflects {b : Bridge} {deviceId : Int} {es : List XIDeviceEvent}
    (h : Reflects deviceId es b.state) {e : XIDeviceEvent} (he : e.Packed) :
    Reflects deviceId (es ++ [e]) (b.processXiEvent e deviceId).state := by
  by_cases hown : e.own deviceId = true
  · have hhats : HatsSettled b.state := ⟨h.hatX, h.hatY⟩
    have hhist : (es ++ [e]).filter (·.own deviceId) = es.filter (·.own deviceId) ++ [e] := by
      simp [hown]
    obtain ⟨hbuttons, hhats'⟩ := eventBatch_buttons b e hhats
    rw [processXiEvent_state hown]
    refine ⟨fun i => ?_, fun d h1 h2 => ?_, hhats'.1, hhats'.2⟩
    · rw [eventBatch_axes b he hhats, hhist, lastOf_concat, h.axes]
      cases e.valuator i <;> rfl
    · have hd := hbuttons d h1 h2
      have hold := h.buttons d h1 h2
      rw [isPressed_eq, isPressed_eq] at hd
      rw [hd, hhist, lastOf_concat]
      cases e.press d with
      | none => exact hold
      | some p => cases p <;> simp
  · have hown' : e.own deviceId = false := Bool.not_eq_true _ ▸ hown
    have hhist : (es ++ [e]).filter (·.own deviceId) = es.filter (·.own deviceId) := by
      simp [hown']
    rw [processXiEvent_other b hown']
    exact ⟨fun i => by rw [hhist]; exact h.axes i, fun d h1 h2 => by rw [hhist]; exact h.buttons d h1 h2,
      h.hatX, h.hatY⟩

theorem zero_reflects (deviceId : Int) : Reflects deviceId [] GamepadState.zero :=
  ⟨fun _ => rfl, fun d _ _ => by simp [GamepadState.zero, lastOf], by decide, by decide⟩

theorem processXiEvent_inRange {b : Bridge} (h : b.state.InRange) (event : XIDeviceEvent)
    (deviceId : Int) : (b.processXiEvent event deviceId).state.InRange := by
  by_cases hown : event.own deviceId = true
  · rw [processXiEvent_state hown]
    exact eventBatch_inRange h event
  · rw [processXiEvent_other b (Bool.not_eq_true _ ▸ hown)]
    exact h

/-- **The bridge tracks the device exactly.** From a zero state and for every history of events,
    each packed as the protocol says: the state is what the history says, and every call in it
    reports exactly what it changes. -/
theorem tracks_device (b : Bridge) (hb : b.state = GamepadState.zero) (deviceId : Int)
    (es : List XIDeviceEvent) (hes : ∀ e ∈ es, e.Packed) :
    Reflects deviceId es (b.processAll deviceId es).state ∧
      ∀ pre event post, es = pre ++ event :: post →
        CallReports (b.processAll deviceId pre) event deviceId := by
  have hstate : ∀ es : List XIDeviceEvent, (∀ e ∈ es, e.Packed) →
      Reflects deviceId es (b.processAll deviceId es).state := by
    intro es
    induction es using List.reverseRecOn with
    | nil =>
      intro _
      show Reflects deviceId [] b.state
      rw [hb]
      exact zero_reflects deviceId
    | append_singleton es e ih =>
      intro hes
      show Reflects deviceId (es ++ [e]) (run _ b (es ++ [e])).state
      rw [run_concat]
      exact processXiEvent_reflects (ih fun e he => hes e (List.mem_append_left _ he))
        (hes e (List.mem_append_right _ (List.mem_singleton.mpr rfl)))
  have hrange : ∀ es, (b.processAll deviceId es).state.InRange := fun es =>
    run_inv (P := fun b : Bridge => b.state.InRange)
      (fun _ e h => processXiEvent_inRange h e deviceId) (hb ▸ GamepadState.zero_inRange) es
  exact ⟨hstate es hes, fun pre event _ _ => processXiEvent_reports (hrange pre) event deviceId⟩

/-- A stick moved, with a bit above the axes set. -/
def stickMoved : XIDeviceEvent :=
  { evtype := .motion, deviceid := 5, sourceid := 5, detail := 0,
    mask := [true, false, false, true, false, false, true, false], values := [100, -40000, 7] }

theorem tracks_device_stick :
    Reflects 5 [stickMoved] ((Bridge.init 1).processAll 5 [stickMoved]).state ∧
      CallReports (Bridge.init 1) stickMoved 5 := by
  have hpacked : ∀ e ∈ [stickMoved], e.Packed := by
    intro e he
    rw [List.mem_singleton.mp he]
    exact fun _ => rfl
  have h := tracks_device (Bridge.init 1) rfl 5 [stickMoved] hpacked
  exact ⟨h.1, h.2 [] stickMoved [] rfl⟩

end Bridge

end TermuxGamepad
