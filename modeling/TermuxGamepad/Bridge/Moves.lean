/-
  File:      TermuxGamepad/Bridge/Moves.lean
  Subject:   What the bridge's operations do to the rumble its clients hold.

  For the arbitration of rumble, every operation on a present device is a sequence of three moves:

  * quiet -- nobody's rumble changes, and no request and no mark of an update joins the history;
  * forced -- somebody's rumble changes, and `update_rumble(1)` follows at once;
  * tick -- `update_rumble(0)`.

  An invariant of the arbitration is proved for these three (Arbitration.lean) and never looks
  at an operation again.
-/
import Mathlib.Logic.Relation
import TermuxGamepad.Bridge.Monitor

namespace TermuxGamepad

open Wire

/-- The non-zero rumble a connected client holds. -/
def Client.holds (c : Client) : Option Rumble :=
  if c.fd.isSome && c.toRumble.on then some c.toRumble else none

/-- Events that are no rumble request, no mark of an update and no change of the device. -/
def Out.idle : Out → Bool
  | .request _ (.rumble ..) | .request _ (.stopRumble _) | .rumbleUpdated .. | .added _
  | .removed _ => false
  | _ => true

namespace Bridge

/-! ## 1. Moves -/

/-- The longest time a RUMBLE command can ask for. -/
def maxRemaining : Nat := 0xffffffff

/-- What no move but an update changes, and how the history grows between updates. -/
structure Idles (b b' : Bridge) : Prop where
  log : ∃ l, b'.log = b.log ++ l ∧ ∀ o ∈ l, o.idle = true
  low : b'.activeRumbleLow = b.activeRumbleLow
  high : b'.activeRumbleHigh = b.activeRumbleHigh
  opcode : b'.lorieControllerOpcode = b.lorieControllerOpcode
  deviceId : b'.lorieDeviceId = b.lorieDeviceId
  capabilities : b'.lorieCapabilities = b.lorieCapabilities

/-- Nobody's rumble changes. -/
structure Quietly (b b' : Bridge) : Prop extends Idles b b' where
  now : b'.now = b.now
  holds : ∀ i, (b'.clients i).holds = (b.clients i).holds

/-- Somebody's rumble changes, to one that expires within the longest time from now. -/
structure Edits (b b' : Bridge) : Prop extends Idles b b' where
  now : b.now ≤ b'.now
  holds : ∀ i r, (b'.clients i).holds = some r →
    (b.clients i).holds = some r ∨ r.rumbleExpiresMs ≤ b'.now + maxRemaining

inductive Move : Bridge → Bridge → Prop
  | quiet {b b' : Bridge} (h : Quietly b b') : Move b b'
  | forced {b b' : Bridge} (h : Edits b b') : Move b (b'.updateRumble true)
  | tick {b : Bridge} : Move b (b.updateRumble false)

abbrev Moves : Bridge → Bridge → Prop := Relation.ReflTransGen Move

theorem Moves.inv {P : Bridge → Prop} (hmove : ∀ b b', Move b b' → P b → P b') {b b' : Bridge}
    (h : Moves b b') (hb : P b) : P b' := by
  induction h with
  | refl => exact hb
  | tail _ hm ih => exact hmove _ _ hm ih

/-! ## 2. Quiet operations -/

theorem Idles.refl (b : Bridge) : Idles b b := ⟨Joins.of_log rfl, rfl, rfl, rfl, rfl, rfl⟩

theorem Idles.trans {a b c : Bridge} (h : Idles a b) (h' : Idles b c) : Idles a c :=
  ⟨Joins.trans h.log h'.log, h'.low.trans h.low, h'.high.trans h.high, h'.opcode.trans h.opcode,
    h'.deviceId.trans h.deviceId, h'.capabilities.trans h.capabilities⟩

theorem Quietly.refl (b : Bridge) : Quietly b b := ⟨.refl b, rfl, fun _ => rfl⟩

theorem Quietly.trans {a b c : Bridge} (h : Quietly a b) (h' : Quietly b c) : Quietly a c :=
  ⟨h.toIdles.trans h'.toIdles, h'.now.trans h.now, fun i => (h'.holds i).trans (h.holds i)⟩

theorem emit_idles (b : Bridge) {o : Out} (h : o.idle = true) : Idles b (b.emit o) :=
  ⟨Joins.emit b h, rfl, rfl, rfl, rfl, rfl⟩

theorem emit_quietly (b : Bridge) {o : Out} (h : o.idle = true) : Quietly b (b.emit o) :=
  ⟨emit_idles b h, rfl, fun _ => rfl⟩

theorem emitFor_quietly (b : Bridge) (i : Slot) {e : Conn → Out} (h : ∀ c, (e c).idle = true) :
    Quietly b (b.emitFor i e) := emitFor_rel (.refl b) fun c => emit_quietly b (h c)

/-- Rewriting a record without what it holds. -/
theorem setClient_quietly (b : Bridge) (i : Slot) {c : Client}
    (h : c.holds = (b.clients i).holds) : Quietly b (b.setClient i c) := by
  refine ⟨⟨Joins.of_log rfl, rfl, rfl, rfl, rfl, rfl⟩, rfl, fun j => ?_⟩
  by_cases hj : j = i
  · subst hj
    rw [setClient_self, h]
  · rw [setClient_ne b hj]

theorem free_holds : Client.free.holds = none := rfl

theorem holds_of_off {c : Client} (h : c.toRumble.on = false) : c.holds = none := by
  unfold Client.holds
  rw [h, Bool.and_false]
  rfl

/-- Closing a client that holds no rumble is quiet; closing one that does is a forced move. -/
theorem closeClient_moves (b : Bridge) (i : Slot) : Moves b (b.closeClient i) := by
  have hemit := emitFor_quietly b i (e := .closed) fun _ => rfl
  unfold closeClient
  dsimp only
  split
  · refine .single (.forced ⟨hemit.toIdles.trans ?_, le_of_eq hemit.now.symm, fun j r hr => ?_⟩)
    · exact ⟨Joins.of_log rfl, rfl, rfl, rfl, rfl, rfl⟩
    · left
      by_cases hj : j = i
      · subst hj
        rw [setClient_self, free_holds] at hr
        cases hr
      · rw [setClient_ne _ hj] at hr
        exact (hemit.holds j) ▸ hr
  · rename_i hoff
    have hnone : (b.clients i).holds = none := holds_of_off (Bool.eq_false_iff.mpr hoff)
    refine .single (.quiet (hemit.trans (setClient_quietly _ i ?_)))
    rw [hemit.holds, hnone, free_holds]

theorem withEnv_quietly (b : Bridge) (sends : List SendResult) (ticks : List Nat)
    (stamps : List Timeval) : Quietly b (b.withEnv sends ticks stamps) :=
  ⟨⟨Joins.of_log rfl, rfl, rfl, rfl, rfl, rfl⟩, rfl, fun _ => rfl⟩

theorem ofClient_idle {o : Out} (h : o.ofClient = true) : o.idle = true := by
  cases o <;> first
    | rfl
    | cases h

/-- **Every operation on clients is a sequence of moves.** -/
theorem moves_parts : Parts Moves where
  refl _ := .refl
  trans := .trans
  emit b _ h := .single (.quiet (emit_quietly b (ofClient_idle h)))
  env b sends ticks stamps := .single (.quiet (withEnv_quietly b sends ticks stamps))
  record b i l hfd _ := .single (.quiet (setClient_quietly b i (by
    unfold Client.holds
    rw [hfd])))
  close := closeClient_moves

theorem sameButState_quietly {b b' : Bridge} (h : b.SameButState b') : Quietly b b' := by
  obtain ⟨s, ts, rfl⟩ := h
  exact ⟨⟨Joins.of_log rfl, rfl, rfl, rfl, rfl, rfl⟩, rfl, fun _ => rfl⟩

/-! ## 3. Commands -/

/-- Arming or disarming a client is a forced move. -/
theorem setRumble_moves (b : Bridge) (i : Slot) {b' : Bridge} {r : Rumble} (hidle : Idles b b')
    (hclients : b'.clients = b.clients) (hnow : b.now ≤ b'.now)
    (hr : r.on = true → r.rumbleExpiresMs ≤ b'.now + maxRemaining) :
    Moves b ((b'.setRumble i r).updateRumble true) := by
  refine .single (.forced ⟨hidle.trans ⟨Joins.of_log rfl, rfl, rfl, rfl, rfl, rfl⟩,
    hnow, fun j r' hr' => ?_⟩)
  by_cases hj : j = i
  · subst hj
    right
    unfold setRumble at hr'
    rw [setClient_self] at hr'
    unfold Client.holds at hr'
    split at hr'
    · rename_i hon
      cases hr'
      exact hr (by simpa using (Bool.and_eq_true_iff.mp hon).2)
    · cases hr'
  · left
    unfold setRumble at hr'
    rw [setClient_ne _ hj, hclients] at hr'
    exact hr'

theorem commandDuration_le (m : ControlMessage) : commandDuration m ≤ maxRemaining := by
  have h := m.durationMs.toNat_lt
  unfold commandDuration maxRemaining
  split <;> omega

theorem moves_spans (i : Slot) : Spans Moves i := by
  refine moves_parts.spans i (fun b _ _ => .single (.quiet (setClient_quietly b i rfl)))
    (fun b m r hr => ?_) fun b => ?_
  · refine setRumble_moves b i ⟨Joins.of_log rfl, rfl, rfl, rfl, rfl, rfl⟩ rfl
      (Nat.le_add_right ..) fun _ => ?_
    rw [hr]
    exact Nat.add_le_add_left (commandDuration_le m) _
  · exact setRumble_moves b i (.refl b) rfl (Nat.le_refl _) fun h => by cases h

theorem acceptClient_quietly (b : Bridge) (r : AcceptResult) : Quietly b (b.acceptClient r) := by
  refine acceptClient_rel .refl .trans
    (fun _ _ => ⟨⟨Joins.of_log rfl, rfl, rfl, rfl, rfl, rfl⟩, rfl, fun _ => rfl⟩)
    (fun b i c hfd => setClient_quietly b i ?_)
    (fun b _ => ⟨emit_quietly b rfl, emit_quietly b rfl⟩) b r
  unfold Client.holds
  rw [hfd]
  rfl

/-- **Every action that keeps the device is a sequence of moves.** -/
theorem act_moves (b : Bridge) {a : Action} (ha : ∀ answer, a ≠ .xEvent (.hierarchyChanged answer)) :
    Moves b (b.act a) :=
  moves_parts.act (fun hs => .single (.quiet (sameButState_quietly hs)))
    (fun b r => .single (.quiet (acceptClient_quietly b r)))
    (fun b _ => .single (.quiet (emit_quietly b rfl))) (fun _ => .single .tick) b
    (fun i _ _ => moves_spans i) ha

theorem searched_quietly {b b' : Bridge} (h : b.Searched b') : Quietly b b' := by
  obtain ⟨reqs, rfl, hreqs⟩ := h
  refine ⟨⟨⟨reqs, rfl, fun o ho => ?_⟩, rfl, rfl, rfl, rfl, rfl⟩, rfl, fun _ => rfl⟩
  obtain ⟨t, d, rfl⟩ := hreqs o ho
  rfl

end Bridge

end TermuxGamepad
