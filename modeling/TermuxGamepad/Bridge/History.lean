/-
  File:      TermuxGamepad/Bridge/History.lean
  Subject:   The life of one connection, read off the history.

  What may happen on one connection is a small automaton (`Phase`): it is accepted, messages are
  queued and bytes of them sent in order, at most one fault breaks it, and then it is closed.
  `phase c log` runs it over the history. Whatever the bridge does, a history the automaton does
  not reject says:

  * `phase_accounts` -- what was sent and what is owed is what was queued, in order;
  * `broken_then_closed` -- a fault is followed by the close and by nothing else;
  * `closed_silent` -- after the close nothing happens.
-/
import Mathlib.Data.List.Induction
import TermuxGamepad.Bridge.State

namespace TermuxGamepad

open Wire

/-! ## 1. The life of a connection -/

/-- The connection an event is about. -/
def Out.conn : Out → Option Conn
  | .connected c | .turnedAway c | .queued c _ | .overflow c | .sent c _ | .sendFailed c
  | .recvEnded c | .invalid c | .hungUp c | .closed c => some c
  | .request .. | .rumbleUpdated .. | .added _ | .removed _ => none

inductive Phase where
  | fresh
  | «open» (sent owed : List UInt8)
  | broken
  | closed
  | bad
  deriving DecidableEq, Repr

/-- An event about the connection. -/
def Phase.next : Phase → Out → Phase
  | .fresh, .connected _ => .open [] []
  | .fresh, .turnedAway _ => .closed
  | .open sent owed, .queued _ m => .open sent (owed ++ m.bytes)
  | .open sent owed, .sent _ bs =>
    if bs.isPrefixOf owed then .open (sent ++ bs) (owed.drop bs.length) else .bad
  | .open .., .overflow _ | .open .., .sendFailed _ | .open .., .recvEnded _
  | .open .., .invalid _ | .open .., .hungUp _ => .broken
  | .broken, .closed _ => .closed
  | _, _ => .bad

/-- One event of the history, as connection `c` sees it. -/
def Phase.see (c : Conn) (p : Phase) (o : Out) : Phase := if o.conn = some c then p.next o else p

def phase (c : Conn) (log : List Out) : Phase := log.foldl (Phase.see c) .fresh

/-- The bytes `send` accepted on a connection. -/
def sentOn (c : Conn) (log : List Out) : List UInt8 :=
  log.flatMap fun
    | .sent c' bs => if c' = c then bs else []
    | _ => []

/-- The messages queued on a connection. -/
def queuedOn (c : Conn) (log : List Out) : List Message :=
  log.flatMap fun
    | .queued c' m => if c' = c then [m] else []
    | _ => []

@[simp] theorem phase_nil (c : Conn) : phase c [] = .fresh := rfl

theorem phase_append (c : Conn) (l l' : List Out) :
    phase c (l ++ l') = l'.foldl (Phase.see c) (phase c l) := List.foldl_append

@[simp] theorem phase_concat (c : Conn) (l : List Out) (o : Out) :
    phase c (l ++ [o]) = (phase c l).see c o := by rw [phase_append]; rfl

@[simp] theorem sentOn_append (c : Conn) (l l' : List Out) :
    sentOn c (l ++ l') = sentOn c l ++ sentOn c l' := List.flatMap_append

@[simp] theorem queuedOn_append (c : Conn) (l l' : List Out) :
    queuedOn c (l ++ l') = queuedOn c l ++ queuedOn c l' := List.flatMap_append

theorem Phase.see_of_ne {c : Conn} {o : Out} (h : o.conn ≠ some c) (p : Phase) : p.see c o = p :=
  if_neg h

theorem Phase.see_of_eq {c : Conn} {o : Out} (h : o.conn = some c) (p : Phase) :
    p.see c o = p.next o := if_pos h

/-! ## 2. What the automaton says about a history -/

/-- Events of other connections do not move a phase. -/
theorem phase_of_silent {c : Conn} {l : List Out} (h : ∀ o ∈ l, o.conn ≠ some c) {p : Phase} :
    l.foldl (Phase.see c) p = p := by
  induction l with
  | nil => rfl
  | cons o l ih =>
    rw [List.foldl_cons, Phase.see_of_ne (h o List.mem_cons_self)]
    exact ih fun o' ho' => h o' (List.mem_cons_of_mem _ ho')

theorem phase_silent {c : Conn} (log : List Out) {l : List Out} (h : ∀ o ∈ l, o.conn ≠ some c) :
    phase c (log ++ l) = phase c log := by
  rw [phase_append, phase_of_silent h]

theorem Phase.see_bad (c : Conn) (l : List Out) : l.foldl (Phase.see c) .bad = .bad := by
  induction l with
  | nil => rfl
  | cons o l ih =>
    have h : Phase.see c .bad o = .bad := by
      unfold Phase.see
      split <;> rfl
    rw [List.foldl_cons, h, ih]

/-- A history that is not bad has no bad beginning. -/
theorem phase_prefix_ne_bad {c : Conn} {l l' : List Out} (h : phase c (l ++ l') ≠ .bad) :
    phase c l ≠ .bad := fun hb => h (by rw [phase_append, hb, Phase.see_bad])

/-- Once closed, nothing more happens on a connection. -/
theorem closed_silent {c : Conn} {l : List Out} (h : l.foldl (Phase.see c) .closed ≠ .bad) :
    ∀ o ∈ l, o.conn ≠ some c := by
  induction l with
  | nil => exact fun _ ho => absurd ho List.not_mem_nil
  | cons o l ih =>
    rw [List.foldl_cons] at h
    by_cases ho : o.conn = some c
    · refine absurd ?_ h
      have hn : Phase.see c .closed o = .bad := by
        rw [Phase.see_of_eq ho]
        cases o <;> rfl
      rw [hn, Phase.see_bad]
    · rw [Phase.see_of_ne ho] at h
      exact List.forall_mem_cons.mpr ⟨ho, ih h⟩

/-- After a fault the only event is the close. -/
theorem broken_then_closed {c : Conn} {l : List Out} (h : l.foldl (Phase.see c) .broken ≠ .bad)
    (h' : l.foldl (Phase.see c) .broken ≠ .broken) :
    .closed c ∈ l ∧ (∀ o ∈ l, o.conn = some c → o = .closed c) ∧
      l.foldl (Phase.see c) .broken = .closed := by
  induction l with
  | nil => exact absurd rfl h'
  | cons o l ih =>
    rw [List.foldl_cons] at h h'
    by_cases ho : o.conn = some c
    · rw [Phase.see_of_eq ho] at h h'
      cases o with
      | closed c' =>
        have hc : c' = c := by simpa [Out.conn] using ho
        subst hc
        refine ⟨List.mem_cons_self, fun o' ho' hoc => ?_, ?_⟩
        · rcases List.mem_cons.mp ho' with rfl | ho'
          · rfl
          · exact absurd hoc (closed_silent h o' ho')
        · rw [List.foldl_cons, Phase.see_of_eq ho]
          exact phase_of_silent (closed_silent h)
      | connected _ | turnedAway _ | queued _ _ | overflow _ | sent _ _ | sendFailed _
      | recvEnded _ | invalid _ | hungUp _ | request _ _ | rumbleUpdated _ _ | added _ | removed _ =>
        exact absurd (Phase.see_bad c l) h
    · rw [Phase.see_of_ne ho] at h h'
      obtain ⟨h1, h2, h3⟩ := ih h h'
      refine ⟨List.mem_cons_of_mem _ h1, fun o' ho' hoc => ?_, ?_⟩
      · rcases List.mem_cons.mp ho' with rfl | ho'
        · exact absurd hoc ho
        · exact h2 o' ho' hoc
      · rw [List.foldl_cons, Phase.see_of_ne ho, h3]

theorem sentOn_silent {c : Conn} {l : List Out} (h : ∀ o ∈ l, ∀ bs, o ≠ .sent c bs) :
    sentOn c l = [] := by
  refine List.flatMap_eq_nil_iff.mpr fun o ho => ?_
  cases o with
  | sent c' bs =>
    by_cases hc : c' = c
    · exact absurd (hc ▸ rfl) (h _ ho bs)
    · exact if_neg hc
  | _ => rfl

/-- What the bytes and messages of a history are, by the phase it ends in. -/
def Phase.Accounts (sent : List UInt8) (queued : List Message) : Phase → Prop
  | .fresh => sent = [] ∧ queued = []
  | .open done owed => sent = done ∧ sent ++ owed = queued.flatMap Message.bytes
  | .broken | .closed => sent <+: queued.flatMap Message.bytes
  | .bad => True

theorem sentOn_of_conn_ne {c : Conn} {o : Out} (h : o.conn ≠ some c) : sentOn c [o] = [] := by
  cases o with
  | sent c' bs =>
    have hc : c' ≠ c := fun e => h (e ▸ rfl)
    simp [sentOn, hc]
  | _ => rfl

theorem queuedOn_of_conn_ne {c : Conn} {o : Out} (h : o.conn ≠ some c) : queuedOn c [o] = [] := by
  cases o with
  | queued c' m =>
    have hc : c' ≠ c := fun e => h (e ▸ rfl)
    simp [queuedOn, hc]
  | _ => rfl

/-- One event of the connection keeps the account. -/
theorem Phase.Accounts.next {sent : List UInt8} {queued : List Message} {p : Phase} {c : Conn}
    {o : Out} (ho : o.conn = some c) (h : p.Accounts sent queued) :
    (p.next o).Accounts (sent ++ sentOn c [o]) (queued ++ queuedOn c [o]) := by
  cases o with
  | queued c' m =>
    have hc : c' = c := by simpa [Out.conn] using ho
    cases p with
    | «open» done owed =>
      obtain ⟨rfl, h'⟩ := h
      simp [Phase.next, Phase.Accounts, sentOn, queuedOn, hc, ← h']
    | _ => trivial
  | sent c' bs =>
    have hc : c' = c := by simpa [Out.conn] using ho
    cases p with
    | «open» done owed =>
      obtain ⟨rfl, h'⟩ := h
      simp only [Phase.next]
      split
      · rename_i hpre
        obtain ⟨t, rfl⟩ := List.isPrefixOf_iff_prefix.mp hpre
        simp [Phase.Accounts, sentOn, queuedOn, hc, ← h']
      · trivial
    | _ => trivial
  | connected _ | turnedAway _ | overflow _ | sendFailed _ | recvEnded _ | invalid _ | hungUp _
  | closed _ =>
    cases p with
    | fresh =>
      first
        | trivial
        | (obtain ⟨rfl, rfl⟩ := h; simp [Phase.next, Phase.Accounts, sentOn, queuedOn])
    | «open» done owed =>
      obtain ⟨rfl, h'⟩ := h
      simp [Phase.next, Phase.Accounts, sentOn, queuedOn, ← h']
    | broken =>
      first
        | trivial
        | simpa [Phase.next, Phase.Accounts, sentOn, queuedOn] using h
    | _ => trivial
  | request _ _ | rumbleUpdated _ _ | added _ | removed _ => cases ho

/-- **The account of every history**: an open connection owes what was queued and not sent; on
    any other, what was sent is a beginning of what was queued. -/
theorem phase_accounts (c : Conn) (log : List Out) :
    (phase c log).Accounts (sentOn c log) (queuedOn c log) := by
  induction log using List.reverseRecOn with
  | nil => exact ⟨rfl, rfl⟩
  | append_singleton l o ih =>
    rw [phase_concat, sentOn_append, queuedOn_append]
    by_cases ho : o.conn = some c
    · rw [Phase.see_of_eq ho]
      exact ih.next ho
    · rw [Phase.see_of_ne ho, sentOn_of_conn_ne ho, queuedOn_of_conn_ne ho, List.append_nil,
        List.append_nil]
      exact ih

/-- In every phase but the bad one, what was sent is a beginning of what was queued. -/
theorem Phase.Accounts.isPrefix {sent : List UInt8} {queued : List Message} {p : Phase}
    (h : p.Accounts sent queued) (hp : p ≠ .bad) : sent <+: queued.flatMap Message.bytes := by
  cases p with
  | fresh =>
    rw [h.1]
    exact List.nil_prefix
  | «open» done owed => exact ⟨owed, h.2⟩
  | broken | closed => exact h
  | bad => exact absurd rfl hp

/-- The faults that break a connection. -/
def Out.breaks : Out → Bool
  | .overflow _ | .sendFailed _ | .recvEnded _ | .invalid _ | .hungUp _ => true
  | _ => false

theorem Phase.next_breaks {o : Out} (h : o.breaks = true) (p : Phase) :
    p.next o = .broken ∨ p.next o = .bad := by
  cases o with
  | overflow _ | sendFailed _ | recvEnded _ | invalid _ | hungUp _ =>
    cases p with
    | «open» _ _ => exact Or.inl rfl
    | _ => exact Or.inr rfl
  | _ => cases h

/-- **A fault in a history that ends neither bad nor broken** is followed by the close of the
    connection, and by no other event of it. -/
theorem fault_then_closed {c : Conn} {pre post : List Out} {o : Out} (hb : o.breaks = true)
    (hc : o.conn = some c) (hbad : phase c (pre ++ o :: post) ≠ .bad)
    (hbroken : phase c (pre ++ o :: post) ≠ .broken) :
    .closed c ∈ post ∧ (∀ e ∈ post, e.conn = some c → e = .closed c) ∧
      phase c (pre ++ o :: post) = .closed := by
  rw [phase_append, List.foldl_cons, Phase.see_of_eq hc] at hbad hbroken ⊢
  rcases Phase.next_breaks hb (phase c pre) with h | h
  · rw [h] at hbad hbroken ⊢
    exact broken_then_closed hbad hbroken
  · rw [h] at hbad
    exact absurd (Phase.see_bad c post) hbad

/-- A connection breaks once. -/
theorem breaks_once {c : Conn} {log : List Out} (hbad : phase c log ≠ .bad)
    (hbroken : phase c log ≠ .broken) {o o' : Out} (ho : o ∈ log) (ho' : o' ∈ log)
    (hb : o.breaks = true) (hb' : o'.breaks = true) (hc : o.conn = some c) (hc' : o'.conn = some c) :
    o = o' := by
  obtain ⟨pre, post, rfl⟩ := List.append_of_mem ho
  have hclosed : ∀ {e : Out}, e = .closed c → e.breaks ≠ true := fun h => h ▸ Bool.noConfusion
  have h1 := (fault_then_closed hb hc hbad hbroken).2.1
  rcases List.mem_append.mp ho' with hpre | hpost
  · obtain ⟨pre', post', rfl⟩ := List.append_of_mem hpre
    rw [List.append_assoc, List.cons_append] at hbad hbroken
    have h2 := (fault_then_closed hb' hc' hbad hbroken).2.1
    exact absurd hb (hclosed (h2 o (by simp) hc))
  · rcases List.mem_cons.mp hpost with rfl | hpost
    · rfl
    · exact absurd hb' (hclosed (h1 o' hpost hc'))

theorem Phase.breaks_of_next {p : Phase} {o : Out} (h : p.next o = .broken) : o.breaks = true := by
  cases o with
  | overflow _ | sendFailed _ | recvEnded _ | invalid _ | hungUp _ => rfl
  | sent _ _ =>
    cases p with
    | «open» _ _ =>
      simp only [Phase.next] at h
      split at h <;> cases h
    | _ => cases h
  | _ => cases p <;> cases h

/-- What breaks a connection is one of its faults. -/
theorem breaks_of_broken {c : Conn} {l : List Out} {p : Phase} (hp : p ≠ .broken)
    (h : l.foldl (Phase.see c) p = .broken) : ∃ o ∈ l, o.conn = some c ∧ o.breaks = true := by
  induction l generalizing p with
  | nil => exact absurd h hp
  | cons o l ih =>
    rw [List.foldl_cons] at h
    by_cases hn : p.see c o = .broken
    · by_cases ho : o.conn = some c
      · rw [Phase.see_of_eq ho] at hn
        exact ⟨o, List.mem_cons_self, ho, Phase.breaks_of_next hn⟩
      · rw [Phase.see_of_ne ho] at hn
        exact absurd hn hp
    · obtain ⟨o', ho', h1, h2⟩ := ih hn h
      exact ⟨o', List.mem_cons_of_mem _ ho', h1, h2⟩

/-- Only a broken connection is closed. -/
theorem broken_of_closed {c : Conn} {pre post : List Out}
    (h : phase c (pre ++ .closed c :: post) ≠ .bad) : phase c pre = .broken := by
  rw [phase_append, List.foldl_cons, Phase.see_of_eq rfl] at h
  cases hp : phase c pre with
  | broken => rfl
  | _ =>
    rw [hp] at h
    exact absurd (Phase.see_bad c post) h

theorem Phase.next_ne_fresh (p : Phase) (o : Out) : p.next o ≠ .fresh := by
  cases p <;> cases o <;> simp [Phase.next]
  split <;> simp

/-- Nothing happened yet on a fresh connection. -/
theorem fresh_silent {c : Conn} {l : List Out} (h : phase c l = .fresh) :
    ∀ o ∈ l, o.conn ≠ some c := by
  induction l using List.reverseRecOn with
  | nil => exact fun _ ho => absurd ho List.not_mem_nil
  | append_singleton l o ih =>
    rw [phase_concat] at h
    by_cases ho : o.conn = some c
    · rw [Phase.see_of_eq ho] at h
      exact absurd h (Phase.next_ne_fresh _ _)
    · rw [Phase.see_of_ne ho] at h
      intro o' ho'
      rcases List.mem_append.mp ho' with ho' | ho'
      · exact ih h o' ho'
      · rw [List.mem_singleton.mp ho']
        exact ho

/-- Only a connection nothing happened on is turned away. -/
theorem fresh_of_turnedAway {c : Conn} {pre post : List Out}
    (h : phase c (pre ++ .turnedAway c :: post) ≠ .bad) : phase c pre = .fresh := by
  rw [phase_append, List.foldl_cons, Phase.see_of_eq rfl] at h
  cases hp : phase c pre with
  | fresh => rfl
  | _ =>
    rw [hp] at h
    exact absurd (Phase.see_bad c post) h

/-- A connection turned away has no other event. -/
theorem turnedAway_alone {c : Conn} {log : List Out} (hbad : phase c log ≠ .bad)
    (h : .turnedAway c ∈ log) :
    phase c log = .closed ∧ ∀ o ∈ log, o.conn = some c → o = .turnedAway c := by
  obtain ⟨pre, post, rfl⟩ := List.append_of_mem h
  have hfresh := fresh_of_turnedAway hbad
  rw [phase_append, List.foldl_cons, Phase.see_of_eq rfl, hfresh] at hbad ⊢
  have hpost := closed_silent hbad
  refine ⟨phase_of_silent hpost, fun o ho hoc => ?_⟩
  rcases List.mem_append.mp ho with ho | ho
  · exact absurd hoc (fresh_silent hfresh o ho)
  · rcases List.mem_cons.mp ho with rfl | ho
    · rfl
    · exact absurd hoc (hpost o ho)

end TermuxGamepad
