/-
  File:      TermuxGamepad/Bridge/Process.lean
  Subject:   The bridge process: start-up, main loop and end (lorie_evdev_bridge.c, lines 740-895).

  `main` runs the whole process on what its calls return: the answers of the X server and of the
  socket calls at start-up, then what `poll` reports until a signal ends the loop. Its `effects`
  are what other processes see of it, with what it opened and closed. An X call may end the process
  instead of returning; wherever `main` returns, it gives back what it took (`main_returns_clean`).
-/
import Mathlib.Data.List.Count
import Mathlib.Data.List.Induction
import TermuxGamepad.Bridge.Rounds

namespace TermuxGamepad

open Wire

/-! ## 1. Start-up -/

/-- DEFAULT_SOCKET. -/
def serverDefaultSocket : List UInt8 :=
  ascii "/data/data/com.termux/files/usr/tmp/termux-gamepad-evdev.sock"

/-- `sizeof(address.sun_path)`. -/
def serverPathSize : Nat := 108

/-- What the calls before the main loop return, in their order. -/
structure Startup where
  /-- `argv[1]`. -/
  argument : Option (List UInt8)
  /-- XOpenDisplay. -/
  display : Bool
  /-- XQueryExtension for XInputExtension. -/
  xinput : Bool
  /-- The major version XIQueryVersion leaves, `none` for BadRequest. -/
  xiMajor : Option Int
  /-- XQueryExtension for LORIE-CONTROLLER: the opcode of the extension, `none` where it is
      missing. -/
  controller : Option UInt8
  /-- The major version of the reply to QueryVersion, `none` where `_XReply` fails. -/
  version : Option UInt16
  /-- XISelectEvents for the hierarchy. -/
  hierarchy : Bool
  device : DeviceAnswer
  socket : Int
  nonblocking : Bool
  bind : Int
  listen : Int

/-- LORIE_CONTROLLER_MAJOR_VERSION. -/
def lorieControllerMajorVersion : UInt16 := 1

/-- What the process does, as far as it can be seen or has to be undone. -/
inductive SystemEffect where
  | openDisplay
  | closeDisplay
  | setErrorHandler
  | selectHierarchy
  | socket (fd : Int)
  | close (fd : Int)
  | bind (path : List UInt8)
  | unlink (path : List UInt8)
  | out (o : Out)
  deriving DecidableEq

namespace Startup

def socketPath (s : Startup) : List UInt8 := s.argument.getD serverDefaultSocket

/-- `query_lorie_version`. -/
def versionAccepted (s : Startup) : Bool := s.version == some lorieControllerMajorVersion

/-- `lorie_controller_opcode` after the negotiation. XQueryExtension stores 0 where the extension is
    missing; -1 is stored where the version is refused. -/
def negotiated (s : Startup) : Int :=
  match s.controller with
  | none => 0
  | some opcode => if s.versionAccepted then opcode.toNat else -1

/-- The test for XInput2. -/
def xinput2 (s : Startup) : Bool := s.xinput && s.xiMajor.any (2 ≤ ·)

/-- `create_server`: the descriptor, `none` for -1, and what was done on the way. -/
def createServer (s : Startup) : Option Int × List SystemEffect :=
  if s.socketPath.length ≥ serverPathSize then (none, [])
  else if s.socket < 0 then (none, [])
  else if !s.nonblocking then (none, [.socket s.socket, .close s.socket])
  else if s.bind < 0 then
    (none, [.socket s.socket, .unlink s.socketPath, .close s.socket])
  else if s.listen < 0 then
    (none, [.socket s.socket, .unlink s.socketPath, .bind s.socketPath, .close s.socket])
  else (some s.socket, [.socket s.socket, .unlink s.socketPath, .bind s.socketPath])

/-- What is done before the device is looked at. -/
def opening (s : Startup) : List SystemEffect :=
  [.openDisplay] ++ (if s.controller.isSome then [.out (.request 0 .queryVersion)] else []) ++
    [.setErrorHandler]

end Startup

/-! ## 2. The process -/

/-- What one `poll` of the main loop returns: EINTR, another error, or the results of a round. -/
inductive Poll where
  | interrupted
  | failed
  | ready (r : Bridge.Round)

/-- `while (running)`: the loop ends with the list, when a signal has cleared `running`, or with
    a failed `poll`. -/
def mainLoop : Bridge → List Poll → Bridge
  | b, [] => b
  | b, .interrupted :: polls => mainLoop b polls
  | b, .failed :: _ => b
  | b, .ready r :: polls => mainLoop (b.iteration r) polls

structure Exit where
  code : Nat
  effects : List SystemEffect

/-- `main`, where every X call returns. -/
def mainReturns (s : Startup) (polls : List Poll) (ticks : List Nat) : Exit :=
  if !s.display then ⟨1, []⟩
  else if !s.xinput2 then ⟨1, [.openDisplay, .closeDisplay]⟩
  else if !s.hierarchy then ⟨1, s.opening ++ [.closeDisplay]⟩
  else
    let b := Bridge.boot s.negotiated s.device
    let server := s.createServer
    let started := s.opening ++ [.selectHierarchy] ++ b.log.map .out ++ server.2
    match server.1 with
    | none => ⟨1, started ++ [.closeDisplay]⟩
    | some fd =>
      let served := (mainLoop b polls).shutdown ticks
      ⟨0, started ++ (served.log.drop b.log.length).map .out ++
        [.close fd, .unlink s.socketPath, .closeDisplay]⟩

/-- How the process ends. -/
inductive Ending where
  /-- `main` returns. -/
  | returned (x : Exit)
  /-- `exit(1)` inside an X call: in Xlib's handler of an I/O error, or in its default error handler,
      to which `handle_x_error` passes every error that is not of the extension. -/
  | exited (effects : List SystemEffect)

/-- The process: `exits` counts what it has done when an X call ends it, if one does. -/
def bridgeMain (s : Startup) (polls : List Poll) (ticks : List Nat) (exits : Option Nat) : Ending :=
  match exits with
  | none => .returned (mainReturns s polls ticks)
  | some n => .exited ((mainReturns s polls ticks).effects.take n)

/-! ## 3. Every connection is closed once -/

/-- How often a connection was given up by then, by a close or at once. -/
def Phase.ended : Phase → Nat
  | .closed => 1
  | _ => 0

/-- How often it was taken. -/
def Phase.begun : Phase → Nat
  | .fresh => 0
  | _ => 1

/-- **What the life of a connection says about its history.** -/
theorem phase_counts {c : Conn} (log : List Out) (h : phase c log ≠ .bad) :
    log.count (.closed c) + log.count (.turnedAway c) = (phase c log).ended ∧
      log.count (.connected c) + log.count (.turnedAway c) = (phase c log).begun := by
  induction log using List.reverseRecOn with
  | nil => exact ⟨rfl, rfl⟩
  | append_singleton log o ih =>
    have hbefore : phase c log ≠ .bad := phase_prefix_ne_bad h
    obtain ⟨hend, hbegin⟩ := ih hbefore
    rw [phase_concat] at h ⊢
    simp only [List.count_append, List.count_singleton]
    by_cases hc : o.conn = some c
    · rw [Phase.see_of_eq hc] at h ⊢
      generalize phase c log = p at h hend hbegin hbefore
      cases o with
      | connected c' | turnedAway c' | queued c' _ | overflow c' | sent c' _ | sendFailed c'
      | recvEnded c' | invalid c' | hungUp c' | closed c' =>
        obtain rfl : c' = c := Option.some.inj hc
        cases p <;> simp_all [Phase.next, Phase.ended, Phase.begun]
      | request _ _ | rumbleUpdated _ _ | added _ | removed _ => cases hc
    · rw [Phase.see_of_ne hc]
      have hno : ∀ e : Out, e.conn = some c → (o == e) = false := fun e he => by
        refine beq_false_of_ne ?_
        rintro rfl
        exact hc he
      rw [hno (.closed c) rfl, hno (.turnedAway c) rfl, hno (.connected c) rfl]
      exact ⟨hend, hbegin⟩

namespace Bridge

variable {b b' : Bridge} {i : Slot} {c : Conn}

/-- What was accepted has been closed, but for the connections in the table. -/
structure Ledger (b : Bridge) : Prop where
  inTable : ∀ i c, (b.clients i).fd = some c →
    b.log.count (.connected c) = b.log.count (.closed c) + 1
  out : ∀ c, (∀ i, (b.clients i).fd ≠ some c) →
    b.log.count (.connected c) = b.log.count (.closed c)
  distinct : ∀ i j c, (b.clients i).fd = some c → (b.clients j).fd = some c → i = j

theorem Tracks.ledger (h : Tracked b) : Ledger b where
  inTable i c hc := by
    have hphase := h.isOpen i c hc
    rw [if_neg (by exact nofun)] at hphase
    obtain ⟨hend, hbegin⟩ := phase_counts (c := c) b.log (by rw [hphase]; exact nofun)
    rw [hphase] at hend hbegin
    simp only [Phase.ended, Phase.begun] at hend hbegin
    omega
  out c hc := by
    by_cases hseen : c ∈ b.seen
    · have hphase := h.gone c hseen hc
      obtain ⟨hend, hbegin⟩ := phase_counts (c := c) b.log (by rw [hphase]; exact nofun)
      rw [hphase] at hend hbegin
      simp only [Phase.ended, Phase.begun] at hend hbegin
      omega
    · have hphase := h.fresh c hseen
      obtain ⟨hend, hbegin⟩ := phase_counts (c := c) b.log (by rw [hphase]; exact nofun)
      rw [hphase] at hend hbegin
      simp only [Phase.ended, Phase.begun] at hend hbegin
      omega
  distinct := h.distinct

/-- The history grew by events that concern no connection. -/
def Aside (b b' : Bridge) : Prop := ∃ l, b'.log = b.log ++ l ∧ ∀ o ∈ l, o.conn = none

theorem aside_blind : Blind Aside := joins_blind (fun _ _ => rfl) fun _ _ => rfl

/-- Events that concern no connection are not counted. -/
theorem Aside.count (h : b.Aside b') {o : Out} (ho : o.conn = some c) :
    b'.log.count o = b.log.count o := by
  obtain ⟨l, hl, hno⟩ := h
  have hnot : o ∉ l := fun hmem => by
    rw [hno o hmem] at ho
    cases ho
  rw [hl, List.count_append, List.count_eq_zero_of_not_mem hnot, Nat.add_zero]

theorem Ledger.aside (h : Ledger b) (ha : b.Aside b')
    (hfd : ∀ i, (b'.clients i).fd = (b.clients i).fd) : Ledger b' where
  inTable i c hc := by
    rw [ha.count (o := .connected c) rfl, ha.count (o := .closed c) rfl]
    exact h.inTable i c (by rw [← hfd i]; exact hc)
  out c hc := by
    rw [ha.count (o := .connected c) rfl, ha.count (o := .closed c) rfl]
    exact h.out c fun i => by
      rw [← hfd i]
      exact hc i
  distinct i j c hi hj := h.distinct i j c (by rw [← hfd i]; exact hi) (by rw [← hfd j]; exact hj)

/-- **A close settles** the account of its connection. -/
theorem closeClient_ledger (h : Ledger b) (i : Slot) : Ledger (b.closeClient i) := by
  have hmarked : Ledger ((b.emitFor i .closed).setClient i Client.free) := by
    have hself : (((b.emitFor i .closed).setClient i Client.free).clients i).fd = none := by
      rw [setClient_self]
      rfl
    have hother : ∀ j, j ≠ i →
        (((b.emitFor i .closed).setClient i Client.free).clients j).fd = (b.clients j).fd := by
      intro j hj
      rw [setClient_ne _ hj, emitFor_clients]
    have hback : ∀ j c, (((b.emitFor i .closed).setClient i Client.free).clients j).fd = some c →
        j ≠ i ∧ (b.clients j).fd = some c := by
      intro j c hj
      have hne : j ≠ i := by
        rintro rfl
        rw [hself] at hj
        cases hj
      exact ⟨hne, by rw [← hother j hne]; exact hj⟩
    cases hfd : (b.clients i).fd with
    | none =>
      have hlog : ((b.emitFor i .closed).setClient i Client.free).log = b.log := by
        rw [setClient_log, emitFor_none hfd]
      refine ⟨fun j c hj => ?_, fun c hc => ?_, fun j k c hj hk => ?_⟩
      · rw [hlog]
        exact h.inTable j c (hback j c hj).2
      · rw [hlog]
        refine h.out c fun j hj => ?_
        have hne : j ≠ i := by
          rintro rfl
          rw [hfd] at hj
          cases hj
        exact hc j ((hother j hne).trans hj)
      · exact h.distinct j k c (hback j c hj).2 (hback k c hk).2
    | some c₀ =>
      have hlog : ((b.emitFor i .closed).setClient i Client.free).log = b.log ++ [.closed c₀] := by
        rw [setClient_log, emitFor_some hfd, emit_log]
      have hconnected : ∀ c, (b.log ++ [Out.closed c₀]).count (.connected c) =
          b.log.count (.connected c) := by
        intro c
        have hne : Out.closed c₀ ≠ .connected c := fun he => by cases he
        rw [List.count_append, List.count_singleton, beq_false_of_ne hne]
        rfl
      have hclosed : ∀ c, c ≠ c₀ →
          (b.log ++ [Out.closed c₀]).count (.closed c) = b.log.count (.closed c) := by
        intro c hc
        have hne : Out.closed c₀ ≠ .closed c := fun he => hc (Out.closed.inj he).symm
        rw [List.count_append, List.count_singleton, beq_false_of_ne hne]
        rfl
      refine ⟨fun j c hj => ?_, fun c hc => ?_, fun j k c hj hk => ?_⟩
      · obtain ⟨hne, hold⟩ := hback j c hj
        have hcc : c ≠ c₀ := by
          rintro rfl
          exact hne (h.distinct j i c hold hfd)
        rw [hlog, hconnected, hclosed c hcc]
        exact h.inTable j c hold
      · rw [hlog, hconnected]
        by_cases hcc : c = c₀
        · subst hcc
          rw [List.count_append, List.count_singleton, beq_self_eq_true]
          exact h.inTable i c hfd
        · rw [hclosed c hcc]
          refine h.out c fun j hj => ?_
          have hne : j ≠ i := by
            rintro rfl
            rw [hfd] at hj
            exact hcc (Option.some.inj hj).symm
          exact hc j ((hother j hne).trans hj)
      · exact h.distinct j k c (hback j c hj).2 (hback k c hk).2
  unfold closeClient
  dsimp only
  split
  · exact hmarked.aside (aside_blind.updateRumble _ _) fun j => congrArg Link.fd (updateRumble_toLink _ _ j)
  · exact hmarked

/-- **After the shutdown** the table is empty, and every connection that was accepted has been
    closed, once for each time. -/
theorem shutdown_closes (h : Tracked b) (ticks : List Nat) (c : Conn) :
    (b.shutdown ticks).log.count (.connected c) = (b.shutdown ticks).log.count (.closed c) := by
  have hstart : Ledger ({ b with ticks := ticks }.sendLorieRumble 0 0 0) :=
    (h.ledger).aside (aside_blind.send { b with ticks := ticks } 0 0 0 (by simp)) fun i =>
      congrArg (fun t => (t i).fd) (sendLorieRumble_clients { b with ticks := ticks } 0 0 0)
  have hend : Ledger (b.shutdown ticks) := sweep_inv (P := Ledger) (fun _ i h => closeClient_ledger h i) hstart
  have hempty : ∀ i, ((b.shutdown ticks).clients i).fd = none := by
    intro i
    unfold shutdown
    exact sweep_each (v := fun (b : Bridge) i => (b.clients i).fd) (R := fun _ _ fd => fd = none)
      (I := fun _ => True) (f := fun b i => b.closeClient i) (fun _ _ _ => trivial)
      (fun b i j _ hj => congrArg Link.fd (closeClient_toLink_ne b hj))
      (fun b i _ => congrArg Link.fd (closeClient_toLink_self b i)) trivial i
  exact hend.out c fun i hi => by
    rw [hempty i] at hi
    cases hi

theorem shutdown_log (b : Bridge) (ticks : List Nat) :
    ∃ l, (b.shutdown ticks).log = b.log ++ l := by
  obtain ⟨l, hl, -⟩ := calm_blind.shutdown emitClient_calm b ticks
  exact ⟨l, hl⟩

theorem iteration_extends (b : Bridge) (r : Round) : ∃ l, (b.iteration r).log = b.log ++ l := by
  have hacts : ∀ (as : List Action) (b : Bridge), ∃ l, (as.foldl act b).log = b.log ++ l := by
    intro as
    induction as with
    | nil => exact fun b => ⟨[], (List.append_nil _).symm⟩
    | cons a as ih =>
      intro b
      obtain ⟨l, hl⟩ := act_log b a
      obtain ⟨l', hl'⟩ := ih (b.act a)
      exact ⟨l ++ l', by rw [List.foldl_cons, hl', hl, List.append_assoc]⟩
  obtain ⟨as, has⟩ := iteration_acts b r
  obtain ⟨l, hl⟩ := hacts (as ++ [.tick]) (b.withEnv r.sends r.ticks r.stamps)
  exact ⟨l, by rw [has, hl]; rfl⟩

end Bridge

/-! ## 4. The whole process -/

theorem mainLoop_sound {b : Bridge} (h : Bridge.Sound b) (polls : List Poll) :
    Bridge.Sound (mainLoop b polls) := by
  induction polls generalizing b with
  | nil => exact h
  | cons p polls ih =>
    cases p with
    | interrupted => exact ih h
    | failed => exact h
    | ready r => exact ih (Bridge.iteration_sound h r)

theorem mainLoop_log (b : Bridge) (polls : List Poll) : ∃ l, (mainLoop b polls).log = b.log ++ l := by
  induction polls generalizing b with
  | nil => exact ⟨[], (List.append_nil _).symm⟩
  | cons p polls ih =>
    cases p with
    | interrupted => exact ih b
    | failed => exact ⟨[], (List.append_nil _).symm⟩
    | ready r =>
      obtain ⟨l, hl⟩ := Bridge.iteration_extends b r
      obtain ⟨l', hl'⟩ := ih (b.iteration r)
      refine ⟨l ++ l', ?_⟩
      show (mainLoop (b.iteration r) polls).log = b.log ++ (l ++ l')
      rw [hl', hl, List.append_assoc]

/-- Whether the name is bound after this. -/
def SystemEffect.binds (path : List UInt8) (held : Bool) : SystemEffect → Bool
  | .bind p => p == path || held
  | .unlink p => p != path && held
  | _ => held

/-- What a process owes: the display is closed as often as it was opened and after everything else,
    every socket and every connection as often as it was got. -/
structure Exit.Clean (x : Exit) : Prop where
  display : x.effects.count .closeDisplay = x.effects.count .openDisplay
  last : SystemEffect.openDisplay ∈ x.effects → x.effects.getLast? = some .closeDisplay
  sockets : ∀ fd, x.effects.count (.close fd) = x.effects.count (.socket fd)
  connections : ∀ c, x.effects.count (.out (.closed c)) = x.effects.count (.out (.connected c))

namespace Startup

/-- All of the start-up succeeds, up to `listen`. -/
structure Binds (s : Startup) : Prop where
  display : s.display = true
  xinput2 : s.xinput2 = true
  hierarchy : s.hierarchy = true
  path : s.socketPath.length < serverPathSize
  socket : 0 ≤ s.socket
  nonblocking : s.nonblocking = true
  bind : 0 ≤ s.bind

end Startup

theorem count_out {e : SystemEffect} (h : ∀ o, e ≠ .out o) (log : List Out) :
    (log.map SystemEffect.out).count e = 0 := by
  refine List.count_eq_zero_of_not_mem fun hmem => ?_
  obtain ⟨o, -, rfl⟩ := List.mem_map.mp hmem
  exact h o rfl

theorem count_out_self (o : Out) (log : List Out) :
    (log.map SystemEffect.out).count (.out o) = log.count o :=
  List.count_map_of_injective log SystemEffect.out (fun _ _ h => SystemEffect.out.inj h) o

theorem binds_out (path : List UInt8) (held : Bool) (log : List Out) :
    (log.map SystemEffect.out).foldl (SystemEffect.binds path) held = held := by
  induction log with
  | nil => rfl
  | cons o log ih => exact ih

namespace Startup

/-- The branches of `create_server`: a descriptor that is not handed out is closed. -/
theorem createServer_cases (s : Startup) :
    (s.createServer = (none, []) ∧ ¬ (s.socketPath.length < serverPathSize ∧ 0 ≤ s.socket)) ∨
      (s.createServer = (none, [.socket s.socket, .close s.socket]) ∧ s.nonblocking = false) ∨
      (s.createServer = (none, [.socket s.socket, .unlink s.socketPath, .close s.socket]) ∧
        s.bind < 0) ∨
      (s.createServer =
          (none, [.socket s.socket, .unlink s.socketPath, .bind s.socketPath, .close s.socket]) ∧
        s.listen < 0 ∧ s.socketPath.length < serverPathSize ∧ 0 ≤ s.socket ∧
        s.nonblocking = true ∧ 0 ≤ s.bind) ∨
      (s.createServer = (some s.socket, [.socket s.socket, .unlink s.socketPath, .bind s.socketPath]) ∧
        0 ≤ s.listen ∧ s.socketPath.length < serverPathSize ∧ 0 ≤ s.socket ∧
        s.nonblocking = true ∧ 0 ≤ s.bind) := by
  unfold createServer
  split
  · exact Or.inl ⟨rfl, by omega⟩
  split
  · exact Or.inl ⟨rfl, by omega⟩
  split
  · next h => exact Or.inr (Or.inl ⟨rfl, by simpa using h⟩)
  split
  · next h => exact Or.inr (Or.inr (Or.inl ⟨rfl, h⟩))
  split
  · next hpath hsocket hnonblocking hbind h =>
    exact Or.inr (Or.inr (Or.inr (Or.inl ⟨rfl, h, by omega, by omega,
      by simpa using hnonblocking, by omega⟩)))
  · next hpath hsocket hnonblocking hbind h =>
    exact Or.inr (Or.inr (Or.inr (Or.inr ⟨rfl, by omega, by omega, by omega,
      by simpa using hnonblocking, by omega⟩)))

end Startup

/-- Every connection the process took from `accept` into the table has been closed. -/
theorem served_closes (s : Startup) (polls : List Poll) (ticks : List Nat) :
    ∃ l, ((mainLoop (Bridge.boot s.negotiated s.device) polls).shutdown ticks).log =
        (Bridge.boot s.negotiated s.device).log ++ l ∧
      ∀ c, ((Bridge.boot s.negotiated s.device).log ++ l).count (.connected c) =
        ((Bridge.boot s.negotiated s.device).log ++ l).count (.closed c) := by
  have hboot := Bridge.run_sound s.negotiated s.device []
  obtain ⟨l, hl⟩ := mainLoop_log (Bridge.boot s.negotiated s.device) polls
  obtain ⟨l', hl'⟩ := Bridge.shutdown_log (mainLoop (Bridge.boot s.negotiated s.device) polls) ticks
  have hlog : ((mainLoop (Bridge.boot s.negotiated s.device) polls).shutdown ticks).log =
      (Bridge.boot s.negotiated s.device).log ++ (l ++ l') := by
    rw [hl', hl, List.append_assoc]
  refine ⟨l ++ l', hlog, fun c => ?_⟩
  rw [← hlog]
  exact Bridge.shutdown_closes (mainLoop_sound hboot polls).tracked ticks c

/-- Before the first poll nobody is connected. -/
theorem booted_closes (s : Startup) (c : Conn) :
    (Bridge.boot s.negotiated s.device).log.count (.connected c) =
      (Bridge.boot s.negotiated s.device).log.count (.closed c) :=
  (Bridge.run_sound s.negotiated s.device []).tracked.ledger.out c fun i hc => by
    rw [run_nil, Bridge.boot_free] at hc
    cases hc

/-- `es` neither opens the display nor closes it, and gives back what else it gets. -/
structure SystemEffect.Even (es : List SystemEffect) : Prop where
  opens : es.count .openDisplay = 0
  closes : es.count .closeDisplay = 0
  sockets : ∀ fd, es.count (.close fd) = es.count (.socket fd)
  connections : ∀ c, es.count (.out (.closed c)) = es.count (.out (.connected c))

theorem SystemEffect.Even.append {es es' : List SystemEffect} (h : SystemEffect.Even es) (h' : SystemEffect.Even es') :
    SystemEffect.Even (es ++ es') where
  opens := by rw [List.count_append, h.opens, h'.opens]
  closes := by rw [List.count_append, h.closes, h'.closes]
  sockets fd := by rw [List.count_append, List.count_append, h.sockets, h'.sockets]
  connections c := by rw [List.count_append, List.count_append, h.connections, h'.connections]

theorem even_out {log : List Out} (h : ∀ c, log.count (.connected c) = log.count (.closed c)) :
    SystemEffect.Even (log.map .out) where
  opens := count_out (by simp) log
  closes := count_out (by simp) log
  sockets fd := by rw [count_out (by simp), count_out (by simp)]
  connections c := by rw [count_out_self, count_out_self, h]

/-- **A process that opens the display first, closes it last and evens out in between** is clean. -/
theorem SystemEffect.Even.clean {es : List SystemEffect} (code : Nat) (h : SystemEffect.Even es) :
    Exit.Clean ⟨code, .openDisplay :: es ++ [.closeDisplay]⟩ where
  display := by
    simp [List.count_append, h.opens, h.closes]
  last _ := List.getLast?_concat
  sockets fd := by
    simp [List.count_append, h.sockets]
  connections c := by
    simp [List.count_append, h.connections]

theorem opening_even (s : Startup) :
    ∃ es, s.opening = .openDisplay :: es ∧ SystemEffect.Even es := by
  unfold Startup.opening
  split
  · exact ⟨_, rfl, ⟨rfl, rfl, fun _ => rfl, fun _ => rfl⟩⟩
  · exact ⟨_, rfl, ⟨rfl, rfl, fun _ => rfl, fun _ => rfl⟩⟩

/-- What `create_server` does not hand out it has closed. -/
theorem createServer_even (s : Startup) (h : s.createServer.1 = none) :
    SystemEffect.Even s.createServer.2 := by
  rcases s.createServer_cases with ⟨hs, -⟩ | ⟨hs, -⟩ | ⟨hs, -⟩ | ⟨hs, -⟩ | ⟨hs, -⟩ <;>
    rw [hs] at h ⊢
  · exact ⟨rfl, rfl, fun _ => rfl, fun _ => rfl⟩
  · exact ⟨rfl, rfl, fun _ => by simp [List.count_cons], fun _ => rfl⟩
  · exact ⟨rfl, rfl, fun _ => by simp [List.count_cons], fun _ => rfl⟩
  · exact ⟨rfl, rfl, fun _ => by simp [List.count_cons], fun _ => rfl⟩
  · cases h

/-- What it hands out is closed after the loop. -/
theorem serving_even (s : Startup) {fd : Int} (h : s.createServer.1 = some fd) {served : List SystemEffect}
    (heven : SystemEffect.Even served) :
    SystemEffect.Even (s.createServer.2 ++ served ++ [.close fd, .unlink s.socketPath]) := by
  rcases s.createServer_cases with ⟨hs, -⟩ | ⟨hs, -⟩ | ⟨hs, -⟩ | ⟨hs, -⟩ | ⟨hs, -⟩ <;>
    rw [hs] at h ⊢ <;> cases h
  constructor
  · simp [heven.opens]
  · simp [heven.closes]
  · intro fd
    simp [List.count_cons, heven.sockets fd]
  · intro c
    simp [heven.connections c]

theorem mainReturns_clean (s : Startup) (polls : List Poll) (ticks : List Nat) :
    (mainReturns s polls ticks).Clean := by
  obtain ⟨first, hopening, hfirst⟩ := opening_even s
  have hboot := even_out (booted_closes s)
  have hselect : SystemEffect.Even [.selectHierarchy] := ⟨rfl, rfl, fun _ => rfl, fun _ => rfl⟩
  have hstarted := (hfirst.append hselect).append hboot
  have hnothing : SystemEffect.Even [] := ⟨rfl, rfl, fun _ => rfl, fun _ => rfl⟩
  unfold mainReturns
  split
  · exact { display := rfl, last := by simp, sockets := fun _ => rfl, connections := fun _ => rfl }
  split
  · exact hnothing.clean 1
  split
  · rw [hopening]
    exact hfirst.clean 1
  dsimp only
  rw [hopening]
  cases hserver : s.createServer.1 with
  | none =>
    have h := (hstarted.append (createServer_even s hserver)).clean 1
    simpa only [List.append_assoc, List.cons_append] using h
  | some fd =>
    obtain ⟨l, hlog, hcounts⟩ := served_closes s polls ticks
    have hserved : SystemEffect.Even (l.map .out) := by
      refine even_out fun c => ?_
      have hall := hcounts c
      rw [List.count_append, List.count_append, booted_closes s c] at hall
      exact Nat.add_left_cancel hall
    have h := (hstarted.append (serving_even s hserver hserved)).clean 0
    dsimp only
    rw [hlog, List.drop_left]
    simpa only [List.append_assoc, List.cons_append, List.nil_append] using h

theorem opening_binds (s : Startup) (path : List UInt8) (held : Bool) :
    s.opening.foldl (SystemEffect.binds path) held = held := by
  unfold Startup.opening
  split <;> rfl

/-- After `create_server`, with no name bound before. -/
theorem createServer_binds (s : Startup) (path : List UInt8) :
    s.createServer.2.foldl (SystemEffect.binds path) false = true ↔
      path = s.socketPath ∧ s.socketPath.length < serverPathSize ∧ 0 ≤ s.socket ∧
        s.nonblocking = true ∧ 0 ≤ s.bind := by
  rcases s.createServer_cases with ⟨hs, h⟩ | ⟨hs, h⟩ | ⟨hs, h⟩ | ⟨hs, -, h⟩ | ⟨hs, -, h⟩ <;>
    rw [hs]
  · refine ⟨nofun, fun ⟨_, hpath, hsocket, _⟩ => absurd ⟨hpath, hsocket⟩ h⟩
  · refine ⟨nofun, fun hall => ?_⟩
    rw [h] at hall
    exact absurd hall.2.2.2.1 nofun
  · refine ⟨fun hall => ?_, fun hall => ?_⟩
    · simp [SystemEffect.binds] at hall
    · omega
  · refine ⟨fun hall => ⟨?_, h⟩, fun hall => ?_⟩
    · simpa [SystemEffect.binds, eq_comm (a := path)] using hall
    · simp [SystemEffect.binds, hall.1]
  · refine ⟨fun hall => ⟨?_, h⟩, fun hall => ?_⟩
    · simpa [SystemEffect.binds, eq_comm (a := path)] using hall
    · simp [SystemEffect.binds, hall.1]

theorem createServer_listens (s : Startup) :
    s.createServer.1 = none ∨
      s.createServer.1 = some s.socket ∧ 0 ≤ s.listen := by
  rcases s.createServer_cases with ⟨hs, -⟩ | ⟨hs, -⟩ | ⟨hs, -⟩ | ⟨hs, -⟩ | ⟨hs, h, -⟩ <;> rw [hs]
  · exact Or.inl rfl
  · exact Or.inl rfl
  · exact Or.inl rfl
  · exact Or.inl rfl
  · exact Or.inr ⟨rfl, h⟩

theorem createServer_refuses (s : Startup) (h : s.createServer.1 = none) :
    ¬ (s.socketPath.length < serverPathSize ∧ 0 ≤ s.socket ∧ s.nonblocking = true ∧ 0 ≤ s.bind ∧
      0 ≤ s.listen) := by
  rcases s.createServer_cases with ⟨hs, hn⟩ | ⟨hs, hn⟩ | ⟨hs, hn⟩ | ⟨hs, hn, -⟩ | ⟨hs, -⟩
  · exact fun hall => hn ⟨hall.1, hall.2.1⟩
  · rw [hn]
    exact fun hall => by cases hall.2.2.1
  · omega
  · omega
  · rw [hs] at h
    cases h

/-- **The name of the server** is left behind by one way out only: the one on which `listen` fails
    for a socket that was bound. -/
theorem mainReturns_name (s : Startup) (polls : List Poll) (ticks : List Nat) (path : List UInt8) :
    (mainReturns s polls ticks).effects.foldl (SystemEffect.binds path) false = true ↔
      path = s.socketPath ∧ s.Binds ∧ s.listen < 0 := by
  unfold mainReturns
  split
  · next h => exact ⟨nofun, fun hall => by simp [hall.2.1.display] at h⟩
  split
  · next h => exact ⟨nofun, fun hall => by simp [hall.2.1.xinput2] at h⟩
  split
  · next h =>
    rw [List.foldl_append, opening_binds]
    exact ⟨nofun, fun hall => by simp [hall.2.1.hierarchy] at h⟩
  next hdisplay hxinput2 hhierarchy =>
  have hstarted : ((s.opening ++ [SystemEffect.selectHierarchy] ++
      (Bridge.boot s.negotiated s.device).log.map SystemEffect.out ++ s.createServer.2).foldl
        (SystemEffect.binds path) false = true) ↔
      path = s.socketPath ∧ s.socketPath.length < serverPathSize ∧ 0 ≤ s.socket ∧
        s.nonblocking = true ∧ 0 ≤ s.bind := by
    have hselects : [SystemEffect.selectHierarchy].foldl (SystemEffect.binds path) false = false := rfl
    rw [List.foldl_append, List.foldl_append, List.foldl_append, opening_binds, hselects, binds_out,
      createServer_binds]
  dsimp only
  rcases createServer_listens s with hserver | ⟨hserver, hlisten⟩ <;> rw [hserver] <;> dsimp only
  · rw [List.foldl_append]
    refine hstarted.trans ⟨fun ⟨hpath, hname, hsocket, hnonblocking, hbind⟩ => ⟨hpath, ?_, ?_⟩,
      fun ⟨hpath, hs, _⟩ => ⟨hpath, hs.path, hs.socket, hs.nonblocking, hs.bind⟩⟩
    · exact { display := by simpa using hdisplay, xinput2 := by simpa using hxinput2,
              hierarchy := by simpa using hhierarchy, path := hname, socket := hsocket,
              nonblocking := hnonblocking, bind := hbind }
    · exact Int.not_le.mp fun hlisten =>
        createServer_refuses s hserver ⟨hname, hsocket, hnonblocking, hbind, hlisten⟩
  · have hlast : ∀ held, [SystemEffect.close s.socket, .unlink s.socketPath, .closeDisplay].foldl
        (SystemEffect.binds path) held = (s.socketPath != path && held) := fun _ => rfl
    rw [List.foldl_append, List.foldl_append, binds_out, hlast, Bool.and_eq_true, hstarted,
      bne_iff_ne]
    exact ⟨fun h => absurd h.2.1.symm h.1, fun h => absurd hlisten (by omega)⟩

/-- **Every return of `main` is clean**: whatever the calls answer, the display is closed once and
    last, every socket and every connection is closed as often as it was got, and the name of the
    server is taken away unless `listen` failed. -/
theorem main_returns_clean (s : Startup) (polls : List Poll) (ticks : List Nat)
    (exits : Option Nat) (x : Exit) (h : bridgeMain s polls ticks exits = .returned x) :
    x.Clean ∧ ∀ path, x.effects.foldl (SystemEffect.binds path) false = true ↔
      path = s.socketPath ∧ s.Binds ∧ s.listen < 0 := by
  cases exits with
  | none =>
    obtain rfl : mainReturns s polls ticks = x := Ending.returned.inj h
    exact ⟨mainReturns_clean s polls ticks, mainReturns_name s polls ticks⟩
  | some n => cases h

/-- A server that cannot listen. -/
def deafStartup : Startup :=
  { argument := none, display := true, xinput := true, xiMajor := some 2, controller := none,
    version := none, hierarchy := true, device := ⟨none, false⟩, socket := 3, nonblocking := true,
    bind := 0, listen := -1 }

/-- It leaves its name behind. -/
theorem main_returns_clean_deaf : ∃ x : Exit, x.Clean ∧
    x.effects.foldl (SystemEffect.binds serverDefaultSocket) false = true := by
  refine ⟨mainReturns deafStartup [] [], ?_⟩
  obtain ⟨hclean, hname⟩ := main_returns_clean deafStartup [] [] none _ rfl
  exact ⟨hclean, (hname serverDefaultSocket).mpr
    ⟨rfl, ⟨rfl, rfl, rfl, by decide, by decide, rfl, by decide⟩, by decide⟩⟩

end TermuxGamepad
