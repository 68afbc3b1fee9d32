/-
  File:      TermuxGamepad/Framing.lean
  Subject:   The control channel after failed sends: what the bridge makes of the commands of one
             connection, of the library or of the shim.
-/
import TermuxGamepad.Bridge.Decoder
import TermuxGamepad.Client.Consistency
import TermuxGamepad.Client.Line
import TermuxGamepad.Shim.PassThrough

namespace TermuxGamepad

open Wire

/-! ## 1. The decoder -/

/-- The bridge executes these commands, one after the other, from the bytes of a connection: in
    every reachable state, however the bytes come in pieces, whatever the sockets and the clock
    answer. The rest stays in `control`. -/
def Executes (bytes : List UInt8) (ms : List ControlMessage) : Prop :=
  ∀ (opcode : Int) (answer : DeviceAnswer) (inputs : List Bridge.Input) (sends : List SendResult)
    (ticks : List Nat) (stamps : List Timeval) (i : Slot) (ps : List (List UInt8)),
    let b := (run Bridge.step (Bridge.boot opcode answer) inputs).withEnv sends ticks stamps
    (b.clients i).fd ≠ none → (b.clients i).control = [] → Bridge.Receivable i b ps →
      ps.flatten = bytes →
      b.feed i ps =
        Bridge.settled i (Bridge.executeAll i b ms) (controlMessageCodec.remainder bytes)

theorem executes_records (bytes : List UInt8) :
    Executes bytes (controlMessageCodec.records bytes) := by
  intro opcode answer inputs sends ticks stamps i ps b hfd hcontrol hps hbytes
  have h : Bridge.Sound b := (Bridge.run_sound opcode answer inputs).env sends ticks stamps
  rw [Bridge.feed_eq h ps hps, Bridge.decodeWhole_eq _ hfd, hcontrol, hbytes, List.nil_append]

/-- **The framing holds**: the bridge executes the commands that went out whole, in the order in
    which they were issued, and no frame it cuts joins bytes of two of them. -/
structure Framed (calls : List SendCall) : Prop where
  executes : Executes (Send.stream calls) (Send.whole calls)
  apart : Send.Apart 0 calls

theorem framed_iff (calls : List SendCall) : Framed calls ↔ Send.Unbroken calls := by
  have hsize : 0 < controlMessageCodec.size := by decide
  constructor
  · exact fun h => (Send.apart_iff hsize 0 calls).mp h.apart
  · intro h
    refine ⟨?_, (Send.apart_iff hsize 0 calls).mpr h⟩
    rw [← h.records hsize]
    exact executes_records _

/-! ## 2. The shim's connection -/

/-- A command with what `send` answered. -/
def SendCall.ofResult (m : ControlMessage) (result : Int) : SendCall :=
  { record := m
    sent := min result.toNat controlMessageCodec.size
    sent_le := Nat.min_le_right _ _ }

/-- The commands sent on the connection behind a descriptor, since it was made. -/
def controlCalls (fd : Int) (log : List Event) : List SendCall :=
  log.foldl
    (fun calls e =>
      match e with
      | .connect fd' _ => if fd' = fd then [] else calls
      | .control fd' m result => if fd' = fd then calls ++ [.ofResult m result] else calls
      | _ => calls)
    []

/-- `tg_send_control` puts its command behind the others, and reports success only if it
    went out whole. -/
def Shim.SendsInOrder (s : Shim) (fd : Int) : Prop :=
  ∀ (command low high : UInt16) (durationMs : UInt32),
    let sent := s.sendControl fd command low high durationMs
    ∃ call : SendCall,
      call.record = Handle.commandMessage command low high durationMs ∧
      controlCalls fd sent.1.log = controlCalls fd s.log ++ [call] ∧
      (sent.2 = true → call.sent = controlMessageCodec.size)

theorem sendControl_calls (s : Shim) (fd : Int) : s.SendsInOrder fd := by
  intro command low high durationMs
  refine ⟨.ofResult (Handle.commandMessage command low high durationMs) (s.sends.headD (-1)), rfl,
    ?_, fun h => ?_⟩
  · show controlCalls fd (s.log ++ [_]) = _
    rw [controlCalls, List.foldl_append]
    exact if_pos rfl
  · have hresult : s.sends.headD (-1) = controlMessageCodec.size := by simpa [Shim.sendControl] using h
    show min (s.sends.headD (-1)).toNat controlMessageCodec.size = _
    rw [hresult, Int.toNat_natCast, Nat.min_self]

/-! ## 3. Both senders -/

/-- **The control channel keeps its framing** exactly if no command that failed after a part of
    it went out has a byte of another one behind it -- on the event stream of the library, in
    every run of a handle, and on every connection of the shim, in every run of it, where each
    command of `tg_send_control` goes behind those before it. -/
theorem control_framing_iff (inputs : List Handle.Input) (env : Env) (reals : List Outcome)
    (connects : List ConnectAnswer) (sends : List Int) (calls : List Call) (fd : Int) :
    let line := run Line.step Line.create inputs
    let s := (run (Session.step env) (Session.loaded reals connects sends) calls).shim
    line.bytes = Send.stream line.calls ∧
      (Framed line.calls ↔ Send.Unbroken line.calls) ∧
      s.SendsInOrder fd ∧
      (Framed (controlCalls fd s.log) ↔ Send.Unbroken (controlCalls fd s.log)) :=
  ⟨(Line.run_lined inputs).bytes, framed_iff _, sendControl_calls _ fd, framed_iff _⟩

/-- A rumble call gets five bytes out and gives up; the next call succeeds. -/
def brokenSession : List Handle.Input :=
  Handle.padSession ++
    [.rumble 100 200 50, .answer (.accepted 4), .answer .again, .answer .again,
      .stopRumble, .answer (.accepted 15)]

/-- **The bridge takes the end of the next command for the rest of the failed one.** -/
theorem control_framing_breaks :
    (run Line.step Line.create brokenSession).handle.controls = [0, -11, 0] ∧
      ¬Framed (run Line.step Line.create brokenSession).calls := by
  refine ⟨by decide +kernel, fun h => ?_⟩
  have hcalls : (run Line.step Line.create brokenSession).calls =
      [⟨Handle.commandMessage controlQueryDescriptor 0 0 0, 16, by decide⟩,
        ⟨Handle.commandMessage controlRumble 100 200 50, 16, by decide⟩] ++
      ⟨Handle.commandMessage controlRumble 100 200 50, 5, by decide⟩ ::
        [⟨Handle.commandMessage controlStopRumble 0 0 0, 16, by decide⟩] := by decide +kernel
  have hnil := (framed_iff _).mp h _ _ _ hcalls (by decide) (by decide)
  exact absurd hnil (by decide)

end TermuxGamepad
