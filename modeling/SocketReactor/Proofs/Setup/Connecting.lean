import SocketReactor.Proofs.Host.Ledger
import SocketReactor.Proofs.Owner.Roles
import SocketReactor.Proofs.Socket.Running

/-!
# What a stream builder connects

A stream builder ends with one call that connects, and hands out its socket also when the
host says that the connection is still being made.  Which of the two has happened can be
seen from the socket only.
-/

namespace SocketReactor

variable {σ α : Type} {answers : Answering σ} {state after : σ}

/-- How the call that connects to an endpoint begins a connection, and the stage after it. -/
def Endpoint.begun? (endpoint : Endpoint) : Except Errno Unit → Option (Connection × Stage)
  | .ok () => some (.connected, .connected)
  | .error errno =>
      if errno = .inProgress ∨ errno = .interrupted then
        some (.inProgress, .connecting endpoint)
      else none

namespace Socket

variable {parts : LiveSocket} {later : Socket} {connection : Connection}

/-- A fresh socket is connected to an endpoint of its family by one call. -/
theorem runs_connectEndpoint_ok (fresh : parts.stage = .fresh) (endpoint : Endpoint) :
    ((live parts).connectEndpoint endpoint).Runs answers state (.ok connection, later) after ↔
      parts.checkFamily endpoint = .ok () ∧
      ∃ (reply : Except Errno Unit) (stage : Stage),
        answers (.connect parts.descriptor endpoint.wire) state reply after ∧
        endpoint.begun? reply = some (connection, stage) ∧
        later = live { parts with stage := stage } := by
  have allowed : (live parts).require "connect" [.created] = .ok parts := by
    simp [require, fresh, Stage.state]
  simp only [connectEndpoint_eq, runs_commit_ok, Attempt.runs_bind_ok, Attempt.runs_ofExcept, allowed,
    Attempt.runs_ofProgram_ok]
  constructor
  · rintro ⟨_, _, ⟨⟨⟩, rfl⟩, ⟨⟩, _, ⟨checked, rfl⟩, reply, _, called, rest⟩
    have answered := Program.runs_request.mp called
    refine ⟨checked.symm, reply, ?_⟩
    cases reply with
    | ok done =>
        obtain ⟨same, rfl⟩ := rest
        cases same
        exact ⟨_, answered, rfl, rfl⟩
    | error errno =>
        dsimp only at rest
        split at rest
        · rename_i pending
          obtain ⟨same, rfl⟩ := rest
          cases same
          exact ⟨_, answered, if_pos pending, rfl⟩
        · cases rest.1
  · rintro ⟨checked, reply, stage, answered, begun, rfl⟩
    refine ⟨parts, state, ⟨rfl, rfl⟩, (), state, ⟨checked.symm, rfl⟩, reply, after,
      Program.runs_request.mpr answered, ?_⟩
    cases reply with
    | ok done =>
        cases begun
        exact ⟨rfl, rfl⟩
    | error errno =>
        dsimp only [Endpoint.begun?] at begun ⊢
        split at begun
        · rename_i pending
          cases begun
          rw [if_pos pending]
          exact ⟨rfl, rfl⟩
        · cases begun

/-- A socket is connected to a host by connecting it to an endpoint of the host. -/
theorem runs_connect_ok {socket : Socket} (host : String) (port : UInt16) :
    (socket.connect host port).Runs answers state (.ok connection, later) after ↔
      ∃ endpoint between,
        (socket.endpointOf "connect" host port).run.Runs answers state (.ok endpoint) between ∧
        (socket.connectEndpoint endpoint).Runs answers between (.ok connection, later) after := by
  rw [connect_eq]
  constructor
  · intro run
    obtain ⟨outcome, between, found, rest⟩ := Program.runs_bind.mp run
    cases outcome with
    | ok endpoint => exact ⟨endpoint, between, found, rest⟩
    | error fault =>
        obtain ⟨impossible, -⟩ := rest
        cases impossible
  · rintro ⟨endpoint, between, found, rest⟩
    exact Program.runs_bind.mpr ⟨_, _, found, rest⟩

end Socket

namespace Setup

namespace StreamBuilder

variable {builder : StreamBuilder} {host : String} {port : UInt16} {stream : Socket}

/-- A builder connects by one call at its end, on a socket that it has just opened. -/
theorem runs_connect_ok :
    (builder.connect host port).run.Runs answers state (.ok stream) after ↔
      ∃ descriptor built endpoint between,
        builder.build.run.Runs answers state (.ok (.live (.new descriptor builder.protocol)))
          built ∧
        ((Socket.live (.new descriptor builder.protocol)).endpointOf "connect" host port).run.Runs
          answers built (.ok endpoint) between ∧
        (LiveSocket.new descriptor builder.protocol).checkFamily endpoint = .ok () ∧
        ∃ (reply : Except Errno Unit) (connection : Connection) (stage : Stage),
          answers (.connect descriptor endpoint.wire) between reply after ∧
          endpoint.begun? reply = some (connection, stage) ∧
          stream = .live { LiveSocket.new descriptor builder.protocol with stage := stage } := by
  have fresh : ∀ descriptor, (LiveSocket.new descriptor builder.protocol).stage = .fresh :=
    fun _ => rfl
  constructor
  · intro run
    obtain ⟨socket, built, made, rest⟩ := Attempt.runs_bind_ok.mp run
    obtain ⟨-, descriptor, rfl⟩ := ((yields_prepare _ _ _).of_runs made).1 socket rfl
    obtain ⟨⟨connection, later⟩, last, connected, same, rfl⟩ := Attempt.runs_bind_ok.mp rest
    cases same
    obtain ⟨endpoint, between, found, called⟩ :=
      (Socket.runs_connect_ok host port).mp (Socket.runs_orDiscard_ok.mp connected)
    obtain ⟨checked, reply, stage, answered, begun, given⟩ :=
      (Socket.runs_connectEndpoint_ok (fresh descriptor) endpoint).mp called
    exact ⟨descriptor, built, endpoint, between, made, found, checked, reply, connection, stage,
      answered, begun, given⟩
  · rintro ⟨descriptor, built, endpoint, between, made, found, checked, reply, connection, stage,
      answered, begun, rfl⟩
    have called := (Socket.runs_connectEndpoint_ok (fresh descriptor) endpoint).mpr
      ⟨checked, reply, stage, answered, begun, rfl⟩
    have connected := (Socket.runs_connect_ok host port).mpr ⟨endpoint, between, found, called⟩
    refine Attempt.runs_bind_ok.mpr ⟨_, built, made, Attempt.runs_bind_ok.mpr
      ⟨(connection, _), after, Socket.runs_orDiscard_ok.mpr connected, rfl, rfl⟩⟩

end StreamBuilder

/-- The stream that a builder hands out is as the host has answered the one call that connects
it: open and connected if the connection was made, and else, for the two answers that are no
failure, on its way to the endpoint and not connected.  Wherever the host may give such an
answer, a stream that is not connected is handed out. -/
theorem built_stream_follows_answer {builder : StreamBuilder} {host : String} {port : UInt16}
    {stream : Socket}
    (run : (builder.connect host port).run.Runs answers state (.ok stream) after) :
    ∃ (descriptor : Descriptor) (endpoint : Endpoint) (between : σ) (reply : Except Errno Unit),
      answers (.connect descriptor endpoint.wire) between reply after ∧
      stream.owned? = some descriptor ∧ stream.protocol? = some builder.protocol ∧
      (reply = .ok () → stream.state = .opened ∧ stream.isConnected = true) ∧
      (reply ≠ .ok () → (reply = .error .inProgress ∨ reply = .error .interrupted) ∧
        stream.state = .opening ∧ stream.isConnected = false ∧
        stream.target? = some endpoint) ∧
      ∀ errno later, errno = .inProgress ∨ errno = .interrupted →
        answers (.connect descriptor endpoint.wire) between (.error errno) later →
        ∃ pending, (builder.connect host port).run.Runs answers state (.ok pending) later ∧
          pending.state = .opening ∧ pending.isConnected = false := by
  obtain ⟨descriptor, built, endpoint, between, made, found, checked, reply, connection, stage,
    answered, begun, rfl⟩ := StreamBuilder.runs_connect_ok.mp run
  refine ⟨descriptor, endpoint, between, reply, answered, rfl, rfl, ?_, ?_, ?_⟩
  · rintro rfl
    cases begun
    exact ⟨rfl, rfl⟩
  · intro unmade
    cases reply with
    | ok done => exact absurd rfl unmade
    | error errno =>
        dsimp only [Endpoint.begun?] at begun
        split at begun
        · rename_i pending
          cases begun
          refine ⟨?_, rfl, rfl, rfl⟩
          exact pending.imp (congrArg Except.error) (congrArg Except.error)
        · cases begun
  · intro errno later pending answered'
    have begun' : endpoint.begun? (.error errno) = some (.inProgress, .connecting endpoint) :=
      if_pos pending
    exact ⟨_, StreamBuilder.runs_connect_ok.mpr ⟨descriptor, built, endpoint, between, made,
      found, checked, .error errno, .inProgress, _, answered', begun', rfl⟩, rfl, rfl⟩

/-- What a host replies where a connection takes longer than a call may wait. -/
def slowReply : (call : Call) → Option call.Reply
  | .connect _ _ => some (.error .inProgress)
  | .setIntOption _ _ _ | .setTimeOption _ _ _ => some (.ok ())
  | call => obligingReply [] call

def slowHost : Program.Machine Unit := fun call _ => (slowReply call).map fun reply => (reply, ())

/-- A builder of streams whose calls wait for a tenth of a second only. -/
def StreamBuilder.hurried : StreamBuilder :=
  (StreamBuilder.usual .tcp4).change (.timeouts (Timeouts.usual.change (.send 100)))

theorem hurried_stream_is_pending :
    ∃ stream, (StreamBuilder.hurried.connect "127.0.0.1" 80).run.run slowHost () =
        some (.ok stream, ()) ∧
      stream.state = .opening ∧ stream.isConnected = false ∧
      stream.protocol? = some .tcp4 ∧ ∃ endpoint, stream.target? = some endpoint := by
  have plays : (StreamBuilder.hurried.connect "127.0.0.1" 80).run.run slowHost () =
      some (.ok (.live ⟨⟨3⟩, .tcp4, false, false, false,
        .connecting (.new .loopbackV4 80)⟩), ()) := by
    decide +kernel
  obtain ⟨descriptor, endpoint, between, reply, answered, -, protocol, -, unmade, -⟩ :=
    built_stream_follows_answer (Program.runs_ofMachine.mpr plays)
  have pending : reply ≠ .ok () := by
    rintro rfl
    have made : slowHost (.connect descriptor endpoint.wire) between = some (.ok (), ()) := answered
    cases made
  obtain ⟨-, opening, unconnected, target⟩ := unmade pending
  exact ⟨_, plays, opening, unconnected, protocol, endpoint, target⟩

end Setup

end SocketReactor
