import SocketReactor.Proofs.Handle.Lifecycle
import SocketReactor.Proofs.Socket.Outline

/-!
# Sockets are handles

Whatever is done to the fields of a socket, they are those of a socket afterwards: reading
the fields as a socket mends nothing. So a socket and its handle make the same calls and
give the same replies, and stay together.
-/

namespace SocketReactor

variable {σ α : Type} {answers : Answering σ} {state after : σ} {socket : Socket}
  {command : Command}

/-- A change of the results that a program never has is none. -/
theorem Program.bind_eq_of_ensures {allowed : Call → Prop} {post : α → Prop} (change : α → α)
    {program : Program α} (ensures : program.Ensures allowed post)
    (same : ∀ value, post value → change value = value) :
    (program >>= fun value => .done (change value)) = program := by
  induction program with
  | done value => exact congrArg Program.done (same value ensures)
  | ask call next ih =>
      exact congrArg (Program.ask call) (funext fun reply => ih reply (ensures.2 reply))

theorem Attempt.map_eq_of_yields {post : α → Prop} {failed : Fault → Prop} {change : α → α}
    {attempt : Attempt α} (yields : attempt.Yields post failed)
    (same : ∀ value, post value → change value = value) : change <$> attempt = attempt := by
  have stays := Program.bind_eq_of_ensures (Except.map change) yields
    fun outcome right => by
      cases outcome with
      | ok value => exact congrArg Except.ok (same value right)
      | error fault => rfl
  rw [map_eq_pure_bind]
  refine Eq.trans (congrArg (attempt.run >>= ·) (funext fun outcome => ?_)) stays
  cases outcome <;> rfl

namespace Handle

variable {later : Handle} {outcome : Except Failure Reply}

@[simp] theorem state_ofSocket (socket : Socket) : (ofSocket socket).state = socket.state := by
  cases socket <;> rfl

def IsSocket (handle : Handle) : Prop := ofSocket handle.socket = handle

theorem isSocket_ofSocket (socket : Socket) : (ofSocket socket).IsSocket :=
  congrArg ofSocket (socket_ofSocket socket)

theorem isSocket_live (parts : LiveSocket) (bound : Bool) (stage : Stage) :
    IsSocket { ofSocket (.live parts) with
      bound
      state := stage.state
      listening := stage = .listening
      target? := stage.target? } :=
  isSocket_ofSocket (.live { parts with bound, stage })

theorem isSocket_unshut (descriptor : Descriptor) (protocol : Protocol) (bound : Bool)
    (stage : Stage) :
    IsSocket ⟨some descriptor, stage.state, 0, some protocol, bound, stage = .listening,
      stage.target?⟩ := by
  rw [show (0 : UInt8) = shutBits false false by decide]
  exact isSocket_ofSocket (.live ⟨descriptor, protocol, bound, false, false, stage⟩)

theorem isSocket_shut (parts : LiveSocket) (half : Half) :
    IsSocket { ofSocket (.live parts) with shut := (ofSocket (.live parts)).shut ||| half.bit } := by
  obtain ⟨descriptor, protocol, bound, readShut, writeShut, stage⟩ := parts
  have shown : ∃ reads writes, shutBits readShut writeShut ||| half.bit = shutBits reads writes := by
    cases half with
    | read => exact ⟨true, writeShut, by cases readShut <;> cases writeShut <;> decide⟩
    | write => exact ⟨readShut, true, by cases readShut <;> cases writeShut <;> decide⟩
  obtain ⟨reads, writes, same⟩ := shown
  show IsSocket ⟨_, _, shutBits readShut writeShut ||| half.bit, _, _, _, _⟩
  rw [same]
  exact isSocket_ofSocket (.live ⟨descriptor, protocol, bound, reads, writes, stage⟩)

theorem fresh_of_created (created : (ofSocket socket).state = .created) :
    ∃ parts : LiveSocket, socket = .live { parts with stage := .fresh } := by
  cases socket with
  | closed last => cases created
  | live parts =>
      have fresh := Stage.eq_fresh (List.mem_singleton.mpr created)
      exact ⟨parts, by rw [← fresh]⟩

theorem connecting_of_opening (opening : (ofSocket socket).state = .opening) :
    ∃ (parts : LiveSocket) (target : Endpoint),
      socket = .live { parts with stage := .connecting target } := by
  cases socket with
  | closed last => cases opening
  | live parts =>
      obtain ⟨descriptor, protocol, bound, readShut, writeShut, stage⟩ := parts
      cases stage with
      | fresh | listening | connected => cases opening
      | connecting target =>
          exact ⟨⟨descriptor, protocol, bound, readShut, writeShut, .fresh⟩, target, rfl⟩

/-- A turn of a socket's fields leaves the fields of a socket. -/
theorem Turned.isSocket (turned : (ofSocket socket).Turned command outcome later) :
    later.IsSocket := by
  cases turned with
  | kept => exact isSocket_ofSocket socket
  | created descriptor bare => exact isSocket_unshut descriptor _ false .fresh
  | bound binds created =>
      obtain ⟨parts, rfl⟩ := fresh_of_created created
      exact isSocket_live parts true .fresh
  | listening created bound =>
      obtain ⟨parts, rfl⟩ := fresh_of_created created
      exact isSocket_live parts parts.bound .listening
  | connected connects created =>
      obtain ⟨parts, rfl⟩ := fresh_of_created created
      exact isSocket_live parts parts.bound .connected
  | begun target connects created =>
      obtain ⟨parts, rfl⟩ := fresh_of_created created
      exact isSocket_live parts parts.bound (.connecting target)
  | finished opening =>
      obtain ⟨parts, target, rfl⟩ := connecting_of_opening opening
      exact isSocket_live parts parts.bound .connected
  | refused errno endpoint opening =>
      obtain ⟨parts, target, rfl⟩ := connecting_of_opening opening
      exact isSocket_live parts parts.bound .fresh
  | shut begun => cases socket with
    | closed last => exact absurd begun (show SocketState.closed ∉ _ by decide)
    | live parts => exact isSocket_shut parts _
  | released => cases socket with
    | closed last => exact isSocket_ofSocket (.closed last)
    | live parts => exact isSocket_ofSocket (.closed (some parts.protocol))

end Handle

namespace Socket

variable {later : Socket} {outcome : Except Failure Reply}

/-- A command on the fields of a socket is the command on the socket. -/
theorem perform_refines (socket : Socket) (command : Command) :
    (Handle.ofSocket socket).perform command = (do
      let (outcome, after) ← socket.perform command
      return (outcome, Handle.ofSocket after)) := by
  -- A turn leaves the fields of a socket, so reading them as one changes nothing.
  have stays := Program.bind_eq_of_ensures
    (fun ended : Except Failure Reply × Handle => (ended.1, Handle.ofSocket ended.2.socket))
    ((Handle.ofSocket socket).turned_perform command)
    fun ended turned => Prod.ext rfl turned.isSocket
  rw [perform, bind_assoc]
  exact stays.symm

/-- What runs as a command on a socket runs as one on its fields. -/
theorem runs_of_runs_perform (run : (socket.perform command).Runs answers state (outcome, later) after) :
    ((Handle.ofSocket socket).perform command).Runs answers state
      (outcome, Handle.ofSocket later) after := by
  rw [perform_refines]
  exact Program.runs_bind.mpr ⟨_, _, run, rfl, rfl⟩

/-- A command moves the state of a socket along one of its edges. -/
theorem edge_of_runs (run : (socket.perform command).Runs answers state (outcome, later) after) :
    command.Edge socket.state later.state := by
  have edge := (Handle.turned_of_runs (runs_of_runs_perform run)).edge fun bare => by
    cases socket with
    | closed last => rfl
    | live parts => cases bare
  rwa [Handle.state_ofSocket, Handle.state_ofSocket] at edge

theorem openNew_refines (protocol : Protocol) :
    Handle.openNew protocol = Handle.ofSocket <$> openNew protocol := by
  rw [openNew, Functor.map_map]
  refine (Attempt.map_eq_of_yields (Handle.yields_openNew protocol) ?_).symm
  rintro handle ⟨descriptor, rfl⟩
  exact Handle.isSocket_unshut descriptor protocol false .fresh

theorem accept_refines (socket : Socket) :
    (Handle.ofSocket socket).accept = Accepted.map Handle.ofSocket <$> socket.takeConnection := by
  rw [takeConnection, Functor.map_map]
  refine (Attempt.map_eq_of_yields (Handle.ofSocket socket).yields_accept ?_).symm
  intro accepted accepts
  cases accepted with
  | wouldBlock | interrupted => rfl
  | accepted taken peer =>
      obtain ⟨opened, descriptor, rfl⟩ := accepts taken peer rfl
      cases socket with
      | closed last => cases opened
      | live parts =>
          exact congrArg (Accepted.accepted · peer)
            (Handle.isSocket_unshut descriptor parts.protocol true .connected)

/-! ## Commands out of place -/

theorem require_eq_error {operation : String} {allowed : List SocketState}
    (outside : socket.state ∉ allowed) :
    socket.require operation allowed = .error (.wrongState operation socket.state.name) := by
  cases socket with
  | closed former => rfl
  | live parts => exact if_neg outside

theorem perform_of_outside {operation : String} {allowed : List SocketState}
    (demand : command.demand? = some (operation, allowed)) (outside : socket.state ∉ allowed) :
    socket.perform command =
      return (.error (.fault (.wrongState operation socket.state.name)), socket) := by
  rw [perform, Handle.perform_of_outside demand (by rwa [Handle.state_ofSocket]),
    Handle.state_ofSocket]
  exact congrArg (fun kept => Program.done (Except.error _, kept)) (Handle.socket_ofSocket socket)

/-- Only a listener takes connections. -/
theorem accept_of_not_listening (bare : socket.isListening = false) :
    socket.accept = return (.error (.wrongState "accept"
      (if socket.state = .opened then "open but not listening" else socket.state.name)),
        socket) := by
  have unlisted : (Handle.ofSocket socket).listening = false := by
    cases socket with
    | closed last => rfl
    | live parts => exact bare
  rw [accept, takeConnection, Handle.accept_of_not_listening (.inr unlisted),
    Handle.state_ofSocket]
  rfl

end Socket

end SocketReactor
