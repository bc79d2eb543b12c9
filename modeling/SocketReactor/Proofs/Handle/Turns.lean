import SocketReactor.Proofs.Handle.Methods
import SocketReactor.Proofs.Host.Yields

/-!
# What a command leaves of a handle

Every way in which a command may write the fields of a handle, whatever the fields are
and whatever the host replies. A method is followed from statement to statement, so a
state that is written before a call counts like any other.
-/

namespace SocketReactor

variable {α β : Type}

namespace Command

def Binds : Command → Prop
  | bind _ _ | bindEndpoint _ => True
  | _ => False

def Connects : Command → Prop
  | connect _ _ | connectEndpoint _ => True
  | _ => False

variable {command : Command}

theorem Binds.keeps (binds : command.Binds) : command ≠ .close := by
  rintro rfl
  exact binds

theorem Connects.keeps (connects : command.Connects) : command ≠ .close := by
  rintro rfl
  exact connects

end Command

namespace Handle

/-- The fields after closing. The protocol is remembered. -/
def released (handle : Handle) : Handle :=
  match handle.descriptor? with
  | none => handle
  | some _ => { empty with protocol? := handle.protocol? }

/-- The fields that a command leaves with its outcome. -/
inductive Turned (handle : Handle) : Command → Except Failure Reply → Handle → Prop where
  | kept {command : Command} {outcome : Except Failure Reply} (keeps : command ≠ .close) :
      Turned handle command outcome handle
  | created {protocol : Protocol} {reply : Reply} (descriptor : Descriptor)
      (bare : handle.descriptor? = none) :
      Turned handle (.create protocol) (.ok reply)
        ⟨some descriptor, .created, 0, some protocol, false, false, none⟩
  | bound {command : Command} {reply : Reply} (binds : command.Binds)
      (created : handle.state = .created) :
      Turned handle command (.ok reply) { handle with bound := true }
  | listening {backlog : Int32} {reply : Reply} (created : handle.state = .created)
      (bound : handle.bound = true) :
      Turned handle (.listen backlog) (.ok reply) { handle with state := .opened, listening := true }
  | connected {command : Command} {reply : Reply} (connects : command.Connects)
      (created : handle.state = .created) :
      Turned handle command (.ok reply) { handle with state := .opened }
  /-- A connection is being made. -/
  | begun {command : Command} {reply : Reply} (target : Endpoint) (connects : command.Connects)
      (created : handle.state = .created) :
      Turned handle command (.ok reply) { handle with state := .opening, target? := some target }
  | finished {reply : Reply} (opening : handle.state = .opening) :
      Turned handle .finishConnect (.ok reply) { handle with state := .opened, target? := none }
  /-- The connection was refused. -/
  | refused (errno : Errno) (endpoint : String) (opening : handle.state = .opening) :
      Turned handle .finishConnect (.error (.fault (.connectFailed errno endpoint)))
        { handle with state := .created, target? := none }
  | shut {half : Half} {reply : Reply} (begun : handle.state ∈ [.opened, .opening]) :
      Turned handle (.shutdown half) (.ok reply) { handle with shut := handle.shut ||| half.bit }
  | released {outcome : Except Failure Reply} : Turned handle .close outcome handle.released

/-! ## Methods -/

namespace Method

/-- Whatever the host replies, the method ends with an outcome and fields as `post` says. -/
def Leaves (method : Method α) (post : Except Fault α → Handle → Prop) (handle : Handle) : Prop :=
  (method.on handle).Ensures (fun _ => True) fun ended => post ended.1 ended.2

variable {handle : Handle} {post : Except Fault β → Handle → Prop}

theorem Leaves.of_runs {σ : Type} {answers : Answering σ} {state after : σ} {method : Method β}
    {outcome : Except Fault β} {later : Handle} (leaves : method.Leaves post handle)
    (run : (method.on handle).Runs answers state (outcome, later) after) : post outcome later := by
  have ensures : (method.on handle).Ensures (fun _ => True) fun ended => post ended.1 ended.2 := leaves
  exact ensures.of_runs run

theorem leaves_get {rest : Handle → Method β} (goes_on : (rest handle).Leaves post handle) :
    (do rest (← get) : Method β).Leaves post handle := goes_on

theorem leaves_modify {change : Handle → Handle} {rest : Method β}
    (goes_on : rest.Leaves post (change handle)) :
    (do modify change; rest : Method β).Leaves post handle := goes_on

theorem leaves_attempt {attempt : Attempt α} {rest : α → Method β}
    (fails : ∀ fault, post (.error fault) handle)
    (goes_on : ∀ value, (rest value).Leaves post handle) :
    (do let value ← attempt; rest value : Method β).Leaves post handle := by
  rw [Leaves, on_attempt]
  refine attempt.run.ensures_anything.bind ?_
  intro outcome _
  cases outcome with
  | ok value => exact goes_on value
  | error fault => exact fails fault

theorem leaves_attempt_last {attempt : Attempt β} (ends : ∀ outcome, post outcome handle) :
    (monadLift attempt : Method β).Leaves post handle := by
  rw [Leaves, on_attempt_last]
  exact attempt.run.ensures_anything.bind fun outcome _ => ends outcome

/-- A method that asks for the state goes on in one of the states. -/
theorem leaves_require {operation : String} {allowed : List SocketState} {rest : Method β}
    (fails : ∀ fault, post (.error fault) handle)
    (goes_on : handle.state ∈ allowed → rest.Leaves post handle) :
    (do Attempt.ofExcept (handle.require operation allowed); rest : Method β).Leaves post
      handle := by
  by_cases member : handle.state ∈ allowed
  · rw [require, if_pos member]
    exact goes_on member
  · rw [require, if_neg member]
    exact fails _

theorem leaves_request {call : Call} {rest : call.Reply → Method β}
    (goes_on : ∀ reply, (rest reply).Leaves post handle) :
    (do let reply ← Attempt.ofProgram (Program.request call); rest reply : Method β).Leaves post
      handle := ⟨trivial, goes_on⟩

end Method

open Method

/-- The method makes a turn of the command, once its result is given as a reply. -/
def Turns (handle : Handle) (command : Command) (reply : α → Reply) (method : Method α) : Prop :=
  method.Leaves (fun outcome later =>
    handle.Turned command ((outcome.map reply).mapError .fault) later) handle

variable {handle : Handle} {command : Command}

theorem Turned.failed (handle : Handle) (keeps : command ≠ .close) (reply : α → Reply) (fault : Fault) :
    handle.Turned command (((.error fault : Except Fault α).map reply).mapError .fault) handle :=
  .kept keeps

theorem turns_allocate (bare : handle.descriptor? = none) (protocol : Protocol)
    (reply : Unit → Reply) : handle.Turns (.create protocol) reply (allocate protocol) := by
  have keeps : Command.create protocol ≠ .close := nofun
  refine leaves_attempt (Turned.failed handle keeps reply) fun descriptor => ?_
  exact Turned.created descriptor bare

theorem turns_bindEndpoint (binds : command.Binds) (endpoint : Endpoint) (reply : Unit → Reply) :
    handle.Turns command reply (bindEndpoint endpoint) := by
  have fails := Turned.failed handle binds.keeps reply
  refine leaves_get (leaves_require fails fun created => ?_)
  refine leaves_attempt fails fun _ => leaves_attempt fails fun _ => ?_
  exact Turned.bound binds (List.mem_singleton.mp created)

theorem turns_bind (host : String) (port : UInt16) (reply : Unit → Reply) :
    handle.Turns (.bind host port) reply (bind host port) := by
  have binds : (Command.bind host port).Binds := trivial
  refine leaves_get (leaves_attempt (Turned.failed handle binds.keeps reply) fun endpoint => ?_)
  exact turns_bindEndpoint binds endpoint reply

theorem turns_listen (backlog : Int32) (reply : Unit → Reply) :
    handle.Turns (.listen backlog) reply (listen backlog) := by
  have keeps : Command.listen backlog ≠ .close := nofun
  have fails := Turned.failed handle keeps reply
  refine leaves_get (leaves_require fails fun created => ?_)
  cases bound : handle.bound with
  | false => exact fails _
  | true =>
      refine leaves_attempt fails fun _ => ?_
      exact Turned.listening (List.mem_singleton.mp created) bound

theorem turns_connectEndpoint (connects : command.Connects) (endpoint : Endpoint)
    (reply : Connection → Reply) :
    handle.Turns command reply (connectEndpoint endpoint) := by
  have fails := Turned.failed handle connects.keeps reply
  refine leaves_get (leaves_require fails fun member => ?_)
  have created : handle.state = .created := List.mem_singleton.mp member
  refine leaves_attempt fails fun _ => leaves_modify (leaves_request fun answer => ?_)
  -- The state is the provisional one here, and every way on writes it again.
  cases answer with
  | ok value => exact Turned.connected connects created
  | error errno =>
      dsimp only
      split
      · exact Turned.begun endpoint connects created
      · have restored : { handle with state := .created } = handle := by rw [← created]
        refine leaves_modify (show handle.Turned command _ { handle with state := .created } from ?_)
        rw [restored]
        exact fails _

theorem turns_connect (host : String) (port : UInt16) (reply : Connection → Reply) :
    handle.Turns (.connect host port) reply (connect host port) := by
  have connects : (Command.connect host port).Connects := trivial
  refine leaves_get (leaves_attempt (Turned.failed handle connects.keeps reply) fun endpoint => ?_)
  exact turns_connectEndpoint connects endpoint reply

theorem turns_finishConnect (reply : Bool → Reply) :
    handle.Turns .finishConnect reply finishConnect := by
  have keeps : Command.finishConnect ≠ .close := nofun
  have fails := Turned.failed handle keeps reply
  refine leaves_get ?_
  cases state : handle.state with
  | closed | created => exact fails _
  | opened => cases listens : handle.listening with
    | true => exact fails _
    | false => exact Turned.kept keeps
  | opening =>
      refine leaves_attempt fails fun pending => ?_
      cases pending with
      | some errno => exact Turned.refused errno _ state
      | none =>
          refine leaves_request fun answer => ?_
          cases answer with
          | ok name => exact Turned.finished state
          | error errno =>
              dsimp only
              split
              · exact Turned.kept keeps
              · exact fails _

theorem turns_shutdown (half : Half) (reply : Unit → Reply) :
    handle.Turns (.shutdown half) reply (shutdown half) := by
  have keeps : Command.shutdown half ≠ .close := nofun
  have fails := Turned.failed handle keeps reply
  refine leaves_get (leaves_require fails fun begun => ?_)
  cases down : handle.isShut half with
  | true => exact Turned.kept keeps
  | false =>
      refine leaves_attempt fails fun _ => ?_
      exact Turned.shut begun

theorem turns_close (reply : Unit → Reply) : handle.Turns .close reply close := by
  refine leaves_get ?_
  have ended : ∀ outcome, handle.Turned .close outcome handle.released := fun _ => .released
  rw [released] at ended
  cases held : handle.descriptor? with
  | none =>
      rw [held] at ended
      exact ended _
  | some descriptor =>
      rw [held] at ended
      exact leaves_modify (leaves_attempt_last fun outcome => ended _)

/-! ## Commands -/

theorem turned_replying {reply : α → Reply} {method : Method α}
    (turns : handle.Turns command reply method) :
    (handle.replying reply method).Ensures (fun _ => True) fun ended =>
      handle.Turned command ended.1 ended.2 :=
  Program.Ensures.bind turns fun _ turned => turned

/-- What borrows the handle only leaves it as it is. -/
theorem turned_borrowed (keeps : command ≠ .close) (reply : α → Reply) (attempt : Attempt α) :
    (handle.borrowed reply attempt).Ensures (fun _ => True) fun ended =>
      handle.Turned command ended.1 ended.2 :=
  turned_replying (leaves_attempt_last fun _ => .kept keeps)

/-- Every command makes a turn, whatever the fields are and whatever the host replies. -/
theorem turned_perform (handle : Handle) (command : Command) :
    (handle.perform command).Ensures (fun _ => True) fun ended =>
      handle.Turned command ended.1 ended.2 := by
  cases command with
  | create protocol =>
      simp only [perform, create]
      cases bare : handle.descriptor? with
      | none => exact turned_replying (turns_allocate bare protocol _)
      | some descriptor => exact Turned.kept nofun
  | bind host port => exact turned_replying (turns_bind host port _)
  | bindEndpoint endpoint =>
      have binds : (Command.bindEndpoint endpoint).Binds := trivial
      exact turned_replying (turns_bindEndpoint binds endpoint _)
  | listen backlog => exact turned_replying (turns_listen backlog _)
  | connect host port => exact turned_replying (turns_connect host port _)
  | connectEndpoint endpoint =>
      have connects : (Command.connectEndpoint endpoint).Connects := trivial
      exact turned_replying (turns_connectEndpoint connects endpoint _)
  | finishConnect => exact turned_replying (turns_finishConnect _)
  | shutdown half => exact turned_replying (turns_shutdown half _)
  | close => exact turned_replying (turns_close _)
  | send | receive | sendTo | receiveFrom | localEndpoint | remoteEndpoint | localPort
  | setNonblocking | isNonblocking | writeOption => exact turned_borrowed (by nofun) _ _
  | readOption option => cases option <;> exact turned_borrowed (by nofun) _ _
  | readOctets capacity =>
      exact (handle.readOctets capacity).ensures_anything.bind fun _ _ => .kept nofun
  | writeOctets data =>
      exact (handle.writeOctets data).ensures_anything.bind fun _ _ => .kept nofun

end Handle

end SocketReactor
