import SocketReactor.Proofs.Handle.Methods
import SocketReactor.Socket.Command

/-!
# What the operations on a socket come to

The methods write the fields of a handle one by one. Between the fields of a socket they
come to operations that find the parts of a live socket, make their calls and either
succeed or keep the socket as it was. An equation for each operation says so, and
`Socket.perform_eq` says it of a command.
-/

namespace SocketReactor

variable {α β : Type}

namespace Socket

def require (socket : Socket) (operation : String) (allowed : List SocketState) :
    Except Fault LiveSocket :=
  match socket with
  | live parts =>
      if parts.stage.state ∈ allowed then .ok parts
      else .error (.wrongState operation parts.stage.state.name)
  | closed _ => .error (.wrongState operation SocketState.closed.name)

/-- The operation that keeps the socket as it was if the attempt fails. -/
def commit (socket : Socket) (attempt : Attempt (α × Socket)) :
    Program (Except Fault α × Socket) := do
  match ← attempt.run with
  | .ok (value, after) => return (.ok value, after)
  | .error fault => return (.error fault, socket)

def endpointOf (socket : Socket) (operation : String) (host : String) (port : UInt16) :
    Attempt Endpoint := do
  let parts ← Attempt.ofExcept (socket.require operation [.created])
  let family ← Attempt.ofExcept parts.addressFamily
  return .new (← Lookup.resolve host family) port

end Socket

theorem Stage.eq_fresh {stage : Stage} (created : stage.state ∈ [SocketState.created]) :
    stage = .fresh := by
  cases stage with
  | fresh => rfl
  | listening | connected | connecting target => simp [Stage.state] at created

/-! ## The fields of a live socket -/

namespace Handle

theorem ofSocket_stage (parts : LiveSocket) : (ofSocket (.live parts)).stage = parts.stage := by
  obtain ⟨descriptor, protocol, bound, readShut, writeShut, stage⟩ := parts
  cases stage <;> rfl

theorem socket_unshut (descriptor : Descriptor) (state : SocketState) (protocol : Protocol)
    (bound listening : Bool) (target? : Option Endpoint) :
    socket ⟨some descriptor, state, 0, some protocol, bound, listening, target?⟩ =
      .live ⟨descriptor, protocol, bound, false, false,
        stage ⟨some descriptor, state, 0, some protocol, bound, listening, target?⟩⟩ :=
  socket_live descriptor state false false protocol bound listening target?

theorem ofSocket_require (socket : Socket) (operation : String) (allowed : List SocketState)
    (live : SocketState.closed ∉ allowed) :
    (ofSocket socket).require operation allowed =
      (socket.require operation allowed).map fun _ => () := by
  cases socket with
  | closed last => exact if_neg live
  | live parts =>
      show (if parts.stage.state ∈ allowed then _ else _) =
        Except.map _ (if parts.stage.state ∈ allowed then _ else _)
      split <;> rfl

theorem shutBits_or_read (writeShut : Bool) :
    shutBits false writeShut ||| Half.read.bit = shutBits true writeShut := by
  cases writeShut <;> decide

theorem shutBits_or_write (readShut : Bool) :
    shutBits readShut false ||| Half.write.bit = shutBits readShut true := by
  cases readShut <;> decide

theorem ofSocket_isShut (parts : LiveSocket) (half : Half) :
    (ofSocket (.live parts)).isShut half =
      match half with
      | .read => parts.readShut
      | .write => parts.writeShut := shutBits_and_bit parts.readShut parts.writeShut half

end Handle

namespace Socket

variable {socket : Socket}

/-- A socket that passes a check is live and in one of the states. -/
theorem eq_live_of_require {operation : String} {allowed : List SocketState} {parts : LiveSocket}
    (required : socket.require operation allowed = .ok parts) :
    socket = live parts ∧ parts.stage.state ∈ allowed := by
  cases socket with
  | closed last => cases required
  | live held =>
      simp only [require] at required
      split at required
      · rename_i member
        cases required
        exact ⟨rfl, member⟩
      · cases required

/-! ## Methods as attempts on the socket -/

theorem through_attempt (attempt : Attempt α) {rest : α → Handle.Method β}
    {next : α → Attempt (β × Socket)}
    (agree : ∀ value, socket.through (rest value) = socket.commit (next value)) :
    socket.through (do let value ← attempt; rest value) = socket.commit (attempt >>= next) := by
  rw [through, Handle.Method.on_attempt, bind_assoc]
  show _ = ((attempt.run >>= ExceptT.bindCont next) >>= _ : Program (Except Fault β × Socket))
  rw [bind_assoc]
  refine congrArg (attempt.run >>= ·) (funext fun outcome => ?_)
  cases outcome with
  | ok value => exact agree value
  | error fault => exact congrArg (fun kept => Program.done (Except.error fault, kept)) (Handle.socket_ofSocket socket)

theorem through_require {operation : String} {allowed : List SocketState}
    (closed : SocketState.closed ∉ allowed) {rest : Handle → Handle.Method α}
    {next : LiveSocket → Attempt (α × Socket)}
    (agree : ∀ parts, socket = live parts → parts.stage.state ∈ allowed →
      socket.through (rest (.ofSocket (live parts))) = socket.commit (next parts)) :
    socket.through (do
        let handle ← get
        Attempt.ofExcept (handle.require operation allowed)
        rest handle) =
      socket.commit (do
        let parts ← Attempt.ofExcept (socket.require operation allowed)
        next parts) := by
  show ((do Attempt.ofExcept ((Handle.ofSocket socket).require operation allowed)
            rest (.ofSocket socket) : Handle.Method α).on (.ofSocket socket) >>= _) = _
  rw [Handle.ofSocket_require socket operation allowed closed]
  cases required : socket.require operation allowed with
  | ok parts =>
      obtain ⟨rfl, member⟩ := eq_live_of_require required
      exact agree parts rfl member
  | error fault =>
      exact congrArg (fun kept => Program.done (Except.error fault, kept))
        (Handle.socket_ofSocket socket)

theorem through_throw (fault : Fault) :
    socket.through (throw fault : Handle.Method α) = socket.commit (throw fault) :=
  congrArg (fun kept => Program.done (Except.error fault, kept)) (Handle.socket_ofSocket socket)

theorem through_pure (value : α) :
    socket.through (pure value : Handle.Method α) = socket.commit (pure (value, socket)) :=
  congrArg (fun kept => Program.done (Except.ok value, kept)) (Handle.socket_ofSocket socket)

theorem through_modify {change : Handle → Handle} {after : Socket}
    (shows : (change (Handle.ofSocket socket)).socket = after) :
    socket.through (modify change) = socket.commit (pure ((), after)) :=
  congrArg (fun kept => Program.done (Except.ok (), kept)) shows

/-- A method that finds what it needs first. -/
theorem through_resolved (attempt : Handle → Attempt α) {method : α → Handle.Method β}
    {next : Except Fault α → Program (Except Fault β × Socket)}
    (found : ∀ value, next (.ok value) = socket.through (method value))
    (missed : ∀ fault, next (.error fault) = .done (.error fault, socket)) :
    socket.through (do method (← (attempt (← get) : Handle.Method α))) =
      (attempt (.ofSocket socket)).run >>= next := by
  show ((do method (← attempt (.ofSocket socket)) : Handle.Method β).on (.ofSocket socket) >>= _) =
    _
  rw [Handle.Method.on_attempt, bind_assoc]
  refine congrArg ((attempt (.ofSocket socket)).run >>= ·) (funext fun outcome => ?_)
  cases outcome with
  | ok value => exact (found value).symm
  | error fault =>
      rw [missed]
      exact congrArg (fun kept => Program.done (Except.error fault, kept))
        (Handle.socket_ofSocket socket)

/-- An attempt that first asks for the state. -/
theorem require_attempt {operation : String} {allowed : List SocketState}
    (closed : SocketState.closed ∉ allowed) {rest : Attempt α} {next : LiveSocket → Attempt α}
    (agree : ∀ parts, socket = live parts → rest = next parts) :
    (do
        Attempt.ofExcept ((Handle.ofSocket socket).require operation allowed)
        rest) = (do
        let parts ← Attempt.ofExcept (socket.require operation allowed)
        next parts) := by
  rw [Handle.ofSocket_require socket operation allowed closed]
  cases required : socket.require operation allowed with
  | ok parts => exact agree parts (eq_live_of_require required).1
  | error fault => rfl

/-! ## The life of a socket -/

variable (socket)

theorem openNew_eq (protocol : Protocol) :
    openNew protocol = (do
      let descriptor ← Attempt.ofCall
        (Program.request (.socket protocol.family protocol.kind protocol.number))
        (.socketFailed · protocol.text)
      return live ⟨descriptor, protocol, false, false, false, .fresh⟩) := by
  refine congrArg (Program.ask _) (funext fun reply => ?_)
  cases reply with
  | ok descriptor =>
      exact congrArg (fun opened => Program.done (Except.ok opened))
        (Handle.socket_unshut descriptor .created protocol false false none)
  | error errno => rfl

theorem create_eq (protocol : Protocol) :
    socket.create protocol = match socket.owned? with
      | some descriptor => .error (.create descriptor)
      | none => .ok (socket.commit do return ((), ← openNew protocol)) := by
  cases socket with
  | live parts => rfl
  | closed last =>
      refine congrArg Except.ok (congrArg (Program.ask _) (funext fun reply => ?_))
      cases reply with
      | ok descriptor => exact congrArg (fun opened => Program.done (Except.ok (), opened)) rfl
      | error errno => rfl

theorem bindEndpoint_eq (endpoint : Endpoint) :
    socket.bindEndpoint endpoint = socket.commit do
      let parts ← Attempt.ofExcept (socket.require "bind" [.created])
      Attempt.ofExcept (parts.checkFamily endpoint)
      Attempt.ofCall (Program.request (.bind parts.descriptor endpoint.wire))
        (.bindFailed · endpoint.toText)
      return ((), live { parts with bound := true }) := by
  refine through_require (by decide) fun parts is_live _ => ?_
  subst is_live
  refine through_attempt _ fun _ => through_attempt _ fun _ => through_modify ?_
  rw [Handle.ofSocket, Handle.socket_live]
  exact congrArg (fun stage => live { parts with bound := true, stage := stage })
    (Handle.ofSocket_stage parts)

theorem endpointOf_eq (operation : String) (host : String) (port : UInt16) :
    (Handle.ofSocket socket).endpointOf operation host port =
      socket.endpointOf operation host port := by
  refine require_attempt (by decide) fun parts is_live => ?_
  subst is_live
  rfl

theorem bind_eq (host : String) (port : UInt16) :
    socket.bind host port = (do
      match ← (socket.endpointOf "bind" host port).run with
      | .ok endpoint => socket.bindEndpoint endpoint
      | .error fault => return (.error fault, socket)) := by
  rw [← endpointOf_eq]
  exact through_resolved (Handle.endpointOf · "bind" host port) (fun _ => rfl) fun _ => rfl

theorem listen_eq (backlog : Int32) :
    socket.listen backlog = socket.commit (do
      let parts ← Attempt.ofExcept (socket.require "listen" [.created])
      if !parts.bound then throw (.wrongState "listen" "created but not bound")
      Attempt.ofCall (Program.request (.listen parts.descriptor backlog))
        (.listenFailed · backlog)
      return ((), live { parts with stage := .listening })) := by
  refine through_require (by decide) fun parts is_live _ => ?_
  subst is_live
  obtain ⟨descriptor, protocol, bound, readShut, writeShut, stage⟩ := parts
  cases bound with
  | false => exact through_throw _
  | true => exact through_attempt _ fun _ => through_modify (Handle.socket_live ..)

theorem takeConnection_eq :
    socket.takeConnection = (do
      let parts ← Attempt.ofExcept (socket.require "accept" [.opened])
      if parts.stage ≠ .listening then throw (.wrongState "accept" "open but not listening")
      match ← Attempt.ofProgram (Program.request (.accept parts.descriptor)) with
      | .ok (descriptor, peer) => match peer.endpoint with
        | .ok peer =>
            return .accepted (live ⟨descriptor, parts.protocol, true, false, false, .connected⟩)
              peer
        | .error fault => do
            let _ ← Attempt.ofProgram (Program.request (.close descriptor))
            throw fault
      | .error errno =>
          if errno = .tryAgain then return .wouldBlock
          else if errno = .interrupted then return .interrupted
          else throw (.acceptFailed errno)) := by
  cases socket with
  | closed last => rfl
  | live parts =>
      obtain ⟨descriptor, protocol, bound, readShut, writeShut, stage⟩ := parts
      cases stage with
      | fresh | connected | connecting target => rfl
      | listening =>
          show Accepted.map Handle.socket <$>
              (Attempt.ofProgram (Program.request (.accept descriptor)) >>= _) =
            Attempt.ofProgram (Program.request (.accept descriptor)) >>= _
          rw [map_bind]
          refine congrArg (Attempt.ofProgram _ >>= ·) (funext fun reply => ?_)
          cases reply with
          | ok accepted =>
              obtain ⟨taken, peer⟩ := accepted
              dsimp only
              cases peer.endpoint with
              | ok endpoint =>
                  exact congrArg (fun kept => Program.done (Except.ok (Accepted.accepted kept _)))
                    (Handle.socket_unshut ..)
              | error fault => rfl
          | error errno =>
              dsimp only
              split
              · rfl
              · split <;> rfl

theorem connectEndpoint_eq (endpoint : Endpoint) :
    socket.connectEndpoint endpoint = socket.commit (do
      let parts ← Attempt.ofExcept (socket.require "connect" [.created])
      Attempt.ofExcept (parts.checkFamily endpoint)
      match ← Attempt.ofProgram (Program.request (.connect parts.descriptor endpoint.wire)) with
      | .ok () => return (.connected, live { parts with stage := .connected })
      | .error errno =>
          if errno = .inProgress ∨ errno = .interrupted then
            return (.inProgress, live { parts with stage := .connecting endpoint })
          else throw (.connectFailed errno endpoint.toText)) := by
  refine through_require (by decide) fun parts is_live created => ?_
  subst is_live
  obtain ⟨descriptor, protocol, bound, readShut, writeShut, stage⟩ := parts
  cases Stage.eq_fresh created
  refine through_attempt _ fun _ => congrArg (Program.ask _) (funext fun reply => ?_)
  cases reply with
  | ok done =>
      exact congrArg (fun kept => Program.done (Except.ok Connection.connected, kept))
        (Handle.socket_live ..)
  | error errno =>
      show (Handle.Method.on (if _ then _ else _) _ >>= _) =
        (ExceptT.run (if _ then _ else _) >>= _)
      split
      · exact congrArg (fun kept => Program.done (Except.ok Connection.inProgress, kept))
          (Handle.socket_live ..)
      · exact congrArg (fun kept => Program.done (Except.error _, kept)) (Handle.socket_live ..)

theorem connect_eq (host : String) (port : UInt16) :
    socket.connect host port = (do
      match ← (socket.endpointOf "connect" host port).run with
      | .ok endpoint => socket.connectEndpoint endpoint
      | .error fault => return (.error fault, socket)) := by
  rw [← endpointOf_eq]
  exact through_resolved (Handle.endpointOf · "connect" host port) (fun _ => rfl) fun _ => rfl

theorem finishConnect_eq :
    socket.finishConnect = match socket with
      | closed _ => return (.error (.wrongState "finish_connect" SocketState.closed.name), socket)
      | live parts => match parts.stage with
        | .connected => return (.ok true, socket)
        | .fresh | .listening =>
            return (.error (.wrongState "finish_connect" parts.stage.state.name), socket)
        | .connecting target => do
            match ← Program.request (.intOption parts.descriptor .error) with
            | .error errno => return (.error (.getOptionFailed errno IntOption.error.name), socket)
            | .ok pending =>
                if pending ≠ 0 then
                  return (.error (.connectFailed ⟨pending⟩ target.toText),
                    live { parts with stage := .fresh })
                else match ← Program.request (.peerName parts.descriptor) with
                  | .ok _ => return (.ok true, live { parts with stage := .connected })
                  | .error errno =>
                      if errno = .notConnected then return (.ok false, socket)
                      else return (.error (.transferFailed errno "getpeername"), socket) := by
  cases socket with
  | closed last => rfl
  | live parts =>
      obtain ⟨descriptor, protocol, bound, readShut, writeShut, stage⟩ := parts
      cases stage with
      | connected =>
          exact congrArg (fun kept => Program.done (Except.ok true, kept)) (Handle.socket_ofSocket _)
      | fresh | listening =>
          exact congrArg (fun kept => Program.done (Except.error _, kept)) (Handle.socket_ofSocket _)
      | connecting target =>
          have same := Handle.socket_ofSocket
            (live ⟨descriptor, protocol, bound, readShut, writeShut, .connecting target⟩)
          refine Eq.trans (congrArg (· >>= _) (Handle.Method.on_takeError _ _ _)) ?_
          refine congrArg (Program.ask _) (funext fun reply => ?_)
          cases reply with
          | error errno =>
              exact congrArg (fun kept => Program.done (Except.error _, kept)) same
          | ok pending =>
              dsimp only
              show _ = if pending ≠ 0 then _ else _
              by_cases clear : pending = 0
              · rw [if_neg (not_not_intro clear), if_neg (not_not_intro clear)]
                refine congrArg (Program.ask _) (funext fun reply => ?_)
                cases reply with
                | ok name =>
                    exact congrArg (fun kept => Program.done (Except.ok true, kept))
                      (Handle.socket_live ..)
                | error errno =>
                    show Handle.Method.on (if errno = .notConnected then _ else _) _ >>= _ =
                      if errno = .notConnected then _ else _
                    split
                    · exact congrArg (fun kept => Program.done (Except.ok false, kept)) same
                    · exact congrArg (fun kept => Program.done (Except.error _, kept)) same
              · rw [if_pos clear, if_pos clear]
                exact congrArg (fun kept => Program.done (Except.error _, kept))
                  (Handle.socket_live ..)

theorem shutdown_eq (half : Half) :
    socket.shutdown half = socket.commit (do
      let parts ← Attempt.ofExcept
        (socket.require (Handle.shutdownName half) [.opened, .opening])
      let (already, after) := match half with
        | .read => (parts.readShut, { parts with readShut := true })
        | .write => (parts.writeShut, { parts with writeShut := true })
      if already then return ((), socket)
      Attempt.ofCall (Program.request (.shutdown parts.descriptor half))
        (.transferFailed · "shutdown")
      return ((), live after)) := by
  refine through_require (by cases half <;> decide) fun parts is_live _ => ?_
  subst is_live
  obtain ⟨descriptor, protocol, bound, readShut, writeShut, stage⟩ := parts
  show through _ (if Handle.isShut _ half then _ else _) = _
  rw [Handle.ofSocket_isShut]
  cases half with
  | read => cases readShut with
    | true => exact through_pure ()
    | false =>
        refine through_attempt _ fun _ => through_modify ?_
        exact (congrArg (fun bits => Handle.socket ⟨_, _, bits, _, _, _, _⟩)
          (Handle.shutBits_or_read writeShut)).trans
            (Handle.socket_ofSocket (live ⟨descriptor, protocol, bound, true, writeShut, stage⟩))
  | write => cases writeShut with
    | true => exact through_pure ()
    | false =>
        refine through_attempt _ fun _ => through_modify ?_
        exact (congrArg (fun bits => Handle.socket ⟨_, _, bits, _, _, _, _⟩)
          (Handle.shutBits_or_write readShut)).trans
            (Handle.socket_ofSocket (live ⟨descriptor, protocol, bound, readShut, true, stage⟩))

theorem close_eq :
    socket.close = match socket with
      | closed _ => return (.ok (), socket)
      | live parts => do
          match ← Program.request (.close parts.descriptor) with
          | .ok () => return (.ok (), closed (some parts.protocol))
          | .error errno => return (.error (.closeFailed errno), closed (some parts.protocol)) := by
  cases socket with
  | closed last => rfl
  | live parts =>
      refine congrArg (Program.ask _) (funext fun reply => ?_)
      cases reply <;> rfl

theorem take_eq : socket.take = (socket, empty) :=
  congrArg (·, empty) (Handle.socket_ofSocket socket)

theorem adopt_eq (other : Socket) :
    socket.adopt other = match socket.owned? with
      | some descriptor => .error (.adopt descriptor)
      | none => .ok other := by
  cases socket with
  | live parts => rfl
  | closed last => exact congrArg Except.ok (Handle.socket_ofSocket other)

/-! ## What a socket exchanges -/

theorem send_eq (data : List UInt8) :
    socket.send data = (do
      let parts ← Attempt.ofExcept (socket.require "send" [.opened])
      Handle.transfer (Program.request (.send parts.descriptor data)) "send" fun sent =>
        return .done sent) := by
  refine require_attempt (by decide) fun parts is_live => ?_
  subst is_live
  rfl

theorem receive_eq (capacity : Nat) :
    socket.receive capacity = (do
      let parts ← Attempt.ofExcept (socket.require "receive" [.opened])
      Handle.transfer (Program.request (.receive parts.descriptor capacity)) "recv" fun data =>
        if data = [] ∧ capacity ≠ 0 ∧ parts.protocol.kind = .stream then return .peerClosed
        else return .done data) := by
  refine require_attempt (by decide) fun parts is_live => ?_
  subst is_live
  refine congrArg (Handle.transfer _ "recv") (funext fun data => ?_)
  show (if _ ∧ _ ∧ decide (parts.protocol.kind = .stream) = true then _ else _) = _
  simp only [decide_eq_true_eq]

theorem sendTo_eq (data : List UInt8) (endpoint : Endpoint) :
    socket.sendTo data endpoint = (do
      let parts ← Attempt.ofExcept (socket.require "send_to" [.created, .opened])
      Attempt.ofExcept (parts.checkFamily endpoint)
      Handle.transfer (Program.request (.sendTo parts.descriptor data endpoint.wire)) "sendto"
        fun sent => return .done sent) := by
  refine require_attempt (by decide) fun parts is_live => ?_
  subst is_live
  rfl

theorem receiveFrom_eq (capacity : Nat) :
    socket.receiveFrom capacity = (do
      let parts ← Attempt.ofExcept (socket.require "recv_from" [.created, .opened])
      Handle.transfer (Program.request (.receiveFrom parts.descriptor capacity)) "recvfrom"
        fun (data, sender) => do
          let endpoint ← Attempt.ofExcept sender.endpoint
          return .done (data, endpoint)) := by
  refine require_attempt (by decide) fun parts is_live => ?_
  subst is_live
  rfl

theorem localEndpoint_eq :
    socket.localEndpoint = (do
      let parts ← Attempt.ofExcept (socket.require "local_endpoint" Handle.anyLive)
      let name ← Attempt.ofCall (Program.request (.localName parts.descriptor))
        (.transferFailed · "getsockname")
      Attempt.ofExcept name.endpoint) := by
  refine require_attempt (by decide) fun parts is_live => ?_
  subst is_live
  rfl

theorem remoteEndpoint_eq :
    socket.remoteEndpoint = (do
      let parts ← Attempt.ofExcept (socket.require "remote_endpoint" [.opened])
      let name ← Attempt.ofCall (Program.request (.peerName parts.descriptor))
        (.transferFailed · "getpeername")
      Attempt.ofExcept name.endpoint) := by
  refine require_attempt (by decide) fun parts is_live => ?_
  subst is_live
  rfl

theorem setNonblocking_eq (nonblocking : Bool) :
    socket.setNonblocking nonblocking = (do
      let parts ← Attempt.ofExcept (socket.require "set_nonblocking" Handle.anyLive)
      let flags ← Attempt.ofCall (Program.request (.statusFlags parts.descriptor))
        (.getOptionFailed · Handle.nonblockingName)
      let wanted :=
        if nonblocking then flags ||| Handle.nonblockingFlag
        else flags &&& ~~~Handle.nonblockingFlag
      if wanted ≠ flags then
        Attempt.ofCall (Program.request (.setStatusFlags parts.descriptor wanted))
          (.setOptionFailed · Handle.nonblockingName)) := by
  refine require_attempt (by decide) fun parts is_live => ?_
  subst is_live
  rfl

theorem isNonblocking_eq :
    socket.isNonblocking = (do
      let parts ← Attempt.ofExcept (socket.require "is_nonblocking" Handle.anyLive)
      let flags ← Attempt.ofCall (Program.request (.statusFlags parts.descriptor))
        (.getOptionFailed · Handle.nonblockingName)
      return flags &&& Handle.nonblockingFlag ≠ 0) := by
  refine require_attempt (by decide) fun parts is_live => ?_
  subst is_live
  rfl

theorem readOctets_eq (capacity : Nat) :
    socket.readOctets capacity =
      (do return Transfer.plain [] (← (socket.receive capacity).run)) := rfl

theorem writeOctets_eq (data : List UInt8) :
    socket.writeOctets data = (do return Transfer.plain 0 (← (socket.send data).run)) := rfl

/-! ## Commands -/

def replying (reply : α → Reply) (step : Program (Except Fault α × Socket)) :
    Program (Except Failure Reply × Socket) := do
  let (outcome, after) ← step
  return ((outcome.map reply).mapError .fault, after)

/-- The attempt on a socket that it leaves alone, with its result given as a reply. -/
def replyingTo (reply : α → Reply) (attempt : Attempt α) :
    Program (Except Failure Reply × Socket) := replying reply (socket.observe attempt)

def readOption : OptionRead → Program (Except Failure Reply × Socket)
  | .flag option => socket.replyingTo .truth (socket.descriptor.flagOption option)
  | .size option => socket.replyingTo .quantity (socket.descriptor.sizeOption option)
  | .timeout option => socket.replyingTo .quantity (socket.descriptor.timeoutOption option)
  | .linger => socket.replyingTo .seconds socket.descriptor.lingerOption
  | .pendingError => socket.replyingTo .pending socket.descriptor.takeError

def respond : Command → Program (Except Failure Reply × Socket)
  | .create protocol => match socket.create protocol with
    | .ok step => replying (fun () => .nothing) step
    | .error misuse => return (.error (.misuse misuse), socket)
  | .bind host port => replying (fun () => .nothing) (socket.bind host port)
  | .bindEndpoint endpoint => replying (fun () => .nothing) (socket.bindEndpoint endpoint)
  | .listen backlog => replying (fun () => .nothing) (socket.listen backlog)
  | .connect host port => replying .connection (socket.connect host port)
  | .connectEndpoint endpoint => replying .connection (socket.connectEndpoint endpoint)
  | .finishConnect => replying .truth socket.finishConnect
  | .send data => socket.replyingTo .sent (socket.send data)
  | .receive capacity => socket.replyingTo .received (socket.receive capacity)
  | .sendTo data endpoint => socket.replyingTo .sent (socket.sendTo data endpoint)
  | .receiveFrom capacity => socket.replyingTo .message (socket.receiveFrom capacity)
  | .readOctets capacity => do
      let outcome ← socket.readOctets capacity
      return ((outcome.map .octets).mapError .stream, socket)
  | .writeOctets data => do
      let outcome ← socket.writeOctets data
      return ((outcome.map .count).mapError .stream, socket)
  | .shutdown half => replying (fun () => .nothing) (socket.shutdown half)
  | .close => replying (fun () => .nothing) socket.close
  | .localEndpoint => socket.replyingTo .endpoint socket.localEndpoint
  | .remoteEndpoint => socket.replyingTo .endpoint socket.remoteEndpoint
  | .localPort => socket.replyingTo .port socket.localPort
  | .setNonblocking enabled =>
      socket.replyingTo (fun () => .nothing) (socket.setNonblocking enabled)
  | .isNonblocking => socket.replyingTo .truth socket.isNonblocking
  | .readOption option => socket.readOption option
  | .writeOption write =>
      socket.replyingTo (fun () => .nothing) (write.apply socket.descriptor)

def readBack (step : Program (Except Failure Reply × Handle)) :
    Program (Except Failure Reply × Socket) := do
  let (outcome, handle) ← step
  return (outcome, handle.socket)

theorem readBack_replying (reply : α → Reply) (method : Handle.Method α) :
    readBack ((Handle.ofSocket socket).replying reply method) =
      replying reply (socket.through method) := by
  simp only [readBack, Handle.replying, replying, through, bind_assoc, Program.pure_eq_done,
    Program.done_bind]

theorem readBack_borrowed (reply : α → Reply) (attempt : Attempt α) :
    readBack ((Handle.ofSocket socket).borrowed reply attempt) =
      socket.replyingTo reply attempt := by
  rw [Handle.borrowed, readBack_replying, replyingTo, through, Handle.Method.on_attempt_last,
    observe, bind_assoc]
  simp only [Program.pure_eq_done, Program.done_bind, Handle.socket_ofSocket]

theorem descriptor_ofSocket : (Handle.ofSocket socket).descriptor = socket.descriptor := by
  cases socket <;> rfl

theorem perform_eq (command : Command) : socket.perform command = socket.respond command := by
  show readBack ((Handle.ofSocket socket).perform command) = _
  cases command with
  | create protocol => cases socket with
    | live parts =>
        exact congrArg (fun kept => Program.done (Except.error _, kept)) (Handle.socket_ofSocket _)
    | closed last => exact readBack_replying ..
  | bind host port => exact readBack_replying ..
  | bindEndpoint endpoint => exact readBack_replying ..
  | listen backlog => exact readBack_replying ..
  | shutdown half => exact readBack_replying ..
  | close => exact readBack_replying ..
  | connect host port => exact readBack_replying ..
  | connectEndpoint endpoint => exact readBack_replying ..
  | finishConnect => exact readBack_replying ..
  | send | receive | sendTo | receiveFrom | localEndpoint | remoteEndpoint | localPort
  | setNonblocking | isNonblocking => exact readBack_borrowed ..
  | readOctets capacity =>
      simp only [readBack, Handle.perform, respond, readOctets, bind_assoc, Program.pure_eq_done,
        Program.done_bind, Handle.socket_ofSocket]
  | writeOctets data =>
      simp only [readBack, Handle.perform, respond, writeOctets, bind_assoc, Program.pure_eq_done,
        Program.done_bind, Handle.socket_ofSocket]
  | readOption option =>
      cases option <;> exact (readBack_borrowed ..).trans (by rw [descriptor_ofSocket]; rfl)
  | writeOption write =>
      exact (readBack_borrowed ..).trans (by rw [descriptor_ofSocket]; rfl)

end Socket

end SocketReactor
