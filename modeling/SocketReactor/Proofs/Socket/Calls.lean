import SocketReactor.Proofs.Socket.Turns

/-!
# The calls of a command

A command makes a call that receives, or that changes something of a descriptor, only if it asks
for that.  Whatever else it calls, it looks or sends.
-/

namespace SocketReactor

variable {command : Command}

/-- The command asks for what the call takes in or changes of a descriptor, if it does so. -/
def Call.Serves (command : Command) : Call → Prop
  | .socket _ _ _ => ∃ protocol, command = .create protocol
  | .bind _ _ => command.Binds
  | .listen _ backlog => command = .listen backlog
  | .connect _ _ => command.Connects
  | .receive _ capacity => command = .receive capacity ∨ command = .readOctets capacity
  | .receiveFrom _ capacity => command = .receiveFrom capacity
  | .shutdown _ half => command = .shutdown half
  | .close _ => command = .close
  | .setStatusFlags _ _ => ∃ enabled, command = .setNonblocking enabled
  | .setIntOption _ _ _ | .setTimeOption _ _ _ | .setLingerOption _ _ =>
      ∃ write, command = .writeOption write
  | .accept _ | .openBackend | .openPipe | .watch _ _ | .await _ _ _ | .readPipe _ _
  | .writePipe _ _ => False
  | _ => True

namespace Socket

variable {socket : Socket}

theorem serves_bindEndpoint (binds : command.Binds) (endpoint : Endpoint) :
    (socket.bindEndpoint endpoint).Ensures (Call.Serves command) fun _ => True := by
  rw [bindEndpoint_eq]
  exact only_commit <| (Attempt.only_ofExcept _).bind fun _ => (Attempt.only_ofExcept _).bind fun _ =>
    (Attempt.only_ofCall (Program.only_request binds)).bind fun _ => Attempt.only_pure _

theorem serves_listen (backlog : Int32) :
    (socket.listen backlog).Ensures (Call.Serves (.listen backlog)) fun _ => True := by
  rw [listen_eq]
  refine only_commit ((Attempt.only_ofExcept _).bind fun parts => ?_)
  have listens : (Attempt.ofCall (Program.request (.listen parts.descriptor backlog))
      (.listenFailed · backlog)).Only (Call.Serves (.listen backlog)) :=
    Attempt.only_ofCall (Program.only_request rfl)
  cases parts.bound with
  | false => exact Attempt.ensures_throw _
  | true => exact listens.bind fun _ => Attempt.only_pure _

theorem serves_connectEndpoint (connects : command.Connects) (endpoint : Endpoint) :
    (socket.connectEndpoint endpoint).Ensures (Call.Serves command) fun _ => True := by
  rw [connectEndpoint_eq]
  refine only_commit ((Attempt.only_ofExcept _).bind fun parts =>
    (Attempt.only_ofExcept _).bind fun _ =>
      Attempt.Only.bind (Attempt.ensures_ofProgram (Program.only_request connects)) ?_)
  intro reply
  cases reply with
  | ok made => exact Attempt.only_pure _
  | error errno =>
      dsimp only
      split
      · exact Attempt.only_pure _
      · exact Attempt.ensures_throw _

theorem serves_finishConnect :
    socket.finishConnect.Ensures (Call.Serves .finishConnect) fun _ => True := by
  rw [finishConnect_eq]
  rcases socket with former | ⟨descriptor, protocol, bound, readShut, writeShut, stage⟩
  · trivial
  · cases stage with
    | fresh | listening | connected => trivial
    | connecting target =>
        have asked : (Program.request (.intOption descriptor .error)).Ensures
            (Call.Serves .finishConnect) fun _ => True := Program.only_request trivial
        have named : (Program.request (.peerName descriptor)).Ensures
            (Call.Serves .finishConnect) fun _ => True := Program.only_request trivial
        refine asked.bind ?_
        intro pending _
        cases pending with
        | error errno => trivial
        | ok pending =>
            dsimp only
            split
            · trivial
            · refine named.bind ?_
              intro name _
              cases name with
              | ok name => trivial
              | error errno =>
                  dsimp only
                  split <;> trivial

theorem serves_close : socket.close.Ensures (Call.Serves .close) fun _ => True := by
  rw [close_eq]
  cases socket with
  | closed former => trivial
  | live parts =>
      refine ⟨rfl, fun reply => ?_⟩
      cases reply <;> trivial

theorem serves_readOption (option : OptionRead) :
    (socket.readOption option).Ensures (Call.Serves command) fun _ => True := by
  have number : ∀ option, (socket.descriptor.intOption option).Only (Call.Serves command) :=
    fun _ => Descriptor.only_intOption trivial
  cases option with
  | flag option => exact only_replyingTo ((number option).bind fun _ => Attempt.only_pure _)
  | size option => exact only_replyingTo ((number option).bind fun _ => Attempt.only_pure _)
  | timeout option => exact only_replyingTo (Descriptor.only_timeoutOption trivial)
  | linger => exact only_replyingTo (Descriptor.only_lingerOption trivial)
  | pendingError => exact only_replyingTo ((number .error).bind fun _ => Attempt.only_pure _)

/-- A command makes a call that receives or changes something only if it asks for that. -/
theorem serves_perform (socket : Socket) (command : Command) :
    (socket.perform command).Ensures (Call.Serves command) fun _ => True := by
  rw [perform_eq]
  cases command with
  | create protocol =>
      rw [respond, create_eq]
      cases socket.owned? with
      | some descriptor => trivial
      | none =>
          rw [openNew_eq]
          refine only_replying (only_commit (Attempt.Only.bind ?_ fun _ => Attempt.only_pure _))
          exact Attempt.Only.bind (Attempt.only_ofCall (Program.only_request ⟨protocol, rfl⟩))
            fun _ => Attempt.only_pure _
  | bind host port =>
      have binds : (Command.bind host port).Binds := trivial
      rw [respond, bind_eq]
      exact only_replying (only_at (only_endpointOf (fun _ => trivial) _ _ _)
        (serves_bindEndpoint binds))
  | bindEndpoint endpoint =>
      have binds : (Command.bindEndpoint endpoint).Binds := trivial
      exact only_replying (serves_bindEndpoint binds endpoint)
  | listen backlog => exact only_replying (serves_listen backlog)
  | connect host port =>
      have connects : (Command.connect host port).Connects := trivial
      rw [respond, connect_eq]
      exact only_replying (only_at (only_endpointOf (fun _ => trivial) _ _ _)
        (serves_connectEndpoint connects))
  | connectEndpoint endpoint =>
      have connects : (Command.connectEndpoint endpoint).Connects := trivial
      exact only_replying (serves_connectEndpoint connects endpoint)
  | finishConnect => exact only_replying serves_finishConnect
  | send data => exact only_replyingTo (only_send trivial)
  | receive capacity => exact only_replyingTo (only_receive (.inl rfl))
  | sendTo data endpoint => exact only_replyingTo (only_sendTo trivial)
  | receiveFrom capacity => exact only_replyingTo (only_receiveFrom rfl)
  | readOctets capacity =>
      have received : (socket.readOctets capacity).Ensures
          (Call.Serves (.readOctets capacity)) fun _ => True :=
        Program.Ensures.bind (only_receive (.inr rfl)) fun _ _ => trivial
      exact received.bind fun _ _ => trivial
  | writeOctets data =>
      have sent : (socket.writeOctets data).Ensures
          (Call.Serves (.writeOctets data)) fun _ => True :=
        Program.Ensures.bind (only_send trivial) fun _ _ => trivial
      exact sent.bind fun _ _ => trivial
  | shutdown half => exact only_replying (only_shutdown rfl)
  | close => exact only_replying serves_close
  | localEndpoint => exact only_replyingTo (only_localEndpoint trivial)
  | remoteEndpoint => exact only_replyingTo (only_remoteEndpoint trivial)
  | localPort => exact only_replyingTo (only_localPort trivial)
  | setNonblocking enabled =>
      exact only_replyingTo (only_setNonblocking trivial fun _ => ⟨enabled, rfl⟩)
  | isNonblocking => exact only_replyingTo (only_isNonblocking trivial)
  | readOption option => exact serves_readOption option
  | writeOption write =>
      exact only_replyingTo (write.only_apply (fun _ _ => ⟨write, rfl⟩) (fun _ _ => ⟨write, rfl⟩)
        fun _ => ⟨write, rfl⟩)

end Socket

end SocketReactor
