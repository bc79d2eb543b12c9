import SocketReactor.Proofs.Host.Custody
import SocketReactor.Proofs.Socket.Outline

/-!
# What attempts on a socket touch

Which calls the attempts make that operations on a socket are put together from.  What a socket
exchanges, the options that it reads and writes and the look-up of a name: all of it gets and
closes nothing and names no descriptor but the socket's own.
-/

namespace SocketReactor

variable {α β : Type} {allowed : Call → Prop} {descriptor : Descriptor}

/-! ## The calls of an attempt -/

theorem Lookup.only_addressesOf (asks : ∀ host, allowed (.lookup host)) (host : String)
    (family : Option Family) : (addressesOf host family).Only allowed := by
  unfold addressesOf
  split
  · exact Attempt.only_pure _
  · split
    · exact Attempt.only_throw _
    · split
      · exact Attempt.only_throw _
      · refine (Program.only_request (asks host)).bind ?_
        intro reply _
        cases reply <;> exact fun _ _ => trivial

theorem Lookup.only_resolve (asks : ∀ host, allowed (.lookup host)) (host : String)
    (family : Family) : (resolve host family).Only allowed := by
  unfold resolve
  split
  · exact Attempt.only_throw _
  · split
    · exact Attempt.only_pure _
    · split
      · exact Attempt.only_throw _
      · refine (Lookup.only_addressesOf asks host _).bind ?_
        intro found
        cases found with
        | nil => exact Attempt.only_throw _
        | cons address rest => exact Attempt.only_pure _

theorem Descriptor.only_intOption {option : IntOption}
    (reads : allowed (.intOption descriptor option)) :
    (descriptor.intOption option).Only allowed := Attempt.only_ofCall (Program.only_request reads)

theorem Descriptor.only_timeoutOption {option : TimeOption}
    (reads : allowed (.timeOption descriptor option)) :
    (descriptor.timeoutOption option).Only allowed :=
  (Attempt.only_ofCall (Program.only_request reads)).bind fun _ => Attempt.only_pure _

theorem Descriptor.only_lingerOption (reads : allowed (.lingerOption descriptor)) :
    descriptor.lingerOption.Only allowed :=
  (Attempt.only_ofCall (Program.only_request reads)).bind fun _ => Attempt.only_pure _

theorem OptionWrite.only_apply
    (ints : ∀ option value, allowed (.setIntOption descriptor option value))
    (times : ∀ option value, allowed (.setTimeOption descriptor option value))
    (lingers : ∀ value, allowed (.setLingerOption descriptor value)) (write : OptionWrite) :
    (write.apply descriptor).Only allowed := by
  cases write with
  | int option value => exact Attempt.only_ofCall (Program.only_request (ints option value))
  | time option value => exact Attempt.only_ofCall (Program.only_request (times option value))
  | linger value => exact Attempt.only_ofCall (Program.only_request (lingers value))

namespace Socket

variable {socket : Socket}

/-- A live socket passes a check that admits every live state. -/
theorem require_anyLive (parts : LiveSocket) (operation : String) :
    (live parts).require operation Handle.anyLive = .ok parts := by
  cases stage : parts.stage <;> simp [require, stage, Stage.state, Handle.anyLive]

/-- An attempt that begins with a check of the socket goes on with the parts of the socket. -/
theorem only_require {operation : String} {states : List SocketState}
    {next : LiveSocket → Attempt α}
    (rest : ∀ parts, socket = .live parts → (next parts).Only allowed) :
    (Attempt.ofExcept (socket.require operation states) >>= next).Only allowed :=
  have passes : (Attempt.ofExcept (socket.require operation states)).Ensures allowed
      fun parts => socket = .live parts :=
    Attempt.ensures_ofExcept fun _ passed => (eq_live_of_require passed).1
  passes.bind rest

theorem only_observe {attempt : Attempt α} (only : attempt.Only allowed) :
    (socket.observe attempt).Ensures allowed fun _ => True :=
  Program.Ensures.bind only fun _ _ => trivial

theorem only_commit {attempt : Attempt (α × Socket)} (only : attempt.Only allowed) :
    (socket.commit attempt).Ensures allowed fun _ => True := by
  refine Program.Ensures.bind only ?_
  intro outcome _
  cases outcome <;> trivial

theorem only_replying {reply : α → Reply} {step : Program (Except Fault α × Socket)}
    (only : step.Ensures allowed fun _ => True) :
    (replying reply step).Ensures allowed fun _ => True :=
  only.bind fun _ _ => trivial

theorem only_replyingTo {reply : α → Reply} {attempt : Attempt α} (only : attempt.Only allowed) :
    (socket.replyingTo reply attempt).Ensures allowed fun _ => True :=
  only_replying (only_observe only)

theorem only_endpointOf (asks : ∀ host, allowed (.lookup host)) (operation host : String)
    (port : UInt16) : (socket.endpointOf operation host port).Only allowed :=
  (Attempt.only_ofExcept _).bind fun _ => (Attempt.only_ofExcept _).bind fun _ =>
    (Lookup.only_resolve asks host _).bind fun _ => Attempt.only_pure _

/-- An operation at a named place looks the name up first. -/
theorem only_at {attempt : Attempt Endpoint} {step : Endpoint → Program (Except Fault α × Socket)}
    (only : attempt.Only allowed) (rest : ∀ endpoint, (step endpoint).Ensures allowed fun _ => True) :
    (do
      match ← attempt.run with
      | .ok endpoint => step endpoint
      | .error fault => return (.error fault, socket) :
        Program (Except Fault α × Socket)).Ensures allowed fun _ => True := by
  refine Program.Ensures.bind only ?_
  intro outcome _
  cases outcome with
  | ok endpoint => exact rest endpoint
  | error fault => trivial

theorem only_transfer {call : Program (Except Errno α)} {name : String}
    {outcome : α → Attempt (Transfer β)} (only : call.Ensures allowed fun _ => True)
    (rest : ∀ value, (outcome value).Only allowed) :
    (Handle.transfer call name outcome).Only allowed := by
  refine Attempt.Only.bind (Attempt.ensures_ofProgram only) ?_
  intro reply
  cases reply with
  | ok value => exact rest value
  | error errno =>
      dsimp only
      split
      · exact Attempt.only_pure _
      · exact Attempt.only_throw _

theorem only_send {data : List UInt8} (sends : allowed (.send socket.descriptor data)) :
    (socket.send data).Only allowed := by
  rw [send_eq]
  refine only_require ?_
  rintro parts rfl
  exact only_transfer (Program.only_request sends) fun _ => Attempt.only_pure _

theorem only_receive {capacity : Nat} (receives : allowed (.receive socket.descriptor capacity)) :
    (socket.receive capacity).Only allowed := by
  rw [receive_eq]
  refine only_require ?_
  rintro parts rfl
  refine only_transfer (Program.only_request receives) ?_
  intro data
  split <;> exact Attempt.only_pure _

theorem only_sendTo {data : List UInt8} {endpoint : Endpoint}
    (sends : allowed (.sendTo socket.descriptor data endpoint.wire)) :
    (socket.sendTo data endpoint).Only allowed := by
  rw [sendTo_eq]
  refine only_require ?_
  rintro parts rfl
  exact (Attempt.only_ofExcept _).bind fun _ =>
    only_transfer (Program.only_request sends) fun _ => Attempt.only_pure _

theorem only_receiveFrom {capacity : Nat}
    (receives : allowed (.receiveFrom socket.descriptor capacity)) :
    (socket.receiveFrom capacity).Only allowed := by
  rw [receiveFrom_eq]
  refine only_require ?_
  rintro parts rfl
  exact only_transfer (Program.only_request receives) fun _ =>
    (Attempt.only_ofExcept _).bind fun _ => Attempt.only_pure _

theorem only_localEndpoint (asks : allowed (.localName socket.descriptor)) :
    socket.localEndpoint.Only allowed := by
  rw [localEndpoint_eq]
  refine only_require ?_
  rintro parts rfl
  exact (Attempt.only_ofCall (Program.only_request asks)).bind fun _ => Attempt.only_ofExcept _

theorem only_remoteEndpoint (asks : allowed (.peerName socket.descriptor)) :
    socket.remoteEndpoint.Only allowed := by
  rw [remoteEndpoint_eq]
  refine only_require ?_
  rintro parts rfl
  exact (Attempt.only_ofCall (Program.only_request asks)).bind fun _ => Attempt.only_ofExcept _

theorem only_localPort (asks : allowed (.localName socket.descriptor)) :
    socket.localPort.Only allowed :=
  (only_localEndpoint asks).bind fun _ => Attempt.only_pure _

theorem only_setNonblocking {enabled : Bool} (reads : allowed (.statusFlags socket.descriptor))
    (writes : ∀ flags, allowed (.setStatusFlags socket.descriptor flags)) :
    (socket.setNonblocking enabled).Only allowed := by
  rw [setNonblocking_eq]
  refine only_require ?_
  rintro parts rfl
  refine (Attempt.only_ofCall (Program.only_request reads)).bind ?_
  intro flags
  generalize (if enabled = true then flags ||| Handle.nonblockingFlag
    else flags &&& ~~~Handle.nonblockingFlag) = wanted
  dsimp only
  split
  · exact Attempt.only_ofCall (Program.only_request (writes wanted))
  · exact Attempt.only_pure _

theorem only_isNonblocking (reads : allowed (.statusFlags socket.descriptor)) :
    socket.isNonblocking.Only allowed := by
  rw [isNonblocking_eq]
  refine only_require ?_
  rintro parts rfl
  exact (Attempt.only_ofCall (Program.only_request reads)).bind fun _ => Attempt.only_pure _

theorem only_shutdown {half : Half} (ends : allowed (.shutdown socket.descriptor half)) :
    (socket.shutdown half).Ensures allowed fun _ => True := by
  rw [shutdown_eq]
  refine only_commit (only_require ?_)
  rintro parts rfl
  cases half <;>
  · dsimp only
    split
    · exact Attempt.only_pure _
    · exact (Attempt.only_ofCall (Program.only_request ends)).bind fun _ => Attempt.only_pure _

end Socket

/-! ## What stays within a descriptor -/

/-- A call that gets and closes nothing, leaves what every descriptor has been made, and names
none but one. -/
def Call.Within (descriptor : Descriptor) (call : Call) : Prop :=
  call.IsQuiet ∧ call.IsPlain ∧ (call.names = [] ∨ call.names = [descriptor])

abbrev Attempt.Within (descriptor : Descriptor) (attempt : Attempt α) : Prop :=
  attempt.Only (Call.Within descriptor)

theorem Call.Within.steadily {hand : List Hold} {call : Call} (within : call.Within descriptor)
    (held : descriptor = .absent ∨ descriptor ∈ hand.map Hold.descriptor) :
    call.Steadily hand := by
  refine ⟨within.1, ?_⟩
  intro named mem
  rcases within.2.2 with names | names
  · rw [names] at mem
    exact absurd mem List.not_mem_nil
  · rw [names, List.mem_singleton] at mem
    exact mem ▸ held

/-- An attempt within what is in hand keeps it. -/
theorem Attempt.Within.tends {hand : List Hold} {attempt : Attempt α}
    (within : attempt.Within descriptor)
    (held : descriptor = .absent ∨ descriptor ∈ hand.map Hold.descriptor) :
    attempt.Tends Call.Steadily (fun _ last => last = hand) (· = hand) hand := by
  have permitted : ∀ call : Call, call.Within descriptor → call.IsPlain ∧ call.Steadily hand :=
    fun call within => ⟨within.2.1, within.steadily held⟩
  have tends := Program.Ensures.tends within permitted
  refine tends.mono (fun _ _ => id) ?_
  rintro outcome last ⟨-, rfl⟩
  cases outcome <;> rfl

namespace Socket

variable (socket : Socket)

theorem within_endpointOf (operation host : String) (port : UInt16) :
    (socket.endpointOf operation host port).Within descriptor :=
  only_endpointOf (fun _ => ⟨trivial, trivial, .inl rfl⟩) operation host port

theorem within_send (data : List UInt8) : (socket.send data).Within socket.descriptor :=
  only_send ⟨trivial, trivial, .inr rfl⟩

theorem within_receive (capacity : Nat) : (socket.receive capacity).Within socket.descriptor :=
  only_receive ⟨trivial, trivial, .inr rfl⟩

theorem within_sendTo (data : List UInt8) (endpoint : Endpoint) :
    (socket.sendTo data endpoint).Within socket.descriptor :=
  only_sendTo ⟨trivial, trivial, .inr rfl⟩

theorem within_receiveFrom (capacity : Nat) :
    (socket.receiveFrom capacity).Within socket.descriptor :=
  only_receiveFrom ⟨trivial, trivial, .inr rfl⟩

theorem within_localEndpoint : socket.localEndpoint.Within socket.descriptor :=
  only_localEndpoint ⟨trivial, trivial, .inr rfl⟩

theorem within_remoteEndpoint : socket.remoteEndpoint.Within socket.descriptor :=
  only_remoteEndpoint ⟨trivial, trivial, .inr rfl⟩

theorem within_localPort : socket.localPort.Within socket.descriptor :=
  only_localPort ⟨trivial, trivial, .inr rfl⟩

theorem within_readOctets (capacity : Nat) :
    (socket.readOctets capacity).Ensures (Call.Within socket.descriptor) fun _ => True :=
  Program.Ensures.bind (socket.within_receive capacity) fun _ _ => trivial

theorem within_writeOctets (data : List UInt8) :
    (socket.writeOctets data).Ensures (Call.Within socket.descriptor) fun _ => True :=
  Program.Ensures.bind (socket.within_send data) fun _ _ => trivial

theorem within_setNonblocking (nonblocking : Bool) :
    (socket.setNonblocking nonblocking).Within socket.descriptor :=
  only_setNonblocking ⟨trivial, trivial, .inr rfl⟩ fun _ => ⟨trivial, trivial, .inr rfl⟩

theorem within_isNonblocking : socket.isNonblocking.Within socket.descriptor :=
  only_isNonblocking ⟨trivial, trivial, .inr rfl⟩

theorem within_apply (descriptor : Descriptor) (write : OptionWrite) :
    (write.apply descriptor).Within descriptor :=
  write.only_apply (fun _ _ => ⟨trivial, trivial, .inr rfl⟩)
    (fun _ _ => ⟨trivial, trivial, .inr rfl⟩) fun _ => ⟨trivial, trivial, .inr rfl⟩

theorem within_intOption (descriptor : Descriptor) (option : IntOption) :
    (descriptor.intOption option).Within descriptor :=
  Descriptor.only_intOption ⟨trivial, trivial, .inr rfl⟩

theorem within_timeoutOption (descriptor : Descriptor) (option : TimeOption) :
    (descriptor.timeoutOption option).Within descriptor :=
  Descriptor.only_timeoutOption ⟨trivial, trivial, .inr rfl⟩

theorem within_lingerOption (descriptor : Descriptor) :
    descriptor.lingerOption.Within descriptor :=
  Descriptor.only_lingerOption ⟨trivial, trivial, .inr rfl⟩

end Socket

end SocketReactor
