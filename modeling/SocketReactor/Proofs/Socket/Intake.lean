import SocketReactor.Proofs.Endpoint.RoundTrip
import SocketReactor.Proofs.Host.Yields
import SocketReactor.Proofs.Socket.Refinement

/-!
# What a socket takes in

Taking a connection and receiving with the endpoint of the sender both read that endpoint from
what the host tells, when what was waiting has been taken already.  A listener and a socket of
messages are told every endpoint.  Over a connection the host tells none, and the octets that came
with it are lost.
-/

namespace SocketReactor

variable {σ : Type} {answers : Answering σ} {state after : σ} {socket later : Socket}

namespace Socket

/-- What taking a connection gives, by what the host replies. -/
inductive Taking (answers : Answering σ) (socket : Socket) (state : σ) :
    Except Fault (Accepted Socket) → σ → Prop where
  /-- The socket is not in the state to take connections, and no call is made. -/
  | misplaced (fault : Fault) : Taking answers socket state (.error fault) state
  | empty {after : σ}
      (asked : answers (.accept socket.descriptor) state (.error .tryAgain) after) :
      Taking answers socket state (.ok .wouldBlock) after
  | interrupted {after : σ}
      (asked : answers (.accept socket.descriptor) state (.error .interrupted) after) :
      Taking answers socket state (.ok .interrupted) after
  | failed {errno : Errno} {after : σ}
      (asked : answers (.accept socket.descriptor) state (.error errno) after) :
      Taking answers socket state (.error (.acceptFailed errno)) after
  /-- A connection whose peer cannot be read is closed. -/
  | unread {fault : Fault} {descriptor : Descriptor} {peer : RawAddress} {between after : σ}
      {reply : Except Errno Unit}
      (asked : answers (.accept socket.descriptor) state (.ok (descriptor, peer)) between)
      (unread : peer.endpoint = .error fault)
      (closed : answers (.close descriptor) between reply after) :
      Taking answers socket state (.error fault) after
  | taken {descriptor : Descriptor} {peer : RawAddress} {endpoint : Endpoint}
      {protocol : Protocol} {after : σ}
      (asked : answers (.accept socket.descriptor) state (.ok (descriptor, peer)) after)
      (read : peer.endpoint = .ok endpoint) (speaks : socket.protocol? = some protocol) :
      Taking answers socket state
        (.ok (.accepted (live ⟨descriptor, protocol, true, false, false, .connected⟩) endpoint))
        after

theorem taking_of_runs {outcome : Except Fault (Accepted Socket)}
    (run : socket.takeConnection.run.Runs answers state outcome after) :
    Taking answers socket state outcome after := by
  rw [takeConnection_eq] at run
  rcases Attempt.runs_bind.mp run with ⟨fault, refused, rfl⟩ | ⟨parts, between, passed, rest⟩
  · obtain ⟨-, rfl⟩ := refused
    exact .misplaced fault
  · obtain ⟨passed, rfl⟩ := passed
    obtain ⟨rfl, -⟩ := eq_live_of_require passed.symm
    by_cases listens : parts.stage = .listening
    · dsimp only at rest
      rw [if_neg (not_not.mpr listens)] at rest
      obtain ⟨reply, between, asked, rest⟩ := Attempt.runs_request_bind.mp rest
      cases reply with
      | error errno =>
          dsimp only at rest
          split at rest
          · rename_i empty
            obtain ⟨rfl, rfl⟩ := rest
            exact .empty (empty ▸ asked)
          · split at rest
            · rename_i interrupted
              obtain ⟨rfl, rfl⟩ := rest
              exact .interrupted (interrupted ▸ asked)
            · obtain ⟨rfl, rfl⟩ := rest
              exact .failed asked
      | ok told =>
          obtain ⟨descriptor, peer⟩ := told
          dsimp only at rest
          cases read : peer.endpoint with
          | ok endpoint =>
              rw [read] at rest
              obtain ⟨rfl, rfl⟩ := rest
              exact .taken asked read rfl
          | error fault =>
              rw [read] at rest
              -- A connection whose peer cannot be told is given up again.
              obtain ⟨reply, last, closed, given⟩ := rest
              obtain ⟨rfl, rfl⟩ := given
              exact .unread asked read closed
    · dsimp only at rest
      rw [if_pos listens] at rest
      obtain ⟨rfl, rfl⟩ := rest
      exact .misplaced _

/-- What receiving with the endpoint of the sender gives, by what the host replies. -/
inductive Receiving (answers : Answering σ) (socket : Socket) (capacity : Nat) (state : σ) :
    Except Fault (Transfer (List UInt8 × Endpoint)) → σ → Prop where
  /-- The socket is not in the state to receive, and no call is made. -/
  | misplaced (fault : Fault) : Receiving answers socket capacity state (.error fault) state
  | blocked {after : σ}
      (asked : answers (.receiveFrom socket.descriptor capacity) state (.error .tryAgain) after) :
      Receiving answers socket capacity state (.ok .wouldBlock) after
  | failed {errno : Errno} {after : σ}
      (asked : answers (.receiveFrom socket.descriptor capacity) state (.error errno) after) :
      Receiving answers socket capacity state (.error (.transferFailed errno "recvfrom")) after
  /-- Something has come, and its sender cannot be read. -/
  | unread {fault : Fault} {data : List UInt8} {sender : RawAddress} {after : σ}
      (asked : answers (.receiveFrom socket.descriptor capacity) state (.ok (data, sender)) after)
      (unread : sender.endpoint = .error fault) :
      Receiving answers socket capacity state (.error fault) after
  | received {data : List UInt8} {sender : RawAddress} {endpoint : Endpoint} {after : σ}
      (asked : answers (.receiveFrom socket.descriptor capacity) state (.ok (data, sender)) after)
      (read : sender.endpoint = .ok endpoint) :
      Receiving answers socket capacity state (.ok (.done (data, endpoint))) after

theorem receiving_of_runs {capacity : Nat}
    {outcome : Except Fault (Transfer (List UInt8 × Endpoint))}
    (run : (socket.receiveFrom capacity).run.Runs answers state outcome after) :
    Receiving answers socket capacity state outcome after := by
  rw [receiveFrom_eq] at run
  rcases Attempt.runs_bind.mp run with ⟨fault, refused, rfl⟩ | ⟨parts, between, passed, rest⟩
  · obtain ⟨-, rfl⟩ := refused
    exact .misplaced fault
  · obtain ⟨passed, rfl⟩ := passed
    obtain ⟨rfl, -⟩ := eq_live_of_require passed.symm
    obtain ⟨reply, between, asked, rest⟩ := Attempt.runs_request_bind.mp rest
    cases reply with
    | error errno =>
        dsimp only at rest
        by_cases blocked : errno = .tryAgain
        · rw [if_pos blocked] at rest
          obtain ⟨rfl, rfl⟩ := rest
          exact .blocked (blocked ▸ asked)
        · rw [if_neg blocked] at rest
          obtain ⟨rfl, rfl⟩ := rest
          exact .failed asked
    | ok told =>
        obtain ⟨data, sender⟩ := told
        rcases Attempt.runs_bind.mp rest with ⟨fault, unread, rfl⟩ | ⟨endpoint, last, read, given⟩
        · obtain ⟨unread, rfl⟩ := unread
          exact .unread asked unread.symm
        · obtain ⟨read, rfl⟩ := read
          obtain ⟨rfl, rfl⟩ := given
          exact .received asked read.symm

end Socket

/-! ## What waits at a descriptor -/

/-- What the host tells of a peer that it does not name. -/
def RawAddress.nameless : RawAddress := .ofOctets [] 0

def Fault.nameless : Fault := .badEndpoint "sockaddr(family=0, len=0)" "not an inet address"

theorem endpoint_nameless : RawAddress.nameless.endpoint = .error .nameless := by decide +kernel

/-- What waits at a descriptor until it is taken in. -/
inductive Inbox where
  /-- At a listener: connections, with their peers. -/
  | connections (queue : List (Descriptor × Endpoint))
  /-- At a socket of messages: messages, with their senders. -/
  | messages (queue : List (List UInt8 × Endpoint))
  /-- At a connection: octets. -/
  | octets (queue : List UInt8)

namespace Inbox

/-- What the host gives out to one who accepts. -/
inductive Accepts : Inbox → Except Errno (Descriptor × RawAddress) → Inbox → Prop where
  | failed (inbox : Inbox) (errno : Errno) : Accepts inbox (.error errno) inbox
  | connection (descriptor : Descriptor) (peer : Endpoint) (rest : List (Descriptor × Endpoint)) :
      Accepts (connections ((descriptor, peer) :: rest)) (.ok (descriptor, .ofEndpoint peer))
        (connections rest)

/-- What the host gives out to one who receives.  Of a message what does not fit is lost. -/
inductive Gives (capacity : Nat) :
    Inbox → Except Errno (List UInt8 × RawAddress) → Inbox → Prop where
  | failed (inbox : Inbox) (errno : Errno) : Gives capacity inbox (.error errno) inbox
  | message (data : List UInt8) (sender : Endpoint) (rest : List (List UInt8 × Endpoint)) :
      Gives capacity (messages ((data, sender) :: rest))
        (.ok (data.take capacity, .ofEndpoint sender)) (messages rest)
  | octets (data rest : List UInt8) (fits : data.length ≤ capacity) :
      Gives capacity (octets (data ++ rest)) (.ok (data, .nameless)) (octets rest)

def Answers (descriptor : Descriptor) : Answering Inbox
  | .accept asked, inbox, reply, after =>
      if asked = descriptor then inbox.Accepts reply after else after = inbox
  | .receiveFrom asked capacity, inbox, reply, after =>
      if asked = descriptor then inbox.Gives capacity reply after else after = inbox
  | .receive asked capacity, inbox, reply, after =>
      if asked = descriptor then
        ∃ named, inbox.Gives capacity named after ∧ reply = named.map Prod.fst
      else after = inbox
  | _, inbox, _, after => after = inbox

variable {descriptor : Descriptor} {inbox last : Inbox} {capacity : Nat}

theorem answers_accept {reply : Except Errno (Descriptor × RawAddress)} :
    Answers descriptor (.accept descriptor) inbox reply last ↔ inbox.Accepts reply last := by
  simp [Answers]

theorem answers_receiveFrom {reply : Except Errno (List UInt8 × RawAddress)} :
    Answers descriptor (.receiveFrom descriptor capacity) inbox reply last ↔
      inbox.Gives capacity reply last := by
  simp [Answers]

theorem answers_receive {reply : Except Errno (List UInt8)} :
    Answers descriptor (.receive descriptor capacity) inbox reply last ↔
      ∃ named, inbox.Gives capacity named last ∧ reply = named.map Prod.fst := by
  simp [Answers]

/-- An accept that fails takes nothing. -/
theorem eq_of_taking {fault : Fault}
    (taking : Socket.Taking (Answers socket.descriptor) socket inbox (.error fault) last) :
    last = inbox := by
  cases taking with
  | misplaced => rfl
  | failed asked =>
      cases answers_accept.mp asked
      rfl
  | unread asked unread =>
      cases answers_accept.mp asked with
      | connection descriptor peer rest =>
          -- The peer is told in full, and what the host writes of an endpoint can be read.
          rw [Endpoint.endpoint_ofEndpoint] at unread
          cases unread

/-- Receiving with the endpoint of the sender fails over a connection when octets have come, and
these are lost.  No other failure takes anything. -/
theorem lost_of_receiving {fault : Fault}
    (receiving : Socket.Receiving (Answers socket.descriptor) socket capacity inbox
      (.error fault) last) :
    last = inbox ∨ ∃ data rest, data ≠ [] ∧ data.length ≤ capacity ∧
      inbox = .octets (data ++ rest) ∧ last = .octets rest ∧ fault = .nameless := by
  cases receiving with
  | misplaced => exact .inl rfl
  | failed asked =>
      cases answers_receiveFrom.mp asked
      exact .inl rfl
  | @unread fault given sender last asked unread =>
      cases answers_receiveFrom.mp asked with
      | message data sender rest =>
          rw [Endpoint.endpoint_ofEndpoint] at unread
          cases unread
      | octets data rest fits =>
          rw [endpoint_nameless] at unread
          cases unread
          cases given with
          | nil => exact .inl rfl
          | cons head tail =>
              exact .inr ⟨head :: tail, rest, List.cons_ne_nil _ _, fits, rfl, rfl, rfl⟩

/-- Over a connection nothing is received with the endpoint of its sender. -/
theorem blocked_of_receiving {queue : List UInt8} {outcome : Transfer (List UInt8 × Endpoint)}
    (receiving : Socket.Receiving (Answers socket.descriptor) socket capacity (.octets queue)
      (.ok outcome) last) :
    outcome = .wouldBlock ∧ last = .octets queue := by
  cases receiving with
  | blocked asked =>
      cases answers_receiveFrom.mp asked
      exact ⟨rfl, rfl⟩
  | received asked read =>
      cases answers_receiveFrom.mp asked with
      | octets data rest fits =>
          rw [endpoint_nameless] at read
          cases read

end Inbox

/-- A socket that fails to take a connection leaves all that waits.  One that fails to receive
with the endpoint of the sender leaves all that waits too, unless it has been given octets of a
connection: these are lost, and this is all that comes of receiving so over a connection when
octets have come. -/
theorem failed_intake_loses_octets_alone (socket : Socket) (inbox : Inbox) :
    (∀ fault later last,
      socket.accept.Runs (Inbox.Answers socket.descriptor) inbox (.error fault, later) last →
      last = inbox) ∧
    (∀ capacity fault last,
      (socket.receiveFrom capacity).run.Runs (Inbox.Answers socket.descriptor) inbox
        (.error fault) last →
      last = inbox ∨ ∃ data rest, data ≠ [] ∧ data.length ≤ capacity ∧
        inbox = .octets (data ++ rest) ∧ last = .octets rest ∧ fault = .nameless) ∧
    ∀ queue capacity outcome last, inbox = .octets queue →
      (socket.receiveFrom capacity).run.Runs (Inbox.Answers socket.descriptor) inbox
        (.ok outcome) last →
      outcome = .wouldBlock ∧ last = inbox := by
  refine ⟨?_, ?_, ?_⟩
  · intro fault later last run
    obtain ⟨outcome, between, tried, same, rfl⟩ := Program.runs_bind.mp run
    cases same
    exact Inbox.eq_of_taking (Socket.taking_of_runs tried)
  · intro capacity fault last run
    exact Inbox.lost_of_receiving (Socket.receiving_of_runs run)
  · rintro queue capacity outcome last rfl run
    exact Inbox.blocked_of_receiving (Socket.receiving_of_runs run)

def LiveSocket.stream : LiveSocket := ⟨⟨3⟩, .tcp4, true, false, false, .connected⟩

/-- Octets that receiving would have given are lost to one who asks where they came from. -/
theorem octets_lost_to_nameless_sender :
    ∃ fault last,
      ((Socket.live .stream).receiveFrom 2).run.Runs (Inbox.Answers ⟨3⟩)
        (.octets [104, 105, 33]) (.error fault) last ∧
      ((Socket.live .stream).receive 2).run.Runs (Inbox.Answers ⟨3⟩)
        (.octets [104, 105, 33]) (.ok (.done [104, 105])) last ∧
      fault = .nameless ∧ last ≠ .octets [104, 105, 33] := by
  have gives : (Inbox.octets [104, 105, 33]).Gives 2 (.ok ([104, 105], .nameless)) (.octets [33]) :=
    .octets [104, 105] [33] (by decide)
  have lost : ((Socket.live .stream).receiveFrom 2).run.Runs (Inbox.Answers ⟨3⟩)
      (.octets [104, 105, 33]) (.error .nameless) (.octets [33]) := by
    refine ⟨.ok ([104, 105], .nameless), _, Inbox.answers_receiveFrom.mpr gives, ?_⟩
    change (Attempt.ofExcept RawAddress.nameless.endpoint >>= _ : Attempt _).run.Runs _ _ _ _
    rw [endpoint_nameless]
    exact ⟨rfl, rfl⟩
  have received : ((Socket.live .stream).receive 2).run.Runs (Inbox.Answers ⟨3⟩)
      (.octets [104, 105, 33]) (.ok (.done [104, 105])) (.octets [33]) :=
    ⟨.ok [104, 105], _, Inbox.answers_receive.mpr ⟨_, gives, rfl⟩, rfl, rfl⟩
  obtain ⟨-, failing, -⟩ :=
    failed_intake_loses_octets_alone (.live .stream) (.octets [104, 105, 33])
  rcases failing _ _ _ lost with same | ⟨data, rest, some, fits, -, -, named⟩
  · cases same
  · exact ⟨_, _, lost, received, named, nofun⟩

end SocketReactor
