import SocketReactor.OpSet
import SocketReactor.Socket.Command

/-!
# Owners of sockets

A socket is owned as a plain handle, which offers every command, by a typed socket, which
offers those of its use, or by a channel, which a selector can watch under a key. A channel
lends its typed socket and a typed socket lends its handle, to be used and not to be changed.
-/

namespace SocketReactor

inductive Use where
  /-- Listening for connections. -/
  | server
  /-- Carrying one connection. -/
  | stream
  /-- Exchanging messages. -/
  | datagram
  deriving DecidableEq, Repr

namespace Use

def kind : Use → Kind
  | server | stream => .stream
  | datagram => .datagram

/-- The operations that a channel of a use can become ready for. -/
def validOps : Use → OpSet
  | server => .accepting
  | stream => .connecting ∪ .reading ∪ .writing
  | datagram => .reading ∪ .writing

def offers (use : Use) : Command → Bool
  | .create _ => false
  | .bind _ _ | .bindEndpoint _ | .localPort => use ≠ .stream
  | .listen _ => use = .server
  | .connect _ _ | .connectEndpoint _ | .finishConnect | .send _ | .receive _
  | .readOctets _ | .writeOctets _ | .shutdown _ | .remoteEndpoint => use = .stream
  | .sendTo _ _ | .receiveFrom _ => use = .datagram
  | .close | .localEndpoint | .setNonblocking _ | .isNonblocking | .readOption _
  | .writeOption _ => true

end Use

inductive Access where
  | own
  /-- By the typed socket that a channel lends. -/
  | socket
  /-- By the handle that a typed socket lends. -/
  | handle
  deriving DecidableEq, Repr

/-- Whether a command leaves the fields of a handle alone. -/
def Command.isShared : Command → Bool
  | send _ | receive _ | sendTo _ _ | receiveFrom _ | readOctets _ | writeOctets _
  | localEndpoint | remoteEndpoint | localPort | setNonblocking _ | isNonblocking
  | readOption _ | writeOption _ => true
  | create _ | bind _ _ | bindEndpoint _ | listen _ | connect _ _ | connectEndpoint _
  | finishConnect | shutdown _ | close => false

structure KeyId where
  selector : Nat
  serial : Nat
  deriving DecidableEq, Repr

/-- A socket that a selector can watch, with the key of its last registration. -/
structure Channel where
  use : Use
  socket : Socket
  key : Option KeyId
  deriving DecidableEq, Repr

namespace Channel

/-- A socket as a channel without a key. From here on its calls do not wait; if that fails
the socket is closed. -/
def ofSocket (use : Use) (socket : Socket) : Attempt Channel := do
  let _ ← Socket.orDiscard (socket.observe (socket.setNonblocking true))
  return ⟨use, socket, none⟩

end Channel

inductive Owner where
  | handle (socket : Socket)
  | typed (use : Use) (socket : Socket)
  | watchable (channel : Channel)
  deriving DecidableEq, Repr

namespace Owner

variable {owner : Owner} {access : Access} {command : Command}

def socket : Owner → Socket
  | handle socket | typed _ socket => socket
  | watchable channel => channel.socket

def withSocket (socket : Socket) : Owner → Owner
  | handle _ => handle socket
  | typed use _ => typed use socket
  | watchable channel => watchable { channel with socket := socket }

def channel? : Owner → Option Channel
  | watchable channel => some channel
  | _ => none

def key? (owner : Owner) : Option KeyId := owner.channel?.bind Channel.key

def offers : Owner → Command → Bool
  | handle _, command => match command with
    | .readOctets _ | .writeOctets _ => false
    | _ => true
  | typed use _, command => use.offers command
  | watchable channel, command => match command with
    | .readOctets _ | .writeOctets _ | .setNonblocking _ | .isNonblocking => false
    | _ => channel.use.offers command

/-- What an owner gives out to one who asks it. -/
def lend : Owner → Access → Option Owner
  | owner, .own => some owner
  | watchable channel, .socket => some (typed channel.use channel.socket)
  | typed _ socket, .handle => some (handle socket)
  | watchable channel, .handle => some (handle channel.socket)
  | _, _ => none

/-- Whether a command can be given. What is lent cannot be changed. -/
def grants (owner : Owner) (access : Access) (command : Command) : Bool :=
  (access = .own || command.isShared) && (owner.lend access).any (·.offers command)

/-- What is granted is offered by the owner itself, or leaves the socket as it is. -/
theorem offers_or_isShared (granted : owner.grants access command = true) :
    owner.offers command = true ∨ command.isShared = true := by
  obtain ⟨way, lent⟩ := (Bool.and_eq_true _ _).mp granted
  rcases (Bool.or_eq_true _ _).mp way with own | shared
  · obtain rfl : access = .own := of_decide_eq_true own
    exact .inl lent
  · exact .inr shared

theorem grants_own (offered : owner.offers command = true) : owner.grants .own command = true :=
  (Bool.and_eq_true _ _).mpr ⟨rfl, offered⟩

/-- Only the owner itself can be told what changes its socket. -/
theorem eq_own_of_grants (granted : owner.grants access command = true)
    (exclusive : command.isShared = false) : access = .own ∧ owner.offers command = true := by
  obtain ⟨way, lent⟩ := (Bool.and_eq_true _ _).mp granted
  rw [exclusive, Bool.or_false] at way
  obtain rfl : access = .own := of_decide_eq_true way
  exact ⟨rfl, lent⟩

theorem not_grants_create (channel : Channel) (access : Access) (protocol : Protocol) :
    (watchable channel).grants access (.create protocol) ≠ true := fun granted => by
  cases (eq_own_of_grants granted rfl).2

def takesConnections : Owner → Bool
  | handle _ => true
  | typed use _ => use = .server
  | watchable channel => channel.use = .server

@[simp] theorem socket_withSocket (owner : Owner) (socket : Socket) :
    (owner.withSocket socket).socket = socket := by
  cases owner <;> rfl

/-- The owner of a connection that a listener of the same family has taken. -/
def ofConnection (listener : Owner) (connection : Socket) : Attempt Owner :=
  match listener with
  | handle _ => pure (handle connection)
  | typed _ _ => pure (typed .stream connection)
  | watchable _ => watchable <$> Channel.ofSocket .stream connection

/-- Takes a queued connection. It gets an owner of the listener's family. -/
def accept (listener : Owner) : Attempt (Accepted Owner) := do
  let (taken, _) ← ExceptT.lift listener.socket.accept
  match taken with
  | .ok (.accepted connection peer) => return .accepted (← listener.ofConnection connection) peer
  | .ok .wouldBlock => return .wouldBlock
  | .ok .interrupted => return .interrupted
  | .error fault => throw fault

end Owner

end SocketReactor
