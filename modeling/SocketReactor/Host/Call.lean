import SocketReactor.Endpoint.Wire
import SocketReactor.Protocol

/-!
# Calls to the host

Everything that the library asks of the operating system and of the name service,
as a request with a type of reply. A failing system call replies with an error
number.
-/

namespace SocketReactor

/-- The number of an open file; -1 stands for none. -/
structure Descriptor where
  number : Int32
  deriving DecidableEq, Repr

def Descriptor.absent : Descriptor := ⟨-1⟩

def Descriptor.text (descriptor : Descriptor) : String := Numeral.signed descriptor.number.toInt

inductive Half where
  | read
  | write
  deriving DecidableEq, Repr

/-- The socket options that are whole numbers. -/
inductive IntOption where
  | reuseAddress
  | reusePort
  | keepalive
  | noDelay
  | keepIdle
  | keepInterval
  | keepCount
  | receiveBuffer
  | sendBuffer
  | error
  deriving DecidableEq, Repr

inductive TimeOption where
  | receiveTimeout
  | sendTimeout
  deriving DecidableEq, Repr

def IntOption.name : IntOption → String
  | reuseAddress => "SO_REUSEADDR"
  | reusePort => "SO_REUSEPORT"
  | keepalive => "SO_KEEPALIVE"
  | noDelay => "TCP_NODELAY"
  | keepIdle => "TCP_KEEPIDLE"
  | keepInterval => "TCP_KEEPINTVL"
  | keepCount => "TCP_KEEPCNT"
  | receiveBuffer => "SO_RCVBUF"
  | sendBuffer => "SO_SNDBUF"
  | error => "SO_ERROR"

def TimeOption.name : TimeOption → String
  | receiveTimeout => "SO_RCVTIMEO"
  | sendTimeout => "SO_SNDTIMEO"

structure TimeValue where
  seconds : Int64
  microseconds : Int64
  deriving DecidableEq, Repr

/-- How closing a socket waits for its data, as the system takes it. -/
structure LingerValue where
  enabled : Int32
  seconds : Int32
  deriving DecidableEq, Repr

/-- A change of the set of descriptors that a readiness backend watches. -/
inductive WatchChange where
  | add (descriptor : Descriptor) (token : UInt64) (events : UInt32)
  | modify (descriptor : Descriptor) (token : UInt64) (events : UInt32)
  | delete (descriptor : Descriptor)
  deriving DecidableEq, Repr

/-- What a readiness backend tells of one watched descriptor. -/
structure ReadyEvent where
  token : UInt64
  events : UInt32
  deriving DecidableEq, Repr

structure LookupFailure where
  code : Int32
  reason : String
  deriving DecidableEq, Repr

inductive Call where
  /-- Opens a socket. -/
  | socket (family : Family) (kind : Kind) (number : Int32)
  /-- Gives a socket its own address. -/
  | bind (descriptor : Descriptor) (address : List UInt8)
  /-- Makes a socket a listener. -/
  | listen (descriptor : Descriptor) (backlog : Int32)
  /-- Takes a queued connection. -/
  | accept (descriptor : Descriptor)
  /-- Connects a socket. -/
  | connect (descriptor : Descriptor) (address : List UInt8)
  /-- Asks for the address of a socket. -/
  | localName (descriptor : Descriptor)
  /-- Asks for the address of a socket's peer. -/
  | peerName (descriptor : Descriptor)
  /-- Sends to the peer. -/
  | send (descriptor : Descriptor) (data : List UInt8)
  /-- Sends to an address. -/
  | sendTo (descriptor : Descriptor) (data : List UInt8) (address : List UInt8)
  /-- Receives from the peer. -/
  | receive (descriptor : Descriptor) (capacity : Nat)
  /-- Receives together with the address of the sender. -/
  | receiveFrom (descriptor : Descriptor) (capacity : Nat)
  /-- Ends one half of a connection. -/
  | shutdown (descriptor : Descriptor) (half : Half)
  /-- Closes a descriptor. -/
  | close (descriptor : Descriptor)
  /-- Reads the status flags of a descriptor. -/
  | statusFlags (descriptor : Descriptor)
  /-- Writes the status flags of a descriptor. -/
  | setStatusFlags (descriptor : Descriptor) (flags : UInt32)
  /-- Reads an option. -/
  | intOption (descriptor : Descriptor) (option : IntOption)
  /-- Writes an option. -/
  | setIntOption (descriptor : Descriptor) (option : IntOption) (value : Int32)
  /-- Reads an option. -/
  | timeOption (descriptor : Descriptor) (option : TimeOption)
  /-- Writes an option. -/
  | setTimeOption (descriptor : Descriptor) (option : TimeOption) (value : TimeValue)
  /-- Reads how closing waits. -/
  | lingerOption (descriptor : Descriptor)
  /-- Writes how closing waits. -/
  | setLingerOption (descriptor : Descriptor) (value : LingerValue)
  /-- Opens a readiness backend. -/
  | openBackend
  /-- Opens a pipe; the reading end comes first and neither end waits. -/
  | openPipe
  /-- Changes what a readiness backend watches. -/
  | watch (backend : Descriptor) (change : WatchChange)
  /-- Waits for events, for so many milliseconds; a negative number means forever. -/
  | await (backend : Descriptor) (capacity : Int32) (milliseconds : Int32)
  /-- Reads from a pipe. -/
  | readPipe (descriptor : Descriptor) (capacity : Nat)
  /-- Writes to a pipe. -/
  | writePipe (descriptor : Descriptor) (data : List UInt8)
  /-- Asks for the addresses of a host name; an entry may lack an address. -/
  | lookup (host : String)
  /-- Asks for the name of an address. -/
  | reverseLookup (address : List UInt8)
  /-- Asks for the addresses of the interfaces; an entry may lack an address. -/
  | interfaces
  deriving DecidableEq, Repr

/-- The type of the reply to a request. -/
@[reducible] def Call.Reply : Call → Type
  | socket _ _ _ => Except Errno Descriptor
  | bind _ _ => Except Errno Unit
  | listen _ _ => Except Errno Unit
  | accept _ => Except Errno (Descriptor × RawAddress)
  | connect _ _ => Except Errno Unit
  | localName _ => Except Errno RawAddress
  | peerName _ => Except Errno RawAddress
  | send _ _ => Except Errno Nat
  | sendTo _ _ _ => Except Errno Nat
  | receive _ _ => Except Errno (List UInt8)
  | receiveFrom _ _ => Except Errno (List UInt8 × RawAddress)
  | shutdown _ _ => Except Errno Unit
  | close _ => Except Errno Unit
  | statusFlags _ => Except Errno UInt32
  | setStatusFlags _ _ => Except Errno Unit
  | intOption _ _ => Except Errno Int32
  | setIntOption _ _ _ => Except Errno Unit
  | timeOption _ _ => Except Errno TimeValue
  | setTimeOption _ _ _ => Except Errno Unit
  | lingerOption _ => Except Errno LingerValue
  | setLingerOption _ _ => Except Errno Unit
  | openBackend => Except Errno Descriptor
  | openPipe => Except Errno (Descriptor × Descriptor)
  | watch _ _ => Except Errno Unit
  | await _ _ _ => Except Errno (List ReadyEvent)
  | readPipe _ _ => Except Errno (List UInt8)
  | writePipe _ _ => Except Errno Nat
  | lookup _ => Except LookupFailure (List (Option RawAddress))
  | reverseLookup _ => Except LookupFailure String
  | interfaces => Except Errno (List (Option RawAddress))

end SocketReactor
