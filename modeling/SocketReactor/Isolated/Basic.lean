import SocketReactor.Host.Program
import SocketReactor.Table

/-!
# An isolated host

The state of a host whose network interfaces are all down: its open files, which are
sockets, sets of watched descriptors and ends of pipes, and the next port that it would
choose. Descriptors are given out from 3 on, the lowest free number first.
-/

namespace SocketReactor.Isolated

/-- What a socket of the host is doing. A listener whose reading half was shut down has
ended. -/
inductive Activity where
  | idle
  | listening
  | ended
  deriving DecidableEq, Repr

structure HostSocket where
  family : Family
  kind : Kind
  nonblocking : Bool
  activity : Activity
  /-- The endpoint that the socket shows as its own. -/
  name : Option Endpoint
  /-- The port that the socket keeps others from. -/
  port : Option UInt16
  /-- Whether the port was asked for by number. -/
  portAsked : Bool
  /-- Whether the address could be bound again when the port was taken. -/
  joinedReusable : Bool
  options : Table IntOption Int32
  receiveTimeout : TimeValue
  sendTimeout : TimeValue
  linger : LingerValue
  deriving DecidableEq, Repr

def HostSocket.new (family : Family) (kind : Kind) : HostSocket :=
  ⟨family, kind, false, .idle, none, none, false, false, ∅, ⟨0, 0⟩, ⟨0, 0⟩, ⟨0, 0⟩⟩

structure Watch where
  descriptor : Descriptor
  token : UInt64
  events : UInt32
  deriving DecidableEq, Repr

/-- A set of watched descriptors with the queue of those that may be ready. -/
structure WatchSet where
  watches : List Watch
  queue : List Descriptor
  deriving DecidableEq, Repr

inductive File where
  | socket (state : HostSocket)
  | watchSet (state : WatchSet)
  /-- The reading end of a pipe with what was written and not read yet. -/
  | pipeReader (contents : List UInt8)
  /-- The writing end of the pipe with the given reading end. -/
  | pipeWriter (reader : Descriptor)
  deriving DecidableEq, Repr

end Isolated

structure IsolatedHost where
  files : Table Descriptor Isolated.File
  nextPort : UInt16
  deriving DecidableEq, Repr

namespace IsolatedHost

def firstPort : UInt16 := 32768

def idle : IsolatedHost := ⟨∅, firstPort⟩

instance : Inhabited IsolatedHost := ⟨idle⟩

def file? (host : IsolatedHost) (descriptor : Descriptor) : Option Isolated.File :=
  host.files.get? descriptor

def setFile (host : IsolatedHost) (descriptor : Descriptor) (file : Isolated.File) :
    IsolatedHost :=
  { host with files := host.files.insert descriptor file }

def freeDescriptor (host : IsolatedHost) : Descriptor :=
  let numbers := (List.range (host.files.size + 1)).map fun index => Int32.ofNat (index + 3)
  ⟨(numbers.find? fun number => !host.files.contains ⟨number⟩).getD 3⟩

def openFile (host : IsolatedHost) (file : Isolated.File) : Descriptor × IsolatedHost :=
  let descriptor := host.freeDescriptor
  (descriptor, host.setFile descriptor file)

def otherSockets (host : IsolatedHost) (descriptor : Descriptor) : List Isolated.HostSocket :=
  host.files.entries.filterMap fun entry =>
    match entry.2 with
    | .socket state => if entry.1 = descriptor then none else some state
    | _ => none

end IsolatedHost

end SocketReactor
