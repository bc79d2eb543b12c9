import SocketReactor.Setup.Bundles
import SocketReactor.Socket.Lifecycle
import SocketReactor.Socket.Options

/-!
# Building sockets

Sockets made with their options: the socket is created, every option is written, and
then the socket is bound or connected. The first step that fails ends the work and
the descriptor is given back.
-/

namespace SocketReactor.Setup

structure Options where
  reuse : Option Reuse
  tcp : Option Tcp
  buffers : Buffers
  timeouts : Timeouts
  nonblocking : Bool
  deriving DecidableEq, Repr

namespace Options

def nothing : Options := ⟨none, none, .usual, .usual, false⟩

def reuseWrites (reuse : Reuse) : List OptionWrite :=
  (if reuse.address then [.flag .reuseAddress true] else []) ++
    (if reuse.port then [.flag .reusePort true] else [])

def keepaliveWrites (keepalive : Keepalive) : List OptionWrite :=
  [.flag .keepalive true, .count .keepIdle keepalive.idle,
    .count .keepInterval keepalive.interval, .count .keepCount keepalive.count]

def tcpWrites (tcp : Tcp) : List OptionWrite :=
  (if tcp.noDelay then [.flag .noDelay true] else []) ++
    (tcp.keepalive.map keepaliveWrites).getD [] ++
    (tcp.linger.map fun seconds => .lingering seconds).toList

def writes (options : Options) : List OptionWrite :=
  (options.reuse.map reuseWrites).getD [] ++ (options.tcp.map tcpWrites).getD [] ++
    (options.buffers.receive.map (.size .receiveBuffer)).toList ++
    (options.buffers.send.map (.size .sendBuffer)).toList ++
    (options.timeouts.receive.map (.timeout .receiveTimeout)).toList ++
    (options.timeouts.send.map (.timeout .sendTimeout)).toList

end Options

/-- Writes values one after the other up to the first that fails. -/
def writeAll (descriptor : Descriptor) : List OptionWrite → Attempt Unit
  | [] => pure ()
  | write :: rest => do
      write.apply descriptor
      writeAll descriptor rest

def openKind (kind : Kind) (protocol : Protocol) : Attempt Socket := do
  Attempt.ofExcept (protocol.requireKind kind)
  Socket.openNew protocol

def prepare (kind : Kind) (protocol : Protocol) (options : Options) : Attempt Socket := do
  let socket ← openKind kind protocol
  let _ ← Socket.orDiscard (socket.observe do
    writeAll socket.descriptor options.writes
    if options.nonblocking then socket.setNonblocking true)
  return socket

structure ServerBuilder where
  protocol : Protocol
  options : Options
  backlog : Int32
  deriving DecidableEq, Repr

namespace ServerBuilder

/-- A listener whose address may be bound again, that sends small segments at once, keeps
128 connections queued, and whose calls wait. -/
def usual (protocol : Protocol) : ServerBuilder :=
  ⟨protocol, { Options.nothing with reuse := some .usual, tcp := some .usual }, 128⟩

inductive Change where
  | reuse (reuse : Reuse)
  | tcp (tcp : Tcp)
  | buffers (buffers : Buffers)
  | backlog (backlog : Int32)
  | nonblocking (enabled : Bool)
  deriving DecidableEq, Repr

def change (builder : ServerBuilder) : Change → ServerBuilder
  | .reuse reuse => { builder with options := { builder.options with reuse := some reuse } }
  | .tcp tcp => { builder with options := { builder.options with tcp := some tcp } }
  | .buffers buffers => { builder with options := { builder.options with buffers := buffers } }
  | .backlog backlog => { builder with backlog := backlog }
  | .nonblocking enabled =>
      { builder with options := { builder.options with nonblocking := enabled } }

def listenAfter (builder : ServerBuilder)
    (bind : Socket → Program (Except Fault Unit × Socket)) : Attempt Socket := do
  let socket ← prepare .stream builder.protocol builder.options
  let ((), bound) ← Socket.orDiscard (bind socket)
  let ((), listener) ← Socket.orDiscard (bound.listen builder.backlog)
  return listener

def bind (builder : ServerBuilder) (host : String) (port : UInt16) : Attempt Socket :=
  builder.listenAfter (·.bind host port)

def bindEndpoint (builder : ServerBuilder) (endpoint : Endpoint) : Attempt Socket :=
  builder.listenAfter (·.bindEndpoint endpoint)

end ServerBuilder

structure StreamBuilder where
  protocol : Protocol
  options : Options
  deriving DecidableEq, Repr

namespace StreamBuilder

def usual (protocol : Protocol) : StreamBuilder :=
  ⟨protocol, { Options.nothing with tcp := some .usual }⟩

inductive Change where
  | tcp (tcp : Tcp)
  | buffers (buffers : Buffers)
  | timeouts (timeouts : Timeouts)
  deriving DecidableEq, Repr

def change (builder : StreamBuilder) : Change → StreamBuilder
  | .tcp tcp => { builder with options := { builder.options with tcp := some tcp } }
  | .buffers buffers => { builder with options := { builder.options with buffers := buffers } }
  | .timeouts timeouts => { builder with options := { builder.options with timeouts := timeouts } }

def build (builder : StreamBuilder) : Attempt Socket :=
  prepare .stream builder.protocol builder.options

def connect (builder : StreamBuilder) (host : String) (port : UInt16) : Attempt Socket := do
  let socket ← builder.build
  let (_, stream) ← Socket.orDiscard (socket.connect host port)
  return stream

end StreamBuilder

structure DatagramBuilder where
  protocol : Protocol
  options : Options
  deriving DecidableEq, Repr

namespace DatagramBuilder

def usual (protocol : Protocol) : DatagramBuilder := ⟨protocol, Options.nothing⟩

inductive Change where
  | reuse (reuse : Reuse)
  | buffers (buffers : Buffers)
  | timeouts (timeouts : Timeouts)
  deriving DecidableEq, Repr

def change (builder : DatagramBuilder) : Change → DatagramBuilder
  | .reuse reuse => { builder with options := { builder.options with reuse := some reuse } }
  | .buffers buffers => { builder with options := { builder.options with buffers := buffers } }
  | .timeouts timeouts => { builder with options := { builder.options with timeouts := timeouts } }

def bind (builder : DatagramBuilder) (host : String) (port : UInt16) : Attempt Socket := do
  let socket ← prepare .datagram builder.protocol builder.options
  let ((), bound) ← Socket.orDiscard (socket.bind host port)
  return bound

end DatagramBuilder

end SocketReactor.Setup
