import SocketReactor.Owner.Basic
import SocketReactor.Setup.Builder

/-!
# Making owners

The ways in which a new owner of a socket comes to be. Whatever step fails, no descriptor
stays open.
-/

namespace SocketReactor

inductive Recipe where
  /-- A handle that owns nothing. -/
  | emptyHandle
  /-- A handle with a new socket. -/
  | handle (protocol : Protocol)
  /-- A typed socket. -/
  | typed (use : Use) (protocol : Protocol)
  /-- A channel. -/
  | channel (use : Use) (protocol : Protocol)
  /-- A listener at a host and port. -/
  | server (builder : Setup.ServerBuilder) (host : String) (port : UInt16)
  /-- A listener at an endpoint. -/
  | serverAt (builder : Setup.ServerBuilder) (endpoint : Endpoint)
  /-- A stream with its options. -/
  | stream (builder : Setup.StreamBuilder)
  /-- A stream that has been told to connect. -/
  | connected (builder : Setup.StreamBuilder) (host : String) (port : UInt16)
  /-- A bound datagram socket. -/
  | datagram (builder : Setup.DatagramBuilder) (host : String) (port : UInt16)
  deriving DecidableEq, Repr

def Recipe.make : Recipe → Attempt Owner
  | emptyHandle => pure (.handle .empty)
  | handle protocol => .handle <$> Socket.openNew protocol
  | typed use protocol => .typed use <$> Setup.openKind use.kind protocol
  | channel use protocol => do
      let socket ← Setup.openKind use.kind protocol
      return .watchable (← Channel.ofSocket use socket)
  | server builder host port => .typed .server <$> builder.bind host port
  | serverAt builder endpoint => .typed .server <$> builder.bindEndpoint endpoint
  | stream builder => .typed .stream <$> builder.build
  | connected builder host port => .typed .stream <$> builder.connect host port
  | datagram builder host port => .typed .datagram <$> builder.bind host port

end SocketReactor
