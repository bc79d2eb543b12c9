import SocketReactor.Isolated.SocketOptions
import SocketReactor.Isolated.Sockets
import SocketReactor.Isolated.Watching
import SocketReactor.Socket.Lifecycle

/-!
# The isolated host as a machine

Answers every call of a program on an isolated host. A call with a descriptor that is not
open is refused.
-/

namespace SocketReactor.Isolated

def endpointOfOctets (octets : List UInt8) : Except Errno Endpoint :=
  (RawAddress.ofOctets octets (UInt32.ofNat octets.length)).endpoint.mapError fun _ =>
    .invalidArgument

def onSocket {α : Type} (host : IsolatedHost) (descriptor : Descriptor)
    (answer : HostSocket → Except Errno α × IsolatedHost) : Except Errno α × IsolatedHost :=
  match host.file? descriptor with
  | some (.socket socket) => answer socket
  | some _ => (.error .notSupported, host)
  | none => (.error .badDescriptor, host)

/-- Answers a call that may wait on a socket and does not change the host. -/
def waitOnSocket {α : Type} (host : IsolatedHost) (descriptor : Descriptor)
    (answer : HostSocket → Option (Except Errno α)) : Option (Except Errno α × IsolatedHost) :=
  match host.file? descriptor with
  | some (.socket socket) => (answer socket).map fun reply => (reply, host)
  | some _ => some (.error .notSupported, host)
  | none => some (.error .badDescriptor, host)

def updateSocket {α : Type} (host : IsolatedHost) (descriptor : Descriptor)
    (answer : HostSocket → Except Errno α × HostSocket) : Except Errno α × IsolatedHost :=
  onSocket host descriptor fun socket =>
    let (reply, after) := answer socket
    (reply, host.setFile descriptor (.socket after))

def withEndpoint {α : Type} (host : IsolatedHost) (octets : List UInt8)
    (answer : Endpoint → Except Errno α × IsolatedHost) : Except Errno α × IsolatedHost :=
  match endpointOfOctets octets with
  | .ok endpoint => answer endpoint
  | .error errno => (.error errno, host)

def changeWatch (host : IsolatedHost) (backend : Descriptor) (change : WatchChange) :
    Except Errno Unit × IsolatedHost :=
  match host.file? backend with
  | some (.watchSet set) => match set.change host change with
    | .ok after => (.ok (), host.setFile backend (.watchSet after))
    | .error errno => (.error errno, host)
  | some _ => (.error .invalidArgument, host)
  | none => (.error .badDescriptor, host)

def statusFlags (socket : HostSocket) : UInt32 :=
  if socket.nonblocking then 2 ||| Handle.nonblockingFlag else 2

def machine : Program.Machine IsolatedHost
  | .socket family kind number, host => some <|
      match refuseProtocol family kind number with
      | some errno => (.error errno, host)
      | none =>
          let (descriptor, after) := host.openFile (.socket (.new family kind))
          (.ok descriptor, after)
  | .bind descriptor address, host => some <|
      onSocket host descriptor fun socket => withEndpoint host address fun endpoint =>
        bindSocket host descriptor socket endpoint
  | .listen descriptor _, host => some <|
      onSocket host descriptor fun socket => listenSocket host descriptor socket
  | .accept descriptor, host => waitOnSocket host descriptor acceptSocket
  | .connect descriptor address, host => some <|
      onSocket host descriptor fun socket => withEndpoint host address fun endpoint =>
        connectSocket host descriptor socket endpoint
  | .localName descriptor, host => some <|
      onSocket host descriptor fun socket => (.ok (shownName socket), host)
  | .peerName descriptor, host => some <|
      onSocket host descriptor fun _ => (.error .notConnected, host)
  | .send descriptor _, host => some <|
      onSocket host descriptor fun _ => (.error .brokenPipe, host)
  | .sendTo descriptor data address, host => some <|
      onSocket host descriptor fun socket => withEndpoint host address fun endpoint =>
        sendToSocket host descriptor socket data endpoint
  | .receive descriptor _, host => some <|
      onSocket host descriptor fun _ => (.error .notConnected, host)
  | .receiveFrom descriptor _, host => waitOnSocket host descriptor receiveFromSocket
  | .shutdown descriptor half, host => some <|
      updateSocket host descriptor fun socket => shutdownSocket socket half
  | .close descriptor, host => some <|
      match host.file? descriptor with
      | some _ => (.ok (), closeFile host descriptor)
      | none => (.error .badDescriptor, host)
  | .statusFlags descriptor, host => some <|
      onSocket host descriptor fun socket => (.ok (statusFlags socket), host)
  | .setStatusFlags descriptor flags, host => some <|
      updateSocket host descriptor fun socket =>
        (.ok (), { socket with nonblocking := flags &&& Handle.nonblockingFlag ≠ 0 })
  | .intOption descriptor option, host => some <|
      onSocket host descriptor fun socket => (readIntOption socket option, host)
  | .setIntOption descriptor option value, host => some <|
      updateSocket host descriptor fun socket => writeIntOption socket option value
  | .timeOption descriptor option, host => some <|
      onSocket host descriptor fun socket => (.ok (readTimeOption socket option), host)
  | .setTimeOption descriptor option value, host => some <|
      updateSocket host descriptor fun socket => (.ok (), writeTimeOption socket option value)
  | .lingerOption descriptor, host => some <|
      onSocket host descriptor fun socket => (.ok socket.linger, host)
  | .setLingerOption descriptor value, host => some <|
      updateSocket host descriptor fun socket => (.ok (), { socket with linger := keptLinger socket.linger value })
  | .openBackend, host => some <|
      let (descriptor, after) := host.openFile (.watchSet ⟨[], []⟩)
      (.ok descriptor, after)
  | .openPipe, host => some <|
      let (reader, between) := host.openFile (.pipeReader [])
      let (writer, after) := between.openFile (.pipeWriter reader)
      (.ok (reader, writer), after)
  | .watch backend change, host => some (changeWatch host backend change)
  | .await backend capacity milliseconds, host => awaitEvents host backend capacity milliseconds
  | .readPipe descriptor capacity, host => some (readFromPipe host descriptor capacity)
  | .writePipe descriptor data, host => some <|
      match host.file? descriptor with
      | some (.pipeWriter reader) => writeToPipe host reader data
      | _ => (.error .badDescriptor, host)
  | .lookup name, host => some (lookup name, host)
  | .reverseLookup address, host => some (reverseLookup address, host)
  | .interfaces, host => some (.ok [], host)

end SocketReactor.Isolated
