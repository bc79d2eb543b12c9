import SocketReactor.Isolated.Ports

/-!
# Sockets of an isolated host

What the calls on sockets answer when no packet leaves the host and none arrives. No
connection is ever made, so streams are never connected and nothing is received. A call
that would wait gives up when the time limit of the socket has passed; a limit of
`patience` milliseconds or more, or none, counts as waiting forever.
-/

namespace SocketReactor.Isolated

/-- The milliseconds after which a waiting call counts as waiting forever. -/
def patience : Int := 300

/-- What a call answers that nothing will ever end: nothing at all if it waits forever. -/
def starve {α : Type} (socket : HostSocket) : Option (Except Errno α) :=
  let limit := socket.receiveTimeout.seconds.toInt * 1000 +
    socket.receiveTimeout.microseconds.toInt / 1000
  if socket.nonblocking || (0 < limit && limit < patience) then some (.error .tryAgain) else none

/-- The error number of an IPv4 packet that no route leads away. -/
def unreachable : Errno := .networkUnreachable

/-- The IPv4 address that an IPv6 socket is bound to, if it is bound to a mapped one. -/
def ownV4? (socket : HostSocket) : Option Ipv4 :=
  match socket.name.map Endpoint.address with
  | some (.v6 own) => own.mapped?
  | _ => none

/-- Whether an IPv6 socket is bound to a group, and so has nothing to do with IPv4. -/
def refusesV4 (socket : HostSocket) : Bool :=
  match socket.name.map Endpoint.address with
  | some (.v6 own) => isGroup own
  | _ => false

def refuseV6 (socket : HostSocket) (ip : Ipv6) : Errno :=
  if ip.mapped?.isSome || (ownV4? socket).isSome then unreachable else .addressNotAvailable

/-- Whether connecting to an IPv6 address needs an interface that the endpoint does not name. -/
def lacksInterface (ip : Ipv6) (endpoint : Endpoint) : Bool :=
  needsInterface ip && endpoint.scopeId = 0

/-- Answers a call that connects a socket. A datagram socket gets a port before the route is
looked for. -/
def connectSocket (host : IsolatedHost) (descriptor : Descriptor) (socket : HostSocket)
    (endpoint : Endpoint) : Except Errno Unit × IsolatedHost :=
  let after := match socket.kind with
    | .stream => host
    | .datagram => (autobind host descriptor socket).2
  let refused := match endpoint.address with
    | .v4 _ => unreachable
    | .v6 ip =>
        if socket.kind = .stream && ip.mapped?.isNone && isGroup ip then unreachable
        else if lacksInterface ip endpoint then .invalidArgument
        else refuseV6 socket ip
  (.error refused, after)

def longestData : Nat := 65535

def longestPayload : Nat := 65507

/-- What sending data to an IPv4 address answers. The unspecified address leads to the host's own
interface, which takes data that fits a packet and drops it, unless the source is tied to some
address; no route leads to any other address. -/
def sendV4 (tied : Bool) (length : Nat) (ip : Ipv4) (port : UInt16) : Except Errno Nat :=
  if longestData < length then .error .messageTooLong
  else if port = 0 then .error .invalidArgument
  else if ip ≠ Ipv4.any || tied then .error unreachable
  else if longestPayload < length then .error .messageTooLong
  else .ok length

/-- What sending data to an IPv6 address answers. From a mapped address the unspecified one leads
to the IPv4 loopback. -/
def sendV6 (socket : HostSocket) (length : Nat) (ip : Ipv6) (port : UInt16) : Except Errno Nat :=
  let own := ownV4? socket
  let tied := own.any (· ≠ Ipv4.any)
  match ip.mapped? with
  | some ip => if refusesV4 socket then .error unreachable else sendV4 tied length ip port
  | none =>
      if own.isSome && ip = Ipv6.any then sendV4 tied length Ipv4.loopback port
      else .error (if port = 0 then .invalidArgument else refuseV6 socket ip)

def sendToSocket (host : IsolatedHost) (descriptor : Descriptor) (socket : HostSocket)
    (data : List UInt8) (endpoint : Endpoint) : Except Errno Nat × IsolatedHost :=
  match socket.kind with
  | .stream => (.error .brokenPipe, host)
  | .datagram =>
      let port := endpoint.port.getD 0
      let reply := match endpoint.address with
        | .v4 ip => sendV4 false data.length ip port
        | .v6 ip => sendV6 socket data.length ip port
      (reply, (autobind host descriptor socket).2)

def receiveFromSocket {α : Type} (socket : HostSocket) : Option (Except Errno α) :=
  match socket.kind, socket.family with
  | .datagram, _ => starve socket
  | .stream, .unix => some (.error .invalidArgument)
  | .stream, _ => some (.error .notConnected)

def acceptSocket {α : Type} (socket : HostSocket) : Option (Except Errno α) :=
  match socket.kind, socket.activity with
  | .datagram, _ => some (.error .notSupported)
  | .stream, .listening => starve socket
  | .stream, _ => some (.error .invalidArgument)

/-- Answers a call that shuts a half down. A listener ends with its reading half, and gives a
port back that it did not ask for. -/
def shutdownSocket (socket : HostSocket) (half : Half) : Except Errno Unit × HostSocket :=
  match socket.activity, half with
  | .listening, .write => (.ok (), socket)
  | .listening, .read =>
      (.ok (), { socket with
        activity := .ended
        port := if socket.portAsked then socket.port else none })
  | _, _ => (.error .notConnected, socket)

def shownName (socket : HostSocket) : RawAddress :=
  match socket.family with
  | .unix => .unnamed
  | family => .ofEndpoint (socket.name.getD (unspecified family))

/-- The first number that no protocol of the internet families has. -/
def protocolLimit : Int32 := 263

def protocolNumbers : Kind → List Int32
  | .stream => [0, 6, 262]
  | .datagram => [0, 17, 136]

def controlNumber : Family → Int32
  | .inet6 => 58
  | _ => 1

/-- Why a number may not be given for a protocol, if it may not. Messages of the control
protocol are open to few users only. -/
def refuseProtocol (family : Family) (kind : Kind) (number : Int32) : Option Errno :=
  match family with
  | .unix => if number = 0 ∨ number = 1 then none else some .protocolNotSupported
  | _ =>
      if number < 0 ∨ protocolLimit ≤ number then some .invalidArgument
      else if number ∈ protocolNumbers kind then none
      else if kind = .datagram ∧ number = controlNumber family then some .accessDenied
      else some .protocolNotSupported

end SocketReactor.Isolated
