import SocketReactor.Isolated.Basic
import SocketReactor.Isolated.Names

/-!
# Addresses and ports of an isolated host

Which addresses a socket of an isolated host may be bound to, and when two sockets get in
each other's way at one port. Every IPv4 address may be bound; of the IPv6 addresses the
unspecified one, those with an IPv4 address mapped into them, and groups.
-/

namespace SocketReactor.Isolated

def isGroup (ip : Ipv6) : Bool := ip.g0 &&& 0xff00 = 0xff00

def refuseAddress (kind : Kind) (endpoint : Endpoint) : Option Errno :=
  match endpoint.address with
  | .v4 _ => none
  | .v6 ip =>
      if ip = Ipv6.any || ip.mapped?.isSome then none
      else if isGroup ip && kind = .stream then some .invalidArgument
      else if needsInterface ip then
        if endpoint.scopeId = 0 then some .invalidArgument
        else if endpoint.scopeId ≠ interfaceIndex then some .noDevice
        else if isGroup ip then none
        else some .addressNotAvailable
      else if isGroup ip then none
      else some .addressNotAvailable

/-- Whether packets to one of the addresses may reach the other. The unspecified IPv6 address
takes in every address, and a mapped address counts as the one mapped into it. -/
def overlap (first second : Address) : Bool :=
  let plain : Address → Address := fun address =>
    match address with
    | .v6 ip => match ip.mapped? with
      | some ip => .v4 ip
      | none => address
    | .v4 _ => address
  match plain first, plain second with
  | .v4 one, .v4 other => one = other || one = Ipv4.any || other = Ipv4.any
  | .v6 one, .v6 other => one = other || one = Ipv6.any || other = Ipv6.any
  | .v4 _, .v6 other => other = Ipv6.any
  | .v6 one, .v4 _ => one = Ipv6.any

def HostSocket.has (socket : HostSocket) (option : IntOption) : Bool :=
  (socket.options.get? option).any (· ≠ 0)

def bothHave (option : IntOption) (first second : HostSocket) : Bool :=
  first.has option && second.has option

/-- Whether a socket at an address gets in the way of another at the same port. -/
def hinders (socket : HostSocket) (address : Address) (other : HostSocket) : Bool :=
  let shared := match socket.kind with
    | .stream =>
        (bothHave .reuseAddress socket other && other.activity ≠ .listening) ||
          bothHave .reusePort socket other
    | .datagram => bothHave .reuseAddress socket other || bothHave .reusePort socket other
  !shared && other.name.any fun name => overlap address name.address

def competitors (host : IsolatedHost) (descriptor : Descriptor) (socket : HostSocket)
    (port : UInt16) : List HostSocket :=
  (host.otherSockets descriptor).filter fun other =>
    other.kind = socket.kind && other.family ≠ .unix && other.port = some port

/-- Whether a socket may not take a port at an address. A stream socket that lets its address
be bound again takes a port freely where all others did so. -/
def portTaken (host : IsolatedHost) (descriptor : Descriptor) (socket : HostSocket)
    (endpoint : Endpoint) (port : UInt16) : Bool :=
  let others := competitors host descriptor socket port
  let free := socket.kind = .stream && socket.has .reuseAddress && others.all (·.joinedReusable)
  !free && others.any (hinders socket endpoint.address)

def listenHindered (host : IsolatedHost) (descriptor : Descriptor) (socket : HostSocket) : Bool :=
  match socket.name, socket.port with
  | some name, some port =>
      (competitors host descriptor socket port).any (hinders socket name.address)
  | _, _ => false

def choosePort (host : IsolatedHost) : UInt16 × IsolatedHost :=
  (host.nextPort, { host with nextPort := host.nextPort + 1 })

def unspecified : Family → Endpoint
  | .inet6 => .new Address.anyV6 0
  | _ => .new Address.anyV4 0

def HostSocket.settle (socket : HostSocket) (endpoint : Endpoint) (port : UInt16) (asked : Bool) :
    HostSocket :=
  { socket with
    name := some { endpoint with port := some port, flowInfo := 0, scopeId := 0 }
    port := some port
    portAsked := asked
    joinedReusable := socket.has .reuseAddress }

def bindSocket (host : IsolatedHost) (descriptor : Descriptor) (socket : HostSocket)
    (endpoint : Endpoint) : Except Errno Unit × IsolatedHost :=
  let refused := if socket.port.isSome then some .invalidArgument
    else refuseAddress socket.kind endpoint
  match refused with
  | some errno => (.error errno, host)
  | none =>
      let asked := endpoint.port.getD 0
      if asked = 0 then
        let (port, after) := choosePort host
        (.ok (), after.setFile descriptor (.socket (socket.settle endpoint port false)))
      else if portTaken host descriptor socket endpoint asked then (.error .addressInUse, host)
      else (.ok (), host.setFile descriptor (.socket (socket.settle endpoint asked true)))

def autobind (host : IsolatedHost) (descriptor : Descriptor) (socket : HostSocket) :
    HostSocket × IsolatedHost :=
  if socket.port.isSome then (socket, host)
  else
    let (port, after) := choosePort host
    let settled := socket.settle (unspecified socket.family) port false
    (settled, after.setFile descriptor (.socket settled))

def listenSocket (host : IsolatedHost) (descriptor : Descriptor) (socket : HostSocket) :
    Except Errno Unit × IsolatedHost :=
  match socket.kind, socket.family with
  | .datagram, _ => (.error .notSupported, host)
  | .stream, .unix => (.error .invalidArgument, host)
  | .stream, _ =>
      let (settled, after) := autobind host descriptor socket
      if listenHindered after descriptor settled then (.error .addressInUse, host)
      else (.ok (), after.setFile descriptor
        (.socket { settled with activity := .listening, joinedReusable := false }))

end SocketReactor.Isolated
