import SocketReactor.Address.Basic

/-!
# Protocols

A protocol is what a socket is made of: an address family, a kind of transfer,
and the number that picks one protocol among those of the family and kind, where
zero leaves the choice to the system.
-/

namespace SocketReactor

/-- How a socket transfers data: as an ordered stream or as single messages. -/
inductive Kind where
  | stream
  | datagram
  deriving DecidableEq, Repr

namespace Kind

def name : Kind → String
  | stream => "stream"
  | datagram => "datagram"

def number : Kind → Int32
  | stream => 1
  | datagram => 2

end Kind

structure Protocol where
  family : Family
  kind : Kind
  number : Int32
  deriving DecidableEq, Repr

namespace Protocol

def tcp4 : Protocol := ⟨.inet4, .stream, 0⟩

def udp4 : Protocol := ⟨.inet4, .datagram, 0⟩

def tcp6 : Protocol := ⟨.inet6, .stream, 0⟩

def udp6 : Protocol := ⟨.inet6, .datagram, 0⟩

def unix : Protocol := ⟨.unix, .stream, 0⟩

def text (protocol : Protocol) : String :=
  let family := match protocol.family with
    | .inet4 => "inet"
    | .inet6 => "inet6"
    | .unix => "unix"
  family ++ ":" ++ protocol.kind.name ++ ":" ++ Numeral.signed protocol.number.toInt

def shortName (protocol : Protocol) : String :=
  match protocol.family, protocol.kind with
  | .inet4, .stream => "tcp"
  | .inet4, .datagram => "udp"
  | .inet6, .stream => "tcp6"
  | .inet6, .datagram => "udp6"
  | .unix, .stream => "unix"
  | .unix, .datagram => "unix-dgram"

def requireKind (protocol : Protocol) (kind : Kind) : Except Fault Unit :=
  if protocol.kind = kind then .ok () else .error (.wrongKind protocol.text kind.name)

end Protocol

end SocketReactor
