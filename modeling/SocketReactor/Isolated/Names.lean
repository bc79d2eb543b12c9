import SocketReactor.Host.Call
import SocketReactor.Lookup

/-!
# Names on an isolated host

The name service of a host that can ask no other host. It knows the number forms
of IPv4 addresses, which have one to four numbers in decimal, octal or hexadecimal,
and IPv6 literals with a zone behind them. It knows no names.
-/

namespace SocketReactor.Isolated

/-- Reads a number: hexadecimal after `0x`, octal after `0`, else decimal. -/
def number? (piece : List Char) : Option Nat :=
  match piece with
  | '0' :: 'x' :: digits | '0' :: 'X' :: digits => Numeral.read? 16 digits
  | '0' :: _ => Numeral.read? 8 piece
  | _ => Numeral.read? 10 piece

def ipv4OfValue (value : Nat) : Ipv4 :=
  ⟨UInt8.ofNat (value / 16777216), UInt8.ofNat (value / 65536), UInt8.ofNat (value / 256),
    UInt8.ofNat value⟩

/-- The value of the numbers of an address: each but the last is one octet, and the last
fills the octets that are left. -/
def numberFormValue? : Nat → List Nat → Option Nat
  | 0, _ => none
  | _ + 1, [] => none
  | left + 1, [last] => if last < 256 ^ (left + 1) then some last else none
  | left + 1, octet :: rest =>
      if octet < 256 then
        (numberFormValue? left rest).map fun value => octet * 256 ^ left + value
      else none

def numberForm? (host : List Char) : Option Ipv4 :=
  match (host.splitOn '.').mapM number? with
  | some numbers => (numberFormValue? 4 numbers).map ipv4OfValue
  | none => none

def isLinkLocal (ip : Ipv6) : Bool :=
  ip.g0 &&& 0xffc0 = 0xfe80 || ip.g0 &&& 0xff0f = 0xff02

def isHostGroup (ip : Ipv6) : Bool := ip.g0 &&& 0xff0f = 0xff01

/-- Whether an address says where to go only together with an interface. -/
def needsInterface (ip : Ipv6) : Bool := isLinkLocal ip || isHostGroup ip

def interfaceName : List Char := "lo".toList

def interfaceIndex : UInt32 := 1

/-- Reads a zone: the interface's name for an address that needs one, or a number. -/
def zone? (ip : Ipv6) (zone : List Char) : Option UInt32 :=
  if needsInterface ip && zone = interfaceName then some interfaceIndex
  else match Numeral.read? 10 zone with
    | some value => if value < 4294967296 then some (UInt32.ofNat value) else none
    | none => none

def zonedForm? (host : List Char) : Option Endpoint :=
  match Text.splitFirst ['%'] host with
  | some (literal, zone) => do
      let ip ← Ipv6.parse? literal
      let scope ← zone? ip zone
      return ⟨.v6 ip, none, 0, scope⟩
  | none => none

def lookup (host : String) : Except LookupFailure (List (Option RawAddress)) :=
  match numberForm? host.toList, zonedForm? host.toList with
  | some ip, _ => .ok [some (RawAddress.ofEndpoint (.unset (.v4 ip)))]
  | none, some endpoint => .ok [some (RawAddress.ofEndpoint endpoint)]
  | none, none => .error Lookup.unknownName

def reverseLookup (octets : List UInt8) : Except LookupFailure String :=
  match (RawAddress.ofOctets octets (UInt32.ofNat octets.length)).endpoint with
  | .ok endpoint => .ok endpoint.address.text
  | .error _ => .error Lookup.unknownName

end SocketReactor.Isolated
