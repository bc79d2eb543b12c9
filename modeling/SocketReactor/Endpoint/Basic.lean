import SocketReactor.Address.Literal

/-!
# Endpoints

An address with a port, which may be left open, and for IPv6 a flow label and the
interface that gives a scoped address its meaning. The text of an endpoint
brackets an IPv6 literal; reading also takes the family as a scheme in front.
-/

namespace SocketReactor

structure Endpoint where
  address : Address
  port : Option UInt16
  flowInfo : UInt32
  scopeId : UInt32
  deriving DecidableEq, Repr

namespace Endpoint

def new (address : Address) (port : UInt16) : Endpoint := ⟨address, some port, 0, 0⟩

def unset (address : Address) : Endpoint := ⟨address, none, 0, 0⟩

def withScope (endpoint : Endpoint) (scopeId : UInt32) : Endpoint :=
  { endpoint with scopeId := scopeId }

/-- An endpoint with everything given; an IPv4 endpoint has neither flow nor scope. -/
def full (address : Address) (port : UInt16) (flowInfo scopeId : UInt32) : Endpoint :=
  match address with
  | .v4 _ => new address port
  | .v6 _ => ⟨address, some port, flowInfo, scopeId⟩

def family (endpoint : Endpoint) : Family := endpoint.address.family

def text (endpoint : Endpoint) : String :=
  match endpoint.address, endpoint.port with
  | address, none => address.text
  | .v4 ip, some port => ip.text ++ ":" ++ Numeral.decimal port.toNat
  | .v6 ip, some port => "[" ++ ip.text ++ "]:" ++ Numeral.decimal port.toNat

def toText (endpoint : Endpoint) : String := endpoint.family.name ++ "://" ++ endpoint.text

/-- Reads a port: decimal digits after an optional plus sign, at most 65535. -/
def port? (text : List Char) : Option UInt16 :=
  let digits := if text.head? = some '+' then text.tail else text
  match Numeral.read? 10 digits with
  | some value => if value < 65536 then some (UInt16.ofNat value) else none
  | none => none

def literal (rest : List Char) (invalid : String → Fault) :
    Except Fault (Address × List Char) :=
  match rest with
  | '[' :: bracketed => do
      let (host, tail) ← (Text.splitFirst [']'] bracketed).elim
        (.error (invalid "unterminated '['")) .ok
      match tail with
      | ':' :: port => return (← Address.parseV6 (String.ofList host), port)
      | _ => .error (invalid "missing port")
  | _ => do
      let (host, port) ← (Text.splitLast ':' rest).elim (.error (invalid "missing port")) .ok
      if ':' ∈ host then .error (invalid "IPv6 literal must be bracketed")
      else return (← Address.parseV4 (String.ofList host), port)

def parse (text : String) : Except Fault Endpoint := do
  let invalid := Fault.badEndpoint text
  let (scheme, rest) := match Text.splitFirst "://".toList text.toList with
    | some (scheme, rest) => (some (String.ofList scheme), rest)
    | none => (none, text.toList)
  let (address, portText) ← literal rest invalid
  if scheme.all (· = address.family.name) then
    match port? portText with
    | some port => .ok (new address port)
    | none => .error (invalid "invalid port")
  else .error (invalid "scheme does not match address family")

end Endpoint

end SocketReactor
