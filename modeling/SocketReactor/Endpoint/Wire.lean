import SocketReactor.Endpoint.Basic

/-!
# Endpoints on the wire

The octets in which endpoints cross to the operating system and back. The family
comes first, least significant octet first; the port and the flow label are in
network order. `RawAddress` is the space that the system fills when it tells an
address, and `RawAddress.endpoint` reads it.
-/

namespace SocketReactor

namespace Endpoint

def familyOctets (family : Family) : List UInt8 :=
  Octets.little16 (UInt16.ofNat family.number.toNatClampNeg)

/-- The octets of an endpoint, sixteen for IPv4 and twenty-eight for IPv6. An open
port is written as zero. -/
def wire (endpoint : Endpoint) : List UInt8 :=
  let port := Octets.big16 (endpoint.port.getD 0)
  match endpoint.address with
  | .v4 ip => familyOctets .inet4 ++ port ++ ip.octets ++ List.replicate 8 0
  | .v6 ip =>
      familyOctets .inet6 ++ port ++ Octets.big32 endpoint.flowInfo ++ ip.octets ++
        Octets.little32 endpoint.scopeId

end Endpoint

/-- The space for an address of any family, with the length that the system gave. -/
structure RawAddress where
  storage : Vector UInt8 128
  length : UInt32
  deriving DecidableEq

namespace RawAddress

def ofOctets (octets : List UInt8) (length : UInt32) : RawAddress :=
  ⟨Vector.ofFn fun position => octets.getD position 0, length⟩

def ofEndpoint (endpoint : Endpoint) : RawAddress :=
  ofOctets endpoint.wire (UInt32.ofNat endpoint.wire.length)

/-- What the system tells of an unnamed socket of a family without endpoints. -/
def unnamed : RawAddress := ofOctets (Endpoint.familyOctets .unix) 2

def familyNumber (raw : RawAddress) : UInt16 := Octets.word16 raw.storage[1] raw.storage[0]

def family? (raw : RawAddress) : Option Family :=
  Family.ofNumber? (Int32.ofNat raw.familyNumber.toNat)

def port (raw : RawAddress) : UInt16 := Octets.word16 raw.storage[2] raw.storage[3]

def ipv4 (raw : RawAddress) : Ipv4 :=
  ⟨raw.storage[4], raw.storage[5], raw.storage[6], raw.storage[7]⟩

def flowInfo (raw : RawAddress) : UInt32 :=
  Octets.word32 (Octets.word16 raw.storage[4] raw.storage[5])
    (Octets.word16 raw.storage[6] raw.storage[7])

def ipv6 (raw : RawAddress) : Ipv6 :=
  ⟨Octets.word16 raw.storage[8] raw.storage[9], Octets.word16 raw.storage[10] raw.storage[11],
    Octets.word16 raw.storage[12] raw.storage[13], Octets.word16 raw.storage[14] raw.storage[15],
    Octets.word16 raw.storage[16] raw.storage[17], Octets.word16 raw.storage[18] raw.storage[19],
    Octets.word16 raw.storage[20] raw.storage[21], Octets.word16 raw.storage[22] raw.storage[23]⟩

def scopeId (raw : RawAddress) : UInt32 :=
  Octets.word32 (Octets.word16 raw.storage[27] raw.storage[26])
    (Octets.word16 raw.storage[25] raw.storage[24])

def endpoint (raw : RawAddress) : Except Fault Endpoint :=
  let noEndpoint := Fault.badEndpoint
    ("sockaddr(family=" ++ Numeral.decimal raw.familyNumber.toNat ++
      ", len=" ++ Numeral.decimal raw.length.toNat ++ ")") "not an inet address"
  match raw.family? with
  | some .inet4 =>
      if 16 ≤ raw.length then .ok (.new (.v4 raw.ipv4) raw.port) else .error noEndpoint
  | some .inet6 =>
      if 28 ≤ raw.length then .ok ⟨.v6 raw.ipv6, some raw.port, raw.flowInfo, raw.scopeId⟩
      else .error noEndpoint
  | some .unix => .error (.unsupportedFamily Family.unix.name)
  | none => .error noEndpoint

end RawAddress

end SocketReactor
