import SocketReactor.Endpoint.Wire

/-!
# Endpoints to the wire and back

What an endpoint looks like in octets, and which endpoint is read from them.  The
octets of an IPv4 endpoint have no room for a scope, so one that has been given a
scope comes back without it.
-/

namespace SocketReactor

namespace Octets

/-- The number that octets stand for, most significant octet first. -/
def value (octets : List UInt8) : Nat :=
  octets.foldl (fun upper octet => upper * 256 + octet.toNat) 0

theorem value_big16 (word : UInt16) : value (big16 word) = word.toNat := by
  have bound := word.toNat_lt
  simp only [value, big16, high, low, List.foldl_cons, List.foldl_nil, UInt8.toNat_ofNat']
  omega

theorem value_big32 (word : UInt32) : value (big32 word) = word.toNat := by
  have bound := word.toNat_lt
  simp only [value, big32, big16, high, low, high16, low16, List.cons_append, List.nil_append,
    List.foldl_cons, List.foldl_nil, UInt8.toNat_ofNat', UInt16.toNat_ofNat']
  omega

theorem reverse_little32 (word : UInt32) : (little32 word).reverse = big32 word := rfl

end Octets

namespace Endpoint

/-- The octets are family, port and what follows them.  The family comes least significant
octet first, the port most significant octet first. -/
def Headed (octets : List UInt8) (family : Family) (port : UInt16) (rest : List UInt8) : Prop :=
  ∃ number portOctets, octets = number ++ portOctets ++ rest ∧
    number.length = 2 ∧ (Octets.value number.reverse : Int) = family.number.toInt ∧
    portOctets.length = 2 ∧ Octets.value portOctets = port.toNat

/-- The octets are laid out as the system takes an endpoint: after family and port, for IPv4
the address and eight zeros, for IPv6 the flow label in network order, the address and the
scope, least significant octet first. -/
def LaidOut (endpoint : Endpoint) (octets : List UInt8) : Prop :=
  match endpoint.address with
  | .v4 ip => octets.length = 16 ∧
      Headed octets .inet4 (endpoint.port.getD 0) (ip.octets ++ List.replicate 8 0)
  | .v6 ip => octets.length = 28 ∧ ∃ flow scope,
      Headed octets .inet6 (endpoint.port.getD 0) (flow ++ ip.octets ++ scope) ∧
      flow.length = 4 ∧ Octets.value flow = endpoint.flowInfo.toNat ∧
      scope.length = 4 ∧ Octets.value scope.reverse = endpoint.scopeId.toNat

theorem headed_familyOctets (family : Family) (port : UInt16) (rest : List UInt8) :
    Headed (familyOctets family ++ Octets.big16 port ++ rest) family port rest :=
  ⟨familyOctets family, Octets.big16 port, rfl, rfl, by cases family <;> decide, rfl,
    Octets.value_big16 port⟩

theorem laidOut_wire (endpoint : Endpoint) : endpoint.LaidOut endpoint.wire := by
  obtain ⟨address, port, flowInfo, scopeId⟩ := endpoint
  cases address with
  | v4 ip => exact ⟨rfl, headed_familyOctets .inet4 (port.getD 0) _⟩
  | v6 ip =>
      refine ⟨rfl, Octets.big32 flowInfo, Octets.little32 scopeId, ?_, rfl,
        Octets.value_big32 flowInfo, rfl, ?_⟩
      · exact headed_familyOctets .inet6 (port.getD 0) _
      · rw [Octets.reverse_little32, Octets.value_big32]

def settled (endpoint : Endpoint) : Endpoint :=
  { endpoint with port := some (endpoint.port.getD 0) }

def told (endpoint : Endpoint) : Endpoint :=
  match endpoint.address with
  | .v4 ip => new (.v4 ip) (endpoint.port.getD 0)
  | .v6 _ => endpoint.settled

section Reading

variable (ip : Ipv4) (ip6 : Ipv6) (port : Option UInt16) (flowInfo scopeId : UInt32)

theorem storage_ofEndpoint (endpoint : Endpoint) (position : Nat) (inside : position < 128) :
    (RawAddress.ofEndpoint endpoint).storage[position] = endpoint.wire.getD position 0 :=
  Vector.getElem_ofFn inside

theorem family?_ofEndpoint (endpoint : Endpoint) :
    (RawAddress.ofEndpoint endpoint).family? = some endpoint.family := by
  rw [RawAddress.family?, RawAddress.familyNumber, storage_ofEndpoint, storage_ofEndpoint]
  obtain ⟨address, port, flowInfo, scopeId⟩ := endpoint
  have known : ∀ family : Family, Family.ofNumber? (Int32.ofNat (Octets.word16
      ((familyOctets family).getD 1 0) ((familyOctets family).getD 0 0)).toNat) =
        some family := by
    intro family
    cases family <;> decide
  cases address with
  | v4 ip => exact known .inet4
  | v6 ip => exact known .inet6

theorem port_ofEndpoint (endpoint : Endpoint) :
    (RawAddress.ofEndpoint endpoint).port = endpoint.port.getD 0 := by
  rw [RawAddress.port, storage_ofEndpoint, storage_ofEndpoint]
  obtain ⟨address, port, flowInfo, scopeId⟩ := endpoint
  cases address <;> exact Octets.word16_high_low _

theorem ipv4_ofEndpoint :
    (RawAddress.ofEndpoint ⟨.v4 ip, port, flowInfo, scopeId⟩).ipv4 = ip := by
  simp only [RawAddress.ipv4, storage_ofEndpoint]
  rfl

theorem ipv6_ofEndpoint :
    (RawAddress.ofEndpoint ⟨.v6 ip6, port, flowInfo, scopeId⟩).ipv6 = ip6 := by
  have read : Ipv6.ofOctets? ip6.octets =
      some (RawAddress.ofEndpoint ⟨.v6 ip6, port, flowInfo, scopeId⟩).ipv6 := by
    simp only [RawAddress.ipv6, storage_ofEndpoint]
    rfl
  exact Option.some.inj (read.symm.trans (Ipv6.ofOctets?_octets ip6))

theorem word_of_octets (word : UInt32) :
    Octets.word32
      (Octets.word16 (Octets.high (Octets.high16 word)) (Octets.low (Octets.high16 word)))
      (Octets.word16 (Octets.high (Octets.low16 word)) (Octets.low (Octets.low16 word))) =
        word := by
  rw [Octets.word16_high_low, Octets.word16_high_low, Octets.word32_high16_low16]

theorem flowInfo_ofEndpoint :
    (RawAddress.ofEndpoint ⟨.v6 ip6, port, flowInfo, scopeId⟩).flowInfo = flowInfo := by
  simp only [RawAddress.flowInfo, storage_ofEndpoint]
  exact word_of_octets flowInfo

theorem scopeId_ofEndpoint :
    (RawAddress.ofEndpoint ⟨.v6 ip6, port, flowInfo, scopeId⟩).scopeId = scopeId := by
  simp only [RawAddress.scopeId, storage_ofEndpoint]
  exact word_of_octets scopeId

end Reading

/-- The octets of an endpoint are read as what they tell. -/
theorem endpoint_ofEndpoint (endpoint : Endpoint) :
    (RawAddress.ofEndpoint endpoint).endpoint = .ok endpoint.told := by
  rw [RawAddress.endpoint, family?_ofEndpoint, port_ofEndpoint]
  obtain ⟨address, port, flowInfo, scopeId⟩ := endpoint
  cases address with
  | v4 ip =>
      have long : 16 ≤ (RawAddress.ofEndpoint ⟨.v4 ip, port, flowInfo, scopeId⟩).length :=
        (by decide : (16 : UInt32) ≤ UInt32.ofNat 16)
      simp only [Endpoint.family, Address.family, if_pos long, ipv4_ofEndpoint, told]
  | v6 ip =>
      have long : 28 ≤ (RawAddress.ofEndpoint ⟨.v6 ip, port, flowInfo, scopeId⟩).length :=
        (by decide : (28 : UInt32) ≤ UInt32.ofNat 28)
      simp only [Endpoint.family, Address.family, if_pos long, ipv6_ofEndpoint,
        flowInfo_ofEndpoint, scopeId_ofEndpoint, told, settled]

/-- The endpoints that callers can come by: made from an address, told by the system, or read
from a text, and given a scope any number of times. -/
inductive Buildable : Endpoint → Prop where
  | new (address : Address) (port : UInt16) : Buildable (new address port)
  | unset (address : Address) : Buildable (unset address)
  | full (address : Address) (port : UInt16) (flowInfo scopeId : UInt32) :
      Buildable (full address port flowInfo scopeId)
  | parsed {text : String} {endpoint : Endpoint} (read : parse text = .ok endpoint) :
      Buildable endpoint
  | told {raw : RawAddress} {endpoint : Endpoint} (read : raw.endpoint = .ok endpoint) :
      Buildable endpoint
  | withScope {endpoint : Endpoint} (built : Buildable endpoint) (scopeId : UInt32) :
      Buildable (endpoint.withScope scopeId)

/-- What is read from a text has neither flow nor scope. -/
theorem eq_new_of_parse {text : String} {endpoint : Endpoint}
    (read : parse text = .ok endpoint) : ∃ address port, endpoint = new address port := by
  unfold parse at read
  dsimp only at read
  generalize literal _ (Fault.badEndpoint text) = found at read
  cases found with
  | error fault => cases read
  | ok split =>
      simp only [bind, Except.bind] at read
      generalize Option.all _ _ = fits at read
      cases fits with
      | false => cases read
      | true =>
          cases given : port? split.2 with
          | none =>
              rw [given] at read
              cases read
          | some port =>
              rw [given] at read
              cases read
              exact ⟨_, _, rfl⟩

/-- An IPv4 endpoint never has a flow. -/
theorem Buildable.flowInfo_eq {endpoint : Endpoint} (built : endpoint.Buildable)
    (family : endpoint.family = .inet4) : endpoint.flowInfo = 0 := by
  induction built with
  | new address port => rfl
  | unset address => rfl
  | full address port flowInfo scopeId =>
      cases address with
      | v4 ip => rfl
      | v6 ip => cases family
  | parsed read =>
      obtain ⟨address, port, rfl⟩ := eq_new_of_parse read
      rfl
  | told read =>
      unfold RawAddress.endpoint at read
      dsimp only at read
      split at read
      · split at read <;> cases read
        rfl
      · split at read <;> cases read
        cases family
      · cases read
      · cases read
  | withScope built scopeId ih => exact ih family

/-- For every endpoint that callers can come by: it is laid out as the system takes it, what
is read back from the octets is the endpoint with an open port taken for zero and, for IPv4,
without a scope; so it is the endpoint itself, up to an open port, unless an IPv4 endpoint
has been given a scope. -/
theorem wire_round_trip {endpoint : Endpoint} (built : endpoint.Buildable) :
    endpoint.LaidOut endpoint.wire ∧
    (RawAddress.ofEndpoint endpoint).endpoint =
      .ok { endpoint.settled with
        scopeId := if endpoint.family = .inet4 then 0 else endpoint.scopeId } ∧
    ((RawAddress.ofEndpoint endpoint).endpoint = .ok endpoint.settled ↔
      (endpoint.family = .inet4 → endpoint.scopeId = 0)) := by
  have back : endpoint.told =
      { endpoint.settled with
        scopeId := if endpoint.family = .inet4 then 0 else endpoint.scopeId } := by
    have flow := built.flowInfo_eq
    obtain ⟨address, port, flowInfo, scopeId⟩ := endpoint
    cases address with
    | v4 ip =>
        obtain rfl : flowInfo = 0 := flow rfl
        rfl
    | v6 ip => rfl
  refine ⟨endpoint.laidOut_wire, ?_, ?_⟩
  · rw [endpoint_ofEndpoint, back]
  · rw [endpoint_ofEndpoint, back]
    obtain ⟨address, port, flowInfo, scopeId⟩ := endpoint
    cases address with
    | v4 ip => simp [settled, family, Address.family, eq_comm]
    | v6 ip => simp [settled, family, Address.family]

/-- The scope of an IPv4 endpoint is lost. -/
theorem wire_loses_ipv4_scope :
    ((new .loopbackV4 80).withScope 7).Buildable ∧
    ((new .loopbackV4 80).withScope 7).settled = (new .loopbackV4 80).withScope 7 ∧
    (RawAddress.ofEndpoint ((new .loopbackV4 80).withScope 7)).endpoint =
      .ok (new .loopbackV4 80) := by
  have built : ((new .loopbackV4 80).withScope 7).Buildable := .withScope (.new _ _) 7
  exact ⟨built, rfl, (wire_round_trip built).2.1⟩

end Endpoint

end SocketReactor
