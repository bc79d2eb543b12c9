import SocketReactor.Proofs.Endpoint.RoundTrip

/-!
# What the system tells

Octets of any content and a length of any size, read as an endpoint.  The first two octets
and the length decide whether there is one, and what comes of the rest
(`storage_decides_endpoint`).  An endpoint that is read is written with the octets it was read
from (`wire_inet4`, `wire_inet6`), but for the eight that IPv4 leaves open: these come back as
zeros, whatever they were.
-/

namespace SocketReactor.RawAddress

variable {raw : RawAddress} {family : Family} {endpoint : Endpoint}

/-- The octets that the space begins with. -/
def leading (raw : RawAddress) (count : Nat) : List UInt8 := raw.storage.toList.take count

/-- The number that the first two octets make, the least significant first. -/
def leadingNumber (raw : RawAddress) : Nat := Octets.value (raw.leading 2).reverse

def IsOf (raw : RawAddress) (family : Family) : Prop :=
  (raw.leadingNumber : Int) = family.number.toInt

def HoldsEndpoint (raw : RawAddress) : Prop :=
  (raw.IsOf .inet4 ∧ 16 ≤ raw.length) ∨ (raw.IsOf .inet6 ∧ 28 ≤ raw.length)

/-- The fault of a space without an endpoint, with the number of its family and its length. -/
def notInet (raw : RawAddress) : Fault :=
  .badEndpoint ("sockaddr(family=" ++ Numeral.decimal raw.leadingNumber ++
    ", len=" ++ Numeral.decimal raw.length.toNat ++ ")") "not an inet address"

/-! ## The family -/

theorem leading_eq_ofFn (raw : RawAddress) {count : Nat} (inside : count ≤ 128) :
    raw.leading count = List.ofFn fun position : Fin count => raw.storage[position] := by
  apply List.ext_getElem
  · simp [leading, inside]
  · intro position _ _
    simp [leading]

theorem leadingNumber_eq (raw : RawAddress) : raw.leadingNumber = raw.familyNumber.toNat := by
  have octets : raw.leading 2 = [raw.storage[0], raw.storage[1]] := by
    rw [leading_eq_ofFn raw (by decide)]
    rfl
  have number : Octets.big16 raw.familyNumber = [raw.storage[1], raw.storage[0]] := by
    rw [familyNumber, Octets.big16, Octets.high_word16, Octets.low_word16]
  rw [leadingNumber, octets, ← Octets.value_big16, number]
  rfl

theorem eq_number_of_ofNumber? {number : Int32} (found : Family.ofNumber? number = some family) :
    number = family.number := by
  unfold Family.ofNumber? at found
  split at found
  · rename_i inet4
    cases found
    exact inet4
  · split at found
    · rename_i inet6
      cases found
      exact inet6
    · split at found
      · rename_i unix
        cases found
        exact unix
      · cases found

theorem family?_eq_some_iff : raw.family? = some family ↔ raw.IsOf family := by
  have small : raw.familyNumber.toNat < 2 ^ 31 :=
    Nat.lt_of_lt_of_le raw.familyNumber.toNat_lt (by decide)
  have number : (Int32.ofNat raw.familyNumber.toNat).toInt = raw.familyNumber.toNat :=
    Int32.toInt_ofNat_of_lt small
  rw [family?, IsOf, leadingNumber_eq, ← number, Int32.toInt_inj]
  constructor
  · exact eq_number_of_ofNumber?
  · intro same
    rw [same, Family.ofNumber?_number]

/-! ## What is read -/

theorem endpoint_of_inet4 (isOf : raw.IsOf .inet4) :
    raw.endpoint =
      if 16 ≤ raw.length then .ok (.new (.v4 raw.ipv4) raw.port) else .error raw.notInet := by
  rw [endpoint, family?_eq_some_iff.mpr isOf, notInet, leadingNumber_eq]

theorem endpoint_of_inet6 (isOf : raw.IsOf .inet6) :
    raw.endpoint =
      if 28 ≤ raw.length then .ok ⟨.v6 raw.ipv6, some raw.port, raw.flowInfo, raw.scopeId⟩
      else .error raw.notInet := by
  rw [endpoint, family?_eq_some_iff.mpr isOf, notInet, leadingNumber_eq]

theorem endpoint_of_unix (isOf : raw.IsOf .unix) :
    raw.endpoint = .error (.unsupportedFamily "unix") := by
  rw [endpoint, family?_eq_some_iff.mpr isOf]
  rfl

theorem endpoint_of_unknown (unknown : ∀ family, ¬raw.IsOf family) :
    raw.endpoint = .error raw.notInet := by
  have none_found : raw.family? = none := by
    rw [Option.eq_none_iff_forall_ne_some]
    intro family found
    exact unknown family (family?_eq_some_iff.mp found)
  rw [endpoint, none_found, notInet, leadingNumber_eq]

theorem endpoint_of_holdsEndpoint (holds : raw.HoldsEndpoint) :
    ∃ endpoint, raw.endpoint = .ok endpoint := by
  rcases holds with ⟨inet4, long⟩ | ⟨inet6, long⟩
  · exact ⟨_, by rw [endpoint_of_inet4 inet4, if_pos long]⟩
  · exact ⟨_, by rw [endpoint_of_inet6 inet6, if_pos long]⟩

/-- Without an endpoint, the family alone decides the fault: a length that is too short for
one family is not tried on another. -/
theorem endpoint_of_not_holdsEndpoint (missing : ¬raw.HoldsEndpoint) :
    raw.endpoint =
      .error (if raw.family? = some .unix then .unsupportedFamily "unix" else raw.notInet) := by
  rw [HoldsEndpoint, not_or, not_and, not_and] at missing
  cases named : raw.family? with
  | none =>
      rw [if_neg (by decide)]
      refine endpoint_of_unknown fun family isOf => ?_
      rw [family?_eq_some_iff.mpr isOf] at named
      cases named
  | some family =>
      have isOf := family?_eq_some_iff.mp named
      cases family with
      | inet4 => rw [endpoint_of_inet4 isOf, if_neg (missing.1 isOf), if_neg (by decide)]
      | inet6 => rw [endpoint_of_inet6 isOf, if_neg (missing.2 isOf), if_neg (by decide)]
      | unix => rw [endpoint_of_unix isOf, if_pos rfl]

/-! ## What is written again -/

theorem familyOctets_eq (isOf : raw.IsOf family) :
    Endpoint.familyOctets family = raw.leading 2 := by
  rw [IsOf, leadingNumber_eq] at isOf
  have number : family.number.toNatClampNeg = raw.familyNumber.toNat := by
    rw [Int32.toNatClampNeg, ← isOf, Int.toNat_natCast]
  rw [Endpoint.familyOctets, number, UInt16.ofNat_toNat, familyNumber, Octets.little16,
    Octets.low_word16, Octets.high_word16, leading_eq_ofFn raw (by decide)]
  rfl

theorem wire_inet4 (isOf : raw.IsOf .inet4) :
    (Endpoint.new (.v4 raw.ipv4) raw.port).wire = raw.leading 8 ++ List.replicate 8 0 := by
  rw [leading_eq_ofFn raw (by decide), Endpoint.wire]
  simp only [Endpoint.new, familyOctets_eq isOf, leading_eq_ofFn raw (show 2 ≤ 128 by decide),
    Option.getD_some, port, Octets.big16, Octets.high_word16, Octets.low_word16]
  rfl

theorem wire_inet6 (isOf : raw.IsOf .inet6) :
    (Endpoint.mk (.v6 raw.ipv6) (some raw.port) raw.flowInfo raw.scopeId).wire =
      raw.leading 28 := by
  rw [leading_eq_ofFn raw (by decide), Endpoint.wire]
  simp only [familyOctets_eq isOf, leading_eq_ofFn raw (show 2 ≤ 128 by decide),
    Option.getD_some, port, flowInfo, scopeId, ipv6, Ipv6.octets, Ipv6.groups,
    List.flatMap_cons, List.flatMap_nil, Octets.big32, Octets.big16, Octets.little32,
    Octets.little16, Octets.high_word16, Octets.low_word16, Octets.high16_word32,
    Octets.low16_word32]
  rfl

theorem wire_of_inet4 (isOf : raw.IsOf .inet4) (found : raw.endpoint = .ok endpoint) :
    endpoint.wire = raw.leading 8 ++ List.replicate 8 0 := by
  rw [endpoint_of_inet4 isOf] at found
  split at found
  · cases found
    exact wire_inet4 isOf
  · cases found

theorem wire_of_inet6 (isOf : raw.IsOf .inet6) (found : raw.endpoint = .ok endpoint) :
    endpoint.wire = raw.leading 28 := by
  rw [endpoint_of_inet6 isOf] at found
  split at found
  · cases found
    exact wire_inet6 isOf
  · cases found

/-- For octets of any content and every length: there is an endpoint just when the family is
IPv4 and the length at least sixteen, or the family IPv6 and the length at least twenty-eight.
An IPv4 endpoint is written with the first eight octets and eight zeros, an IPv6 endpoint with
the first twenty-eight octets.  Without an endpoint, a local socket is of an unsupported family
whatever the length, and anything else is refused with the number of its family and its
length. -/
theorem storage_decides_endpoint (raw : RawAddress) :
    ((∃ endpoint, raw.endpoint = .ok endpoint) ↔ raw.HoldsEndpoint) ∧
    (∀ endpoint, raw.endpoint = .ok endpoint →
      (raw.IsOf .inet4 ∧ endpoint.wire = raw.leading 8 ++ List.replicate 8 0) ∨
      (raw.IsOf .inet6 ∧ endpoint.wire = raw.leading 28)) ∧
    (raw.IsOf .unix → raw.endpoint = .error (.unsupportedFamily "unix")) ∧
    (¬raw.HoldsEndpoint → ¬raw.IsOf .unix → raw.endpoint = .error raw.notInet) := by
  have holds : ∀ endpoint, raw.endpoint = .ok endpoint → raw.HoldsEndpoint := by
    intro endpoint found
    refine Classical.byContradiction fun missing => ?_
    rw [endpoint_of_not_holdsEndpoint missing] at found
    cases found
  refine ⟨⟨fun ⟨endpoint, found⟩ => holds endpoint found, endpoint_of_holdsEndpoint⟩, ?_,
    endpoint_of_unix, ?_⟩
  · intro endpoint found
    rcases holds endpoint found with ⟨inet4, -⟩ | ⟨inet6, -⟩
    · exact .inl ⟨inet4, wire_of_inet4 inet4 found⟩
    · exact .inr ⟨inet6, wire_of_inet6 inet6 found⟩
  · intro missing named
    rw [endpoint_of_not_holdsEndpoint missing,
      if_neg fun unix => named (family?_eq_some_iff.mp unix)]

/-- Octets that an IPv6 endpoint would need one more of are not read as the IPv4 endpoint that
they are long enough for. -/
example : (ofOctets (Endpoint.familyOctets .inet6) 27).endpoint =
    .error (.badEndpoint "sockaddr(family=10, len=27)" "not an inet address") := by
  rfl

end SocketReactor.RawAddress
