import Mathlib.Data.Set.Function
import SocketReactor.Proofs.Endpoint.Grammar

/-!
# Endpoints to text and back

What is written for an endpoint is one of the texts of the grammar, with and
without its family in front, so reading gives the endpoint back.  Without a port
it is an address alone and never a text of the grammar, whatever colons stand in
the address.
-/

namespace SocketReactor

namespace Address

variable {given : String} {ip4 : Ipv4} {ip6 : Ipv6}

theorem toList_text_v4 (ip : Ipv4) : (v4 ip).text.toList = ip.chars := String.toList_ofList

theorem toList_text_v6 (ip : Ipv6) : (v6 ip).text.toList = ip.chars := String.toList_ofList

theorem parse_of_literal_v4 (literal : Ipv4.Literal given.toList ip4) :
    parse given = .ok (v4 ip4) := by
  have apart : ':' ∉ given.toList := Ipv6.ne_colon_of_dotted literal
  rw [parse, if_neg apart, parseV4, Ipv4.parse?_eq_some_iff.mpr literal]

theorem parse_of_literal_v6 (literal : Ipv6.Literal given.toList ip6) :
    parse given = .ok (v6 ip6) := by
  have colons : 0 < given.toList.count ':' := Nat.zero_lt_of_lt literal.two_le_count
  rw [parse, if_pos (List.count_pos_iff.mp colons), parseV6, Ipv6.parse?_eq_some_iff.mpr literal]

theorem parse_text (address : Address) : parse address.text = .ok address := by
  cases address with
  | v4 ip =>
      apply parse_of_literal_v4
      rw [toList_text_v4]
      exact ip.literal_chars
  | v6 ip =>
      apply parse_of_literal_v6
      rw [toList_text_v6]
      exact ip.literal_chars

theorem text_injective : Function.Injective text := by
  intro first second same
  have read := parse_text first
  rw [same, parse_text second] at read
  exact (Except.ok.inj read).symm

end Address

namespace Endpoint

variable {scheme : List Char}

/-! ## With a port -/

theorem writesPort_toDigits (port : UInt16) : WritesPort (Nat.toDigits 10 port.toNat) port :=
  Numeral.denotes_toDigits (by decide) (by decide) port.toNat

theorem toList_text_new_v4 (ip : Ipv4) (port : UInt16) :
    (new (.v4 ip) port).text.toList = ip.chars ++ ':' :: Nat.toDigits 10 port.toNat := by
  simp [text, new, Ipv4.text, Numeral.decimal]

theorem toList_text_new_v6 (ip : Ipv6) (port : UInt16) :
    (new (.v6 ip) port).text.toList =
      '[' :: ip.chars ++ ']' :: ':' :: Nat.toDigits 10 port.toNat := by
  simp [text, new, Ipv6.text, Numeral.decimal]

/-- What is written after a scheme or nothing is a text of the grammar. -/
theorem spelled_text (address : Address) (port : UInt16)
    (front : WritesScheme scheme address.family) :
    Spelled WritesPort (scheme ++ (new address port).text.toList) (new address port) := by
  cases address with
  | v4 ip =>
      rw [toList_text_new_v4]
      exact .v4 front ip.literal_chars (writesPort_toDigits port)
  | v6 ip =>
      rw [toList_text_new_v6]
      exact .v6 front ip.literal_chars (writesPort_toDigits port)

theorem parse_text_new (address : Address) (port : UInt16) :
    parse (new address port).text = .ok (new address port) :=
  parse_of_spelled (spelled_text address port (.inl rfl)).signed

theorem parse_toText_new (address : Address) (port : UInt16) :
    parse (new address port).toText = .ok (new address port) := by
  have spelled := spelled_text address port (.inr rfl)
  rw [← String.toList_append, ← String.toList_append] at spelled
  exact parse_of_spelled spelled.signed

/-! ## Without a port -/

/-- A text in which no slash and no bracket stands, and nothing before the last colon or
another colon, is not read. -/
theorem parse_of_bare {text : String} (slash : '/' ∉ text.toList) (bracket : '[' ∉ text.toList)
    (colons : ∀ host tail, text.toList = host ++ ':' :: tail → ':' ∉ tail → ':' ∈ host) :
    ∃ reason, parse text = .error (.badEndpoint text reason) := by
  have uncut : Text.splitFirst "://".toList text.toList = none :=
    Text.splitFirst_eq_none (by rw [mark_eq]; decide) slash
  have unbracketed : text.toList.head? ≠ some '[' :=
    fun first => bracket (List.mem_of_mem_head? first)
  rw [parse_of_uncut uncut, literal_unbracketed unbracketed]
  cases cut : Text.splitLast ':' text.toList with
  | none => exact ⟨_, rfl⟩
  | some parts =>
      obtain ⟨host, tail⟩ := parts
      have another := colons host tail (Text.eq_append_of_splitLast cut)
        (Text.not_mem_of_splitLast cut)
      dsimp only
      rw [if_pos another]
      exact ⟨_, rfl⟩

theorem parse_text_unset (address : Address) :
    ∃ reason, parse (unset address).text = .error (.badEndpoint (unset address).text reason) := by
  show ∃ reason, parse address.text = .error (.badEndpoint address.text reason)
  cases address with
  | v4 ip =>
      have literal := ip.literal_chars
      rw [← Address.toList_text_v4] at literal
      refine parse_of_bare (not_mem_v4 literal (by decide) (by decide))
        (not_mem_v4 literal (by decide) (by decide)) ?_
      intro host tail whole
      have apart := Ipv6.ne_colon_of_dotted literal
      rw [whole] at apart
      simp at apart
  | v6 ip =>
      have literal := ip.literal_chars
      rw [← Address.toList_text_v6] at literal
      refine parse_of_bare (not_mem_v6 literal (by decide) (by decide) (by decide))
        (not_mem_v6 literal (by decide) (by decide) (by decide)) ?_
      intro host tail whole last
      have two := literal.two_le_count
      rw [whole, List.count_append, List.count_cons_self, List.count_eq_zero.mpr last] at two
      exact List.count_pos_iff.mp (by omega)

/-! ## Both together -/

/-- An endpoint without flow and scope is one with a port or one that leaves it open. -/
theorem eq_new_or_unset {endpoint : Endpoint}
    (plain : endpoint.flowInfo = 0 ∧ endpoint.scopeId = 0) :
    (∃ address port, endpoint = new address port) ∨ ∃ address, endpoint = unset address := by
  obtain ⟨address, port, flowInfo, scopeId⟩ := endpoint
  obtain ⟨rfl, rfl⟩ := plain
  cases port with
  | some port => exact .inl ⟨address, port, rfl⟩
  | none => exact .inr ⟨address, rfl⟩

theorem text_unset_ne (address other : Address) (port : UInt16) :
    (unset address).text ≠ (new other port).text := by
  intro same
  obtain ⟨reason, refused⟩ := parse_text_unset address
  rw [same, parse_text_new] at refused
  cases refused

theorem text_injOn : Set.InjOn text {endpoint | endpoint.flowInfo = 0 ∧ endpoint.scopeId = 0} := by
  intro first plain second plain' same
  rcases eq_new_or_unset plain with ⟨address, port, rfl⟩ | ⟨address, rfl⟩ <;>
    rcases eq_new_or_unset plain' with ⟨address', port', rfl⟩ | ⟨address', rfl⟩
  · have read := parse_text_new address port
    rw [same, parse_text_new] at read
    exact (Except.ok.inj read).symm
  · exact absurd same.symm (text_unset_ne address' address port)
  · exact absurd same (text_unset_ne address address' port')
  · exact congrArg unset (Address.text_injective same)

/-- The text of every address is read as that address.  The text of every endpoint with a
port, alone or after its family, is read as that endpoint, and the text of one whose port is
open is refused; so no two endpoints without flow and scope have the same text. -/
theorem text_round_trip :
    (∀ address : Address, Address.parse address.text = .ok address) ∧
    (∀ (address : Address) (port : UInt16),
      parse (new address port).text = .ok (new address port) ∧
      parse (new address port).toText = .ok (new address port)) ∧
    (∀ address : Address, ∃ reason,
      parse (unset address).text = .error (.badEndpoint (unset address).text reason)) ∧
    Set.InjOn text {endpoint | endpoint.flowInfo = 0 ∧ endpoint.scopeId = 0} :=
  ⟨Address.parse_text,
    fun address port => ⟨parse_text_new address port, parse_toText_new address port⟩,
    parse_text_unset, text_injOn⟩

end Endpoint

end SocketReactor
