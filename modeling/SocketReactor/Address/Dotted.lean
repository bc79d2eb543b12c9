import SocketReactor.Address.Basic

/-!
# Dotted addresses

The text of an IPv4 address: four decimal octets with points between them, none
with a leading zero. `parse?_chars` says that the text of every address reads
back.
-/

namespace SocketReactor.Ipv4

def octetChars (octet : UInt8) : List Char := Nat.toDigits 10 octet.toNat

def chars (ip : Ipv4) : List Char := ['.'].intercalate (ip.octets.map octetChars)

def text (ip : Ipv4) : String := String.ofList ip.chars

/-- Reads an octet: decimal digits without a leading zero, at most 255. -/
def octet? (piece : List Char) : Option UInt8 :=
  if piece.head? = some '0' ∧ piece ≠ ['0'] then none
  else match Numeral.read? 10 piece with
    | some value => if value < 256 then some (UInt8.ofNat value) else none
    | none => none

def parse? (text : List Char) : Option Ipv4 :=
  match text.splitOn '.' with
  | [a, b, c, d] => match octet? a, octet? b, octet? c, octet? d with
    | some a, some b, some c, some d => some ⟨a, b, c, d⟩
    | _, _, _, _ => none
  | _ => none

theorem octet?_octetChars (octet : UInt8) : octet? (octetChars octet) = some octet := by
  have reads := Numeral.read?_toDigits (by decide : 1 < 10) (by decide) octet.toNat
  have small : octet.toNat < 256 := octet.toNat_lt
  have canonical : ∀ n < 256, ¬ ((Nat.toDigits 10 n).head? = some '0' ∧ Nat.toDigits 10 n ≠ ['0']) := by
    decide +kernel
  simp only [octet?, octetChars, canonical octet.toNat small, if_false, reads, small, if_true,
    UInt8.ofNat_toNat]

theorem not_mem_octetChars (octet : UInt8) : '.' ∉ octetChars octet := by
  intro found
  have digit := Nat.isDigit_of_mem_toDigits (by decide) (by decide) found
  simp at digit

theorem parse?_chars (ip : Ipv4) : parse? ip.chars = some ip := by
  have split : ip.chars.splitOn '.' = ip.octets.map octetChars := by
    apply List.splitOn_intercalate
    · intro piece member
      obtain ⟨octet, _, rfl⟩ := List.mem_map.mp member
      exact not_mem_octetChars octet
    · simp [octets]
  simp [parse?, split, octets, octet?_octetChars]

end SocketReactor.Ipv4
