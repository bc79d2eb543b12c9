/-!
# Numerals

Numbers in text: digits of a base up to sixteen, read most significant first
and written without leading zeros. `read?` refuses the empty text and every
text with a character that is not a digit of the base; `read?_toDigits` says
that it reads back what `Nat.toDigits` writes.
-/

namespace SocketReactor.Numeral

/-- The value of a character as a digit of `base`; both cases of a letter count. -/
def digit? (base : Nat) (c : Char) : Option Nat :=
  let value :=
    if c.isDigit then c.toNat - '0'.toNat
    else if 'a' ≤ c ∧ c ≤ 'f' then c.toNat - 'a'.toNat + 10
    else if 'A' ≤ c ∧ c ≤ 'F' then c.toNat - 'A'.toNat + 10
    else base
  if value < base then some value else none

/-- The number that a list of digits denotes, most significant first. -/
def ofDigits (base : Nat) (digits : List Nat) : Nat :=
  digits.foldl (fun number digit => base * number + digit) 0

def read? (base : Nat) (text : List Char) : Option Nat :=
  if text = [] then none else (text.mapM (digit? base)).map (ofDigits base)

def decimal (n : Nat) : String :=
  String.ofList (Nat.toDigits 10 n)

/-- The decimal text of an integer, with a minus sign below zero. -/
def signed (n : Int) : String :=
  if n < 0 then "-" ++ decimal n.natAbs else decimal n.natAbs

/-- The lower-case hexadecimal text of a natural number. -/
def hexadecimal (n : Nat) : String :=
  String.ofList (Nat.toDigits 16 n)

/-- A binary numeral after `0b`, filled with zeros to at least four digits. -/
def binary (n : Nat) : String :=
  let digits := Nat.toDigits 2 n
  "0b" ++ String.ofList (List.replicate (4 - digits.length) '0' ++ digits)

theorem digit?_digitChar {base digit : Nat} (small : digit < base) (base_le : base ≤ 16) :
    digit? base (Nat.digitChar digit) = some digit := by
  have bound : digit < 16 := by omega
  have value : ∀ d < 16,
      (if (Nat.digitChar d).isDigit then (Nat.digitChar d).toNat - '0'.toNat
        else if 'a' ≤ Nat.digitChar d ∧ Nat.digitChar d ≤ 'f' then
          (Nat.digitChar d).toNat - 'a'.toNat + 10
        else if 'A' ≤ Nat.digitChar d ∧ Nat.digitChar d ≤ 'F' then
          (Nat.digitChar d).toNat - 'A'.toNat + 10
        else base) = d := by
    intro d d_lt
    match d, d_lt with
    | 0, _ | 1, _ | 2, _ | 3, _ | 4, _ | 5, _ | 6, _ | 7, _ | 8, _ | 9, _ | 10, _ | 11, _
    | 12, _ | 13, _ | 14, _ | 15, _ => rfl
    | _ + 16, d_lt => omega
  simp only [digit?, value digit bound, small, if_true]

theorem ofDigits_append_singleton (base : Nat) (digits : List Nat) (digit : Nat) :
    ofDigits base (digits ++ [digit]) = base * ofDigits base digits + digit := by
  simp [ofDigits]

theorem mapM_digit?_toDigits {base : Nat} (base_gt : 1 < base) (base_le : base ≤ 16) (n : Nat) :
    ((Nat.toDigits base n).mapM (digit? base)).map (ofDigits base) = some n := by
  induction n using Nat.strongRecOn with
  | ind n ih =>
      by_cases small : n < base
      · rw [Nat.toDigits_of_lt_base small]
        simp [digit?_digitChar small base_le, ofDigits]
      · rw [Nat.toDigits_of_base_le base_gt (by omega)]
        have smaller := ih (n / base) (Nat.div_lt_self (by omega) base_gt)
        obtain ⟨digits, read, value⟩ := Option.map_eq_some_iff.mp smaller
        have last := digit?_digitChar (Nat.mod_lt n (by omega : 0 < base)) base_le
        simp [List.mapM_append, read, last, ofDigits_append_singleton, value, Nat.div_add_mod]

theorem read?_toDigits {base : Nat} (base_gt : 1 < base) (base_le : base ≤ 16) (n : Nat) :
    read? base (Nat.toDigits base n) = some n := by
  simp [read?, Nat.toDigits_ne_nil, mapM_digit?_toDigits base_gt base_le]

end SocketReactor.Numeral
