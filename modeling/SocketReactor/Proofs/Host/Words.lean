import Mathlib.Algebra.Group.Nat.Defs

/-!
# Numbers of words

Numbers without a sign are handed to the host as numbers of 32 or 64 bits with one: a number that
has the sign bit to spare stays what it is.  `Word.fit?` is one step of a computation in words that
must not overflow.
-/

namespace SocketReactor

/-! ## Signs -/

theorem toInt_toInt32 (number : UInt32) :
    number.toInt32.toInt = (number.toNat : Int).bmod (2 ^ 32) :=
  BitVec.toInt_eq_toNat_bmod number.toBitVec

theorem bmod_eq_iff (number : Nat) :
    ((number % 2 ^ 32 : Nat) : Int).bmod (2 ^ 32) = number ↔ number < 2 ^ 31 := by
  rw [Int.bmod_def]
  split <;> omega

/-- A number that has the sign bit to spare is the same with a sign. -/
theorem toInt_toInt64 {number : UInt64} (small : number.toNat < 2 ^ 63) :
    number.toInt64.toInt = number.toNat := by
  have signed : number.toInt64.toInt = (number.toNat : Int).bmod (2 ^ 64) :=
    BitVec.toInt_eq_toNat_bmod number.toBitVec
  rw [signed, Int.bmod_def]
  split <;> omega

/-- A number that is not negative is the same without a sign. -/
theorem toNat_toUInt64 {number : Int64} (positive : 0 ≤ number.toInt) :
    (number.toUInt64.toNat : Int) = number.toInt := by
  have bound := number.toUInt64.toNat_lt
  have signed : number.toInt = (number.toUInt64.toNat : Int).bmod (2 ^ 64) :=
    BitVec.toInt_eq_toNat_bmod number.toBitVec
  rw [signed, Int.bmod_def] at positive ⊢
  split at positive <;> rename_i small
  · rw [if_pos small]
    omega
  · omega

/-- A count without a sign bit to spare is handed over as a negative number. -/
theorem toInt_toInt32_nonpos {count : UInt32} (changed : count.toInt32.toInt ≠ count.toNat) :
    count.toInt32.toInt ≤ 0 := by
  have bound := count.toNat_lt
  rw [toInt_toInt32, Int.bmod_def] at changed ⊢
  split <;> omega

/-! ## Cuts -/

theorem toInt_cut (number : UInt64) :
    number.toUInt32.toInt32.toInt = ((number.toNat % 2 ^ 32 : Nat) : Int).bmod (2 ^ 32) := by
  rw [toInt_toInt32, UInt64.toNat_toUInt32]

theorem cut_eq_iff (number : UInt64) :
    number.toUInt32.toInt32.toInt = number.toNat ↔ number.toNat < 2 ^ 31 := by
  rw [toInt_cut, bmod_eq_iff]

/-- A positive number is what is left of the quantity in 32 bits. -/
theorem cut_of_pos {number : UInt64} (positive : 0 < number.toUInt32.toInt32.toInt) :
    number.toUInt32.toInt32.toInt = (number.toNat % 2 ^ 32 : Nat) := by
  rw [toInt_cut, Int.bmod_def] at positive ⊢
  split at positive <;> rename_i small
  · rw [if_pos small]
    omega
  · omega

/-! ## Steps that fit -/

namespace Word

def fit? (bits number : Nat) : Option Nat := if number < 2 ^ bits then some number else none

theorem fit?_of_lt {bits number : Nat} (small : number < 2 ^ bits) : fit? bits number = some number :=
  if_pos small

/-- The quotient rounded up: one more than the quotient if there is a remainder. -/
def ceilDiv? (bits number divisor : Nat) : Option Nat :=
  if number % divisor = 0 then some (number / divisor) else fit? bits (number / divisor + 1)

end Word

end SocketReactor
