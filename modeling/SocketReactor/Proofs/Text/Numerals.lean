import Mathlib.Data.Nat.Digits.Lemmas
import SocketReactor.Text.Numeral

/-!
# Texts that are numerals

Which texts denote a number in a base, said through positional notation and not
through the way in which they are read.  `read?_eq_some_iff` states that reading
takes just these texts, for the number that they denote; `plain_iff` that one of
them has neither a leading zero nor a capital, the one that is written.
-/

namespace SocketReactor.Numeral

/-- The character is a digit of the base, as it is written or as a capital. -/
def IsDigit (base : Nat) (c : Char) (digit : Nat) : Prop :=
  digit < base ∧ (c = Nat.digitChar digit ∨ c = (Nat.digitChar digit).toUpper)

/-- The text denotes a number: it has at least one character, and all of them are digits of
the base, the most significant first. -/
def Denotes (base : Nat) (text : List Char) (number : Nat) : Prop :=
  text ≠ [] ∧ ∃ digits, List.Forall₂ (IsDigit base) text digits ∧
    number = Nat.ofDigits base digits.reverse

variable {base digit number : Nat} {c : Char} {text : List Char} {digits : List Nat}

/-! ## Digits -/

/-- A digit of a larger base that is small enough is a digit of the base. -/
theorem digit?_mono {larger : Nat} (small : digit < base)
    (found : digit? larger c = some digit) : digit? base c = some digit := by
  simp only [digit?, Option.ite_none_right_eq_some, Option.some.injEq] at found ⊢
  obtain ⟨below, found⟩ := found
  rw [found] at below
  split_ifs at found ⊢ <;> omega

theorem eq_digitChar_of_digit? (found : digit? base c = some digit) :
    c = Nat.digitChar digit ∨ c = (Nat.digitChar digit).toUpper := by
  have decimal : ∀ n < 58, 48 ≤ n → Char.ofNat n = Nat.digitChar (n - 48) := by decide
  have lower : ∀ n < 103, 97 ≤ n → Char.ofNat n = Nat.digitChar (n - 97 + 10) := by decide
  have upper : ∀ n < 71, 65 ≤ n → Char.ofNat n = (Nat.digitChar (n - 65 + 10)).toUpper := by
    decide
  have numbers : '0'.toNat = 48 ∧ '9'.toNat = 57 ∧ 'a'.toNat = 97 ∧ 'f'.toNat = 102 ∧
      'A'.toNat = 65 ∧ 'F'.toNat = 70 := ⟨rfl, rfl, rfl, rfl, rfl, rfl⟩
  simp only [digit?, Option.ite_none_right_eq_some, Option.some.injEq] at found
  obtain ⟨small, found⟩ := found
  rw [found] at small
  rw [← Char.ofNat_toNat c]
  split_ifs at found with isDecimal isLower isUpper
  · rw [Char.isDigit_iff_toNat] at isDecimal
    rw [decimal _ (by omega) (by omega), ← found, numbers.1]
    exact .inl rfl
  · have first : 'a'.toNat ≤ c.toNat := isLower.1
    have last : c.toNat ≤ 'f'.toNat := isLower.2
    rw [lower _ (by omega) (by omega), ← found, numbers.2.2.1]
    exact .inl rfl
  · have first : 'A'.toNat ≤ c.toNat := isUpper.1
    have last : c.toNat ≤ 'F'.toNat := isUpper.2
    rw [upper _ (by omega) (by omega), ← found, numbers.2.2.2.2.1]
    exact .inr rfl
  · omega

theorem digit?_eq_some_iff (base_le : base ≤ 16) :
    digit? base c = some digit ↔ IsDigit base c digit := by
  constructor
  · intro found
    refine ⟨?_, eq_digitChar_of_digit? found⟩
    simp only [digit?, Option.ite_none_right_eq_some, Option.some.injEq] at found
    obtain ⟨small, rfl⟩ := found
    exact small
  · rintro ⟨small, rfl | rfl⟩
    · exact digit?_digitChar small base_le
    · have capital : ∀ d < 16, digit? 16 (Nat.digitChar d).toUpper = some d := by decide
      exact digit?_mono small (capital digit (by omega))

theorem IsDigit.isAlphanum (isDigit : IsDigit base c digit) (base_le : base ≤ 16) :
    c.isAlphanum = true := by
  have written : ∀ d < 16, (Nat.digitChar d).isAlphanum = true ∧
      (Nat.digitChar d).toUpper.isAlphanum = true := by decide
  obtain ⟨small, rfl | rfl⟩ := isDigit
  · exact (written digit (by omega)).1
  · exact (written digit (by omega)).2

/-! ## Numerals -/

theorem mapM_digit?_eq_some_iff (base_le : base ≤ 16) :
    text.mapM (digit? base) = some digits ↔ List.Forall₂ (IsDigit base) text digits := by
  induction text generalizing digits with
  | nil => simp [eq_comm]
  | cons c rest ih =>
      simp only [List.mapM_cons, Option.bind_eq_bind, Option.pure_def, Option.bind_eq_some_iff,
        Option.some.injEq, digit?_eq_some_iff base_le, ih]
      constructor
      · rintro ⟨first, isDigit, others, all, rfl⟩
        exact .cons isDigit all
      · rintro (_ | ⟨isDigit, all⟩)
        exact ⟨_, isDigit, _, all, rfl⟩

theorem ofDigits_eq (base : Nat) (digits : List Nat) :
    ofDigits base digits = Nat.ofDigits base digits.reverse := by
  induction digits using List.reverseRecOn with
  | nil => rfl
  | append_singleton digits last ih =>
      rw [ofDigits_append_singleton, ih, List.reverse_append, List.reverse_singleton,
        List.singleton_append, Nat.ofDigits_cons, Nat.add_comm]

/-- Reading takes the texts that denote a number, and no other. -/
theorem read?_eq_some_iff (base_le : base ≤ 16) :
    read? base text = some number ↔ Denotes base text number := by
  rw [read?, Option.ite_none_left_eq_some, Denotes]
  simp only [Option.map_eq_some_iff, mapM_digit?_eq_some_iff base_le, ofDigits_eq,
    eq_comm (a := number), ne_eq]

theorem Denotes.isAlphanum (denotes : Denotes base text number) (base_le : base ≤ 16)
    (member : c ∈ text) : c.isAlphanum = true := by
  obtain ⟨-, digits, all, -⟩ := denotes
  induction all with
  | nil => cases member
  | cons isDigit all ih =>
      rcases List.mem_cons.mp member with rfl | later
      · exact isDigit.isAlphanum base_le
      · exact ih later

theorem digits_lt (all : List.Forall₂ (IsDigit base) text digits) :
    ∀ digit ∈ digits, digit < base := by
  induction all with
  | nil => exact List.forall_mem_nil _
  | cons isDigit all ih => exact List.forall_mem_cons.mpr ⟨isDigit.1, ih⟩

/-- A numeral with so many digits is below that power of its base. -/
theorem Denotes.lt_pow (denotes : Denotes base text number) (base_gt : 1 < base) :
    number < base ^ text.length := by
  obtain ⟨-, digits, all, rfl⟩ := denotes
  rw [all.length_eq, ← List.length_reverse]
  apply Nat.ofDigits_lt_base_pow_length base_gt
  intro digit member
  exact digits_lt all digit (List.mem_reverse.mp member)

theorem denotes_toDigits (base_gt : 1 < base) (base_le : base ≤ 16) (number : Nat) :
    Denotes base (Nat.toDigits base number) number :=
  (read?_eq_some_iff base_le).mp (read?_toDigits base_gt base_le number)

/-! ## Plain numerals -/

/-- The text denotes a number and is as short and as low as can be: it has no leading zero and
no capital. -/
def Plain (base : Nat) (text : List Char) (number : Nat) : Prop :=
  Denotes base text number ∧ (text.head? = some '0' → text = ['0']) ∧ ∀ c ∈ text, ¬c.isUpper

theorem IsDigit.eq_digitChar (isDigit : IsDigit base c digit) (base_le : base ≤ 16)
    (low : ¬c.isUpper) : c = Nat.digitChar digit := by
  have capital : ∀ d < 16, (Nat.digitChar d).toUpper = Nat.digitChar d ∨
      (Nat.digitChar d).toUpper.isUpper = true := by decide
  obtain ⟨small, rfl | rfl⟩ := isDigit
  · rfl
  · exact (capital digit (by omega)).resolve_right low

theorem Denotes.not_isUpper (denotes : Denotes base text number) (base_le : base ≤ 10) :
    ∀ c ∈ text, ¬c.isUpper := by
  have low : ∀ d < 10, ¬(Nat.digitChar d).isUpper ∧ ¬(Nat.digitChar d).toUpper.isUpper := by
    decide
  obtain ⟨-, digits, all, -⟩ := denotes
  induction all with
  | nil => exact List.forall_mem_nil _
  | cons isDigit all ih =>
      refine List.forall_mem_cons.mpr ⟨?_, ih⟩
      obtain ⟨small, rfl | rfl⟩ := isDigit
      · exact (low _ (by omega)).1
      · exact (low _ (by omega)).2

theorem eq_map_digitChar (all : List.Forall₂ (IsDigit base) text digits) (base_le : base ≤ 16)
    (low : ∀ c ∈ text, ¬c.isUpper) : text = digits.map Nat.digitChar := by
  induction all with
  | nil => rfl
  | cons isDigit all ih =>
      rw [List.forall_mem_cons] at low
      rw [List.map_cons, ← isDigit.eq_digitChar base_le low.1, ← ih low.2]

theorem ofDigits_pos (base_gt : 1 < base) (some_digit : digits ≠ [])
    (first : digits.head? ≠ some 0) : 0 < Nat.ofDigits base digits.reverse := by
  obtain ⟨digit, rest, rfl⟩ := List.exists_cons_of_ne_nil some_digit
  have positive : 0 < digit := Nat.pos_of_ne_zero fun zero => first (congrArg some zero)
  rw [List.reverse_cons, Nat.ofDigits_append, Nat.ofDigits_singleton]
  exact Nat.add_pos_right _ (Nat.mul_pos (Nat.pow_pos (by omega)) positive)

/-- A number with given digits is written with them, if the first is not zero. -/
theorem toDigits_ofDigits (base_gt : 1 < base) (some_digit : digits ≠ [])
    (small : ∀ digit ∈ digits, digit < base) (first : digits.head? ≠ some 0) :
    Nat.toDigits base (Nat.ofDigits base digits.reverse) = digits.map Nat.digitChar := by
  induction digits using List.reverseRecOn with
  | nil => exact absurd rfl some_digit
  | append_singleton upper last ih =>
      rw [List.forall_mem_append, List.forall_mem_singleton] at small
      rw [List.reverse_append, List.reverse_singleton, List.singleton_append, Nat.ofDigits_cons,
        List.map_append, List.map_singleton, ← Nat.toDigits_of_lt_base small.2, Nat.add_comm]
      by_cases single : upper = []
      · simp [single]
      · rw [List.head?_append_of_ne_nil _ single] at first
        rw [← ih single small.1 first]
        exact (Nat.toDigits_append_toDigits base_gt (ofDigits_pos base_gt single first)
          small.2).symm

/-- What is written for a number are its digits, and only for zero is the first one zero. -/
theorem exists_digits (base_gt : 1 < base) (number : Nat) :
    ∃ digits, Nat.toDigits base number = digits.map Nat.digitChar ∧
      (∀ digit ∈ digits, digit < base) ∧ (digits.head? = some 0 → digits = [0]) := by
  by_cases zero : number = 0
  · exact ⟨[0], by simp [zero, Nat.toDigits_zero], by simp; omega, fun _ => rfl⟩
  · have small : ∀ digit ∈ (Nat.digits base number).reverse, digit < base := by
      intro digit member
      exact Nat.digits_lt_base base_gt (List.mem_reverse.mp member)
    have some_digit : Nat.digits base number ≠ [] := Nat.digits_ne_nil_iff_ne_zero.mpr zero
    have first : (Nat.digits base number).reverse.head? ≠ some 0 := by
      rw [List.head?_reverse, List.getLast?_eq_some_getLast some_digit]
      exact fun last => Nat.getLast_digit_ne_zero base zero (Option.some.inj last)
    have written := toDigits_ofDigits base_gt (mt List.reverse_eq_nil_iff.mp some_digit) small first
    rw [List.reverse_reverse, Nat.ofDigits_digits] at written
    exact ⟨_, written, small, fun zero => absurd zero first⟩

theorem plain_toDigits (base_gt : 1 < base) (base_le : base ≤ 16) (number : Nat) :
    Plain base (Nat.toDigits base number) number := by
  have low : ∀ d < 16, ¬(Nat.digitChar d).isUpper := by decide
  have zero : ∀ d < 16, Nat.digitChar d = '0' → d = 0 := by decide
  refine ⟨denotes_toDigits base_gt base_le number, ?_⟩
  obtain ⟨digits, written, small, leading⟩ := exists_digits base_gt number
  rw [written]
  refine ⟨?_, ?_⟩
  · intro first
    rw [List.head?_map, Option.map_eq_some_iff] at first
    obtain ⟨digit, first, same⟩ := first
    have inside := small digit (List.mem_of_mem_head? first)
    rw [zero digit (by omega) same] at first
    rw [leading first]
    rfl
  · rw [List.forall_mem_map]
    intro digit member
    have inside := small digit member
    exact low digit (by omega)

/-- There is one plain numeral for each number, the one that is written. -/
theorem plain_iff (base_gt : 1 < base) (base_le : base ≤ 16) :
    Plain base text number ↔ text = Nat.toDigits base number := by
  constructor
  · rintro ⟨⟨some_char, digits, all, rfl⟩, leading, low⟩
    have written := eq_map_digitChar all base_le low
    have some_digit : digits ≠ [] := by
      rintro rfl
      exact some_char written
    by_cases zero : digits.head? = some 0
    · obtain ⟨rest, rfl⟩ := List.head?_eq_some_iff.mp zero
      have single : text = ['0'] := leading (by rw [written]; rfl)
      obtain rfl : rest = [] := by simpa [written] using single
      rw [single, List.reverse_singleton, Nat.ofDigits_singleton, Nat.toDigits_zero]
    · rw [toDigits_ofDigits base_gt some_digit (digits_lt all) zero]
      exact written
  · rintro rfl
    exact plain_toDigits base_gt base_le number

end SocketReactor.Numeral
