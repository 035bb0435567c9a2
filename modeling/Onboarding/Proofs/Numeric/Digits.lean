/-
This file proves what the decimal digits of a number say: which number they denote, that
zeros in front of them add nothing while zeros behind them multiply, how a number with a
sign is printed, and which texts are read as numbers of 64 bits.
-/

import Onboarding.Numeric.Word

namespace Onboarding.Numeric

theorem digitsValue_eq (digits : List Char) : digitsValue digits = Nat.ofDigitChars 10 digits 0 :=
  Nat.ofDigitChars_eq_foldl.symm

@[simp]
theorem digitsValue_toDigits (number : Nat) : digitsValue (Nat.toDigits 10 number) = number :=
  (digitsValue_eq _).trans Nat.ofDigitChars_ten_toDigits

theorem digitsValue_append_zeros (digits : List Char) (count : Nat) :
    digitsValue (digits ++ List.replicate count '0') = digitsValue digits * Nat.pow 10 count := by
  induction count with
  | zero =>
    rw [List.replicate_zero, List.append_nil]
    exact (Nat.mul_one _).symm
  | succ count inductionHypothesis =>
    rw [List.replicate_succ', ← List.append_assoc, digitsValue, List.foldl_append]
    show 10 * digitsValue _ + 0 = digitsValue digits * (Nat.pow 10 count * 10)
    rw [Nat.add_zero, inductionHypothesis, Nat.mul_left_comm, Nat.mul_comm 10]

theorem digitsValue_zeros_append (count : Nat) (digits : List Char) :
    digitsValue (List.replicate count '0' ++ digits) = digitsValue digits := by
  have zeros : digitsValue (List.replicate count '0') = 0 := by
    have none := digitsValue_append_zeros [] count
    rw [List.nil_append] at none
    rw [none]
    exact Nat.zero_mul _
  rw [digitsValue, List.foldl_append]
  show List.foldl _ (digitsValue _) _ = _
  rw [zeros]
  rfl

/-- The digits of a number other than zero do not begin with a zero. -/
theorem head?_toDigits_ne {number : Nat} (positive : 0 < number) :
    (Nat.toDigits 10 number).head? ≠ some '0' := by
  induction number using Nat.strongRecOn with
  | ind number inductionHypothesis =>
    rw [Nat.toDigits_eq_if (by decide)]
    split
    · next small =>
      have digit : ∀ digit < 10, 0 < digit → Nat.digitChar digit ≠ '0' := by decide
      exact fun zero => digit number small positive (Option.some.inj zero)
    · next large =>
      obtain ⟨first, others, shape⟩ := List.exists_cons_of_ne_nil
        (Nat.toDigits_ne_nil : Nat.toDigits 10 (number / 10) ≠ [])
      have front := inductionHypothesis (number / 10) (by omega) (by omega)
      rw [shape] at front ⊢
      exact front

/-- A number with a sign is printed as its digits, behind a minus when it is below zero. -/
theorem toList_toString (value : Int) :
    (toString value).toList =
      (if value < 0 then ['-'] else []) ++ Nat.toDigits 10 value.natAbs := by
  cases value with
  | ofNat number =>
    rw [if_neg (Int.not_lt.mpr (Int.natCast_nonneg number) : ¬ Int.ofNat number < 0)]
    exact Nat.toList_repr
  | negSucc number =>
    rw [if_pos (Int.negSucc_lt_zero number)]
    show ("-" ++ (number + 1).repr).toList = _
    rw [String.toList_append, Nat.toList_repr]
    rfl

/-! ### Digits at the start of a text -/

theorem takeWhile_isDigit_of_head? {rest : List Char}
    (next : ∀ c ∈ rest.head?, c.isDigit = false) : rest.takeWhile Char.isDigit = [] := by
  cases rest with
  | nil => rfl
  | cons c others =>
    rw [List.takeWhile_cons_of_neg]
    rw [next c rfl]
    exact Bool.false_ne_true

theorem takeWhile_isDigit_append {digits rest : List Char}
    (all : ∀ c ∈ digits, c.isDigit = true) (next : ∀ c ∈ rest.head?, c.isDigit = false) :
    (digits ++ rest).takeWhile Char.isDigit = digits := by
  rw [List.takeWhile_append_of_pos all, takeWhile_isDigit_of_head? next, List.append_nil]

/-! ### Words -/

/-- The text consists of digits, perhaps behind a plus sign, and they denote the number, which 64
bits hold. -/
def SpellsWord (text : List Char) (number : Nat) : Prop :=
  number < wordCount ∧ ∃ digits, (text = digits ∨ text = '+' :: digits) ∧ digits ≠ [] ∧
    (∀ c ∈ digits, c.isDigit = true) ∧ Nat.ofDigitChars 10 digits 0 = number

theorem wordOfText?_eq_some_iff {text : List Char} {number : Nat} :
    wordOfText? text = some number ↔ SpellsWord text number := by
  have held (digits : List Char) :
      (if !digits.isEmpty && digits.all Char.isDigit && digitsValue digits < wordCount then
        some (digitsValue digits) else none) = some number ↔
      number < wordCount ∧ digits ≠ [] ∧ (∀ c ∈ digits, c.isDigit = true) ∧
        Nat.ofDigitChars 10 digits 0 = number := by
    rw [Option.ite_none_right_eq_some, Option.some.injEq, ← digitsValue_eq]
    simp only [Bool.and_eq_true, Bool.not_eq_true', List.isEmpty_eq_false_iff, List.all_eq_true,
      decide_eq_true_eq]
    constructor
    · rintro ⟨⟨⟨some, all⟩, fits⟩, rfl⟩
      exact ⟨fits, some, all, rfl⟩
    · rintro ⟨fits, some, all, rfl⟩
      exact ⟨⟨⟨some, all⟩, fits⟩, rfl⟩
  constructor
  · intro read
    unfold wordOfText? at read
    split at read
    · next digits =>
      obtain ⟨fits, isNumeral⟩ := (held digits).mp read
      exact ⟨fits, digits, .inr rfl, isNumeral⟩
    · obtain ⟨fits, isNumeral⟩ := (held text).mp read
      exact ⟨fits, text, .inl rfl, isNumeral⟩
  · rintro ⟨fits, digits, rfl | rfl, isNumeral⟩
    · unfold wordOfText?
      split
      · exact absurd (isNumeral.2.1 '+' List.mem_cons_self) (by decide)
      · exact (held text).mpr ⟨fits, isNumeral⟩
    · exact (held digits).mpr ⟨fits, isNumeral⟩

end Onboarding.Numeric
