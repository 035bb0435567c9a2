/-
This file proves that a number is read back from its text. An integer is printed as its
digits. Any other number is printed with a point or an exponent, so that it is not taken
for an integer, and stands for the shortest decimal of the number, wherever the point is
put; the number nearest to that decimal is the number itself.

What a number is read as is said here by the rules of JSON alone: the nearest number to
the decimal that is written, not what a faster reader makes of it by rounding at each
step.
-/

import Onboarding.Json.Printer
import Onboarding.Proofs.Json.Documents
import Onboarding.Proofs.Numeric.Digits
import Onboarding.Proofs.Numeric.Shortest

namespace Onboarding.Json

open Numeric

/-! ### What is written -/

namespace Numeral

/-- The power of ten that is written behind the digits. -/
def power (numeral : Numeral) : Int :=
  match numeral.exponent with
  | some (true, digits) => -(digitsValue digits : Int)
  | some (false, digits) => digitsValue digits
  | none => 0

/-- The decimal that is written. -/
def decimal (numeral : Numeral) : Decimal :=
  let fraction := numeral.fraction.getD []
  ⟨numeral.negative, digitsValue (numeral.whole ++ fraction), numeral.power - fraction.length⟩

/-- The number that is written: an integer when it is written as one that fits into 64 bits, else
the floating-point number that is nearest; none when that is not finite. -/
def nearest? (numeral : Numeral) : Option Number :=
  let value := digitsValue numeral.whole
  if numeral.isWhole && !numeral.negative && value < wordCount then some (.integer value)
  else if numeral.isWhole && numeral.negative && 0 < value && value ≤ signedCount then
    some (.integer (-value))
  else
    match Binary64.ofDecimal numeral.decimal with
    | .finite negative significand exponent =>
      some (.float (.finite negative significand exponent))
    | _ => none

end Numeral

/-- The numbers that JSON data can hold. -/
inductive Number.IsValid : Number → Prop
  | integer {value : Int} : -signedCount ≤ value → value < wordCount → IsValid (.integer value)
  | float {negative : Bool} {significand : Nat} {exponent : Int} :
      Binary64.IsFinite significand exponent →
      IsValid (.float (.finite negative significand exponent))

/-! ### Digits -/

theorem areDigits_toDigits (number : Nat) : AreDigits (Nat.toDigits 10 number) :=
  ⟨Nat.toDigits_ne_nil, fun _ => Nat.isDigit_of_mem_toDigits (by decide) (by decide)⟩

theorem isDigit_of_mem_zeros {count : Nat} {c : Char} (member : c ∈ List.replicate count '0') :
    c.isDigit = true :=
  List.eq_of_mem_replicate member ▸ rfl

theorem AreDigits.append_zeros {digits : List Char} (front : AreDigits digits) (count : Nat) :
    AreDigits (digits ++ List.replicate count '0') :=
  ⟨List.append_ne_nil_of_left_ne_nil front.some _,
    fun c member => (List.mem_append.mp member).elim (front.all c) isDigit_of_mem_zeros⟩

theorem AreDigits.behind_zeros {digits : List Char} (last : AreDigits digits) (count : Nat) :
    AreDigits (List.replicate count '0' ++ digits) :=
  ⟨List.append_ne_nil_of_right_ne_nil _ last.some,
    fun c member => (List.mem_append.mp member).elim isDigit_of_mem_zeros (last.all c)⟩

/-! ### Integers -/

/-- An integer as it is printed. -/
def printedInteger (value : Int) : Numeral :=
  ⟨value < 0, Nat.toDigits 10 value.natAbs, none, none⟩

theorem printedInteger_written (value : Int) :
    (printedInteger value).Written (toString value).toList where
  whole := areDigits_toDigits _
  zero first := by
    rcases value.natAbs.eq_zero_or_pos with none | positive
    · show Nat.toDigits 10 value.natAbs = ['0']
      rw [none]
      rfl
    · exact absurd first (head?_toDigits_ne positive)
  fraction _ found := nomatch found
  exponent := by
    refine ⟨[], .none, ?_⟩
    rw [toList_toString]
    simp [printedInteger, Numeral.mantissa, Numeral.signText, Numeral.fractionText]

theorem nearest?_printedInteger {value : Int} (least : -signedCount ≤ value)
    (most : value < wordCount) :
    (printedInteger value).nearest? = some (.integer value) := by
  unfold Numeral.nearest?
  dsimp only [printedInteger, Numeral.isWhole]
  rw [digitsValue_toDigits]
  rcases Int.lt_or_le value 0 with negative | positive
  · have bound : 0 < value.natAbs ∧ value.natAbs ≤ signedCount := by omega
    simp only [negative, bound, decide_true, Bool.not_true, Bool.and_false, Option.isNone_none,
      Bool.and_self, Bool.false_and, Bool.false_eq_true, if_false, if_true]
    rw [show -(value.natAbs : Int) = value by omega]
  · have bound : value.natAbs < wordCount := by omega
    simp only [Int.not_lt.mpr positive, bound, decide_true, decide_false, Bool.not_false,
      Option.isNone_none, Bool.and_self, if_true]
    rw [show (value.natAbs : Int) = value by omega]

/-! ### Decimals -/

variable {decimal : Decimal}

theorem areDigits_digitList (decimal : Decimal) : AreDigits decimal.digitList :=
  areDigits_toDigits _

@[simp]
theorem digitsValue_digitList : digitsValue decimal.digitList = decimal.digits :=
  digitsValue_toDigits _

theorem head?_digitList_ne (nonzero : decimal.digits ≠ 0) : decimal.digitList.head? ≠ some '0' :=
  head?_toDigits_ne (Nat.pos_of_ne_zero nonzero)

theorem areDigits_take {count : Nat} (some : 0 < count) :
    AreDigits (decimal.digitList.take count) where
  some := by
    rw [Ne, List.take_eq_nil_iff]
    exact fun none => none.elim some.ne' (areDigits_digitList _).some
  all _ member := (areDigits_digitList _).all _ (List.mem_of_mem_take member)

theorem areDigits_drop {count : Nat} (more : count < decimal.digitList.length) :
    AreDigits (decimal.digitList.drop count) where
  some := by
    rw [Ne, List.drop_eq_nil_iff]
    exact Nat.not_le.mpr more
  all _ member := (areDigits_digitList _).all _ (List.mem_of_mem_drop member)

/-- No zero stands in front of the first digits of a decimal other than zero. -/
theorem head?_take_ne (nonzero : decimal.digits ≠ 0) (count : Nat) :
    (decimal.digitList.take count).head? ≠ some '0' := by
  rw [List.head?_take]
  split
  · exact fun none => nomatch none
  · exact head?_digitList_ne nonzero

/-- Digits with a point in them are a number when no zero stands in front. -/
theorem written_pointed (negative : Bool) {whole fraction : List Char} (digits : AreDigits whole)
    (zero : whole.head? = some '0' → whole = ['0']) (behind : AreDigits fraction) :
    Numeral.Written ⟨negative, whole, some fraction, none⟩
      ((if negative then ['-'] else []) ++ whole ++ '.' :: fraction) where
  whole := digits
  zero := zero
  fraction _ found := Option.some.inj found ▸ behind
  exponent := ⟨[], .none, (List.append_nil _).symm⟩

/-- A decimal with a point in front of some of its digits or all of them, as it is printed. -/
def printedPositional (decimal : Decimal) : Numeral :=
  let digits := decimal.digitList
  let behind := (-decimal.scale).toNat
  if digits.length ≤ behind then
    ⟨decimal.negative, ['0'], some (List.replicate (behind - digits.length) '0' ++ digits), none⟩
  else
    ⟨decimal.negative, digits.take (digits.length - behind),
      some (digits.drop (digits.length - behind)), none⟩

theorem printedPositional_written (nonzero : decimal.digits ≠ 0) (behind : decimal.scale < 0) :
    (printedPositional decimal).Written decimal.positional := by
  rw [Decimal.positional, if_neg (Int.not_le.mpr behind), printedPositional]
  split
  · have written := written_pointed decimal.negative (.single rfl) (fun _ => rfl)
      ((areDigits_digitList decimal).behind_zeros
        ((-decimal.scale).toNat - decimal.digitList.length))
    rwa [← List.append_cons] at written
  · next inside =>
    have front : 0 < decimal.digitList.length - (-decimal.scale).toNat := by omega
    have rest : decimal.digitList.length - (-decimal.scale).toNat < decimal.digitList.length := by
      omega
    have written := written_pointed decimal.negative (areDigits_take front)
      (fun zero => absurd zero (head?_take_ne nonzero _)) (areDigits_drop rest)
    rw [List.append_assoc] at written
    rw [List.append_assoc (List.take _ _)]
    exact written

theorem printedPositional_decimal (behind : decimal.scale < 0) :
    (printedPositional decimal).decimal = decimal := by
  unfold printedPositional
  dsimp only
  split
  · next outside =>
    have digits := digitsValue_zeros_append
      ((-decimal.scale).toNat - decimal.digitList.length + 1) decimal.digitList
    rw [List.replicate_succ, List.cons_append, digitsValue_digitList] at digits
    simp only [Numeral.decimal, Numeral.power, Option.getD_some, List.singleton_append, digits,
      List.length_append, List.length_replicate]
    rw [show (0 : Int) - ↑((-decimal.scale).toNat - decimal.digitList.length +
      decimal.digitList.length) = decimal.scale by omega]
  · next inside =>
    simp only [Numeral.decimal, Numeral.power, Option.getD_some, List.take_append_drop,
      digitsValue_digitList, List.length_drop]
    rw [show (0 : Int) - ↑(decimal.digitList.length -
      (decimal.digitList.length - (-decimal.scale).toNat)) = decimal.scale by omega]

/-- A decimal with one digit in front of the point and an exponent, as it is printed. -/
def printedScientific (decimal : Decimal) : Numeral :=
  let digits := decimal.digitList
  let power : Int := decimal.scale + digits.length - 1
  ⟨decimal.negative, digits.take 1, if digits.length = 1 then none else some (digits.drop 1),
    some (power < 0, Nat.toDigits 10 power.natAbs)⟩

/-- The exponent is printed as an integer. -/
theorem exponentWritten_toString (power : Int) :
    ExponentWritten (some (decide (power < 0), Nat.toDigits 10 power.natAbs))
      ('e' :: (toString power).toList) := by
  rw [toList_toString]
  refine .digits rfl ?_ (areDigits_toDigits _)
  by_cases negative : power < 0
  · rw [decide_eq_true negative, if_pos negative]
    exact .minus
  · rw [decide_eq_false negative, if_neg negative]
    exact .none

theorem power_eq {numeral : Numeral} {power : Int}
    (printed : numeral.exponent = some (decide (power < 0), Nat.toDigits 10 power.natAbs)) :
    numeral.power = power := by
  by_cases negative : power < 0
  · rw [decide_eq_true negative] at printed
    simp only [Numeral.power, printed, digitsValue_toDigits]
    omega
  · rw [decide_eq_false negative] at printed
    simp only [Numeral.power, printed, digitsValue_toDigits]
    omega

theorem printedScientific_written (nonzero : decimal.digits ≠ 0) :
    (printedScientific decimal).Written decimal.scientific where
  whole := areDigits_take Nat.zero_lt_one
  zero first := absurd first (head?_take_ne nonzero 1)
  fraction digits found := by
    have some := decimal.length_digitList_pos
    dsimp only [printedScientific] at found
    split at found
    · cases found
    · next more =>
      exact Option.some.inj found ▸ areDigits_drop (by omega)
  exponent := by
    refine ⟨_, exponentWritten_toString _, ?_⟩
    unfold Decimal.scientific Numeral.mantissa Numeral.fractionText printedScientific
    dsimp only
    split <;> rfl

theorem printedScientific_decimal : (printedScientific decimal).decimal = decimal := by
  have some := decimal.length_digitList_pos
  have fraction : (printedScientific decimal).fraction.getD [] = decimal.digitList.drop 1 := by
    dsimp only [printedScientific]
    split
    · next one =>
      exact (List.drop_eq_nil_of_le one.le).symm
    · rfl
  have power : (printedScientific decimal).power =
      decimal.scale + decimal.digitList.length - 1 := power_eq rfl
  have whole : (printedScientific decimal).whole = decimal.digitList.take 1 := rfl
  have negative : (printedScientific decimal).negative = decimal.negative := rfl
  simp only [Numeral.decimal, fraction, power, whole, negative, List.take_append_drop,
    digitsValue_digitList, List.length_drop]
  rw [show decimal.scale + ↑decimal.digitList.length - 1 - ↑(decimal.digitList.length - 1) =
    decimal.scale by omega]

/-- A decimal as it is printed: positional when its point is near the digits. -/
def printedDecimal (decimal : Decimal) : Numeral :=
  let point : Int := decimal.digitList.length + decimal.scale
  if decimal.digits = 0 then ⟨decimal.negative, ['0'], some ['0'], none⟩
  else if 0 ≤ decimal.scale && point ≤ 16 then
    ⟨decimal.negative, decimal.digitList ++ List.replicate decimal.scale.toNat '0', some ['0'],
      none⟩
  else if -5 < point && point ≤ 16 then printedPositional decimal
  else printedScientific decimal

theorem printedDecimal_written (decimal : Decimal) :
    (printedDecimal decimal).Written (writtenDecimal decimal) := by
  unfold printedDecimal writtenDecimal
  dsimp only
  split
  · rw [List.append_cons]
    exact written_pointed _ (.single rfl) (fun _ => rfl) (.single rfl)
  next nonzero =>
  split
  · next whole =>
    simp only [Bool.and_eq_true, decide_eq_true_eq] at whole
    rw [Decimal.positional, if_pos whole.1]
    refine written_pointed _ ((areDigits_digitList decimal).append_zeros _)
      (fun zero => absurd zero ?_) (.single rfl)
    rw [List.head?_append_of_ne_nil _ (areDigits_digitList _).some]
    exact head?_digitList_ne nonzero
  next notWhole =>
  split
  · next near =>
    simp only [Bool.and_eq_true, decide_eq_true_eq] at notWhole near
    exact printedPositional_written nonzero (by omega)
  · exact printedScientific_written nonzero

/-- What is printed for a decimal is not taken for an integer, and is a decimal with its sign and
its value. -/
theorem printedDecimal_decimal (decimal : Decimal) :
    (printedDecimal decimal).isWhole = false ∧
      (printedDecimal decimal).decimal.negative = decimal.negative ∧
      (printedDecimal decimal).decimal.value = decimal.value := by
  unfold printedDecimal
  dsimp only
  split
  · next zero =>
    refine ⟨rfl, rfl, ?_⟩
    rw [Binary64.value_eq_zero_iff.mpr zero, Binary64.value_eq_zero_iff]
    rfl
  next nonzero =>
  split
  · next whole =>
    simp only [Bool.and_eq_true, decide_eq_true_eq] at whole
    refine ⟨rfl, rfl, ?_⟩
    -- One zero more than the scale has stands in the digits, and the scale is one less.
    have digits := digitsValue_append_zeros decimal.digitList (decimal.scale.toNat + 1)
    rw [List.replicate_succ', ← List.append_assoc, digitsValue_digitList] at digits
    have power : (10 : ℚ) ^ decimal.scale = 10 ^ decimal.scale.toNat := by
      rw [← zpow_natCast, Int.toNat_of_nonneg whole.1]
    simp only [Decimal.value, Numeral.decimal, Numeral.power, Option.getD_some, digits, power,
      List.length_singleton]
    push_cast [Nat.pow_eq]
    rw [pow_succ, zpow_neg_one, mul_assoc, mul_assoc, mul_inv_cancel₀ (by norm_num), mul_one]
  next notWhole =>
  split
  · next near =>
    simp only [Bool.and_eq_true, decide_eq_true_eq] at notWhole near
    rw [printedPositional_decimal (by omega)]
    refine ⟨?_, rfl, rfl⟩
    dsimp only [printedPositional]
    split <;> rfl
  · rw [printedScientific_decimal]
    exact ⟨Bool.and_false _, rfl, rfl⟩

/-- A decimal that is printed for a finite number is read as the number. -/
theorem nearest?_printedDecimal {tie : Binary64.Tie} {negative : Bool} {significand : Nat}
    {exponent : Int} (finite : Binary64.IsFinite significand exponent) :
    (printedDecimal (Binary64.shortest tie negative significand exponent)).nearest? =
      some (.float (.finite negative significand exponent)) := by
  obtain ⟨pointed, sign, value⟩ :=
    printedDecimal_decimal (Binary64.shortest tie negative significand exponent)
  have read := Binary64.ofDecimal_of_value_eq finite value
  rw [sign, Binary64.shortest_negative] at read
  simp only [Numeral.nearest?, pointed, Bool.false_and, Bool.false_eq_true, if_false, read]

/-! ### Numbers -/

/-- The document that is printed for a number; one that is not finite is null. -/
def Number.printed : Number → Tree
  | .integer value => .number (printedInteger value)
  | .float (.finite negative significand exponent) =>
    .number (printedDecimal (Binary64.shortest .toEven negative significand exponent))
  | .float _ => .null

theorem Number.printed_written (number : Number) :
    number.printed.Written (writtenNumber number) := by
  cases number with
  | integer value =>
    rw [Tree.Written, printed, Tree.tokens]
    exact (Token.Written.number (printedInteger_written value)).single
  | float value =>
    cases value with
    | finite negative significand exponent =>
      rw [Tree.Written, printed, Tree.tokens]
      exact (Token.Written.number (printedDecimal_written _)).single
    | infinite | notANumber =>
      show Tree.null.Written _
      rw [Tree.Written, Tree.tokens]
      exact Token.Written.null.single

end Onboarding.Json
