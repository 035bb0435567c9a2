/-
This file holds binary floating-point numbers of 64 bits as exact integers: the
number nearest to a decimal, products and quotients, and the shortest decimal
that reads back as the number. Everything is reckoned with natural numbers, so
nothing is lost on the way.
-/

import Onboarding.Numeric.Word

namespace Onboarding.Numeric

/-- A number of 64 bits. The finite ones are `significand * 2 ^ exponent`, where the significand is
below `2 ^ 53` and, unless the exponent is -1074, not below `2 ^ 52`. -/
inductive Binary64 where
  | finite (negative : Bool) (significand : Nat) (exponent : Int)
  | infinite (negative : Bool)
  | notANumber
  deriving DecidableEq, Repr

/-- The decimal `digits * 10 ^ scale`. -/
structure Decimal where
  negative : Bool
  digits : Nat
  scale : Int
  deriving DecidableEq, Repr

namespace Binary64

/-! ### Reading a decimal -/

/-- The quotient rounded to the nearest, and to the even one of two that are equally near. -/
def roundedQuotient (numerator denominator : Nat) : Nat :=
  let quotient := numerator / denominator
  let twice := 2 * (numerator % denominator)
  if twice < denominator then quotient
  else if denominator < twice then quotient + 1
  else if quotient % 2 = 0 then quotient
  else quotient + 1

/-- The power of a base; one for an exponent below zero. -/
def power (base : Nat) (exponent : Int) : Nat :=
  Nat.pow base exponent.toNat

/-- The numerator and the denominator of the fraction multiplied by a power of two. -/
def scaled (numerator denominator : Nat) (exponent : Int) : Nat × Nat :=
  (numerator * power 2 exponent, denominator * power 2 (-exponent))

/-- The least significand of 53 bits. -/
def leastSignificand : Nat := 4503599627370496

/-- The least exponent, and the greatest. -/
def leastExponent : Int := -1074
def greatestExponent : Int := 971

/-- The exponent with which the fraction has a significand of 53 bits, or the least exponent. -/
def exponentFor (numerator denominator : Nat) : Int :=
  let guess : Int := (numerator.log2 : Int) - denominator.log2 - 52
  let (top, bottom) := scaled numerator denominator (-guess)
  let exact := if top < bottom * leastSignificand then guess - 1 else guess
  max exact leastExponent

/-- The number with a significand and an exponent; infinite when the exponent is too great. -/
def bounded (negative : Bool) (significand : Nat) (exponent : Int) : Binary64 :=
  if greatestExponent < exponent then .infinite negative
  else .finite negative significand exponent

/-- The number with a significand that was rounded; when it was rounded up to one bit more, it is
halved. -/
def ofRounded (negative : Bool) (significand : Nat) (exponent : Int) : Binary64 :=
  if significand = 2 * leastSignificand then bounded negative leastSignificand (exponent + 1)
  else bounded negative significand exponent

/-- The number nearest to a positive fraction. -/
def nearest (negative : Bool) (numerator denominator : Nat) : Binary64 :=
  let exponent := exponentFor numerator denominator
  let (top, bottom) := scaled numerator denominator (-exponent)
  ofRounded negative (roundedQuotient top bottom) exponent

/-- The number nearest to a decimal. -/
def ofDecimal (decimal : Decimal) : Binary64 :=
  let length : Int := (Nat.toDigits 10 decimal.digits).length
  if decimal.digits = 0 then .finite decimal.negative 0 leastExponent
  else if 400 < length + decimal.scale then .infinite decimal.negative
  else if length + decimal.scale < -400 then .finite decimal.negative 0 leastExponent
  else
    nearest decimal.negative (decimal.digits * power 10 decimal.scale)
      (power 10 (-decimal.scale))

/-! ### Arithmetic -/

/-- Zero. -/
def zero (negative : Bool) : Binary64 :=
  .finite negative 0 leastExponent

/-- The product, rounded to the nearest. -/
def times : Binary64 → Binary64 → Binary64
  | .finite negative significand exponent, .finite negative' significand' exponent' =>
    let (top, bottom) := scaled (significand * significand') 1 (exponent + exponent')
    if top = 0 then zero (negative != negative')
    else nearest (negative != negative') top bottom
  | .infinite negative, .infinite negative' => .infinite (negative != negative')
  | .infinite negative, .finite negative' significand _
  | .finite negative' significand _, .infinite negative =>
    if significand = 0 then .notANumber else .infinite (negative != negative')
  | _, _ => .notANumber

/-- The quotient, rounded to the nearest. -/
def dividedBy : Binary64 → Binary64 → Binary64
  | .finite negative significand exponent, .finite negative' significand' exponent' =>
    let (top, bottom) := scaled significand significand' (exponent - exponent')
    if significand' = 0 then
      if significand = 0 then .notANumber else .infinite (negative != negative')
    else if top = 0 then zero (negative != negative')
    else nearest (negative != negative') top bottom
  | .infinite negative, .finite negative' _ _ => .infinite (negative != negative')
  | .finite negative _ _, .infinite negative' => zero (negative != negative')
  | _, _ => .notANumber

/-! ### Whole numbers -/

/-- The nearest whole number of 64 bits without a sign, halves going up. -/
def toWord : Binary64 → Nat
  | .finite negative significand exponent =>
    let (top, bottom) := scaled significand 1 exponent
    if negative then 0 else min ((2 * top + bottom) / (2 * bottom)) (wordCount - 1)
  | .infinite negative => if negative then 0 else wordCount - 1
  | .notANumber => 0

/-- Whether the number is zero. -/
def isZero : Binary64 → Bool
  | .finite _ significand _ => significand == 0
  | _ => false

/-! ### The shortest decimal -/

/-- The numbers that round to a finite number, in fourths of its unit: the least and the greatest of
them, and whether these two are among them. -/
def roundingInterval (significand : Nat) (exponent : Int) : Nat × Nat × Bool :=
  let below := if significand = leastSignificand && leastExponent < exponent then 1 else 2
  (4 * significand - below, 4 * significand + 2, significand % 2 = 0)

/-- Whether `digits * 10 ^ scale` lies among the numbers that round to the finite number. -/
def roundsTo (significand : Nat) (exponent : Int) (digits : Nat) (scale : Int) : Bool :=
  let (low, high, closed) := roundingInterval significand exponent
  let unit := exponent - 2
  let decimal := digits * power 10 scale * power 2 (-unit)
  let bound (fourths : Nat) := fourths * power 2 unit * power 10 (-scale)
  if closed then bound low ≤ decimal && decimal ≤ bound high
  else bound low < decimal && decimal < bound high

/-- Which of two decimals is taken that are equally near to a number: the one whose last digit is
even, or the greater. -/
inductive Tie where
  | toEven
  | up
  deriving DecidableEq, Repr

/-- Whether the first of two neighbours on the grid `10 ^ scale` is taken: when it is the nearer to
the number, or as near and the tie goes to it. -/
def lowerIsTaken (tie : Tie) (significand : Nat) (exponent : Int) (lower : Nat) (scale : Int) :
    Bool :=
  let value := 2 * significand * power 2 exponent * power 10 (-scale)
  let middle := (2 * lower + 1) * power 10 scale * power 2 (-exponent)
  value < middle || (value == middle && tie == .toEven && lower % 2 == 0)

/-- The digits on the grid `10 ^ scale` that round to the number, when there are any. -/
def onGrid? (tie : Tie) (significand : Nat) (exponent : Int) (scale : Int) : Option Nat :=
  let lower := (significand * power 2 exponent * power 10 (-scale)) /
    (power 10 scale * power 2 (-exponent))
  let lowerFits := 0 < lower && roundsTo significand exponent lower scale
  let upperFits := roundsTo significand exponent (lower + 1) scale
  if lowerFits && (!upperFits || lowerIsTaken tie significand exponent lower scale) then some lower
  else if upperFits then some (lower + 1)
  else none

/-- The first of the grids from `10 ^ scale` down on which the number has digits. -/
def shortestFrom (tie : Tie) (significand : Nat) (exponent : Int) : Nat → Int → Nat × Int
  | 0, scale => (0, scale)
  | count + 1, scale =>
    match onGrid? tie significand exponent scale with
    | some digits => (digits, scale)
    | none => shortestFrom tie significand exponent count (scale - 1)

/-- The power of ten that is at least as great as the number, to within two places. -/
def scaleAbove (significand : Nat) (exponent : Int) : Int :=
  ((significand.log2 : Int) + exponent) * 30103 / 100000 + 2

/-- Drops the zeros at the end of the digits. -/
def dropZeros : Nat → Nat → Int → Nat × Int
  | 0, digits, scale => (digits, scale)
  | fuel + 1, digits, scale =>
    if digits % 10 = 0 && digits != 0 then dropZeros fuel (digits / 10) (scale + 1)
    else (digits, scale)

/-- The shortest decimal that reads back as a finite number, and the nearest to it of these. -/
def shortest (tie : Tie) (negative : Bool) (significand : Nat) (exponent : Int) : Decimal :=
  if significand = 0 then ⟨negative, 0, 0⟩
  else
    let (digits, scale) :=
      shortestFrom tie significand exponent 24 (scaleAbove significand exponent)
    let (digits, scale) := dropZeros 24 digits scale
    ⟨negative, digits, scale⟩

end Binary64

/-! ### Writing a decimal -/

namespace Decimal

/-- The digits, of which there is at least one. -/
def digitList (decimal : Decimal) : List Char :=
  Nat.toDigits 10 decimal.digits

/-- The sign in front of the digits. -/
def sign (decimal : Decimal) : List Char :=
  if decimal.negative then ['-'] else []

/-- The decimal in positional notation, with a point only where there are digits behind it. -/
def positional (decimal : Decimal) : List Char :=
  let digits := decimal.digitList
  let behind := (-decimal.scale).toNat
  decimal.sign ++
    if 0 ≤ decimal.scale then digits ++ List.replicate decimal.scale.toNat '0'
    else if digits.length ≤ behind then
      ['0', '.'] ++ List.replicate (behind - digits.length) '0' ++ digits
    else digits.take (digits.length - behind) ++ ['.'] ++ digits.drop (digits.length - behind)

/-- The decimal with one digit before the point and its power of ten behind an `e`. -/
def scientific (decimal : Decimal) : List Char :=
  let digits := decimal.digitList
  let power : Int := decimal.scale + digits.length - 1
  decimal.sign ++ digits.take 1 ++
    (if digits.length = 1 then [] else '.' :: digits.drop 1) ++ 'e' :: (toString power).toList

end Decimal

end Onboarding.Numeric
