/-
This file holds the values of JSON numbers. An integer that fits into 64 bits is
kept exactly. Any other number is a floating-point number, reckoned from as many
of its digits as 64 bits hold and then multiplied or divided by a power of ten;
each of these steps rounds, so the result need not be the number nearest to what
is written.
-/

import Onboarding.Json.Lexeme
import Onboarding.Numeric.Binary64

namespace Onboarding.Json

open Numeric

/-- A number that is kept. -/
inductive Number where
  | integer (value : Int)
  | float (value : Binary64)
  deriving DecidableEq, Repr

/-! ### Digits and powers of ten -/

/-- A whole number below `2 ^ 64` and a power of ten by which it is multiplied. -/
structure Scaled where
  significand : Nat
  exponent : Int
  deriving DecidableEq, Repr

namespace Scaled

/-- A further digit, if there is room for it. -/
def append? (scaled : Scaled) (digit : Char) : Option Nat :=
  let significand := 10 * scaled.significand + (digit.toNat - '0'.toNat)
  if significand < wordCount then some significand else none

/-- The digits before the point behind those that are held. Once there is no room for one, the
others only count. -/
def appendWhole (scaled : Scaled) : List Char → Scaled
  | [] => scaled
  | digit :: rest =>
    match scaled.append? digit with
    | some significand => appendWhole { scaled with significand } rest
    | none => { scaled with exponent := scaled.exponent + (rest.length + 1) }

/-- The digits behind the point. Once there is no room for one, the others do not matter. -/
def appendFraction (scaled : Scaled) : List Char → Scaled
  | [] => scaled
  | digit :: rest =>
    match scaled.append? digit with
    | some significand => appendFraction ⟨significand, scaled.exponent - 1⟩ rest
    | none => scaled

end Scaled

/-- The greatest power of ten with which a number is multiplied or divided at once. -/
def greatestPower : Nat := 308

/-- The number nearest to a power of ten. -/
def powerOfTen (exponent : Nat) : Binary64 :=
  .ofDecimal ⟨false, 1, exponent⟩

/-- The number divided by a power of ten, in so many steps at most; fewer are needed when it has
become zero. -/
def dividedByPower : Nat → Binary64 → Nat → Binary64
  | 0, value, _ => value
  | steps + 1, value, exponent =>
    if exponent ≤ greatestPower then value.dividedBy (powerOfTen exponent)
    else if value.isZero then value
    else
      let value := value.dividedBy (powerOfTen greatestPower)
      dividedByPower steps value (exponent - greatestPower)

/-- The floating-point number for digits and a power of ten; none when it is too great. A number
below `2 ^ 64` is zero after it has been divided twice by the greatest power. -/
def Scaled.float? (scaled : Scaled) (negative : Bool) : Option Binary64 :=
  let value := Binary64.ofDecimal ⟨negative, scaled.significand, 0⟩
  if scaled.exponent < 0 then some (dividedByPower 4 value (-scaled.exponent).toNat)
  else if value.isZero then some value
  else if greatestPower < scaled.exponent then none
  else
    match value.times (powerOfTen scaled.exponent.toNat) with
    | .infinite _ => none
    | float => some float

/-! ### Numbers as they are written -/

namespace Numeral

/-- Whether the number is written without a fraction and an exponent. -/
def isWhole (numeral : Numeral) : Bool :=
  numeral.fraction.isNone && numeral.exponent.isNone

/-- The word of 64 bits that is written, if it is one. -/
def word? (numeral : Numeral) : Option Nat :=
  let value := digitsValue numeral.whole
  if numeral.isWhole && !numeral.negative && value < wordCount then some value else none

/-- The digits that are reckoned with, and the power of ten. -/
def scaled (numeral : Numeral) : Scaled :=
  let held := (Scaled.appendWhole ⟨0, 0⟩ numeral.whole).appendFraction (numeral.fraction.getD [])
  let power : Int := match numeral.exponent with
    | some (true, digits) => -(digitsValue digits : Int)
    | some (false, digits) => digitsValue digits
    | none => 0
  { held with exponent := held.exponent + power }

/-- The value of the number: an integer when it is written as one that fits into 64 bits, else a
floating-point number; none when that is too great. -/
def number? (numeral : Numeral) : Option Number :=
  let value := digitsValue numeral.whole
  if numeral.isWhole && !numeral.negative && value < wordCount then some (.integer value)
  else if numeral.isWhole && numeral.negative && 0 < value && value ≤ signedCount then
    some (.integer (-value))
  else (numeral.scaled.float? numeral.negative).map .float

end Numeral

end Onboarding.Json
