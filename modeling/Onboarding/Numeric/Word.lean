/-
This file holds whole numbers of 64 bits, with a sign and without, and the number
that digits denote. A number that the bits cannot hold is never cut to fit: there
is no such number then.
-/

namespace Onboarding.Numeric

/-! ### Bounds -/

/-- How many numbers 64 bits tell apart. -/
def wordCount : Nat := 18446744073709551616

/-- How many of these are not negative when one of the bits is a sign. -/
def signedCount : Nat := 9223372036854775808

/-- The number of this magnitude, when 64 bits with a sign hold it. -/
def signed? (negative : Bool) (magnitude : Nat) : Option Int :=
  if negative then if magnitude ≤ signedCount then some (-magnitude) else none
  else if magnitude < signedCount then some magnitude
  else none

/-! ### Digits -/

/-- The number that decimal digits denote. -/
def digitsValue (digits : List Char) : Nat :=
  digits.foldl (fun value digit => 10 * value + (digit.toNat - '0'.toNat)) 0

/-- The number that a text of digits denotes, perhaps behind a plus sign, when 64 bits hold it. -/
def wordOfText? (text : List Char) : Option Nat :=
  let digits := match text with
    | '+' :: rest => rest
    | digits => digits
  let value := digitsValue digits
  if !digits.isEmpty && digits.all Char.isDigit && value < wordCount then some value else none

/-- Whether a text has a minus in front, and what follows its sign, if it has one. -/
def signOf : List Char → Bool × List Char
  | '-' :: rest => (true, rest)
  | '+' :: rest => (false, rest)
  | text => (false, text)

/-- The number that a text of digits denotes, perhaps behind a sign, when 64 bits with a sign hold
it. -/
def signedOfText? (text : List Char) : Option Int :=
  let (negative, digits) := signOf text
  if !digits.isEmpty && digits.all Char.isDigit then signed? negative (digitsValue digits) else none

end Onboarding.Numeric
