/-
This file holds the writing of a label in letters, digits and hyphens. The ASCII
characters come first; behind a hyphen follow, in the order of their code points, the
places at which the other characters are put in, as numbers with as few digits as
their usual size needs.
-/

namespace Onboarding.Domain.Punycode

/-! ### Digits and their weights -/

/-- The digit for a value below thirty-six. -/
def digitOf (value : Nat) : Char :=
  if value < 26 then Char.ofNat ('a'.toNat + value) else Char.ofNat ('0'.toNat + (value - 26))

/-- The value of a digit. -/
def valueOf? (c : Char) : Option Nat :=
  if 'a' ≤ c && c ≤ 'z' then some (c.toNat - 'a'.toNat)
  else if 'A' ≤ c && c ≤ 'Z' then some (c.toNat - 'A'.toNat)
  else if c.isDigit then some (c.toNat - '0'.toNat + 26)
  else none

/-- The least value of a digit that another one follows. The place counts in steps of thirty-six. -/
def threshold (bias place : Nat) : Nat :=
  min 26 (max 1 (place - bias))

theorem one_le_threshold (bias place : Nat) : 1 ≤ threshold bias place := by
  unfold threshold
  omega

/-- How often a number has to be divided by thirty-five until it is at most 455, and what is left of
it. -/
def shrunk (number : Nat) : Nat × Nat :=
  if 455 < number then
    let (count, rest) := shrunk (number / 35)
    (count + 1, rest)
  else (0, number)
termination_by number
decreasing_by omega

/-- The bias for the next number, from the last number, the characters that are then in place and
whether it was the first one. -/
def adapted (number count : Nat) (first : Bool) : Nat :=
  let damped := if first then number / 700 else number / 2
  let (times, rest) := shrunk (damped + damped / count)
  36 * times + 36 * rest / (rest + 38)

/-! ### Writing -/

/-- A number as digits from a place on. -/
def numberDigits (bias place number : Nat) : List Char :=
  let least := threshold bias place
  if number < least then [digitOf number]
  else
    digitOf (least + (number - least) % (36 - least)) ::
      numberDigits bias (place + 36) ((number - least) / (36 - least))
termination_by number
decreasing_by
  have low := one_le_threshold bias place
  have quotient := Nat.div_le_self (number - threshold bias place) (36 - threshold bias place)
  omega

/-- The writing of a label on its way: the digits so far, the steps since the last of them, the bias
and the characters in place. -/
structure Writing where
  digits : List Char
  steps : Nat
  bias : Nat
  count : Nat
  deriving DecidableEq, Repr

/-- Passes a character of the label while characters with one code point are put in. -/
def Writing.pass (code basic : Nat) (writing : Writing) (c : Char) : Writing :=
  if c.toNat < code then { writing with steps := writing.steps + 1 }
  else if c.toNat = code then
    { digits := writing.digits ++ numberDigits writing.bias 36 writing.steps
      steps := 0
      bias := adapted writing.steps (writing.count + 1) (writing.count == basic)
      count := writing.count + 1 }
  else writing

/-- Puts in the characters with each of the code points, the first of which is the one behind those
that have been put in. -/
def Writing.putIn (label : List Char) (basic : Nat) : Writing → Nat → List Nat → Writing
  | writing, _, [] => writing
  | writing, next, code :: rest =>
    let skipped := { writing with steps := writing.steps + (code - next) * (writing.count + 1) }
    let written := label.foldl (Writing.pass code basic) skipped
    putIn label basic { written with steps := written.steps + 1 } (code + 1) rest

/-- Puts a number into a list in rising order, unless it is there. -/
def insertCode (code : Nat) : List Nat → List Nat
  | [] => [code]
  | other :: rest =>
    if code < other then code :: other :: rest
    else if code = other then other :: rest
    else other :: insertCode code rest

/-- The label in letters, digits and hyphens. -/
def encode (label : List Char) : List Char :=
  let basic := label.filter fun c => c.toNat < 0x80
  let codes := (label.map Char.toNat).filter fun code => 0x80 ≤ code
  let writing := Writing.putIn label basic.length ⟨[], 0, 72, basic.length⟩ 0x80
    (codes.foldr insertCode [])
  basic ++ (if basic.isEmpty then [] else ['-']) ++ writing.digits

/-! ### Reading -/

/-- Reads the digits of a number from a place on, where `weight` is that of the next digit. -/
def readNumber? (bias : Nat) : Nat → Nat → List Char → Option (Nat × List Char)
  | _, _, [] => none
  | place, weight, c :: rest => do
    let value ← valueOf? c
    let least := threshold bias place
    if value < least then some (value * weight, rest)
    else do
      let (number, rest) ← readNumber? bias (place + 36) (weight * (36 - least)) rest
      return (value * weight + number, rest)

/-- Puts in the characters that digits tell, given the code point and the place from which the next
number counts, which is zero for the first number only; so many numbers at most. -/
def readInto? : Nat → List Char → Nat → Nat → Nat → List Char → Option (List Char)
  | _, label, _, _, _, [] => some label
  | 0, _, _, _, _, _ => none
  | fuel + 1, label, code, place, bias, digits => do
    let (number, rest) ← readNumber? bias 36 1 digits
    let count := label.length + 1
    let code := code + (place + number) / count
    let index := (place + number) % count
    if h : code.isValidChar then
      readInto? fuel (label.insertIdx index (Char.ofNatAux code h)) code (index + 1)
        (adapted number count (place == 0)) rest
    else none

/-- The label that is written in letters, digits and hyphens. A hyphen without anything before it is
no part of such a writing. -/
def decode? (text : List Char) : Option (List Char) :=
  let digits := (text.reverse.takeWhile (· != '-')).reverse
  let basic := text.take (text.length - digits.length - 1)
  if basic.isEmpty && digits.length < text.length then none
  else if basic.any fun c => 0x80 ≤ c.toNat then none
  else readInto? digits.length basic 0x80 0 72 digits

end Onboarding.Domain.Punycode
