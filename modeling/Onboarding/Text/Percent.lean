/-
This file holds the writing of characters by their bytes, each behind a percent sign
with two digits to the base sixteen.
-/

namespace Onboarding.Text

/-! ### Writing -/

/-- A byte behind a percent sign. -/
def percentByte (byte : UInt8) : List Char :=
  let digit (value : Nat) : Char := (Nat.digitChar value).toUpper
  ['%', digit (byte.toNat / 16), digit (byte.toNat % 16)]

/-- Whether the character is no control character and belongs to ASCII, as all must that are written
as they are. -/
def isPlain (c : Char) : Bool :=
  0x20 ≤ c.toNat && c.toNat < 0x7f

/-- The text with the characters written by their bytes that are not plain or that `special`
names. -/
def percentEncoded (special : List Char) (text : List Char) : List Char :=
  text.flatMap fun c =>
    if isPlain c && !special.contains c then [c]
    else (String.singleton c).toUTF8.toList.flatMap percentByte

/-! ### Reading -/

/-- The value of a digit to the base sixteen. -/
def sixteenth? (byte : UInt8) : Option UInt8 :=
  if '0'.toUInt8 ≤ byte && byte ≤ '9'.toUInt8 then some (byte - '0'.toUInt8)
  else if 'a'.toUInt8 ≤ byte && byte ≤ 'f'.toUInt8 then some (byte - 'a'.toUInt8 + 10)
  else if 'A'.toUInt8 ≤ byte && byte ≤ 'F'.toUInt8 then some (byte - 'A'.toUInt8 + 10)
  else none

/-- The bytes with a single one for each percent sign with two digits behind it. -/
def percentDecoded : List UInt8 → List UInt8
  | [] => []
  | [byte] => [byte]
  | [byte, next] => [byte, next]
  | byte :: high :: low :: rest =>
    if byte = '%'.toUInt8 then
      match sixteenth? high, sixteenth? low with
      | some upper, some lower => (16 * upper + lower) :: percentDecoded rest
      | _, _ => byte :: percentDecoded (high :: low :: rest)
    else byte :: percentDecoded (high :: low :: rest)

/-- The text that a text with percent signs means; none when its bytes spell none. -/
def percentText? (text : List Char) : Option (List Char) :=
  let bytes := percentDecoded (String.ofList text).toUTF8.toList
  (String.fromUTF8? ⟨bytes.toArray⟩).map String.toList

end Onboarding.Text
