/-
This file holds the writing of JSON data: without any blanks, and with the few
escapes that JSON requires.
-/

import Onboarding.Json.Value

namespace Onboarding.Json

open Numeric

/-! ### Strings -/

/-- The digits of a number below 256 to the base sixteen, two of them. -/
def twoHexDigits (code : Nat) : List Char :=
  [Nat.digitChar (code / 16 % 16), Nat.digitChar (code % 16)]

/-- How a character is written in a string. -/
def writtenChar (c : Char) : List Char :=
  if c == '"' then ['\\', '"']
  else if c == '\\' then ['\\', '\\']
  else if c == '\u0008' then ['\\', 'b']
  else if c == '\u000c' then ['\\', 'f']
  else if c == '\n' then ['\\', 'n']
  else if c == '\r' then ['\\', 'r']
  else if c == '\t' then ['\\', 't']
  else if c.toNat < 0x20 then ['\\', 'u', '0', '0'] ++ twoHexDigits c.toNat
  else [c]

/-- A text as a string. -/
def writtenString (text : String) : List Char :=
  '"' :: text.toList.flatMap writtenChar ++ ['"']

/-! ### Numbers -/

/-- A decimal with a point or an exponent: positional from `10 ^ -5` up to `10 ^ 16`. -/
def writtenDecimal (decimal : Decimal) : List Char :=
  let length : Int := decimal.digitList.length
  let point := length + decimal.scale
  if decimal.digits = 0 then decimal.sign ++ ['0', '.', '0']
  else if 0 ≤ decimal.scale && point ≤ 16 then decimal.positional ++ ['.', '0']
  else if -5 < point && point ≤ 16 then decimal.positional
  else decimal.scientific

/-- A number; one that is not finite is null. -/
def writtenNumber : Number → List Char
  | .integer value => (toString value).toList
  | .float (.finite negative significand exponent) =>
    writtenDecimal (Binary64.shortest .toEven negative significand exponent)
  | .float _ => ['n', 'u', 'l', 'l']

/-! ### Data -/

/-- Texts with a comma between them. -/
def joined : List (List Char) → List Char
  | [] => []
  | [text] => text
  | text :: rest => text ++ ',' :: joined rest

mutual

/-- The data as a text. -/
def Value.write : Value → List Char
  | .null => ['n', 'u', 'l', 'l']
  | .bool true => ['t', 'r', 'u', 'e']
  | .bool false => ['f', 'a', 'l', 's', 'e']
  | .number value => writtenNumber value
  | .string text => writtenString text
  | .array items => '[' :: joined (writeItems items) ++ [']']
  | .object members => '{' :: joined (writeMembers members) ++ ['}']

/-- Each of the items as a text. -/
def writeItems : List Value → List (List Char)
  | [] => []
  | item :: rest => item.write :: writeItems rest

/-- Each of the members as a text. -/
def writeMembers : List (String × Value) → List (List Char)
  | [] => []
  | (name, value) :: rest => (writtenString name ++ ':' :: value.write) :: writeMembers rest

end

/-- An object with its members in the order given. -/
def writtenObject (members : List (String × List Char)) : List Char :=
  '{' :: joined (members.map fun member => writtenString member.1 ++ ':' :: member.2) ++ ['}']

/-- An object with one member a line, indented by two spaces. -/
def indentedObject (members : List (String × List Char)) : List Char :=
  let lines := members.map fun member =>
    ['\n', ' ', ' '] ++ writtenString member.1 ++ [':', ' '] ++ member.2
  '{' :: joined lines ++ ['\n', '}']

end Onboarding.Json
