/-
This file holds the quoting of texts and the layout of records in descriptions
for people who look for faults. Line ends and other characters that cannot be
seen are written as escapes, so that a description stays on one line.
-/

import Onboarding.Text.Extender
import Onboarding.Text.Unprintable

namespace Onboarding.Text

/-! ### Quoting -/

/-- The digits of a number to the base sixteen, in lower case, without zeros in front. -/
def lowerHex (number : Nat) : List Char :=
  Nat.toDigits 16 number

/-- Whether a character is a mark put onto the one before it. The halfwidth sound marks continue a
character too, but stand in a cell of their own and are shown as they are. -/
def isCombining (c : Char) : Bool :=
  isExtender c && c != '\uff9e' && c != '\uff9f'

/-- How a character is written between quotes. -/
def quotedChar (c : Char) : List Char :=
  if c == '\u0000' then ['\\', '0']
  else if c == '\t' then ['\\', 't']
  else if c == '\r' then ['\\', 'r']
  else if c == '\n' then ['\\', 'n']
  else if c == '"' then ['\\', '"']
  else if c == '\\' then ['\\', '\\']
  else if isCombining c || !isPrintable c then
    ['\\', 'u', '{'] ++ lowerHex c.toNat ++ ['}']
  else [c]

/-- The text between quotes, with escapes for what cannot be seen or would end it. -/
def quoted (text : String) : String :=
  String.ofList ('"' :: text.toList.flatMap quotedChar ++ ['"'])

/-! ### Records and lists -/

/-- The texts with a comma and a space between them. -/
def commaSeparated (texts : List String) : String :=
  String.intercalate ", " texts

/-- A record: its name, and its members each with their text. -/
def record (name : String) (members : List (String × String)) : String :=
  name ++ " \x7b " ++ commaSeparated (members.map fun member => member.1 ++ ": " ++ member.2) ++
    " \x7d"

/-- A record of which some members are left out. -/
def openRecord (name : String) (members : List (String × String)) : String :=
  name ++ " \x7b " ++ commaSeparated (members.map fun member => member.1 ++ ": " ++ member.2) ++
    ", .. \x7d"

/-- A list of texts. -/
def bracketed (texts : List String) : String :=
  "[" ++ commaSeparated texts ++ "]"

end Onboarding.Text
