/-
This file holds how settings are written as a TOML document, one section after the
other.
-/

import Onboarding.Settings.Basic
import Onboarding.Toml.Quoted

namespace Onboarding.Settings

open Toml

/-- A truth value. -/
def writtenBool (value : Bool) : List Char :=
  if value then ['t', 'r', 'u', 'e'] else ['f', 'a', 'l', 's', 'e']

/-- A text in the quoting for it. -/
def writtenSetting (text : String) : List Char :=
  writtenText text.toList

/-- A key and its value on a line. -/
def writtenPair (pair : String × List Char) : List Char :=
  pair.1.toList ++ [' ', '=', ' '] ++ pair.2 ++ ['\n']

/-- A section with its pairs. -/
def writtenSection (name : String) (pairs : List (String × List Char)) : List Char :=
  '[' :: name.toList ++ [']', '\n'] ++ pairs.flatMap writtenPair

/-- The sections with their pairs. -/
def writtenSections (settings : Settings) : List (String × List (String × List Char)) := [
  ("api", [("endpoint", writtenSetting settings.endpoint)]),
  ("paths", [("state", writtenSetting settings.state)]),
  ("credentials", [("persist", writtenBool settings.persist)]),
  ("ui", [("refresh_rate_ms", Nat.toDigits 10 settings.refreshMillis)]),
  ("logging", [("level", writtenSetting settings.level), ("to_file", writtenBool settings.toFile)])]

/-- Texts with an empty line between them. -/
def separated : List (List Char) → List Char
  | [] => []
  | [text] => text
  | text :: rest => text ++ '\n' :: separated rest

/-- The settings as a document; none when 64 bits with a sign cannot hold the milliseconds. -/
def write? (settings : Settings) : Option (List Char) :=
  if settings.refreshMillis < Numeric.signedCount then
    some (separated (settings.writtenSections.map fun entry => writtenSection entry.1 entry.2))
  else none

end Onboarding.Settings
