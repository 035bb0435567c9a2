/-
This file holds settings from environment variables: the name of a variable tells
the section and the key, and its text is taken as a truth value or a number when
it reads as one.
-/

import Onboarding.Settings.KeyPath

namespace Onboarding

open Numeric

/-- The variables of the environment with their texts. -/
abbrev Environment := List (String × String)

namespace Environment

/-! ### Texts -/

/-- The exponent at the end of a number, zero when there is none. -/
def exponent? (text : List Char) : Option Int :=
  match text with
  | [] => some 0
  | c :: rest =>
    if c == 'e' || c == 'E' then
      let (negative, digits) := signOf rest
      let value : Int := digitsValue digits
      if digits.isEmpty || !digits.all Char.isDigit then none
      else some (if negative then -value else value)
    else none

/-- The digits behind the point at the start of a text, if it starts with one, and what follows
them. -/
def fractionOf : List Char → List Char × List Char
  | '.' :: rest =>
    let digits := rest.takeWhile Char.isDigit
    (digits, rest.drop digits.length)
  | text => ([], text)

/-- The decimal that a text behind a sign denotes: digits with a point before, among or behind them,
perhaps with an exponent. -/
def decimal? (negative : Bool) (text : List Char) : Option Decimal :=
  let whole := text.takeWhile Char.isDigit
  let (fraction, rest) := fractionOf (text.drop whole.length)
  if whole.isEmpty && fraction.isEmpty then none
  else
    (exponent? rest).map fun exponent =>
      ⟨negative, digitsValue (whole ++ fraction), exponent - fraction.length⟩

/-- The floating-point number that a text denotes, perhaps behind a sign: a decimal, or one of the
words for what is no number or infinite. -/
def float? (text : List Char) : Option Binary64 :=
  let (negative, text) := signOf text
  let word := String.ofList (text.map Char.toLower)
  if word = "inf" || word = "infinity" then some (.infinite negative)
  else if word = "nan" then some .notANumber
  else (decimal? negative text).map .ofDecimal

/-- The datum that a text stands for. -/
def datumOf (text : String) : Datum :=
  if text.toLower = "true" then .bool true
  else if text.toLower = "false" then .bool false
  else
    match signedOfText? text.toList with
    | some value => .integer value
    | none =>
      match float? text.toList with
      | some value => .float value
      | none => .text text

/-! ### Names -/

/-- What the names of the variables for settings begin with, in small letters. -/
def namePrefix : List Char := "swallowtail__".toList

/-- The name with a dot for each pair of underscores, from the left. -/
def dotted : List Char → List Char
  | '_' :: '_' :: rest => '.' :: dotted rest
  | c :: rest => c :: dotted rest
  | [] => []

/-- The key of the setting that a variable is for. -/
def keyOf? (name : String) : Option String :=
  let name := name.toLower.toList
  if namePrefix.isPrefixOf name then
    some (String.ofList (dotted (name.drop namePrefix.length)))
  else none

/-- The members of which no later one has the same name. -/
def lastOfEach : List (String × Datum) → List (String × Datum)
  | [] => []
  | member :: rest =>
    if rest.any fun later => later.1 == member.1 then lastOfEach rest
    else member :: lastOfEach rest

/-- The data that the variables give for settings, one after the other. -/
def given (environment : Environment) : List (String × Datum) :=
  environment.filterMap fun entry => (keyOf? entry.1).map fun key => (key, datumOf entry.2)

/-- The settings that the variables give; of two variables for the same setting the later counts. In
which order those for different settings are taken is not known. -/
def layer (environment : Environment) : List (String × Datum) :=
  lastOfEach environment.given

/-- The text of a variable. -/
def get? (environment : Environment) (name : String) : Option String :=
  environment.lookup name

end Environment

end Onboarding
