/-
This file holds how TOML numbers are read: integers of four bases that fit into
64 bits with a sign, and floating-point numbers. Underscores may stand between
digits, and no decimal number has a needless zero in front.
-/

import Onboarding.Settings.Datum

namespace Onboarding.Toml

open Numeric

/-! ### Digits -/

/-- Reads digits, before each of which an underscore may stand. -/
def moreDigits (isDigit : Char → Bool) : List Char → List Char × List Char
  | [] => ([], [])
  | [c] => if isDigit c then ([c], []) else ([], [c])
  | c :: next :: rest =>
    if isDigit c then
      let (digits, rest) := moreDigits isDigit (next :: rest)
      (c :: digits, rest)
    else if c == '_' && isDigit next then
      let (digits, rest) := moreDigits isDigit rest
      (next :: digits, rest)
    else ([], c :: next :: rest)

/-- Reads at least one digit. -/
def digits? (isDigit : Char → Bool) (text : List Char) : Option (List Char × List Char) :=
  match text with
  | c :: _ => if isDigit c then some (moreDigits isDigit text) else none
  | [] => none

/-- The number that digits to a base denote. -/
def basedValue (base : Nat) (digits : List Char) : Nat :=
  digits.foldl (fun value digit => base * value + (Json.Lexer.hexDigit? digit).getD 0) 0

/-- Whether the character is a digit to a base of at most sixteen. -/
def isDigitOf (base : Nat) (c : Char) : Bool :=
  match Json.Lexer.hexDigit? c with
  | some digit => digit < base
  | none => false

/-! ### Numbers -/

/-- An integer that 64 bits with a sign can hold. -/
def integer? (negative : Bool) (magnitude : Nat) : Option Datum :=
  (signed? negative magnitude).map Datum.integer

/-- Reads an integer to a base. -/
def based? (base : Nat) (text : List Char) : Option (Datum × List Char) := do
  let (digits, rest) ← digits? (isDigitOf base) text
  return (← integer? false (basedValue base digits), rest)

/-- Reads the digits behind a point, if there is one. -/
def fraction? (text : List Char) : Option (Option (List Char) × List Char) :=
  match text with
  | '.' :: rest => (digits? Char.isDigit rest).map fun (digits, rest) => (some digits, rest)
  | text => some (none, text)

/-- Reads an exponent, if there is one. -/
def exponent? (text : List Char) : Option (Option Int × List Char) :=
  match text with
  | c :: rest =>
    if c == 'e' || c == 'E' then
      let (negative, rest) := match rest with
        | '-' :: rest => (true, rest)
        | '+' :: rest => (false, rest)
        | rest => (false, rest)
      (digits? Char.isDigit rest).map fun (digits, rest) =>
        let value : Int := digitsValue digits
        (some (if negative then -value else value), rest)
    else some (none, text)
  | [] => some (none, [])

/-- The floating-point number nearest to a decimal; one that is too great is refused. -/
def float? (decimal : Decimal) : Option Datum :=
  match Binary64.ofDecimal decimal with
  | .infinite false => none
  | value => some (.float value)

/-- Reads a decimal number behind its sign. -/
def decimal? (negative : Bool) (text : List Char) : Option (Datum × List Char) := do
  let (whole, text) ← digits? Char.isDigit text
  if whole.length != 1 && whole.head? == some '0' then failure
  let (fraction, text) ← fraction? text
  let (exponent, text) ← exponent? text
  match fraction, exponent with
  | none, none => return (← integer? negative (digitsValue whole), text)
  | fraction, exponent =>
    let fraction := fraction.getD []
    let scale := exponent.getD 0 - fraction.length
    return (← float? ⟨negative, digitsValue (whole ++ fraction), scale⟩, text)

/-- Reads a number behind its sign, or one of the words for what is no number or infinite. -/
def signed? (negative : Bool) (text : List Char) : Option (Datum × List Char) :=
  match text with
  | 'i' :: 'n' :: 'f' :: rest => some (.float (.infinite negative), rest)
  | 'n' :: 'a' :: 'n' :: rest => some (.float .notANumber, rest)
  | text => decimal? negative text

/-- Reads a number. -/
def number? (text : List Char) : Option (Datum × List Char) :=
  match text with
  | '0' :: 'x' :: rest => based? 16 rest
  | '0' :: 'o' :: rest => based? 8 rest
  | '0' :: 'b' :: rest => based? 2 rest
  | '-' :: rest => signed? true rest
  | '+' :: rest => signed? false rest
  | text => signed? false text

end Onboarding.Toml
