/-
This file holds the reading of a moment from a text. The text gives the date, the
time and how far the local clock is from the common one; blanks may stand between
the parts, and numbers may lack their zeros in front. The moment that is read is
by the common clock.
-/

import Onboarding.Numeric.Word
import Onboarding.Text.Blank
import Onboarding.Time.Moment

namespace Onboarding.Moment

open Numeric Text

/-! ### Parts of a text -/

/-- Reads at least one digit and at most so many, behind blanks. -/
def readNumber? (most : Nat) (text : List Char) : Option (Nat × List Char) :=
  let text := trimStart text
  let digits := (text.take most).takeWhile Char.isDigit
  if digits.isEmpty then none else some (digitsValue digits, text.drop digits.length)

/-- Reads a number in a range. -/
def readWithin? (low high : Nat) (text : List Char) : Option (Nat × List Char) := do
  let (value, rest) ← readNumber? 2 text
  if low ≤ value && value ≤ high then some (value, rest) else none

/-- Reads a year: four digits at most, or any number of them behind a sign. -/
def readYear? (text : List Char) : Option (Int × List Char) :=
  match trimStart text with
  | '-' :: rest =>
    if rest.head?.any Char.isDigit then
      (readNumber? rest.length rest).map fun (value, rest) => (-(value : Int), rest)
    else none
  | '+' :: rest =>
    if rest.head?.any Char.isDigit then
      (readNumber? rest.length rest).map fun (value, rest) => ((value : Int), rest)
    else none
  | text => (readNumber? 4 text).map fun (value, rest) => ((value : Int), rest)

/-- Reads a mark, behind blanks. -/
def readMark? (mark : Char) (text : List Char) : Option (List Char) :=
  match trimStart text with
  | c :: rest => if c == mark then some rest else none
  | [] => none

/-! ### Date, time and the distance of the clocks -/

/-- Reads a date. -/
def readDate? (text : List Char) : Option (Date × List Char) := do
  let (year, text) ← readYear? text
  let (month, text) ← readWithin? 1 12 (← readMark? '-' text)
  let (day, text) ← readWithin? 1 31 (← readMark? '-' text)
  let date : Date := ⟨year, month, day⟩
  if date.isValid then some (date, text) else none

/-- Reads the part of a second behind a point, to nine digits; the digits behind those are passed
over. -/
def readFraction? (text : List Char) : Option (Nat × List Char) :=
  match text with
  | '.' :: rest =>
    let digits := rest.takeWhile Char.isDigit
    if digits.isEmpty then none
    else
      let kept := digits.take 9
      some (digitsValue (kept ++ List.replicate (9 - kept.length) '0'), rest.drop digits.length)
  | text => some (0, text)

/-- Reads the distance of the local clock from the common one in minutes. -/
def readDistance? (text : List Char) : Option (Int × List Char) :=
  let signed (negative : Bool) (text : List Char) : Option (Int × List Char) :=
    match text with
    | h₁ :: h₂ :: rest =>
      match rest.dropWhile fun c => c == ':' || isBlank c with
      | m₁ :: m₂ :: rest =>
        if h₁.isDigit && h₂.isDigit && m₁.isDigit && m₂.isDigit then
          let hours := digitsValue [h₁, h₂]
          let minutes := digitsValue [m₁, m₂]
          if hours < 24 && minutes < 60 then
            let distance : Int := (60 * hours + minutes : Nat)
            some (if negative then -distance else distance, rest)
          else none
        else none
      | _ => none
    | _ => none
  match text with
  | '+' :: rest => signed false rest
  | '-' :: rest => signed true rest
  | '\u2212' :: rest => signed true rest
  | c :: rest =>
    if c == 'Z' || c == 'z' then some (0, rest)
    else if (text.take 3).map Char.toLower = ['u', 't', 'c'] then some (0, text.drop 3)
    else none
  | [] => none

/-! ### Moments -/

/-- The moment that a text gives; blanks may follow. -/
def read? (text : List Char) : Option Moment := do
  let (date, text) ← readDate? text
  let text ← match text with
    | c :: rest => if c == 't' || c == 'T' || c == ' ' then some rest else none
    | [] => none
  let (hour, text) ← readWithin? 0 23 text
  let (minute, text) ← readWithin? 0 59 (← readMark? ':' text)
  let (second, text) ← readWithin? 0 60 (← readMark? ':' text)
  let (nanosecond, text) ← readFraction? text
  let (distance, text) ← readDistance? (trimStart text)
  let moment := shift ⟨date, hour, minute, second, nanosecond⟩ (-distance)
  if text.all isBlank && moment.date.isValid then some moment else none

end Onboarding.Moment
