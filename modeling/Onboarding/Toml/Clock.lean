/-
This file holds how TOML dates and times are read. Settings know no dates, so one
that is read becomes the text for it. While the document is read, it is a table
with one member under a reserved name, and whoever writes such a table writes a
date.
-/

import Onboarding.Settings.Datum
import Onboarding.Time.Moment

namespace Onboarding.Toml

/-! ### Numbers of fixed length -/

/-- Reads a number of so many digits that lies in a range. -/
def fixed? (count low high : Nat) (text : List Char) : Option (Nat × List Char) :=
  let digits := text.take count
  let value := Numeric.digitsValue digits
  if digits.length = count && digits.all Char.isDigit && low ≤ value && value ≤ high then
    some (value, text.drop count)
  else none

/-- Reads a mark. -/
def mark? (mark : Char) (text : List Char) : Option (List Char) :=
  match text with
  | c :: rest => if c == mark then some rest else none
  | [] => none

/-! ### Dates and times -/

/-- How far the numbers of a time and of the distance of the clocks may go. -/
structure ClockLimits where
  hour : Nat
  distanceHour : Nat
  distanceMinute : Nat
  /-- The distance in minutes. -/
  distance : Nat
  deriving DecidableEq, Repr

/-- The limits for a date that stands in a document. -/
def ClockLimits.strict : ClockLimits := ⟨23, 23, 59, 1439⟩

/-- The limits for a date that stands in a text, up to the end of a day. -/
def ClockLimits.wide : ClockLimits := ⟨24, 99, 99, 1440⟩

/-- Reads a date; the text for it. -/
def date? (text : List Char) : Option (String × List Char) := do
  let (year, text) ← fixed? 4 0 9999 text
  let (month, text) ← fixed? 2 1 12 (← mark? '-' text)
  let (day, text) ← fixed? 2 1 (Date.daysInMonth year month) (← mark? '-' text)
  return (Moment.padded 4 year ++ "-" ++ Moment.padded 2 month ++ "-" ++ Moment.padded 2 day, text)

/-- Reads the part of a second behind a point, if there is one: nine of its digits count, and zeros
at the end are left out. -/
def secondPart? (text : List Char) : Option (String × List Char) :=
  match text with
  | '.' :: rest =>
    let digits := rest.takeWhile Char.isDigit
    let kept := ((digits.take 9).reverse.dropWhile (· == '0')).reverse
    if digits.isEmpty then none
    else
      some (if kept.isEmpty then "" else "." ++ String.ofList kept, rest.drop digits.length)
  | text => some ("", text)

/-- Reads a time; the text for it. -/
def time? (limits : ClockLimits) (text : List Char) : Option (String × List Char) := do
  let (hour, text) ← fixed? 2 0 limits.hour text
  let (minute, text) ← fixed? 2 0 59 (← mark? ':' text)
  let (second, text) ← fixed? 2 0 60 (← mark? ':' text)
  let (part, text) ← secondPart? text
  return (Moment.padded 2 hour ++ ":" ++ Moment.padded 2 minute ++ ":" ++
    Moment.padded 2 second ++ part, text)

/-- Reads the distance of the local clock from the common one, if it is given. -/
def offset? (limits : ClockLimits) (text : List Char) : Option (String × List Char) :=
  let distance (sign : String) (text : List Char) : Option (String × List Char) := do
    let (hour, text) ← fixed? 2 0 limits.distanceHour text
    let (minute, text) ← fixed? 2 0 limits.distanceMinute (← mark? ':' text)
    let minutes := 60 * hour + minute
    if limits.distance < minutes then none
    else
      let sign := if minutes = 0 then "+" else sign
      return (sign ++ Moment.padded 2 (minutes / 60) ++ ":" ++ Moment.padded 2 (minutes % 60), text)
  match text with
  | '+' :: rest => distance "+" rest
  | '-' :: rest => distance "-" rest
  | c :: rest => if c == 'Z' || c == 'z' then some ("Z", rest) else some ("", text)
  | [] => some ("", [])

/-- Reads what may follow a date: a time, perhaps with the distance of the clocks. -/
def timeAfterDate? (limits : ClockLimits) (text : List Char) : Option (String × List Char) :=
  match text with
  | c :: rest =>
    if c == 'T' || c == 't' || c == ' ' then do
      let (time, rest) ← time? limits rest
      let (offset, rest) ← offset? limits rest
      return ("T" ++ time ++ offset, rest)
    else none
  | [] => none

/-- Reads a date, a time or both; the text for it. -/
def clock? (limits : ClockLimits) (text : List Char) : Option (String × List Char) :=
  match date? text with
  | some (date, rest) =>
    match timeAfterDate? limits rest with
    | some (time, rest) => some (date ++ time, rest)
    | none => some (date, rest)
  | none => time? limits text

/-! ### Dates as tables -/

/-- The reserved name. -/
def clockName : String := "$__toml_private_datetime"

/-- A date while the document is read. -/
def markedClock (clock : String) : Datum :=
  .table [(clockName, .text clock)]

/-- The text for the date that a text holds; none when it holds no date or more than one. -/
def clockText? (text : String) : Option String :=
  match clock? .wide text.toList with
  | some (clock, []) => some clock
  | _ => none

/-- The date that a table stands for when the reserved name comes first in it; its other members do
not matter. -/
def clockOfTable? : List (String × Datum) → Option (Option String)
  | (name, value) :: _ =>
    if name = clockName then
      match value with
      | .text content => some (clockText? content)
      | _ => some none
    else none
  | [] => none

mutual

/-- The datum with the text for each date in the place of its table; none when a table under the
reserved name holds no date. -/
def unmarked? : Datum → Option Datum
  | .table members =>
    match clockOfTable? members with
    | some clock => clock.map .text
    | none => (unmarkedMembers? members).map .table
  | .array items => (unmarkedItems? items).map .array
  | datum => some datum

/-- Each of the items in this way. -/
def unmarkedItems? : List Datum → Option (List Datum)
  | [] => some []
  | item :: rest => do
    let unmarked ← unmarked? item
    return unmarked :: (← unmarkedItems? rest)

/-- Each of the members in this way. -/
def unmarkedMembers? : List (String × Datum) → Option (List (String × Datum))
  | [] => some []
  | (name, datum) :: rest => do
    let unmarked ← unmarked? datum
    return (name, unmarked) :: (← unmarkedMembers? rest)

end

end Onboarding.Toml
