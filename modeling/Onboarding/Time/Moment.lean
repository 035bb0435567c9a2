/-
This file holds moments of time by the calendar and the clock, and how they are
moved by minutes. Only the day before and the day after a date are ever asked
for, since the local time of a place is less than a day away from the common one.
-/

namespace Onboarding

/-! ### Dates -/

/-- A day of the calendar. -/
structure Date where
  year : Int
  month : Nat
  day : Nat
  deriving DecidableEq, Repr

namespace Date

/-- Whether the year has 366 days. -/
def isLeapYear (year : Int) : Bool :=
  year % 4 = 0 && (year % 100 != 0 || year % 400 = 0)

/-- How many days a month has. -/
def daysInMonth (year : Int) (month : Nat) : Nat :=
  if month = 2 then if isLeapYear year then 29 else 28
  else if month = 4 || month = 6 || month = 9 || month = 11 then 30
  else 31

/-- Whether the calendar has such a day; the years are those that fit into 18 bits and a sign,
without the outermost. -/
def isValid (date : Date) : Bool :=
  -262143 ≤ date.year && date.year ≤ 262142 && 1 ≤ date.month && date.month ≤ 12 &&
    1 ≤ date.day && date.day ≤ daysInMonth date.year date.month

/-- The day after. -/
def next (date : Date) : Date :=
  if date.day < daysInMonth date.year date.month then { date with day := date.day + 1 }
  else if date.month < 12 then { date with month := date.month + 1, day := 1 }
  else ⟨date.year + 1, 1, 1⟩

/-- The day before. -/
def previous (date : Date) : Date :=
  if 1 < date.day then { date with day := date.day - 1 }
  else if 1 < date.month then
    { date with month := date.month - 1, day := daysInMonth date.year (date.month - 1) }
  else ⟨date.year - 1, 12, 31⟩

/-- The first day of the count, the start of 1970. -/
def epoch : Date := ⟨1970, 1, 1⟩

/-- How many days the year has. -/
def daysInYear (year : Int) : Nat :=
  if isLeapYear year then 366 else 365

/-- The date that lies so many days after the start of a month. -/
def ofMonth (year : Int) (month : Nat) : Nat → Nat → Date
  | 0, days => ⟨year, month, days + 1⟩
  | left + 1, days =>
    if days < daysInMonth year month then ⟨year, month, days + 1⟩
    else ofMonth year (month + 1) left (days - daysInMonth year month)

/-- The date that lies so many days after the start of a year, when that is no more than the given
number of years away. -/
def ofYear (year : Int) : Nat → Nat → Date
  | 0, days => ofMonth year 1 11 days
  | left + 1, days =>
    if days < daysInYear year then ofMonth year 1 11 days
    else ofYear (year + 1) left (days - daysInYear year)

end Date

/-! ### Moments -/

/-- A moment by the common clock. The second may be the sixtieth, which is added to a minute now and
then. -/
structure Moment where
  date : Date
  hour : Nat
  minute : Nat
  second : Nat
  nanosecond : Nat
  deriving DecidableEq, Repr

namespace Moment

/-- The moment moved by less than a day of minutes. -/
def shift (moment : Moment) (minutes : Int) : Moment :=
  let total : Int := (60 * moment.hour + moment.minute : Nat) + minutes
  let minuteOfDay := (total % 1440).toNat
  let date :=
    if total < 0 then moment.date.previous
    else if 1440 ≤ total then moment.date.next
    else moment.date
  { moment with date, hour := minuteOfDay / 60, minute := minuteOfDay % 60 }

/-- The moment so many seconds after the start of 1970. -/
def ofSeconds (seconds nanosecond : Nat) : Moment :=
  let days := seconds / 86400
  let rest := seconds % 86400
  ⟨Date.ofYear 1970 (days / 365) days, rest / 3600, rest / 60 % 60, rest % 60, nanosecond⟩

/-! ### Writing -/

/-- The number with zeros in front up to so many digits. -/
def padded (width number : Nat) : String :=
  let digits := Nat.toDigits 10 number
  String.ofList (List.replicate (width - digits.length) '0' ++ digits)

/-- The year; one that four digits cannot hold has a sign and at least four digits. -/
def yearText (year : Int) : String :=
  if 0 ≤ year && year ≤ 9999 then padded 4 year.toNat
  else (if year < 0 then "-" else "+") ++ padded 4 year.natAbs

/-- The part of the second, with three, six or nine digits; nothing when it is zero. -/
def fractionText (nanosecond : Nat) : String :=
  if nanosecond = 0 then ""
  else if nanosecond % 1000000 = 0 then "." ++ padded 3 (nanosecond / 1000000)
  else if nanosecond % 1000 = 0 then "." ++ padded 6 (nanosecond / 1000)
  else "." ++ padded 9 nanosecond

/-- The moment as a text: the date, a T, the time, and a Z for the common clock. -/
def text (moment : Moment) : String :=
  yearText moment.date.year ++ "-" ++ padded 2 moment.date.month ++ "-" ++
    padded 2 moment.date.day ++ "T" ++ padded 2 moment.hour ++ ":" ++ padded 2 moment.minute ++
    ":" ++ padded 2 moment.second ++ fractionText moment.nanosecond ++ "Z"

end Moment

end Onboarding
