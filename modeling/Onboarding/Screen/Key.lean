/-
This file holds the keys that a terminal reports.
-/

namespace Onboarding.Screen

/-- A key of the terminal. -/
inductive Key where
  /-- A key that stands for a character. -/
  | char (c : Char)
  | enter
  | escape
  | tab
  | backTab
  | up
  | down
  | left
  | right
  | home
  | endOfLine
  | backspace
  | delete
  | insert
  | pageUp
  | pageDown
  | null
  /-- A numbered function key. -/
  | function (number : Nat)
  deriving DecidableEq, Repr

end Onboarding.Screen
