/-
This file holds locations, the places that a navigation history remembers. A
step of a wizard gets a location made of random digits, so that a location does
not tell how far the wizard has come.
-/

namespace Onboarding

/-- A place in the navigation history, known by its path. -/
structure Location where
  path : String
  deriving DecidableEq, Repr, Inhabited

namespace Location

/-- A location is shown as its path. -/
instance : ToString Location := ⟨path⟩

/-- The digits of a number to the base sixteen, in lower case, the highest of `count` first. -/
def hexDigits (number : Nat) : Nat → List Char
  | 0 => []
  | count + 1 => hexDigits (number / 16) count ++ [Nat.digitChar (number % 16)]

/-- The number with the four bits from `position` on replaced. -/
def setNibble (bits : Nat) (position nibble : Nat) : Nat :=
  bits - (bits >>> position % 16) <<< position + nibble <<< position

/-- The location of the lowest 128 of random bits: a slash and their 32 digits, with the digits that
mark a random identifier in their places: a four as the thirteenth, and one of 8, 9, a and b as
the seventeenth. -/
def ofRandomBits (bits : Nat) : Location :=
  let versioned := setNibble bits 76 4
  let marked := setNibble versioned 60 (8 + (versioned >>> 60) % 4)
  ⟨String.ofList ('/' :: hexDigits marked 32)⟩

end Location

end Onboarding
