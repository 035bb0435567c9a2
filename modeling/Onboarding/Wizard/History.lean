/-
This file holds the navigation history: the places visited, with an index to the
present one. Going on from a place forgets the places that were gone back over.
-/

import Onboarding.Wizard.Location

namespace Onboarding

/-- The places visited, the first of them first, and the index of the present one. -/
structure History where
  places : List Location
  index : Nat
  deriving DecidableEq, Repr

namespace History

/-- A history without any place. -/
def empty : History := ⟨[], 0⟩

/-- A history that starts at a place. -/
def startingAt (place : Location) : History := ⟨[place], 0⟩

/-- The present place. -/
def location? (history : History) : Option Location :=
  history.places[history.index]?

/-- Goes on to a place. -/
def push (history : History) (place : Location) : History :=
  if history.places.isEmpty then
    ⟨[place], 0⟩
  else
    let kept := history.places.take (history.index + 1)
    ⟨kept ++ [place], kept.length⟩

/-- Puts a place instead of the present one. -/
def replace (history : History) (place : Location) : History :=
  if history.index < history.places.length then
    { history with places := history.places.set history.index place }
  else
    { history with places := history.places ++ [place] }

/-- Goes back one place; stays at the first. -/
def back (history : History) : History :=
  { history with index := history.index - 1 }

end History

end Onboarding
