/-
This file holds rectangles of a screen and their division: into a middle share,
into halves, and into rows of which all but one have a fixed height.
-/

namespace Onboarding.Screen

/-- A rectangle of cells. -/
structure Area where
  left : Nat
  top : Nat
  width : Nat
  height : Nat
  deriving DecidableEq, Repr

/-- The position at so many hundredths of a length, rounded with a half going up. -/
def position (percent length : Nat) : Nat :=
  (percent * length + 50) / 100

/-- The height of a row in a division. -/
inductive Extent where
  | fixed (height : Nat)
  /-- Takes what the other rows leave. -/
  | rest
  deriving DecidableEq, Repr

namespace Area

/-- The area that is left inside a border of so many cells. -/
def inset (area : Area) (margin : Nat) : Area :=
  if area.width < 2 * margin || area.height < 2 * margin then
    ⟨0, 0, 0, 0⟩
  else
    ⟨area.left + margin, area.top + margin, area.width - 2 * margin, area.height - 2 * margin⟩

/-- The share of an area in its middle, with so many hundredths of its width and height. -/
def middle (area : Area) (widthPercent heightPercent : Nat) : Area :=
  let beside := (100 - widthPercent) / 2
  let above := (100 - heightPercent) / 2
  let left := position beside area.width
  let top := position above area.height
  ⟨area.left + left, area.top + top,
    position (beside + widthPercent) area.width - left,
    position (above + heightPercent) area.height - top⟩

/-- The left and the right half of an area. -/
def halves (area : Area) : Area × Area :=
  let half := position 50 area.width
  (⟨area.left, area.top, half, area.height⟩,
    ⟨area.left + half, area.top, area.width - half, area.height⟩)

/-- The heights of the rows together, without the one that takes the rest. -/
def fixedHeight : List Extent → Nat
  | [] => 0
  | .fixed height :: rows => height + fixedHeight rows
  | .rest :: rows => fixedHeight rows

/-- The rows from `top` on, cut at the bottom of the area. -/
def rowsFrom (area : Area) (spare top : Nat) : List Extent → List Area
  | [] => []
  | row :: rows =>
    let wanted := match row with
      | .fixed height => height
      | .rest => spare
    let height := min wanted (area.top + area.height - top)
    ⟨area.left, top, area.width, height⟩ :: rowsFrom area spare (top + height) rows

/-- The rows of an area from its top on. -/
def rows (area : Area) (extents : List Extent) : List Area :=
  rowsFrom area (area.height - fixedHeight extents) area.top extents

/-- The row of a division; an area without cells when there are fewer rows. -/
def row (areas : List Area) (index : Nat) : Area :=
  areas.getD index ⟨0, 0, 0, 0⟩

end Area

end Onboarding.Screen
