/-
This file holds the canvas on which a screen is drawn: rows of cells, of which
single ones are changed. What lies outside the canvas is left out.
-/

import Onboarding.Screen.Area
import Onboarding.Screen.Style

namespace Onboarding.Screen

/-- Rows of cells, all of one width. -/
structure Canvas where
  width : Nat
  height : Nat
  /-- The cells row by row. -/
  cells : Array Cell
  deriving Repr

namespace Canvas

/-- A canvas that shows nothing. -/
def blank (width height : Nat) : Canvas :=
  ⟨width, height, Array.replicate (width * height) .blank⟩

/-- The area of the whole canvas. -/
def area (canvas : Canvas) : Area :=
  ⟨0, 0, canvas.width, canvas.height⟩

/-- Changes the cell in a column of a row. -/
def change (canvas : Canvas) (column row : Nat) (f : Cell → Cell) : Canvas :=
  if column < canvas.width && row < canvas.height then
    { canvas with cells := canvas.cells.modify (row * canvas.width + column) f }
  else
    canvas

/-- Changes all cells of an area. -/
def changeArea (canvas : Canvas) (area : Area) (f : Cell → Cell) : Canvas :=
  (List.range area.height).foldl (fun canvas row =>
    (List.range area.width).foldl (fun canvas column =>
      canvas.change (area.left + column) (area.top + row) f) canvas) canvas

/-- Gives the cells of an area a style. -/
def style (canvas : Canvas) (area : Area) (style : Style) : Canvas :=
  if style == .plain then canvas
  else canvas.changeArea area fun cell => { cell with look := cell.look.styled style }

/-- Empties the cells of an area. -/
def clear (canvas : Canvas) (area : Area) : Canvas :=
  canvas.changeArea area fun _ => .blank

/-- Puts a symbol with a style into a cell. -/
def put (canvas : Canvas) (column row : Nat) (symbol : String) (style : Style) : Canvas :=
  canvas.change column row fun cell => ⟨symbol, cell.look.styled style⟩

/-! ### Reading -/

/-- The cells of a row. -/
def row (canvas : Canvas) (index : Nat) : List Cell :=
  (canvas.cells.extract (index * canvas.width) ((index + 1) * canvas.width)).toList

/-- The symbols of a row without the spaces at its end. -/
def rowText (cells : List Cell) : String :=
  let characters := (cells.map fun cell => cell.symbol.toList).flatten
  String.ofList (characters.reverse.dropWhile (· == ' ')).reverse

/-- The text of each row. -/
def rowTexts (canvas : Canvas) : List String :=
  (List.range canvas.height).map fun index => rowText (canvas.row index)

/-- Neighbouring cells with one look: the column of the first, their number and the look. -/
structure Run where
  column : Nat
  length : Nat
  look : Look
  deriving DecidableEq, Repr

/-- The runs of a row's cells from a column on, given the run before it. -/
def runsFrom (before : Run) : List Cell → List Run
  | [] => [before]
  | cell :: rest =>
    if cell.look = before.look then
      runsFrom { before with length := before.length + 1 } rest
    else
      before :: runsFrom ⟨before.column + before.length, 1, cell.look⟩ rest

/-- The runs of a row's cells that do not have the terminal's own look. -/
def runs : List Cell → List Run
  | [] => []
  | cell :: rest =>
    (runsFrom ⟨0, 1, cell.look⟩ rest).filter fun run => run.look != .default

end Canvas

end Onboarding.Screen
