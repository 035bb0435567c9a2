/-
This file holds what is drawn on a canvas: lines of styled text in an area, and
boxes around an area. A line is cut at the edge of its area, and a symbol that
takes two columns leaves the second of them empty.
-/

import Onboarding.Screen.Canvas
import Onboarding.Text.Columns

namespace Onboarding.Screen

/-! ### Lines -/

/-- A text in one style. -/
structure Span where
  text : String
  style : Style
  deriving DecidableEq, Repr

/-- Where a line stands in its area. -/
inductive Alignment where
  | left
  | center
  deriving DecidableEq, Repr

/-- A symbol of a line: its text, the columns it takes and its style. -/
structure Symbol where
  text : String
  columns : Nat
  style : Style
  deriving DecidableEq, Repr

/-- The symbols of a span: its clusters without the line feeds that stand alone. -/
def Span.symbols (span : Span) : List Symbol :=
  ((Text.clusters span.text.toList).filter (· != ['\n'])).map
    fun cluster => ⟨String.ofList cluster, Text.clusterColumns cluster, span.style⟩

/-- The symbols that fit into so many columns. A symbol wider than all of them is passed over, and
the first of the others that does not fit ends the line. -/
def fitting (width : Nat) (used : Nat) : List Symbol → List Symbol
  | [] => []
  | symbol :: rest =>
    if width < symbol.columns then fitting width used rest
    else if width < used + symbol.columns then []
    else symbol :: fitting width (used + symbol.columns) rest

/-- Draws symbols from a column of a row on; those without columns are left out. -/
def drawSymbols (canvas : Canvas) (column row : Nat) : List Symbol → Canvas
  | [] => canvas
  | symbol :: rest =>
    if symbol.columns = 0 then drawSymbols canvas column row rest
    else
      drawSymbols (canvas.put column row symbol.text symbol.style) (column + symbol.columns) row
        rest

/-- Draws a line into the first row of an area. -/
def drawLine (canvas : Canvas) (area : Area) (alignment : Alignment) (line : List Span) : Canvas :=
  if area.width = 0 || area.height = 0 then canvas
  else
    let symbols := fitting area.width 0 (line.flatMap Span.symbols)
    let used := symbols.foldr (fun symbol used => symbol.columns + used) 0
    let start := match alignment with
      | .left => 0
      | .center => area.width / 2 - used / 2
    drawSymbols canvas (area.left + start) area.top symbols

/-- A line that a line feed ends, given from its last character: a carriage return at its end
belongs to the line feed. -/
def endedLine : List Char → List Char
  | '\r' :: begun => begun.reverse
  | begun => begun.reverse

/-- The lines of a text, where `begun` holds the characters of the line being read, the last of them
first. Nothing behind the last line feed is no line. -/
def splitLines (begun : List Char) : List Char → List (List Char)
  | [] => if begun.isEmpty then [] else [begun.reverse]
  | c :: rest =>
    if c == '\n' then endedLine begun :: splitLines [] rest else splitLines (c :: begun) rest

/-- Draws the lines of a text into the rows of an area. -/
def drawText (canvas : Canvas) (area : Area) (alignment : Alignment) (text : String) : Canvas :=
  ((splitLines [] text.toList).take area.height).zipIdx.foldl (fun canvas (line, index) =>
    drawLine canvas { area with top := area.top + index, height := 1 } alignment
      [⟨String.ofList line, .plain⟩]) canvas

/-! ### Boxes -/

/-- The area inside a box. -/
def insideBox (area : Area) : Area :=
  area.inset 1

/-- Draws a box along the edge of an area. Where an area is a single row or column, its sides are
drawn over each other: the lower and the right side over the others, and the corners last. -/
def drawBox (canvas : Canvas) (area : Area) (style : Style) : Canvas :=
  if area.width = 0 || area.height = 0 then canvas
  else
    let right := area.left + area.width - 1
    let bottom := area.top + area.height - 1
    let upright (canvas : Canvas) (column : Nat) : Canvas :=
      (List.range area.height).foldl (fun canvas row =>
        canvas.put column (area.top + row) "│" style) canvas
    let level (canvas : Canvas) (row : Nat) : Canvas :=
      (List.range area.width).foldl (fun canvas column =>
        canvas.put (area.left + column) row "─" style) canvas
    let sides := level (upright (level (upright canvas area.left) area.top) right) bottom
    (((sides.put right bottom "┘" style).put right area.top "┐" style).put
      area.left bottom "└" style).put area.left area.top "┌" style

/-- Writes a title onto the upper edge of a box. -/
def drawTitle (canvas : Canvas) (area : Area) (title : String) : Canvas :=
  drawLine canvas ⟨area.left + 1, area.top, area.width - 2, 1⟩ .left [⟨title, .plain⟩]

end Onboarding.Screen
