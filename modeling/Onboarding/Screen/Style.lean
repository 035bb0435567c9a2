/-
This file holds the look of a screen's cells: colours, and whether a cell is
bold. A style changes only what it names.
-/

namespace Onboarding.Screen

/-- A colour of the terminal; `reset` is the terminal's own. -/
inductive Color where
  | reset
  | black
  | red
  | green
  | yellow
  | magenta
  | cyan
  | gray
  | darkGray
  | lightYellow
  | white
  deriving DecidableEq, Repr

/-- The name of a colour. -/
def Color.name : Color → String
  | reset => "Reset"
  | black => "Black"
  | red => "Red"
  | green => "Green"
  | yellow => "Yellow"
  | magenta => "Magenta"
  | cyan => "Cyan"
  | gray => "Gray"
  | darkGray => "DarkGray"
  | lightYellow => "LightYellow"
  | white => "White"

/-- What a style changes: nothing where it names no colour, and to bold where it is bold. -/
structure Style where
  foreground : Option Color := none
  background : Option Color := none
  bold : Bool := false
  deriving DecidableEq, Repr

namespace Style

/-- Changes nothing. -/
def plain : Style := {}

/-- Only a foreground colour. -/
def colored (color : Color) : Style := { foreground := some color }

/-- The style made bold. -/
def makeBold (style : Style) : Style := { style with bold := true }

end Style

/-- How a cell looks. -/
structure Look where
  foreground : Color
  background : Color
  bold : Bool
  deriving DecidableEq, Repr

namespace Look

/-- The terminal's own look. -/
def default : Look := ⟨.reset, .reset, false⟩

/-- The look changed by a style. -/
def styled (look : Look) (style : Style) : Look where
  foreground := style.foreground.getD look.foreground
  background := style.background.getD look.background
  bold := look.bold || style.bold

/-- The look in words: the two colours, and whether it is bold. -/
def name (look : Look) : String :=
  look.foreground.name ++ "/" ++ look.background.name ++ if look.bold then "/BOLD" else ""

end Look

/-- A cell of the screen: its symbol, which may be several characters, and its look. -/
structure Cell where
  symbol : String
  look : Look
  deriving DecidableEq, Repr

/-- A cell that shows nothing. -/
def Cell.blank : Cell := ⟨" ", .default⟩

instance : Inhabited Cell := ⟨.blank⟩

end Onboarding.Screen
