/-
This file holds the landing screen, from which the registration is opened, and
how it is drawn.
-/

import Onboarding.Screen.Bar

namespace Onboarding

open Screen

/-- The landing screen. -/
structure Landing where
  /-- Whether a token is at hand. -/
  signedIn : Bool
  /-- A line below the button. -/
  notice : Option String
  deriving DecidableEq, Repr

/-- Draws the landing screen onto an empty canvas. -/
def Landing.draw (landing : Landing) (width height : Nat) : Canvas :=
  let canvas := Canvas.blank width height
  let outer := canvas.area.rows [.fixed 1, .rest]
  let canvas := drawBar canvas (Area.row outer 0) landing.signedIn
  let area := (Area.row outer 1).middle 60 70
  let canvas := drawBox (canvas.clear area) area (.colored .cyan)
  let rows := ((insideBox area).inset 2).rows
    [.fixed 2, .fixed 2, .fixed 2, .rest, .fixed 3, .fixed 1, .fixed 1]
  let centered (canvas : Canvas) (index : Nat) (line : List Span) : Canvas :=
    drawLine canvas (Area.row rows index) .center line
  let canvas := centered canvas 0 [⟨"Swallowtail", (Style.colored .lightYellow).makeBold⟩]
  let canvas := centered canvas 1 [⟨"The Trading Bot", .plain⟩]
  let canvas := centered canvas 2 [⟨"Coming Soon...", .colored .darkGray⟩]
  let button := Area.row rows 4
  let canvas := drawBox canvas button (.colored .magenta)
  let canvas := drawLine canvas (insideBox button) .center
    [⟨"Signup", ⟨some .black, some .magenta, true⟩⟩]
  let canvas := match landing.notice with
    | some notice => centered canvas 5 [⟨notice, .colored .green⟩]
    | none => canvas
  centered canvas 6 [⟨"Enter", .colored .yellow⟩, ⟨" signup  ", .plain⟩,
    ⟨"q", .colored .yellow⟩, ⟨" quit", .plain⟩]

end Onboarding
