/-
This file holds how the registration wizard is drawn: the words of the page, its
inputs with their messages, the message of a registration that failed, and the
two buttons.
-/

import Onboarding.Registration.Wizard
import Onboarding.Screen.Bar

namespace Onboarding.Registration.Wizard

open Screen

/-- The signs of progress, one after the other. -/
def spinner : List String := ["|", "/", "-", "\\"]

/-- The words on the button for going on. -/
def forwardText (wizard : Wizard) : String :=
  match wizard.forwardLabel with
  | .inProgress =>
    spinner.getD (wizard.ticks.toNat % 4) "" ++ " " ++ ForwardLabel.text .inProgress
  | label => label.text

/-- Draws the buttons for going back and going on. -/
def drawButtons (wizard : Wizard) (canvas : Canvas) (area : Area) : Canvas :=
  let (back, forward) := area.halves
  let canvas := canvas.style back (.colored .gray)
  let canvas := drawLine (drawBox canvas back .plain) (insideBox back) .center [⟨"Back", .plain⟩]
  let color := if wizard.isSubmitting then Color.darkGray else .green
  let canvas := canvas.style forward (Style.colored color).makeBold
  drawLine (drawBox canvas forward (.colored color)) (insideBox forward) .center
    [⟨wizard.forwardText, .plain⟩]

/-- Draws the inputs, each into its area. -/
def drawInputs (wizard : Wizard) (canvas : Canvas) (areas : List Area) : Canvas :=
  (wizard.inputs.zip areas).zipIdx.foldl (fun canvas ((input, area), index) =>
    input.draw canvas area (wizard.form.value input.name) (wizard.form.shownFault? input.name)
      (index == wizard.focus && !wizard.isSubmitting)) canvas

/-- Draws the wizard onto an empty canvas. -/
def draw (wizard : Wizard) (width height : Nat) : Canvas :=
  let canvas := Canvas.blank width height
  let outer := canvas.area.rows [.fixed 1, .rest]
  let canvas := drawBar canvas (Area.row outer 0) wizard.signedIn
  let area := (Area.row outer 1).middle 60 80
  let (step, total) := wizard.progress
  let canvas := drawBox (canvas.clear area) area (.colored .cyan)
  let canvas := drawTitle canvas area
    (" Sign up (" ++ toString step ++ "/" ++ toString total ++ ") ")
  let count := wizard.inputs.length
  let rows := ((insideBox area).inset 1).rows
    ([.fixed 2, .fixed 2] ++ List.replicate count (.fixed LineInput.height) ++
      [.rest, .fixed 1, .fixed 3, .fixed 1])
  let heading := (wizard.page?.map Page.heading).getD ""
  let canvas := drawLine canvas (Area.row rows 0) .left
    [⟨heading, (Style.colored .yellow).makeBold⟩]
  let words := (wizard.page?.map Page.text).getD ""
  let canvas := drawLine canvas (Area.row rows 1) .left [⟨words, .colored .gray⟩]
  let canvas := wizard.drawInputs canvas ((rows.drop 2).take count)
  let canvas := match wizard.failure with
    | some message => drawLine canvas (Area.row rows (count + 3)) .left
      [⟨"Registration failed: " ++ message, .colored .red⟩]
    | none => canvas
  let canvas := wizard.drawButtons canvas (Area.row rows (count + 4))
  let footer := Area.row rows (count + 5)
  drawLine (canvas.style footer (.colored .darkGray)) footer .center
    [⟨"Tab", .colored .cyan⟩, ⟨" next field  ", .plain⟩, ⟨"Enter", .colored .cyan⟩,
      ⟨" continue  ", .plain⟩, ⟨"Esc", .colored .cyan⟩, ⟨" back", .plain⟩]

end Onboarding.Registration.Wizard
