/-
This file holds the registration wizard: the form, the step on display with its
inputs, and what each key does. Going on and going back are those of
`Onboarding.Wizard.Navigation`; here the focus follows them and the inputs are
made anew whenever another step is displayed.
-/

import Onboarding.Registration.Field
import Onboarding.Screen.LineInput
import Onboarding.Wizard.Visit

namespace Onboarding.Registration

open Screen

/-- The wizard on display. -/
structure Wizard where
  plan : Plan Page
  visit : Visit Form
  /-- The inputs of the step on display. -/
  inputs : List LineInput
  /-- The index of the input with the focus. -/
  focus : Nat
  /-- The message of the last registration that failed. -/
  failure : Option String
  /-- Whether a token was at hand when the wizard was opened. -/
  signedIn : Bool
  /-- Counts the rounds that were drawn, for the sign of progress. -/
  ticks : UInt64

/-- What a key did. -/
inductive Action where
  /-- At most a change of the focus or of a text. -/
  | none
  | advanced (outcome : Advance)
  | retreated (outcome : Retreat)
  deriving DecidableEq, Repr

namespace Wizard

/-- The visit as the surroundings of navigation. -/
def around : Surroundings (Visit Form) := Form.operations.surroundings

/-! ### Looking -/

/-- The form. -/
def form (wizard : Wizard) : Form := wizard.visit.form

/-- The location of the step on display. -/
def current? (wizard : Wizard) : Option Location :=
  wizard.plan.current? around wizard.visit

/-- The page on display. -/
def page? (wizard : Wizard) : Option Page :=
  wizard.current?.bind wizard.plan.page?

/-- The number of the step on display, counted from one, and the number of steps. -/
def progress (wizard : Wizard) : Nat × Nat :=
  ((wizard.current?.bind wizard.plan.position?).getD 0 + 1, wizard.plan.length)

/-- The name of the field whose input has the focus. -/
def focused? (wizard : Wizard) : Option String :=
  wizard.inputs[wizard.focus]?.map LineInput.name

/-- What the control for going on offers. -/
def forwardLabel (wizard : Wizard) : ForwardLabel :=
  wizard.plan.forwardLabel around wizard.visit

/-- Whether values are on their way. -/
def isSubmitting (wizard : Wizard) : Bool :=
  wizard.form.submitting

/-! ### Displaying a step -/

/-- The input for a field, with the cursor behind the field's text. -/
def inputFor (form : Form) (field : Field) : LineInput :=
  LineInput.moveToEnd ⟨field.name, field.label, field.isMasked, 0⟩ (form.value field.name)

/-- Makes the inputs of the step on display, the first with the focus. -/
def display (wizard : Wizard) : Wizard :=
  match wizard.current? with
  | some current =>
    { wizard with
      inputs := ((wizard.plan.fieldsAt current).filterMap Field.ofName?).map (inputFor wizard.form)
      focus := 0 }
  | none => { wizard with inputs := [] }

/-- A wizard on the first step of a plan, with all fields empty. -/
def start (plan : Plan Page) (signedIn : Bool) : Wizard :=
  let history := History.startingAt ⟨"/"⟩
  let history := match plan.first? with
    | some first => history.replace first
    | none => history
  display {
    plan, signedIn
    visit := ⟨blankForm schema, history, 0⟩
    inputs := []
    focus := 0
    failure := none
    ticks := 0 }

/-! ### Moves -/

/-- Marks the field whose input has the focus as visited. -/
def visitFocused (wizard : Wizard) : Wizard :=
  match wizard.focused? with
  | some name => { wizard with visit := { wizard.visit with form := wizard.form.visit name } }
  | none => wizard

/-- Goes on, and puts the focus on the first input at fault when that is refused. -/
def advance (wizard : Wizard) : Advance × Wizard :=
  let left := wizard.visitFocused
  let (outcome, visit) := left.plan.advance around left.visit
  let moved := { left with visit }
  match outcome with
  | .moved _ => (outcome, moved.display)
  | .blocked fields =>
    match moved.inputs.findIdx? fun input => fields.contains input.name with
    | some index => (outcome, { moved with focus := index })
    | none => (outcome, moved)
  | .submitted => (outcome, { moved with failure := none })
  | .ignored => (outcome, moved)

/-- Goes back. -/
def retreat (wizard : Wizard) : Retreat × Wizard :=
  let (outcome, visit) := wizard.plan.retreat around wizard.visit
  let moved := { wizard with visit }
  match outcome with
  | .back => (outcome, moved.display)
  | _ => (outcome, moved)

/-- The registration failed: the wizard stays as it is, ready for another attempt. -/
def fail (wizard : Wizard) (message : String) : Wizard :=
  { wizard with
    visit := { wizard.visit with form := wizard.form.finish }
    failure := some message }

/-- Counts a round that was drawn. -/
def tick (wizard : Wizard) : Wizard :=
  { wizard with ticks := wizard.ticks + 1 }

/-- Puts the focus on the next input, and on the first after the last. -/
def focusNext (wizard : Wizard) : Wizard :=
  if wizard.inputs.isEmpty then wizard
  else
    let left := wizard.visitFocused
    { left with focus := (left.focus + 1) % left.inputs.length }

/-- Puts the focus on the input before, and on the last before the first. -/
def focusPrevious (wizard : Wizard) : Wizard :=
  if wizard.inputs.isEmpty then wizard
  else
    let left := wizard.visitFocused
    { left with focus := if left.focus = 0 then left.inputs.length - 1 else left.focus - 1 }

/-- Gives a key to the input with the focus, unless values are on their way. -/
def edit (wizard : Wizard) (key : Key) : Wizard :=
  if wizard.isSubmitting then wizard
  else
    match wizard.inputs[wizard.focus]? with
    | none => wizard
    | some input =>
      let edited := input.press key (wizard.form.value input.name)
      let kept := { wizard with inputs := wizard.inputs.set wizard.focus edited.input }
      if edited.consumed then
        { kept with visit := { kept.visit with form := kept.form.set input.name edited.text } }
      else
        kept

/-- What a key does. -/
def press (wizard : Wizard) (key : Key) : Action × Wizard :=
  match key with
  | .enter => let (outcome, next) := wizard.advance; (.advanced outcome, next)
  | .escape => let (outcome, next) := wizard.retreat; (.retreated outcome, next)
  | .tab | .down => (.none, wizard.focusNext)
  | .backTab | .up => (.none, wizard.focusPrevious)
  | other => (.none, wizard.edit other)

end Wizard

end Onboarding.Registration
