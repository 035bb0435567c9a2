/-
This file holds the navigation of a wizard: going on when nothing on the present
step is at fault, going back, handing in on the last step and leaving from the
first. It works on any surroundings that can be asked and told a few things, so
that what it asks and tells can be recorded.
-/

import Onboarding.Form.Entries
import Onboarding.Wizard.Plan

namespace Onboarding

/-! ### Surroundings -/

/-- What navigation needs of its surroundings `ω`: a form, a history, and a way out. -/
structure Surroundings (ω : Type) where
  /-- The values that the form holds. -/
  values : ω → Entries
  /-- Whether values are on their way. -/
  submitting : ω → Bool
  /-- Checks the whole form; the messages found. -/
  validate : ω → Entries × ω
  /-- Asks the form to hand in its values. -/
  submit : ω → ω
  /-- Gives the form values as a fresh start. -/
  reset : Entries → ω → ω
  /-- The present place in the history. -/
  location? : ω → Option Location
  /-- Goes on to a place. -/
  push : Location → ω → ω
  /-- Goes back one place. -/
  back : ω → ω
  /-- Reports that the wizard is left. -/
  leave : ω → ω

/-! ### Outcomes -/

/-- What came of asking to go on. -/
inductive Advance where
  /-- Nothing, since values are on their way. -/
  | ignored
  /-- These fields of the step are at fault. -/
  | blocked (fields : List String)
  /-- The wizard moved on to the place. -/
  | moved (place : Location)
  /-- The step was the last, and the form was asked to hand in its values. -/
  | submitted
  deriving DecidableEq, Repr

/-- What came of asking to go back. -/
inductive Retreat where
  /-- Nothing, since values are on their way. -/
  | ignored
  /-- The step was the first, and the wizard was left. -/
  | exited
  /-- The history went back one place. -/
  | back
  deriving DecidableEq, Repr

/-- What the control for going on offers. -/
inductive ForwardLabel where
  | inProgress
  | goOn
  | finish
  deriving DecidableEq, Repr

/-- The words on the control for going on. -/
def ForwardLabel.text : ForwardLabel → String
  | inProgress => "Submitting…"
  | goOn => "Continue"
  | finish => "Finish Registration"

/-! ### Moves -/

namespace Plan

variable {υ ω : Type} (plan : Plan υ) (around : Surroundings ω)

/-- The location of the step on display. -/
def current? (world : ω) : Option Location :=
  plan.resolve (around.location? world)

/-- The location of the step after the one on display. -/
def following? (world : ω) : Option Location :=
  (plan.current? around world).bind plan.next?

/-- The fields of the present step about which there is a message that is not empty. -/
def fieldsAtFault (current : Option Location) (faults : Entries) : List String :=
  ((current.map plan.fieldsAt).getD []).filter fun field => faults.getText field != ""

/-- Goes on: checks the form, and then shows what is at fault on the present step, or moves to the
next step, or hands in when there is none. -/
def advance (world : ω) : Advance × ω :=
  if around.submitting world then
    (.ignored, world)
  else
    let (faults, checked) := around.validate world
    let current := plan.current? around checked
    let atFault := plan.fieldsAtFault current faults
    if !atFault.isEmpty then
      (.blocked atFault, around.submit checked)
    else
      match current.bind plan.next? with
      | some next =>
        (.moved next, around.push next (around.reset (around.values checked) checked))
      | none => (.submitted, around.submit checked)

/-- Goes back: one place in the history, and out of the wizard from the first step. -/
def retreat (world : ω) : Retreat × ω :=
  if around.submitting world then
    (.ignored, world)
  else if ((plan.current? around world).map plan.isFirst).getD false then
    (.exited, around.back (around.leave world))
  else
    (.back, around.back world)

/-- What the control for going on offers at present. -/
def forwardLabel (world : ω) : ForwardLabel :=
  if around.submitting world then .inProgress
  else if (plan.following? around world).isSome then .goOn
  else .finish

end Plan

end Onboarding
