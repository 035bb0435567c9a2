/-
This file holds a form that answers as it is told and counts what is asked of it.
It shows what navigation does around a form whose answers do not follow from its
values.
-/

import Onboarding.Wizard.Visit

namespace Onboarding

/-- A form that answers as told and counts the requests. -/
structure ScriptedForm where
  values : Entries
  /-- The messages that the next check answers. -/
  faults : Entries
  submitting : Bool
  /-- Whether handing in puts the values on their way. -/
  submitStarts : Bool
  submitCount : Nat
  resetCount : Nat
  validateCount : Nat
  deriving Repr

namespace ScriptedForm

/-- A form without values that finds no fault and puts nothing on its way. -/
def initial : ScriptedForm :=
  ⟨.empty, .empty, false, false, 0, 0, 0⟩

/-- What a visit needs of a scripted form; each request but those for a look is counted. -/
def operations : FormOperations ScriptedForm where
  values := values
  submitting := submitting
  validate form := (form.faults, { form with validateCount := form.validateCount + 1 })
  submit form :=
    { form with
      submitCount := form.submitCount + 1
      submitting := form.submitting || form.submitStarts }
  reset values form := { form with values, resetCount := form.resetCount + 1 }

end ScriptedForm

end Onboarding
