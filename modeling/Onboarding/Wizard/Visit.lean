/-
This file holds a visit to a wizard: a form, a history and the number of times
the wizard was left. Any form that answers the few questions of `FormOperations`
can be visited, among them the form of `Onboarding.Form`.
-/

import Onboarding.Form.State
import Onboarding.Wizard.History
import Onboarding.Wizard.Navigation

namespace Onboarding

/-- What a visit needs of a form `σ`. -/
structure FormOperations (σ : Type) where
  values : σ → Entries
  submitting : σ → Bool
  validate : σ → Entries × σ
  submit : σ → σ
  reset : Entries → σ → σ

/-- The operations of a form with rules. -/
def Form.operations : FormOperations Form where
  values := Form.values
  submitting := Form.submitting
  validate form := (form.validate.faults, form.validate)
  submit := Form.submit
  reset values form := form.reset values

/-- A form, a history, and how often the wizard was left. -/
structure Visit (σ : Type) where
  form : σ
  history : History
  exits : Nat
  deriving Repr

/-- A visit as the surroundings of navigation. -/
def FormOperations.surroundings {σ : Type} (operations : FormOperations σ) :
    Surroundings (Visit σ) where
  values visit := operations.values visit.form
  submitting visit := operations.submitting visit.form
  validate visit :=
    let (faults, form) := operations.validate visit.form
    (faults, { visit with form })
  submit visit := { visit with form := operations.submit visit.form }
  reset values visit := { visit with form := operations.reset values visit.form }
  location? visit := visit.history.location?
  push place visit := { visit with history := visit.history.push place }
  back visit := { visit with history := visit.history.back }
  leave visit := { visit with exits := visit.exits + 1 }

end Onboarding
