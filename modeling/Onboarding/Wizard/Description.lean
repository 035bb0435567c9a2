/-
This file holds the one-line description of a plan, for people who look for
faults: its steps in order with their locations, pages and fields.
-/

import Onboarding.Text.Quoted
import Onboarding.Wizard.Plan

namespace Onboarding

open Text

/-- A location described by its path. -/
def Location.describe (location : Location) : String :=
  "RouteToken(" ++ quoted location.path ++ ")"

/-- A step described by its location, its page and its fields. -/
def Step.describe {υ : Type} (describePage : υ → String) (step : Step υ) : String :=
  record "Step" [("route", step.location.describe), ("unit", describePage step.page),
    ("fields", bracketed (step.fields.map quoted))]

/-- A plan described by its steps; what is done on leaving it is left out. -/
def Plan.describe {υ : Type} (describePage : υ → String) (plan : Plan υ) : String :=
  openRecord "StepRegistry" [("steps", bracketed (plan.steps.map (Step.describe describePage)))]

end Onboarding
