/-
This file holds an applicant, the four texts that a registration sends, and how
they are taken from the values of a form. A form may lack one of the fields; the
first one lacking is named.
-/

import Onboarding.Registration.Field
import Onboarding.Text.Quoted

namespace Onboarding.Registration

/-- The four texts of a registration. -/
structure Applicant where
  firstName : String
  lastName : String
  email : String
  password : String
  deriving DecidableEq, Repr

namespace Applicant

/-- The text for a field. -/
def text (applicant : Applicant) : Field → String
  | .firstName => applicant.firstName
  | .lastName => applicant.lastName
  | .email => applicant.email
  | .password => applicant.password

/-- The applicant whose texts are the form's values, or the first field that has no value. Values
under other names are left out. -/
def ofEntries (values : Entries) : Except Field Applicant := do
  let required (field : Field) : Except Field String :=
    match values.get? field.name with
    | some text => .ok text
    | none => .error field
  return {
    firstName := ← required .firstName
    lastName := ← required .lastName
    email := ← required .email
    password := ← required .password }

/-- The values of a form for the applicant. -/
def toEntries (applicant : Applicant) : Entries :=
  .ofList (Field.all.map fun field => (field.name, applicant.text field))

/-- A one-line description without the password. -/
def describe (applicant : Applicant) : String :=
  Text.record "RegisterUserVariables" [
    ("first_name", Text.quoted applicant.firstName),
    ("last_name", Text.quoted applicant.lastName),
    ("email", Text.quoted applicant.email),
    ("password", Text.quoted "<redacted>")]

end Applicant

end Onboarding.Registration
