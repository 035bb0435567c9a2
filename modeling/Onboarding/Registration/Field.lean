/-
This file holds the four fields of a registration, the two pages that ask for
them, and the rules that their texts keep.
-/

import Onboarding.Form.Schema
import Onboarding.Form.State
import Onboarding.Wizard.Plan

namespace Onboarding.Registration

/-! ### Fields -/

/-- What a registration asks for. -/
inductive Field where
  | firstName
  | lastName
  | email
  | password
  deriving DecidableEq, Repr

namespace Field

/-- The fields in the order in which they are asked for. -/
def all : List Field := [firstName, lastName, email, password]

/-- The name under which a form keeps the field's text. -/
def name : Field → String
  | firstName => "firstName"
  | lastName => "lastName"
  | email => "email"
  | password => "password"

/-- The words beside the field's input. -/
def label : Field → String
  | firstName => "First name"
  | lastName => "Last name"
  | email => "Email"
  | password => "Password"

/-- Whether the field's text is hidden on the screen. -/
def isMasked : Field → Bool
  | password => true
  | _ => false

/-- The field with a name. -/
def ofName? (name : String) : Option Field :=
  all.find? fun field => field.name == name

/-- The names of all fields in order. -/
def names : List String := all.map name

end Field

/-! ### Pages -/

/-- A page of the registration. -/
inductive Page where
  | personal
  | account
  deriving DecidableEq, Repr

namespace Page

/-- The words at the head of the page. -/
def heading : Page → String
  | personal => "Personal Details"
  | account => "Account Details"

/-- The words that tell what to do. -/
def text : Page → String
  | personal => "Please enter your name"
  | account => "Choose the email and password you will sign in with"

/-- The fields that the page asks for. -/
def fields : Page → List Field
  | personal => [.firstName, .lastName]
  | account => [.email, .password]

end Page

/-- The steps of the registration in order. -/
def steps : List (StepContent Page) :=
  [Page.personal, Page.account].map fun page => ⟨page, page.fields.map Field.name⟩

/-! ### Rules -/

/-- The rules for a field, of which the first that is broken counts. -/
def rules : Field → List Rule
  | .firstName => [⟨.notBlank, "First name is required"⟩]
  | .lastName => [⟨.notBlank, "Last name is required"⟩]
  | .email => [⟨.notBlank, "Email is required"⟩, ⟨.address, "Must be a valid email"⟩]
  | .password =>
    [⟨.notEmpty, "Please provide a password"⟩,
      ⟨.minLength 8, "Password is too short - it should be at least 8 characters"⟩,
      ⟨.latinLetter, "Password can only contain Latin Characters"⟩]

/-- The rules of the registration form. -/
def schema : Schema :=
  ⟨Field.all.map fun field => (field.name, rules field)⟩

/-- A form with the four fields empty, under the given rules. -/
def blankForm (schema : Schema) : Form :=
  .blank schema Field.names

end Onboarding.Registration
