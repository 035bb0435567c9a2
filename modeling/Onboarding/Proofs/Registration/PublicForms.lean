/-
This file holds when two forms of the registration differ in the password only: the
passwords have the same length, and the rules say the same about both. Then all messages
are the same, whatever is asked of both forms leaves them so, and the descriptions of
what they hand over cannot be told apart.
-/

import Onboarding.Proofs.Form.Faults
import Onboarding.Proofs.Wizard.Translation
import Onboarding.Registration.Applicant

namespace Onboarding.Registration

/-! ### Values -/

/-- The description of the applicant that the values make, or the first field that they lack. -/
def description (values : Entries) : Except Field String :=
  (Applicant.ofEntries values).map Applicant.describe

/-- The values differ in the password only, by texts of one length about which the rules say the
same. -/
structure SamePublic (values others : Entries) : Prop where
  get? : ∀ name, name ≠ Field.password.name → others.get? name = values.get? name
  length : (others.get? Field.password.name).map String.length =
    (values.get? Field.password.name).map String.length
  fault? : schema.fault? Field.password.name others = schema.fault? Field.password.name values

namespace SamePublic

variable {values others : Entries}

theorem refl (values : Entries) : SamePublic values values :=
  ⟨fun _ _ => rfl, rfl, rfl⟩

variable (samePublic : SamePublic values others)

include samePublic

theorem getText {name : String} (differs : name ≠ Field.password.name) :
    others.getText name = values.getText name := by
  rw [Entries.getText, Entries.getText, samePublic.get? name differs]

theorem length_getText (name : String) :
    (others.getText name).length = (values.getText name).length := by
  by_cases password : name = Field.password.name
  · subst password
    have length := samePublic.length
    unfold Entries.getText
    cases found : values.get? Field.password.name with
    | none =>
      rw [found, Option.map_none, Option.map_eq_none_iff] at length
      rw [length]
    | some text =>
      rw [found, Option.map_some] at length
      obtain ⟨other, foundOther, same⟩ := Option.map_eq_some_iff.mp length
      rw [foundOther, Option.getD_some, Option.getD_some, same]
  · rw [samePublic.getText password]

/-- The rules say the same about every field. -/
theorem fault?_eq (name : String) : schema.fault? name others = schema.fault? name values := by
  by_cases password : name = Field.password.name
  · rw [password, samePublic.fault?]
  · exact schema.fault?_congr (samePublic.get? name password)

theorem faults_eq : schema.faults others = schema.faults values := by
  unfold Schema.faults
  simp only [samePublic.fault?_eq]

/-- A text is put into each of the two under one name: the same one, or for the password texts of
one length about which the rules say the same. -/
theorem set {name text other : String} (length : other.length = text.length)
    (same : name ≠ Field.password.name → other = text)
    (fault? : schema.fault? Field.password.name (others.set name other) =
      schema.fault? Field.password.name (values.set name text)) :
    SamePublic (values.set name text) (others.set name other) where
  get? shown differs := by
    rw [Entries.get?_set, Entries.get?_set, samePublic.get? shown differs]
    split
    · next equal => rw [same (equal ▸ differs)]
    · rfl
  length := by
    rw [Entries.get?_set, Entries.get?_set]
    split
    · rw [Option.map_some, Option.map_some, length]
    · exact samePublic.length
  fault? := fault?

/-- The applicants that the values make are described alike. -/
theorem description_eq : description others = description values := by
  have firstName := samePublic.get? Field.firstName.name (by decide)
  have lastName := samePublic.get? Field.lastName.name (by decide)
  have email := samePublic.get? Field.email.name (by decide)
  have password := samePublic.length
  simp only [description, Applicant.ofEntries, firstName, lastName, email]
  cases found : values.get? Field.password.name with
  | none =>
    rw [found, Option.map_none, Option.map_eq_none_iff] at password
    rw [password]
  | some text =>
    rw [found, Option.map_some] at password
    obtain ⟨other, foundOther, _⟩ := Option.map_eq_some_iff.mp password
    rw [foundOther]
    -- Whichever other field is lacking, it is the same one; with none lacking, only the passwords
    -- differ, and the description leaves them out.
    cases values.get? Field.firstName.name with
    | none => rfl
    | some _ =>
      cases values.get? Field.lastName.name with
      | none => rfl
      | some _ => cases values.get? Field.email.name <;> rfl

end SamePublic

/-! ### Forms -/

/-- The forms differ in the password only. -/
structure FormsAlike (form other : Form) : Prop where
  schema : form.schema = Registration.schema
  schemaOther : other.schema = Registration.schema
  values : SamePublic form.values other.values
  faults : other.faults = form.faults
  visited : other.visited = form.visited
  submitting : other.submitting = form.submitting
  handedOver : other.handedOver.map description = form.handedOver.map description

namespace FormsAlike

theorem blank : FormsAlike (blankForm Registration.schema) (blankForm Registration.schema) :=
  ⟨rfl, rfl, .refl _, rfl, rfl, rfl, rfl⟩

variable {form other : Form} (alike : FormsAlike form other)

include alike

/-- The rules of the forms say the same about every field. -/
theorem fault?_eq (name : String) :
    other.schema.fault? name other.values = form.schema.fault? name form.values := by
  rw [alike.schema, alike.schemaOther, alike.values.fault?_eq]

theorem faults_eq : other.schema.faults other.values = form.schema.faults form.values := by
  rw [alike.schema, alike.schemaOther, alike.values.faults_eq]

/-- With the same messages and the same fields visited. -/
theorem withFaults {faults otherFaults : Entries} {visited otherVisited : List String}
    (sameFaults : otherFaults = faults) (sameVisited : otherVisited = visited) :
    FormsAlike { form with faults, visited }
      { other with faults := otherFaults, visited := otherVisited } :=
  ⟨alike.schema, alike.schemaOther, alike.values, sameFaults, sameVisited, alike.submitting,
    alike.handedOver⟩

theorem recheck (name : String) : FormsAlike (form.recheck name) (other.recheck name) := by
  unfold Form.recheck
  rw [alike.fault?_eq]
  cases form.schema.fault? name form.values with
  | some message =>
    exact alike.withFaults (congrArg (Entries.set · name message) alike.faults) alike.visited
  | none => exact alike.withFaults (congrArg (Entries.erase · name) alike.faults) alike.visited

theorem visit (name : String) : FormsAlike (form.visit name) (other.visit name) :=
  recheck (alike.withFaults alike.faults (congrArg (Form.visitAll · [name]) alike.visited)) name

/-- Texts are put into a field that leave the values alike. -/
theorem set {name text otherText : String}
    (values : SamePublic (form.values.set name text) (other.values.set name otherText)) :
    FormsAlike (form.set name text) (other.set name otherText) := by
  have put : FormsAlike { form with values := form.values.set name text }
      { other with values := other.values.set name otherText } :=
    ⟨alike.schema, alike.schemaOther, values, alike.faults, alike.visited, alike.submitting,
      alike.handedOver⟩
  exact put.recheck name

theorem validate : FormsAlike form.validate other.validate :=
  alike.withFaults alike.faults_eq alike.visited

theorem finish : FormsAlike form.finish other.finish :=
  ⟨alike.schema, alike.schemaOther, alike.values, alike.faults, alike.visited, rfl,
    alike.handedOver⟩

theorem submit : FormsAlike form.submit other.submit := by
  have visited : Form.visitAll other.visited other.schema.fieldNames =
      Form.visitAll form.visited form.schema.fieldNames := by
    rw [alike.visited, alike.schema, alike.schemaOther]
  have checked := alike.withFaults alike.faults_eq visited
  cases passes : (form.schema.faults form.values).isEmpty with
  | true =>
    rw [Form.submit_of_passes form passes,
      Form.submit_of_passes other (by rw [alike.faults_eq, passes])]
    refine ⟨checked.schema, checked.schemaOther, checked.values, checked.faults,
      checked.visited, rfl, ?_⟩
    rw [List.map_append, List.map_append, alike.handedOver, List.map_singleton,
      List.map_singleton, alike.values.description_eq]
  | false =>
    rw [Form.submit_of_fails form passes,
      Form.submit_of_fails other (by rw [alike.faults_eq, passes])]
    exact checked

theorem restart : FormsAlike (form.reset form.values) (other.reset other.values) :=
  ⟨alike.schema, alike.schemaOther, alike.values, rfl, rfl, rfl, alike.handedOver⟩

omit alike in
/-- The forms behave alike behind a wizard. -/
theorem behaveAlike : Form.operations.BehaveAlike Form.operations FormsAlike where
  submitting alike := alike.submitting
  faults alike := alike.validate.faults
  validate alike := alike.validate
  submit alike := alike.submit
  restart alike := alike.restart

end FormsAlike

end Onboarding.Registration
