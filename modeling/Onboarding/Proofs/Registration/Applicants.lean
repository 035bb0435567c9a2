/-
This file proves how an applicant and the values of a form stand for each other. The
values that are kept under the names of the four fields are those of one applicant,
and a change of one of them is a change of that text of the applicant.
-/

import Onboarding.Registration.Applicant

namespace Onboarding.Registration.Applicant

/-- The applicant with the text for one field replaced. -/
def enter (applicant : Applicant) (field : Field) (text : String) : Applicant :=
  match field with
  | .firstName => { applicant with firstName := text }
  | .lastName => { applicant with lastName := text }
  | .email => { applicant with email := text }
  | .password => { applicant with password := text }

/-- The applicant with the texts of a page taken from another one. -/
def takePage (applicant : Applicant) (page : Page) (wanted : Applicant) : Applicant :=
  page.fields.foldl (fun taken field => taken.enter field (wanted.text field)) applicant

/-- An applicant who has not said anything. -/
def silent : Applicant := ⟨"", "", "", ""⟩

variable (applicant : Applicant) (field other : Field) (text : String)

/-! ### Changing a text -/

theorem text_enter :
    (applicant.enter field text).text other =
      if other = field then text else applicant.text other := by
  cases field <;> cases other <;> rfl

@[simp] theorem text_enter_self : (applicant.enter field text).text field = text := by
  rw [text_enter, if_pos rfl]

@[simp] theorem enter_text : applicant.enter field (applicant.text field) = applicant := by
  cases field <;> rfl

@[simp] theorem enter_enter (later : String) :
    (applicant.enter field text).enter field later = applicant.enter field later := by
  cases field <;> rfl

@[simp] theorem takePage_both (wanted : Applicant) :
    (applicant.takePage .personal wanted).takePage .account wanted = wanted := rfl

theorem text_takePage (page : Page) (wanted : Applicant) :
    (applicant.takePage page wanted).text field =
      if field ∈ page.fields then wanted.text field else applicant.text field := by
  cases page <;> cases field <;> rfl

/-! ### The values of a form -/

theorem get?_toEntries :
    applicant.toEntries.get? field.name = some (applicant.text field) := by
  cases field <;> rfl

theorem getText_toEntries :
    applicant.toEntries.getText field.name = applicant.text field := by
  rw [Entries.getText, get?_toEntries, Option.getD_some]

theorem set_toEntries :
    applicant.toEntries.set field.name text = (applicant.enter field text).toEntries := by
  cases field <;> rfl

theorem ofEntries_toEntries : ofEntries applicant.toEntries = .ok applicant := rfl

theorem exists_toEntries {values : Entries} (names : values.names = Field.names) :
    ∃ applicant : Applicant, values = applicant.toEntries := by
  obtain ⟨pairs, distinct⟩ := values
  have firsts : pairs.map Prod.fst = ["firstName", "lastName", "email", "password"] := names
  match pairs, firsts with
  | [(_, firstName), (_, lastName), (_, email), (_, password)], firsts =>
    simp only [List.map_cons, List.map_nil, List.cons.injEq, and_true] at firsts
    obtain ⟨rfl, rfl, rfl, rfl⟩ := firsts
    exact ⟨⟨firstName, lastName, email, password⟩, rfl⟩

end Onboarding.Registration.Applicant
