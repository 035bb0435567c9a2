/-
This file holds schemas: the rules of a form's fields in order. The first entry
of a field is the one that counts, and the first of its rules that the text
breaks gives the message. Main statement: checking the whole form finds for each
field what checking that field alone finds.
-/

import Onboarding.Form.Entries
import Onboarding.Form.Rule

namespace Onboarding

/-- The rules of each field; a field may be listed more than once. -/
structure Schema where
  fields : List (String × List Rule)

namespace Schema

/-- The fields in the order of the schema, repeats kept. -/
def fieldNames (schema : Schema) : List String :=
  schema.fields.map Prod.fst

/-- The message of the first rule that a text breaks. -/
def firstFault? (rules : List Rule) (text : String) : Option String :=
  rules.findSome? fun rule => rule.fault? text

theorem firstFault?_eq_none_iff {rules : List Rule} {text : String} :
    firstFault? rules text = none ↔ ∀ rule ∈ rules, rule.check.accepts text = true := by
  simp only [firstFault?, List.findSome?_eq_none_iff, Rule.fault?_eq_none_iff]

theorem firstFault?_eq_some_iff {rules : List Rule} {text message : String} :
    firstFault? rules text = some message ↔
      ∃ before rule after, rules = before ++ rule :: after ∧
        (rule.check.accepts text = false ∧ message = rule.message.about text) ∧
        ∀ earlier ∈ before, earlier.check.accepts text = true := by
  simp only [firstFault?, List.findSome?_eq_some_iff, Rule.fault?_eq_some_iff,
    Rule.fault?_eq_none_iff]

/-- The message about one field, if it has one. A field without a value has the empty text, and
a field that the schema does not list has no message. -/
def fault? (schema : Schema) (name : String) (values : Entries) : Option String :=
  (schema.fields.lookup name).bind fun rules => firstFault? rules (values.getText name)

/-- The messages about all fields of the schema. -/
def faults (schema : Schema) (values : Entries) : Entries :=
  .ofList (schema.fieldNames.filterMap fun name =>
    (schema.fault? name values).map fun message => (name, message))

end Schema

end Onboarding
