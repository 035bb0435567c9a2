/-
This file holds a form while it is being filled in: its values, the messages
about them, which fields have been visited, and whether what was entered is on
its way. A message is shown only for a field that has been visited. Values that
pass all rules are handed over when the form is submitted; the values handed
over so far are kept in order.
-/

import Onboarding.Form.Schema

namespace Onboarding

/-- A form being filled in. -/
structure Form where
  schema : Schema
  values : Entries
  /-- The messages found last. -/
  faults : Entries
  /-- The fields that have been visited, without repeats. -/
  visited : List String
  /-- Whether values handed over are still on their way. -/
  submitting : Bool
  /-- The values handed over, the first of them first. -/
  handedOver : List Entries

namespace Form

/-- A form whose named fields are all empty and unvisited. -/
def blank (schema : Schema) (fields : List String) : Form where
  schema := schema
  values := .ofList (fields.map fun name => (name, ""))
  faults := .empty
  visited := []
  submitting := false
  handedOver := []

/-- The text of a field, empty where the form has none. -/
def value (form : Form) (name : String) : String :=
  form.values.getText name

/-- Whether the field has been visited. -/
def isVisited (form : Form) (name : String) : Bool :=
  form.visited.contains name

/-- The message to show for a field. -/
def shownFault? (form : Form) (name : String) : Option String :=
  if form.isVisited name then form.faults.get? name else none

/-- The fields visited so far and those given, without repeats. -/
def visitAll (visited : List String) (names : List String) : List String :=
  names.foldl (fun seen name => if seen.contains name then seen else seen ++ [name]) visited

/-! ### Operations -/

/-- Checks one field again and keeps the messages about the others. -/
def recheck (form : Form) (name : String) : Form :=
  match form.schema.fault? name form.values with
  | some message => { form with faults := form.faults.set name message }
  | none => { form with faults := form.faults.erase name }

/-- Changes the text of a field and checks that field. -/
def set (form : Form) (name text : String) : Form :=
  recheck { form with values := form.values.set name text } name

/-- Marks a field as visited and checks it. -/
def visit (form : Form) (name : String) : Form :=
  recheck { form with visited := visitAll form.visited [name] } name

/-- Checks all fields. -/
def validate (form : Form) : Form :=
  { form with faults := form.schema.faults form.values }

/-- Takes the given values as a fresh start: no messages, nothing visited, nothing on its way. -/
def reset (form : Form) (values : Entries) : Form :=
  { form with values, faults := .empty, visited := [], submitting := false }

/-- Marks the fields of the schema as visited, checks all fields and, when none has a message,
hands the values over. -/
def submit (form : Form) : Form :=
  let checked :=
    validate { form with visited := visitAll form.visited form.schema.fieldNames }
  if checked.faults.isEmpty then
    { checked with submitting := true, handedOver := checked.handedOver ++ [checked.values] }
  else
    checked

/-- What was handed over is no longer on its way. -/
def finish (form : Form) : Form :=
  { form with submitting := false }

end Form

end Onboarding
