/-
This file says what there is to find in a field, and proves that just this is found, by
checking the field alone and by checking the whole form.

A schema may list a field several times. Its first entry counts, and of the rules there
the first that the text breaks; a field without a value has the empty text. So nothing
else can have a part in the message: neither the values of the other fields nor what
stands in the schema behind an entry of the field.
-/

import Onboarding.Proofs.Form.Faults

namespace Onboarding

/-! ### Texts -/

/-- The text that entries have under a name, empty where there is none. -/
inductive Entries.Says (entries : Entries) (name : String) : String → Prop
  | given {text : String} : (name, text) ∈ entries.toList → Says entries name text
  | missing : name ∉ entries.names → Says entries name ""

theorem Entries.get?_eq_none_iff {entries : Entries} {name : String} :
    entries.get? name = none ↔ name ∉ entries.names := by
  rw [Option.eq_none_iff_forall_ne_some, names, List.mem_map]
  constructor
  · rintro nothing ⟨entry, member, rfl⟩
    exact nothing entry.2 ((mem_toList_iff entries entry.1 entry.2).mp member)
  · intro absent text found
    exact absent ⟨(name, text), (mem_toList_iff entries name text).mpr found, rfl⟩

theorem Entries.getText_eq_iff {entries : Entries} {name text : String} :
    entries.getText name = text ↔ entries.Says name text := by
  rw [getText]
  constructor
  · rintro rfl
    cases found : entries.get? name with
    | some text => exact .given ((mem_toList_iff entries name text).mpr found)
    | none => exact .missing (get?_eq_none_iff.mp found)
  · intro said
    cases said with
    | given member => rw [(mem_toList_iff entries name text).mp member, Option.getD_some]
    | missing absent => rw [get?_eq_none_iff.mpr absent, Option.getD_none]

namespace Schema

/-! ### Fields -/

/-- The rules of the first entry that the schema has for a field. -/
def First (schema : Schema) (name : String) (rules : List Rule) : Prop :=
  ∃ before after, schema.fields = before ++ (name, rules) :: after ∧
    ∀ entry ∈ before, entry.1 ≠ name

/-- What there is to find in a text for a field: the message of the first rule that it breaks, of
those that the first entry of the field has. -/
inductive Finds (schema : Schema) (name text : String) : Option String → Prop
  | unlisted : name ∉ schema.fieldNames → Finds schema name text none
  | kept {rules : List Rule} :
      schema.First name rules → (∀ rule ∈ rules, rule.check.accepts text = true) →
      Finds schema name text none
  | broken {rules before after : List Rule} {rule : Rule} :
      schema.First name rules → rules = before ++ rule :: after →
      (∀ earlier ∈ before, earlier.check.accepts text = true) → rule.check.accepts text = false →
      Finds schema name text (some (rule.message.about text))

theorem lookup_eq_some_iff {schema : Schema} {name : String} {rules : List Rule} :
    schema.fields.lookup name = some rules ↔ schema.First name rules := by
  simp only [List.lookup_eq_some_iff, First, bne_iff_ne, ne_comm]

theorem finds_firstFault? {schema : Schema} {name : String} {rules : List Rule}
    (first : schema.First name rules) (text : String) :
    schema.Finds name text (firstFault? rules text) := by
  cases found : firstFault? rules text with
  | none => exact .kept first (firstFault?_eq_none_iff.mp found)
  | some message =>
    obtain ⟨before, rule, after, split, ⟨refused, rfl⟩, kept⟩ := firstFault?_eq_some_iff.mp found
    exact .broken first split kept refused

/-- Checking a field finds what there is to find in its text, and nothing else. -/
theorem fault?_eq_iff {schema : Schema} {name : String} {values : Entries}
    {found : Option String} :
    schema.fault? name values = found ↔ schema.Finds name (values.getText name) found := by
  rw [fault?]
  constructor
  · rintro rfl
    cases listed : schema.fields.lookup name with
    | none => exact .unlisted (lookup_eq_none_iff.mp listed)
    | some rules => exact finds_firstFault? (lookup_eq_some_iff.mp listed) _
  · intro finds
    cases finds with
    | unlisted unknown => rw [lookup_eq_none_iff.mpr unknown, Option.bind_none]
    | kept first kept =>
      rw [lookup_eq_some_iff.mpr first, Option.bind_some]
      exact firstFault?_eq_none_iff.mpr kept
    | broken first split kept refused =>
      rw [lookup_eq_some_iff.mpr first, Option.bind_some]
      exact firstFault?_eq_some_iff.mpr ⟨_, _, _, split, ⟨refused, rfl⟩, kept⟩

/-- Behind an entry of a field, other entries make no difference to it. -/
theorem fault?_append {front : List (String × List Rule)} {name : String}
    (listed : name ∈ front.map Prod.fst) (back : List (String × List Rule)) (values : Entries) :
    fault? ⟨front ++ back⟩ name values = fault? ⟨front⟩ name values := by
  rw [fault?, fault?, List.lookup_append]
  cases known : front.lookup name with
  | some rules => rfl
  | none =>
    have unlisted : name ∉ fieldNames ⟨front⟩ := lookup_eq_none_iff.mp known
    exact absurd listed unlisted

theorem mem_faults_iff {schema : Schema} {values : Entries} {name message : String} :
    (name, message) ∈ (schema.faults values).toList ↔ schema.fault? name values = some message := by
  rw [Entries.mem_toList_iff, get?_faults]

/-- Checking the whole form finds for each name what checking that name alone finds, and nothing for
a name that the schema does not list. This is what there is to find in the text of the field. It
stays the same whatever becomes of the values of other fields, and whatever stands in the schema
behind an entry of the field. -/
theorem faults_by_first_entry (schema : Schema) (values : Entries) (name : String) :
    (∀ message, (name, message) ∈ (schema.faults values).toList ↔
      schema.fault? name values = some message) ∧
    (name ∉ schema.fieldNames → name ∉ (schema.faults values).names) ∧
    (∀ found, schema.fault? name values = found ↔
      ∃ text, values.Says name text ∧ schema.Finds name text found) ∧
    (∀ others : Entries, others.getText name = values.getText name →
      schema.fault? name others = schema.fault? name values ∧
        (schema.faults others).get? name = (schema.faults values).get? name) ∧
    ∀ front back others : List (String × List Rule),
      schema.fields = front ++ back → name ∈ front.map Prod.fst →
        fault? ⟨front ++ others⟩ name values = schema.fault? name values ∧
          (faults ⟨front ++ others⟩ values).get? name = (schema.faults values).get? name := by
  refine ⟨fun _ => mem_faults_iff, fun unknown => ?_, fun found => ?_, fun others same => ?_,
    fun front back others split listed => ?_⟩
  · rw [← Entries.get?_eq_none_iff, get?_faults, fault?_of_notMem schema values unknown]
  · simp only [fault?_eq_iff, ← Entries.getText_eq_iff, exists_eq_left']
  · rw [get?_faults, get?_faults, fault?, fault?, same]
    exact ⟨rfl, rfl⟩
  · have whole : schema = ⟨front ++ back⟩ := congrArg Schema.mk split
    rw [get?_faults, get?_faults, whole, fault?_append listed, fault?_append listed]
    exact ⟨rfl, rfl⟩

/-- A field that is listed twice; of its first entry the second rule is broken. Another value
changes, and the second entry is replaced by two others. -/
theorem faults_by_first_entry_of_repeated_field :
    let front : List (String × List Rule) :=
      [("name", [⟨.notBlank, "Who?"⟩]),
        ("age", [⟨.notEmpty, "Missing"⟩, ⟨.minLength 2, "Too young"⟩, ⟨.address, "Odd"⟩])]
    let schema : Schema := ⟨front ++ [("age", [⟨.latinLetter, "Later"⟩])]⟩
    let values : Entries := .ofList [("age", "7"), ("name", "Ada")]
    let others : Entries := .ofList [("town", "Oslo"), ("age", "7")]
    let behind : List (String × List Rule) := [("age", []), ("age", [⟨.address, "Latest"⟩])]
    "town" ∉ schema.fieldNames ∧ others.getText "age" = values.getText "age" ∧
      "age" ∈ front.map Prod.fst ∧
      "town" ∉ (schema.faults values).names ∧ ("age", "Too young") ∈ (schema.faults values).toList ∧
      schema.fault? "age" others = some "Too young" ∧
      fault? ⟨front ++ behind⟩ "age" values = some "Too young" := by
  intro front schema values others behind
  have unknown : "town" ∉ schema.fieldNames := by decide
  have same : others.getText "age" = values.getText "age" := by decide
  have listed : "age" ∈ front.map Prod.fst := by decide
  have found : schema.fault? "age" values = some "Too young" := by decide
  obtain ⟨whole, -, -, elsewhere, further⟩ := faults_by_first_entry schema values "age"
  exact ⟨unknown, same, listed, (faults_by_first_entry schema values "town").2.1 unknown,
    (whole _).mpr found, (elsewhere others same).1.trans found,
    (further front _ behind rfl listed).1.trans found⟩

end Schema

end Onboarding
