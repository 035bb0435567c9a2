/-
This file proves what the fields, the pages and the rules of the registration have
to do with each other: each name is that of one field, each field is on one page,
no rule is silent, and a form has no message exactly when its four fields have none.
-/

import Onboarding.Proofs.Form.Faults
import Onboarding.Registration.Field

namespace Onboarding.Registration

/-! ### Names -/

theorem Field.ofName?_name (field : Field) : Field.ofName? field.name = some field := by
  cases field <;> decide

theorem Field.name_injective : Function.Injective Field.name := by
  intro first second same
  have found := second.ofName?_name
  rw [← same, first.ofName?_name] at found
  exact Option.some.inj found

theorem Field.mem_all (field : Field) : field ∈ Field.all := by
  cases field <;> decide

theorem Field.filterMap_ofName? (fields : List Field) :
    (fields.map Field.name).filterMap Field.ofName? = fields := by
  have inverse : Field.ofName? ∘ Field.name = some := funext Field.ofName?_name
  rw [List.filterMap_map, inverse, List.filterMap_some]

theorem Field.mem_names_iff (name : String) :
    name ∈ Field.names ↔ ∃ field : Field, field.name = name := by
  constructor
  · intro member
    obtain ⟨field, _, same⟩ := List.mem_map.mp member
    exact ⟨field, same⟩
  · rintro ⟨field, rfl⟩
    cases field <;> decide

/-! ### Pages -/

/-- How many pages come before a page. -/
def Page.number : Page → Nat
  | personal => 0
  | account => 1

theorem steps_getElem? (page : Page) :
    steps[page.number]? = some ⟨page, page.fields.map Field.name⟩ := by
  cases page <;> rfl

theorem Page.eq_of_number {first second : Page} (same : first.number = second.number) :
    first = second := by
  revert same
  cases first <;> cases second <;> decide

/-- No field is asked for on two pages. -/
theorem Page.name_ne_of_lt {earlier page : Page} (before : earlier.number < page.number)
    {field other : Field} (member : field ∈ earlier.fields) (memberOther : other ∈ page.fields) :
    field.name ≠ other.name := by
  revert before member memberOther
  cases earlier <;> cases page <;> cases field <;> cases other <;> decide

/-! ### Rules -/

theorem rules_speak (field : Field) :
    ∀ rule ∈ rules field, ∀ text, rule.message.about text ≠ "" := by
  cases field <;> simp [rules]

/-- Each rule of the registration has something to say. -/
theorem schema_speaks : schema.Speaks := by
  intro name values silent
  obtain ⟨entry, memberEntry, rule, memberRule, empty⟩ :=
    Schema.exists_rule_of_fault? silent
  obtain ⟨field, _, rfl⟩ := List.mem_map.mp memberEntry
  exact rules_speak field rule memberRule _ empty.symm

/-- A form has no message exactly when none of its four fields has one. -/
theorem isEmpty_faults_iff (values : Entries) :
    (schema.faults values).isEmpty = true ↔
      ∀ field : Field, schema.fault? field.name values = none := by
  rw [Entries.isEmpty_iff]
  constructor
  · intro absent field
    rw [← Schema.get?_faults]
    exact absent field.name
  · intro passes name
    rw [Schema.get?_faults]
    by_cases known : name ∈ schema.fieldNames
    · obtain ⟨field, rfl⟩ := (Field.mem_names_iff name).mp known
      exact passes field
    · exact schema.fault?_of_notMem values known

end Onboarding.Registration
