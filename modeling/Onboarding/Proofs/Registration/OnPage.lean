/-
This file proves what a visit to the registration keeps as it goes back and forth.
Its plan has the two steps of the registration, its history has come the straight
way to the page on display, its form has a value for each field and for no other
name, and the fields of the pages before have texts that keep their rules.

The last of these is the point of the file. Handing in checks the whole form, but
going on looks at the fields of the present page only. The two agree since nobody
comes to the last page with a fault on an earlier one, and on the last page only
the fields of that page can be changed.
-/

import Onboarding.Proofs.Registration.Fields
import Onboarding.Proofs.Wizard.Trail
import Onboarding.Registration.Wizard

namespace Onboarding.Registration

/-- The visit has come to a page of the registration. -/
structure OnPage (plan : Plan Page) (visit : Visit Form) (page : Page) : Prop where
  contents : plan.contents = steps
  schema : visit.form.schema = Registration.schema
  names : visit.form.values.names = Field.names
  onTrail : ∃ start, plan.first? = some start ∧ plan.OnTrail start visit.history page.number
  passed : ∀ earlier : Page, earlier.number < page.number →
    ∀ field ∈ earlier.fields,
      Registration.schema.fault? field.name visit.form.values = none

namespace OnPage

variable {plan : Plan Page} {visit : Visit Form} {page : Page}

/-! ### What is on display -/

/-- The step at which a plan of the registration has a page. -/
theorem exists_step (contents : plan.contents = steps) (page : Page) :
    ∃ step, plan.steps[page.number]? = some step ∧ step.page = page ∧
      step.fields = page.fields.map Field.name :=
  Plan.exists_step_of_contents contents (steps_getElem? page)

theorem length_eq (contents : plan.contents = steps) : plan.length = 2 :=
  Plan.length_of_contents contents

variable (onPage : OnPage plan visit page)

include onPage

theorem current? :
    ∃ step, plan.steps[page.number]? = some step ∧ step.page = page ∧
      step.fields = page.fields.map Field.name ∧
      plan.current? Wizard.around visit = some step.location := by
  obtain ⟨step, found, samePage, sameFields⟩ := exists_step onPage.contents page
  obtain ⟨start, first, onTrail⟩ := onPage.onTrail
  exact ⟨step, found, samePage, sameFields,
    Visit.current?_of_onTrail _ (Or.inl first) onTrail found⟩

theorem following? :
    plan.following? Wizard.around visit = plan.locations[page.number + 1]? := by
  obtain ⟨start, first, onTrail⟩ := onPage.onTrail
  exact Visit.following?_of_onTrail _ (Or.inl first) onTrail

/-- The fields at fault on the page on display. -/
theorem mem_fieldsAtFault (values : Entries) (name : String) :
    name ∈ plan.fieldsAtFault (plan.current? Wizard.around visit)
        (Registration.schema.faults values) ↔
      name ∈ page.fields.map Field.name ∧ Registration.schema.fault? name values ≠ none := by
  obtain ⟨step, found, _, sameFields, located⟩ := onPage.current?
  rw [Plan.mem_fieldsAtFault plan schema_speaks, located, Option.map_some, Option.getD_some,
    Plan.fieldsAt_location found, sameFields]

/-- With no field at fault, the texts of the page keep their rules. -/
theorem fault?_of_mem
    (faultless : plan.fieldsAtFault (plan.current? Wizard.around visit)
      (Registration.schema.faults visit.form.values) = [])
    {field : Field} (member : field ∈ page.fields) :
    Registration.schema.fault? field.name visit.form.values = none := by
  refine Decidable.byContradiction fun faulty => ?_
  have listed := (onPage.mem_fieldsAtFault visit.form.values field.name).mpr
    ⟨List.mem_map_of_mem member, faulty⟩
  rw [faultless] at listed
  cases listed

/-- A field at fault on the page is a fault of the form. -/
theorem fails_of_faulty
    (faulty : plan.fieldsAtFault (plan.current? Wizard.around visit)
      (Registration.schema.faults visit.form.values) ≠ []) :
    (Registration.schema.faults visit.form.values).isEmpty = false := by
  obtain ⟨name, member⟩ := List.exists_mem_of_ne_nil _ faulty
  have broken := ((onPage.mem_fieldsAtFault visit.form.values name).mp member).2
  refine Bool.eq_false_iff.mpr fun empty => broken ?_
  rw [← Schema.get?_faults]
  exact (Entries.isEmpty_iff _).mp empty name

/-! ### What keeps a visit on its page -/

/-- Only the history, the rules and the values are of account. -/
theorem congr {after : Visit Form} (history : after.history = visit.history)
    (schema : after.form.schema = visit.form.schema)
    (values : after.form.values = visit.form.values) : OnPage plan after page where
  contents := onPage.contents
  schema := schema.trans onPage.schema
  names := (congrArg Entries.names values).trans onPage.names
  onTrail := by
    rw [history]
    exact onPage.onTrail
  passed earlier before field member := by
    rw [values]
    exact onPage.passed earlier before field member

/-- A change of a text of the page leaves the texts of the pages before alone. -/
theorem set {field : Field} (member : field ∈ page.fields) (text : String) :
    OnPage plan { visit with form := visit.form.set field.name text } page where
  contents := onPage.contents
  schema := (Form.recheck_schema _ _).trans onPage.schema
  names := by
    have known : field.name ∈ visit.form.values.names := by
      rw [onPage.names]
      exact (Field.mem_names_iff field.name).mpr ⟨field, rfl⟩
    have values : (visit.form.set field.name text).values =
        visit.form.values.set field.name text := Form.recheck_values _ _
    rw [values, Entries.names_set_of_mem _ text known, onPage.names]
  onTrail := onPage.onTrail
  passed earlier before other memberOther := by
    have values : (visit.form.set field.name text).values =
        visit.form.values.set field.name text := Form.recheck_values _ _
    rw [values, Schema.fault?_set_of_ne _ _ text
      (Page.name_ne_of_lt before memberOther member)]
    exact onPage.passed earlier before other memberOther

/-! ### Going on and going back -/

/-- With no field at fault, a visit may go on to the next page. -/
theorem push
    (faultless : plan.fieldsAtFault (plan.current? Wizard.around visit)
      (Registration.schema.faults visit.form.values) = [])
    {next : Location} (following : plan.following? Wizard.around visit = some next) :
    ∃ later : Page, later.number = page.number + 1 ∧
      OnPage plan { visit with history := visit.history.push next } later := by
  obtain ⟨start, first, onTrail⟩ := onPage.onTrail
  rw [onPage.following?] at following
  have onward := onTrail.push following
  have bound := onward.inside
  rw [length_eq onPage.contents] at bound
  cases page with
  | account => exact absurd bound (Nat.lt_irrefl 2)
  | personal =>
    refine ⟨.account, rfl, onPage.contents, onPage.schema, onPage.names,
      ⟨start, first, onward⟩, fun earlier before field member => ?_⟩
    have samePage : earlier = .personal := Page.eq_of_number (Nat.lt_one_iff.mp before)
    exact onPage.fault?_of_mem faultless (samePage ▸ member)

/-- With no page to follow and no field at fault, all four texts keep their rules. -/
theorem passes_of_last
    (faultless : plan.fieldsAtFault (plan.current? Wizard.around visit)
      (Registration.schema.faults visit.form.values) = [])
    (last : plan.following? Wizard.around visit = none) :
    page = .account ∧ (Registration.schema.faults visit.form.values).isEmpty = true := by
  rw [onPage.following?, List.getElem?_eq_none_iff, Plan.locations, List.length_map] at last
  have bound : 2 ≤ page.number + 1 := (length_eq onPage.contents) ▸ last
  cases page with
  | personal => exact absurd bound (by decide)
  | account =>
    refine ⟨rfl, (isEmpty_faults_iff visit.form.values).mpr fun field => ?_⟩
    cases field with
    | firstName | lastName => exact onPage.passed .personal Nat.one_pos _ (by decide)
    | email | password => exact onPage.fault?_of_mem faultless (by decide)

/-- From a later page a visit may go back. -/
theorem back (later : 0 < page.number) :
    OnPage plan { visit with history := visit.history.back } .personal := by
  obtain ⟨start, first, onTrail⟩ := onPage.onTrail
  refine ⟨onPage.contents, onPage.schema, onPage.names, ⟨start, first, ?_⟩,
    fun earlier before => absurd before (Nat.not_lt_zero _)⟩
  cases page with
  | personal => exact absurd later (Nat.lt_irrefl 0)
  | account => exact onTrail.back later

end OnPage

end Onboarding.Registration
