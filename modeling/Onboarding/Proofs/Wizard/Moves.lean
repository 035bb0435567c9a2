/-
This file says once what going on and going back can do. Each of them has few
outcomes, and each outcome comes with what held before and with what was done to
the surroundings. Every statement about runs of a wizard is derived from these
cases and opens neither definition again.
-/

import Onboarding.Proofs.Form.Faults
import Onboarding.Wizard.Visit

namespace Onboarding.Plan

variable {υ ω : Type} (plan : Plan υ) (around : Surroundings ω)

/-! ### Any surroundings -/

section Outcomes

variable {around} {world : ω}

theorem advance_of_submitting (busy : around.submitting world = true) :
    plan.advance around world = (.ignored, world) :=
  if_pos busy

variable (idle : around.submitting world = false)

include idle

theorem advance_of_faulty
    (faulty : plan.fieldsAtFault (plan.current? around (around.validate world).2)
      (around.validate world).1 ≠ []) :
    plan.advance around world =
      (.blocked (plan.fieldsAtFault (plan.current? around (around.validate world).2)
        (around.validate world).1), around.submit (around.validate world).2) := by
  unfold advance
  rw [idle, if_neg Bool.false_ne_true]
  refine if_pos ?_
  rw [List.isEmpty_eq_false_iff.mpr faulty, Bool.not_false]

variable
  (faultless : plan.fieldsAtFault (plan.current? around (around.validate world).2)
    (around.validate world).1 = [])

include faultless

/-- Without a field at fault, the step that follows decides. -/
theorem advance_of_faultless :
    plan.advance around world =
      match plan.following? around (around.validate world).2 with
      | some next =>
        (.moved next, around.push next
          (around.reset (around.values (around.validate world).2) (around.validate world).2))
      | none => (.submitted, around.submit (around.validate world).2) := by
  unfold advance
  rw [idle, if_neg Bool.false_ne_true]
  refine if_neg ?_
  rw [faultless]
  exact Bool.false_ne_true

theorem advance_of_following {next : Location}
    (following : plan.following? around (around.validate world).2 = some next) :
    plan.advance around world =
      (.moved next, around.push next
        (around.reset (around.values (around.validate world).2) (around.validate world).2)) := by
  rw [plan.advance_of_faultless idle faultless, following]

theorem advance_of_last
    (last : plan.following? around (around.validate world).2 = none) :
    plan.advance around world = (.submitted, around.submit (around.validate world).2) := by
  rw [plan.advance_of_faultless idle faultless, last]

end Outcomes

/-- What going on can do, with `checked` for the surroundings after the check of the form. -/
theorem advance_cases (world : ω) :
    let checked := (around.validate world).2
    let atFault :=
      plan.fieldsAtFault (plan.current? around checked) (around.validate world).1
    (around.submitting world = true ∧ plan.advance around world = (.ignored, world)) ∨
    (around.submitting world = false ∧ atFault ≠ [] ∧
      plan.advance around world = (.blocked atFault, around.submit checked)) ∨
    (around.submitting world = false ∧ atFault = [] ∧
      ∃ next, plan.following? around checked = some next ∧
        plan.advance around world =
          (.moved next, around.push next (around.reset (around.values checked) checked))) ∨
    (around.submitting world = false ∧ atFault = [] ∧
      plan.following? around checked = none ∧
        plan.advance around world = (.submitted, around.submit checked)) := by
  intro checked atFault
  cases submitting : around.submitting world with
  | true => exact Or.inl ⟨rfl, plan.advance_of_submitting submitting⟩
  | false =>
    by_cases faultless : atFault = []
    · cases following : plan.following? around checked with
      | some next =>
        exact Or.inr (Or.inr (Or.inl ⟨rfl, faultless, next, rfl,
          plan.advance_of_following submitting faultless following⟩))
      | none =>
        exact Or.inr (Or.inr (Or.inr ⟨rfl, faultless, rfl,
          plan.advance_of_last submitting faultless following⟩))
    · exact Or.inr (Or.inl ⟨rfl, faultless, plan.advance_of_faulty submitting faultless⟩)

section Outcomes

variable {around} {world : ω}

theorem retreat_of_submitting (busy : around.submitting world = true) :
    plan.retreat around world = (.ignored, world) :=
  if_pos busy

/-- While nothing is on its way, it counts whether the step on display is the first. -/
theorem retreat_of_idle (idle : around.submitting world = false) :
    plan.retreat around world =
      if ((plan.current? around world).map plan.isFirst).getD false then
        (.exited, around.back (around.leave world))
      else (.back, around.back world) :=
  if_neg (by rw [idle]; exact Bool.false_ne_true)

end Outcomes

/-- What going back can do. -/
theorem retreat_cases (world : ω) :
    (around.submitting world = true ∧ plan.retreat around world = (.ignored, world)) ∨
    (around.submitting world = false ∧
      (∃ current, plan.current? around world = some current ∧ plan.isFirst current = true) ∧
      plan.retreat around world = (.exited, around.back (around.leave world))) ∨
    (around.submitting world = false ∧
      (∀ current, plan.current? around world = some current → plan.isFirst current = false) ∧
      plan.retreat around world = (.back, around.back world)) := by
  cases submitting : around.submitting world with
  | true => exact Or.inl ⟨rfl, plan.retreat_of_submitting submitting⟩
  | false =>
    rw [plan.retreat_of_idle submitting]
    cases located : plan.current? around world with
    | none => exact Or.inr (Or.inr ⟨rfl, fun _ found => (by cases found), rfl⟩)
    | some current =>
      rw [Option.map_some, Option.getD_some]
      cases first : plan.isFirst current with
      | true => exact Or.inr (Or.inl ⟨rfl, ⟨current, rfl, first⟩, rfl⟩)
      | false =>
        refine Or.inr (Or.inr ⟨rfl, fun other found => ?_, rfl⟩)
        rw [← Option.some.inj found, first]

/-! ### A form with rules -/

/-- The fields at fault on a step are those about which the schema has something to say. -/
theorem mem_fieldsAtFault {schema : Schema} (speaks : schema.Speaks)
    (current : Option Location) (values : Entries) (name : String) :
    name ∈ plan.fieldsAtFault current (schema.faults values) ↔
      name ∈ (current.map plan.fieldsAt).getD [] ∧ schema.fault? name values ≠ none := by
  rw [fieldsAtFault, List.mem_filter, Schema.getText_faults, bne_iff_ne]
  refine and_congr_right fun _ => ?_
  cases found : schema.fault? name values with
  | none => exact iff_of_false (fun differs => differs rfl) (fun some => some rfl)
  | some message =>
    refine iff_of_true (fun empty => ?_) (Option.some_ne_none message)
    rw [Option.getD_some] at empty
    exact speaks name values (found.trans (congrArg some empty))

end Onboarding.Plan
