/-
This file proves that whatever a form of the registration hands over can be sent.
Checking a form takes a field without a value for one with the empty text, while an
applicant cannot be made of values that lack a field. A form may come to lack one,
since it can be given any values as a fresh start. The two readings agree on what is
handed over: each of the four fields has a rule that the empty text breaks, so values
that keep all rules lack none of them.
-/

import Onboarding.Proofs.Registration.Fields
import Onboarding.Proofs.Registration.Submitting

namespace Onboarding

/-! ### What a form hands over -/

namespace Form

/-- Only a request to hand in hands values over: those of the form, which keep all rules. -/
theorem obey_handedOver_cases (form : Form) (request : Request) :
    (form.obey request).handedOver = form.handedOver ∨
      ((form.schema.faults form.values).isEmpty = true ∧
        (form.obey request).handedOver = form.handedOver ++ [form.values]) := by
  cases request with
  | set name text => exact .inl (recheck_handedOver _ name)
  | visit name => exact .inl (recheck_handedOver _ name)
  | validate | reset | finish => exact .inl rfl
  | submit =>
    cases passes : (form.schema.faults form.values).isEmpty with
    | false => exact .inl (form.keeps_submit_of_fails passes).handedOver
    | true => exact .inr ⟨rfl, (form.handsOver_submit_of_passes passes).handedOver⟩

/-- Values that keep the rules are all that is ever handed over. -/
theorem passes_of_mem_handedOver (form : Form)
    (before : ∀ values ∈ form.handedOver, (form.schema.faults values).isEmpty = true)
    (requests : List Request) :
    ∀ values ∈ (form.obeyAll requests).handedOver,
      (form.schema.faults values).isEmpty = true := by
  induction requests generalizing form with
  | nil => exact before
  | cons request rest inductionHypothesis =>
    have sameSchema := form.obey_schema request
    rw [← sameSchema]
    refine inductionHypothesis _ fun values member => ?_
    rw [sameSchema]
    rcases form.obey_handedOver_cases request with same | ⟨passes, added⟩
    · exact before values (same ▸ member)
    · rw [added, List.mem_append, List.mem_singleton] at member
      rcases member with earlier | rfl
      · exact before values earlier
      · exact passes

/-- Handing in that hands nothing over was refused, and leaves the form to its user as it was. -/
theorem keeps_submit_of_handedOver_eq {form : Form}
    (nothing : form.submit.handedOver = form.handedOver) : form.Keeps form.submit := by
  cases passes : (form.schema.faults form.values).isEmpty with
  | false => exact form.keeps_submit_of_fails passes
  | true =>
    rw [(form.handsOver_submit_of_passes passes).handedOver] at nothing
    exact absurd (List.append_right_eq_self.mp nothing) (List.cons_ne_nil _ _)

end Form

/-! ### Values that keep the rules of the registration -/

namespace Registration

/-- Each field has a rule that the empty text breaks. -/
theorem firstFault?_empty_ne_none (field : Field) :
    Schema.firstFault? (rules field) "" ≠ none := by
  cases field <;> decide

theorem fault?_name (field : Field) (values : Entries) :
    schema.fault? field.name values =
      Schema.firstFault? (rules field) (values.getText field.name) := by
  cases field <;> rfl

/-- Values that keep the rules have a text for each field. -/
theorem exists_text_of_passes {values : Entries} (passes : (schema.faults values).isEmpty = true)
    (field : Field) : ∃ text, values.get? field.name = some text := by
  cases found : values.get? field.name with
  | some text => exact ⟨text, rfl⟩
  | none =>
    have faultless := (isEmpty_faults_iff values).mp passes field
    rw [fault?_name, Entries.getText, found] at faultless
    exact absurd faultless (firstFault?_empty_ne_none field)

/-- Values that keep the rules make an applicant. -/
theorem exists_applicant_of_passes {values : Entries}
    (passes : (schema.faults values).isEmpty = true) :
    ∃ applicant : Applicant, applicant.Of values := by
  rcases ofEntries_cases values with ⟨field, missing, -⟩ | ⟨-, complete⟩
  · obtain ⟨text, has⟩ := exists_text_of_passes passes field
    have lacks := List.find?_some missing
    rw [has] at lacks
    cases lacks
  · exact complete

/-- Once the applicant is made, no field can be found missing. -/
theorem submit_ne_missingField {ω : Type} (services : Services ω) {values : Entries}
    {applicant : Applicant} (made : Applicant.ofEntries values = .ok applicant) (world : ω)
    (field : Field) : (services.submit values world).1 ≠ .error (.missingField field) := by
  obtain ⟨outcome, after, calls, goes, submitted, -⟩ := services.exists_goes values world
  rw [submitted]
  rintro rfl
  cases goes with
  | lacking _ lacks => cases lacks.symm.trans made

/-- After any requests to a form of the registration: all values that it has handed over keep the
rules and make the applicant with these texts, so that no submission of them lacks a field; and
handing in once more either hands values over or leaves the values and the waiting as they are. -/
theorem handedOver_complete (requests : List Form.Request) :
    let form := (blankForm schema).obeyAll requests
    (∀ values ∈ form.handedOver,
      (schema.faults values).isEmpty = true ∧
        (∃ applicant : Applicant, applicant.Of values) ∧
        ∀ {ω : Type} (services : Services ω) (world : ω) (field : Field),
          (services.submit values world).1 ≠ .error (.missingField field)) ∧
      (form.submit.handedOver = form.handedOver →
        form.submit.values = form.values ∧ form.submit.submitting = form.submitting) := by
  intro form
  refine ⟨fun values member => ?_, fun nothing => ?_⟩
  · have passes : (schema.faults values).isEmpty = true :=
      Form.passes_of_mem_handedOver (blankForm schema) (fun _ none => nomatch none) requests values
        member
    obtain ⟨applicant, of⟩ := exists_applicant_of_passes passes
    exact ⟨passes, ⟨applicant, of⟩, fun services => submit_ne_missingField services of.made⟩
  · have keeps := Form.keeps_submit_of_handedOver_eq nothing
    exact ⟨keeps.values, keeps.submitting⟩

/-- Values without a password are refused; with a password, and with one more name than the form
has fields, they are handed over and make an applicant. -/
theorem handedOver_complete_of_resets :
    let lacking : Entries :=
      .ofList [("firstName", "A"), ("lastName", "L"), ("email", "a@b.co"), ("newsletter", "yes")]
    let full := lacking.set "password" "password"
    let refused := (blankForm schema).obeyAll [.reset lacking]
    let form := (blankForm schema).obeyAll [.reset lacking, .submit, .reset full, .submit]
    refused.submit.handedOver = refused.handedOver ∧ refused.submit.values = refused.values ∧
      form.handedOver = [full] ∧ ∃ applicant : Applicant, applicant.Of full := by
  intro lacking full refused form
  have nothing : refused.submit.handedOver = refused.handedOver := by decide +kernel
  have only : form.handedOver = [full] := by decide +kernel
  have kept := (handedOver_complete [.reset lacking]).2 nothing
  have complete := (handedOver_complete [.reset lacking, .submit, .reset full, .submit]).1 full
    (only ▸ List.mem_singleton_self full)
  exact ⟨nothing, kept.1, only, complete.2.1⟩

end Registration

end Onboarding
