/-
This file proves that what the registration wizard keeps beside its form and its history
never parts from them. The inputs are made for the fields of the step on display, each
with its cursor behind its text; afterwards the texts change in the form, the step with
the history, and the inputs are made anew after some outcomes only. In every wizard that
was reached they are those of the step on display all the same, the focus is on one of
them, and each cursor stands within the text of its field.

A cursor could be left behind the end of a text only by a key that shortens the text of
another input than its own. No key does, since the inputs of a page are for different
fields.
-/

import Onboarding.Proofs.Registration.Retrying

namespace Onboarding.Registration.Wizard

open Screen

variable {wizard : Wizard} {page : Page} {key : Key} {input : LineInput}

/-! ### Editing, seen from the form -/

section

variable (idle : wizard.isSubmitting = false) (found : wizard.inputs[wizard.focus]? = some input)

include idle found

theorem inputs_edit :
    (wizard.edit key).inputs =
      wizard.inputs.set wizard.focus (input.press key (wizard.form.value input.name)).input := by
  rw [edit_of_found key idle found]
  dsimp only
  split <;> rfl

theorem get?_edit_of_ne {name : String} (differs : name ≠ input.name) :
    (wizard.edit key).form.values.get? name = wizard.form.values.get? name := by
  rw [edit_of_found key idle found]
  dsimp only
  split
  · exact (congrArg (Entries.get? · name) (Form.recheck_values _ _)).trans
      (Entries.get?_set_of_ne _ _ differs)
  · rfl

/-- The input with the focus makes the text of its field what the key makes of it. -/
theorem value_edit :
    (wizard.edit key).form.value input.name =
      (input.press key (wizard.form.value input.name)).text := by
  rw [edit_of_found key idle found]
  dsimp only
  split
  · exact (congrArg (Entries.getText · input.name) (Form.recheck_values _ _)).trans
      (congrArg (Option.getD · "") (Entries.get?_set_self _ _ _))
  · next passedOn =>
    exact (input.press_text_of_not_consumed key _ (Bool.eq_false_iff.mpr passedOn)).symm

end

/-! ### Inputs that suit their form -/

/-- The input has the label and the masking of the field whose name it has. -/
def IsForField (input : LineInput) : Prop :=
  ∃ field, Field.ofName? input.name = some field ∧ input.label = field.label ∧
    input.masked = field.isMasked

/-- Each input is made for its field, and its cursor stands within the text of the field. -/
structure Suited (wizard : Wizard) : Prop where
  isForField : ∀ input ∈ wizard.inputs, IsForField input
  within : ∀ input ∈ wizard.inputs, input.cursor ≤ (wizard.form.value input.name).length

theorem IsForField.press (isForField : IsForField input) (key : Key) (text : String) :
    IsForField (input.press key text).input := by
  rwa [IsForField, input.press_name, input.press_label, input.press_masked]

/-- A step that was just displayed has suitable inputs. -/
theorem suited_display (wizard : Wizard) : wizard.display.Suited := by
  unfold display
  split
  · refine ⟨fun input member => ?_, fun input member => ?_⟩
    · obtain ⟨field, _, rfl⟩ := List.mem_map.mp member
      exact ⟨field, Field.ofName?_name field, rfl, rfl⟩
    · obtain ⟨field, _, rfl⟩ := List.mem_map.mp member
      exact Nat.le_refl _
  · exact ⟨fun _ member => (nomatch member), fun _ member => (nomatch member)⟩

theorem Shows.names_nodup (shows : wizard.Shows page) :
    (wizard.inputs.map LineInput.name).Nodup := by
  rw [shows.inputs]
  cases page <;> decide

/-- Two inputs of a page are not for one field. -/
theorem Shows.name_ne (shows : wizard.Shows page) {first second : Nat} {other : LineInput}
    (found : wizard.inputs[first]? = some input) (foundOther : wizard.inputs[second]? = some other)
    (differs : first ≠ second) : input.name ≠ other.name := by
  intro same
  have bound : first < (wizard.inputs.map LineInput.name).length := by
    rw [List.length_map]
    exact (List.getElem?_eq_some_iff.mp found).1
  refine differs ((List.getElem?_inj bound shows.names_nodup).mp ?_)
  rw [List.getElem?_map, List.getElem?_map, found, foundOther, Option.map_some, Option.map_some,
    same]

namespace Suited

variable (suited : wizard.Suited)

include suited

/-- Only the inputs and the values are of account. -/
theorem congr {after : Wizard} (inputs : after.inputs = wizard.inputs)
    (values : after.form.values = wizard.form.values) : after.Suited where
  isForField := by
    rw [inputs]
    exact suited.isForField
  within := by
    rw [inputs, show after.form.value = wizard.form.value from
      funext fun name => congrArg (Entries.getText · name) values]
    exact suited.within

theorem visitFocused : wizard.visitFocused.Suited :=
  suited.congr (visitFocused_inputs wizard) (stays_visitFocused wizard).form.values

theorem edit (shows : wizard.Shows page) (key : Key) : (wizard.edit key).Suited := by
  cases submitting : wizard.isSubmitting with
  | true => rwa [edit_of_submitting key submitting]
  | false =>
    cases found : wizard.inputs[wizard.focus]? with
    | none => rwa [edit_of_unfocused key found]
    | some input =>
      have member := List.mem_of_getElem? found
      -- An input of the edited wizard is the edited one, or it was there and is for another field.
      have origin : ∀ other ∈ (wizard.edit key).inputs,
          other = (input.press key (wizard.form.value input.name)).input ∨
            other ∈ wizard.inputs ∧ other.name ≠ input.name := by
        rw [inputs_edit submitting found]
        intro other memberOther
        obtain ⟨index, foundOther⟩ := List.mem_iff_getElem?.mp memberOther
        by_cases same : wizard.focus = index
        · rw [← same, List.getElem?_set_self (List.getElem?_eq_some_iff.mp found).1] at foundOther
          exact Or.inl (Option.some.inj foundOther).symm
        · rw [List.getElem?_set_ne same] at foundOther
          exact Or.inr ⟨List.mem_of_getElem? foundOther,
            shows.name_ne foundOther found (Ne.symm same)⟩
      refine ⟨fun other memberOther => ?_, fun other memberOther => ?_⟩
      · rcases origin other memberOther with rfl | ⟨before, _⟩
        · exact (suited.isForField input member).press key _
        · exact suited.isForField other before
      · rcases origin other memberOther with rfl | ⟨before, differs⟩
        · rw [input.press_name, value_edit submitting found]
          exact input.press_cursor_le key _
        · have kept : (wizard.edit key).form.value other.name = wizard.form.value other.name :=
            congrArg (Option.getD · "") (get?_edit_of_ne submitting found differs)
          rw [kept]
          exact suited.within other before

theorem advance : wizard.advance.2.Suited :=
  wizard.advance_preserves Suited suited.visitFocused
    (fun _ _ => suited.visitFocused.congr rfl (Form.submit_values _)) fun _ => suited_display _

theorem retreat : wizard.retreat.2.Suited :=
  wizard.retreat_preserves Suited suited (suited.congr rfl rfl) (suited_display _)

theorem press (shows : wizard.Shows page) (key : Key) : (wizard.press key).2.Suited :=
  wizard.press_preserves Suited key suited suited.advance suited.retreat
    (fun _ => suited.visitFocused.congr rfl rfl) fun _ => suited.edit shows key

end Suited

theorem Reached.suited (reached : Reached wizard) : wizard.Suited := by
  induction reached with
  | opened drawn signedIn =>
    obtain ⟨blank, started, _⟩ := exists_blank_of_start drawn signedIn
    rw [started]
    exact suited_display blank
  | pressed reached key inductionHypothesis =>
    obtain ⟨page, shows⟩ := reached.shows
    exact inductionHypothesis.press shows key
  | ticked _ inductionHypothesis => exact inductionHypothesis.congr rfl rfl
  | failed _ _ inductionHypothesis => exact inductionHypothesis.congr rfl rfl

/-! ### What is on display -/

/-- What the wizard keeps beside the form and the history agrees with them. -/
structure Agrees (wizard : Wizard) (current : Location) (position : Nat) : Prop where
  located : wizard.current? = some current
  listed : current ∈ wizard.plan.locations
  index : wizard.plan.position? current = some position
  progress : wizard.progress = (position + 1, 2)
  inputs : wizard.inputs.map LineInput.name = wizard.plan.fieldsAt current
  suited : wizard.Suited
  masked : ∀ input ∈ wizard.inputs, input.name = Field.password.name → input.masked = true
  focus : wizard.focus < wizard.inputs.length
  values : ∀ field : Field, ∃ text, wizard.form.values.get? field.name = some text

/-- Every wizard that was reached displays the fields of the step on display, in order, with their
labels and masking, with the focus on one of them and each cursor within its text; and its form has
a text for each of the four fields. -/
theorem agrees_of_reached (reached : Reached wizard) :
    ∃ current position, wizard.Agrees current position := by
  obtain ⟨page, shows⟩ := reached.shows
  obtain ⟨step, found, _, fields, displayed⟩ := shows.onPage.current?
  obtain ⟨applicant, values⟩ := Applicant.exists_toEntries shows.onPage.names
  have suited := reached.suited
  refine ⟨step.location, page.number, ⟨displayed, ?_, Plan.position?_location found,
    shows.progress, ?_, suited, fun input member password => ?_, ?_, fun field => ?_⟩⟩
  · exact Plan.mem_of_resolve displayed
  · rw [Plan.fieldsAt_location found, fields]
    exact shows.inputs
  · obtain ⟨field, owner, _, masking⟩ := suited.isForField input member
    rw [password, Field.ofName?_name] at owner
    rw [masking, ← Option.some.inj owner]
    rfl
  · rw [shows.length_inputs]
    exact reached.focus_lt
  · exact ⟨applicant.text field, values ▸ applicant.get?_toEntries field⟩

/-- A wizard that was refused, gone back with, and edited within the name. -/
theorem agrees_after_refusal :
    let refused := (((start shortPlan false).pressAll fillingIn).press .enter).2.fail "taken"
    let edited := refused.pressAll [.escape, .escape, .home, .char 'x', .delete, .tab]
    Reached edited ∧ edited.form.value "firstName" = "x" ∧
      ∃ current position, edited.Agrees current position := by
  intro refused edited
  have reached : Reached edited :=
    ((((Reached.opened draw_shortPlan false).pressAll fillingIn).pressed .enter).failed
      "taken").pressAll _
  exact ⟨reached, by decide +kernel, agrees_of_reached reached⟩

end Onboarding.Registration.Wizard
