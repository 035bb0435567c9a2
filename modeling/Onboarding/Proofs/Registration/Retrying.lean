/-
This file proves that the registration wizard has no dead end. Whatever was pressed
before, and however often a registration failed, there are keys that hand over any
texts that keep the rules, without leaving the wizard: back to the first page if need
be, then on each page one text after the other is erased and typed anew, and on.

The keys depend on the page on display, the input with the focus and the texts that
stand there; that the focus is on one of the two inputs is an invariant of its own.
-/

import Onboarding.Proofs.Registration.Turning

namespace Onboarding.Registration

/-- The fields of a page in the order that begins with the focus. -/
theorem Page.exists_fields (page : Page) {index : Nat} (bound : index < 2)
    (entered wanted : Applicant) :
    ∃ first second, page.fields[index]? = some first ∧
      page.fields[(index + 1) % 2]? = some second ∧
      (entered.enter first (wanted.text first)).enter second (wanted.text second) =
        entered.takePage page wanted := by
  match index, bound with
  | 0, _ => cases page <;> exact ⟨_, _, rfl, rfl, rfl⟩
  | 1, _ => cases page <;> exact ⟨_, _, rfl, rfl, rfl⟩

namespace Wizard

open Screen

variable {since wizard : Wizard} {page : Page} {index : Nat} {entered : Applicant}

/-! ### The focus -/

theorem display_focus_le (wizard : Wizard) : wizard.display.focus ≤ wizard.focus := by
  unfold display
  split
  · exact Nat.zero_le _
  · exact Nat.le_refl _

theorem edit_focus (wizard : Wizard) (key : Key) : (wizard.edit key).focus = wizard.focus :=
  wizard.edit_preserves (·.focus = wizard.focus) key (fun _ => rfl) fun _ _ _ => rfl

theorem Shows.focus_lt_advance (shows : wizard.Shows page) (bound : wizard.focus < 2) :
    wizard.advance.2.focus < 2 := by
  have inside : wizard.visitFocused.focus < 2 := (visitFocused_focus wizard).symm ▸ bound
  have length : wizard.visitFocused.inputs.length = 2 :=
    (shows.stays (stays_visitFocused wizard)).length_inputs
  have cases := wizard.advance_cases
  generalize wizard.visitFocused = left at inside length cases
  rcases cases with ⟨_, outcome⟩ | ⟨_, _, outcome⟩ | ⟨_, _, next, _, outcome⟩ | ⟨_, _, _, outcome⟩
  · rw [outcome]
    exact inside
  · rw [outcome]
    show Option.getD _ left.focus < 2
    cases found : left.inputs.findIdx? _ with
    | none => exact inside
    | some position => exact length ▸ (List.findIdx?_eq_some_iff_findIdx_eq.mp found).1
  · rw [outcome]
    exact Nat.lt_of_le_of_lt (display_focus_le _) inside
  · rw [outcome]
    exact inside

theorem focus_lt_retreat (bound : wizard.focus < 2) : wizard.retreat.2.focus < 2 :=
  wizard.retreat_preserves (·.focus < 2) bound bound
    (Nat.lt_of_le_of_lt (display_focus_le _) bound)

theorem Shows.focus_lt_press (shows : wizard.Shows page) (bound : wizard.focus < 2) (key : Key) :
    (wizard.press key).2.focus < 2 := by
  have length := shows.length_inputs
  cases key with
  | enter => exact shows.focus_lt_advance bound
  | escape => exact focus_lt_retreat bound
  | tab | down =>
    show wizard.focusNext.focus < 2
    unfold focusNext
    split
    · exact bound
    · show (_ + 1) % wizard.visitFocused.inputs.length < 2
      rw [visitFocused_inputs, length]
      exact Nat.mod_lt _ Nat.two_pos
  | backTab | up =>
    show wizard.focusPrevious.focus < 2
    unfold focusPrevious
    split
    · exact bound
    · dsimp only
      rw [visitFocused_inputs, visitFocused_focus, length]
      split <;> omega
  | _ => exact (edit_focus wizard _).symm ▸ bound

theorem Reached.focus_lt (reached : Reached wizard) : wizard.focus < 2 := by
  induction reached with
  | opened drawn signedIn =>
    obtain ⟨blank, started, onPage, _⟩ := exists_blank_of_start drawn signedIn
    rw [started, display_eq onPage]
    exact Nat.two_pos
  | pressed reached key inductionHypothesis =>
    obtain ⟨page, shows⟩ := reached.shows
    exact shows.focus_lt_press inductionHypothesis key
  | ticked _ inductionHypothesis => exact inductionHypothesis
  | failed _ _ inductionHypothesis => exact inductionHypothesis

theorem Reached.entering (reached : Reached wizard) (idle : wizard.isSubmitting = false) :
    ∃ page entered, Entering wizard wizard page wizard.focus entered := by
  obtain ⟨page, shows⟩ := reached.shows
  obtain ⟨entered, values⟩ := Applicant.exists_toEntries shows.onPage.names
  exact ⟨page, entered, shows, idle, rfl, values, rfl, rfl⟩

/-! ### Filling in a page -/

/-- Any texts can be put into the inputs of the page on display. -/
theorem Entering.exists_keys (entering : Entering since wizard page index entered)
    (bound : index < 2) (wanted : Applicant) :
    ∃ keys next, Entering since (wizard.pressAll keys) page next
      (entered.takePage page wanted) := by
  obtain ⟨first, second, owner, otherOwner, both⟩ :=
    Page.exists_fields page bound entered wanted
  have retyped := entering.retype owner (wanted.text first)
  have moved := retyped.tab.1
  have again := moved.retype otherOwner (wanted.text second)
  rw [both, ← pressAll_cons, ← pressAll_append] at again
  exact ⟨_, _, again⟩

/-- From the first page of a wizard that is being filled in, any texts that keep the rules can be
handed over. -/
theorem Entering.exists_keys_of_personal (entering : Entering since wizard .personal index entered)
    (bound : index < 2) {wanted : Applicant}
    (passes : (Registration.schema.faults wanted.toEntries).isEmpty = true) :
    ∃ keys,
      ((wizard.pressAll keys).press .enter).1 = .advanced .submitted ∧
      (wizard.pressAll keys).form.handedOver = since.form.handedOver ∧
      ((wizard.pressAll keys).press .enter).2.form.handedOver =
        since.form.handedOver ++ [wanted.toEntries] ∧
      ((wizard.pressAll keys).press .enter).2.visit.exits = since.visit.exits := by
  have keeps := (isEmpty_faults_iff wanted.toEntries).mp passes
  obtain ⟨names, _, named⟩ := entering.exists_keys bound wanted
  rcases named.enter_cases (fun field member => (fault?_takePage _ member).trans (keeps field)) with
    ⟨_, turned, _⟩ | ⟨impossible, _⟩
  · obtain ⟨others, _, filled⟩ := turned.exists_keys Nat.two_pos wanted
    rcases filled.enter_cases (fun field _ => keeps field) with
      ⟨impossible, _⟩ | ⟨_, submitted, handedOver, exits⟩
    · cases impossible
    · refine ⟨names ++ .enter :: others, ?_⟩
      rw [pressAll_append, pressAll_cons]
      exact ⟨submitted, filled.handedOver, handedOver, exits⟩
  · cases impossible

/-! ### No dead end -/

/-- From every wizard that was reached and is not submitting, and for all texts that keep the
rules, there are keys of which the last hands over exactly these texts, without any having been
handed over before and without leaving the wizard. -/
theorem exists_keys_of_reached (reached : Reached wizard) (idle : wizard.isSubmitting = false)
    (wanted : Applicant) (passes : (Registration.schema.faults wanted.toEntries).isEmpty = true) :
    ∃ keys last,
      ((wizard.pressAll keys).press last).1 = .advanced .submitted ∧
      (wizard.pressAll keys).form.handedOver = wizard.form.handedOver ∧
      ((wizard.pressAll keys).press last).2.form.handedOver =
        wizard.form.handedOver ++ [wanted.toEntries] ∧
      ((wizard.pressAll keys).press last).2.visit.exits = wizard.visit.exits := by
  obtain ⟨page, entered, entering⟩ := reached.entering idle
  cases page with
  | personal =>
    obtain ⟨keys, handsOver⟩ := entering.exists_keys_of_personal reached.focus_lt passes
    exact ⟨keys, .enter, handsOver⟩
  | account =>
    -- The names can only be changed on the first page.
    have back := entering.escape_account rfl
    obtain ⟨keys, handsOver⟩ := back.exists_keys_of_personal Nat.two_pos passes
    exact ⟨.escape :: keys, .enter, handsOver⟩

/-- A wizard whose registration was refused, and another applicant who can be registered then. -/
theorem exists_keys_after_refusal :
    let refused := (((start shortPlan false).pressAll fillingIn).press .enter).2.fail "taken"
    let wanted : Applicant := ⟨"B", "M", " b@c.de ", "\"pass\" \\ 8"⟩
    Reached refused ∧ refused.isSubmitting = false ∧
      (Registration.schema.faults wanted.toEntries).isEmpty = true ∧
      ∃ keys last,
        ((refused.pressAll keys).press last).1 = .advanced .submitted ∧
        (refused.pressAll keys).form.handedOver = refused.form.handedOver ∧
        ((refused.pressAll keys).press last).2.form.handedOver =
          refused.form.handedOver ++ [wanted.toEntries] ∧
        ((refused.pressAll keys).press last).2.visit.exits = refused.visit.exits := by
  intro refused wanted
  have reached : Reached refused :=
    (((Reached.opened draw_shortPlan false).pressAll fillingIn).pressed .enter).failed "taken"
  have passes : (Registration.schema.faults wanted.toEntries).isEmpty = true := by
    decide +kernel
  exact ⟨reached, rfl, passes, exists_keys_of_reached reached rfl wanted passes⟩

end Wizard

end Onboarding.Registration
