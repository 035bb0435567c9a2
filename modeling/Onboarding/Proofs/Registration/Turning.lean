/-
This file proves how a wizard that is being filled in turns from page to page. With the
texts of the page in order it goes on, from the first page to the second and from the
second to handing the applicant's texts over; with a text at fault it stays where it is
and hands nothing over. From the second page it goes back with the texts as they are.
-/

import Onboarding.Proofs.Registration.Entering

namespace Onboarding.Registration.Wizard

open Screen

variable {since wizard : Wizard} {page : Page} {index : Nat} {entered : Applicant}

/-! ### Keys that do not turn the page -/

theorem Shows.press_of_ne (shows : wizard.Shows page) {key : Key} (enter : key ≠ .enter)
    (escape : key ≠ .escape) :
    (wizard.press key).2.Shows page ∧
      (wizard.press key).2.form.handedOver = wizard.form.handedOver := by
  cases key with
  | enter => exact absurd rfl enter
  | escape => exact absurd rfl escape
  | tab | down =>
    have stays := stays_focusNext wizard
    exact ⟨shows.stays stays, stays.form.handedOver⟩
  | backTab | up =>
    have stays := stays_focusPrevious wizard
    exact ⟨shows.stays stays, stays.form.handedOver⟩
  | _ =>
    obtain ⟨showsAfter, pressed⟩ := shows.edit _
    exact ⟨showsAfter, pressed.handedOver (fun equal => by cases equal)⟩

theorem Shows.pressAll_of_ne (shows : wizard.Shows page) {keys : List Key}
    (within : ∀ key ∈ keys, key ≠ .enter ∧ key ≠ .escape) :
    (wizard.pressAll keys).Shows page ∧
      (wizard.pressAll keys).form.handedOver = wizard.form.handedOver := by
  induction keys generalizing wizard with
  | nil => exact ⟨shows, rfl⟩
  | cons key rest inductionHypothesis =>
    obtain ⟨enter, escape⟩ := within key List.mem_cons_self
    obtain ⟨showsNext, kept⟩ := shows.press_of_ne enter escape
    obtain ⟨showsLast, keptLast⟩ :=
      inductionHypothesis showsNext fun other member => within other (List.mem_cons_of_mem _ member)
    exact ⟨showsLast, keptLast.trans kept⟩

/-! ### Going on with a text at fault -/

/-- A page with a text at fault stays, and nothing is handed over. -/
theorem Shows.enter_of_faulty (shows : wizard.Shows page) {field : Field}
    (member : field ∈ page.fields)
    (faulty : Registration.schema.fault? field.name wizard.form.values ≠ none) :
    (wizard.press .enter).2.Shows page ∧
      (wizard.press .enter).2.form.handedOver = wizard.form.handedOver := by
  have stays := stays_visitFocused wizard
  have showsLeft := shows.stays stays
  have cases := wizard.advance_cases
  rw [← stays.form.values] at faulty
  show wizard.advance.2.Shows page ∧
    wizard.advance.2.form.handedOver = wizard.form.handedOver
  generalize wizard.visitFocused = left at stays showsLeft cases faulty
  simp only [showsLeft.form_schema] at cases
  rcases cases with
    ⟨_, outcome⟩ | ⟨_, broken, outcome⟩ | ⟨_, faultless, _, _, _⟩ | ⟨_, faultless, _, _⟩
  · rw [outcome]
    exact ⟨showsLeft, stays.form.handedOver⟩
  · rw [outcome]
    have same : left.Stays { left with
        visit := { left.visit with form := left.form.validate.submit } } :=
      ⟨rfl, rfl, rfl, showsLeft.keeps_submit_of_faulty broken, rfl⟩
    exact ⟨showsLeft.stays (same.refocus _),
      (same.form.handedOver).trans stays.form.handedOver⟩
  · exact absurd (showsLeft.onPage.fault?_of_mem faultless member) faulty
  · exact absurd (showsLeft.onPage.fault?_of_mem faultless member) faulty

theorem Shows.handedOver_of_personal (shows : wizard.Shows .personal) (key : Key) :
    (wizard.press key).2.form.handedOver = wizard.form.handedOver := by
  obtain ⟨next, _, pressed⟩ := shows.press key
  refine pressed.handedOver fun submitted => ?_
  cases pressed with
  | submitted _ last => cases last
  | stayed _ _ quiet | worked _ _ _ _ quiet => exact quiet submitted
  | left _ _ _ _ action => cases action.symm.trans submitted

/-! ### Going on with the texts in order -/

/-- The rules for a field look at the text for that field alone. -/
theorem fault?_takePage (applicant : Applicant) {wanted : Applicant} {field : Field}
    (member : field ∈ page.fields) :
    Registration.schema.fault? field.name (applicant.takePage page wanted).toEntries =
      Registration.schema.fault? field.name wanted.toEntries := by
  refine Schema.fault?_congr _ ?_
  rw [Applicant.get?_toEntries, Applicant.get?_toEntries, Applicant.text_takePage, if_pos member]

/-- A page that was just displayed has the focus on its first input, and each cursor at the end. -/
theorem entering_display {moved : Wizard} (onPage : OnPage moved.plan moved.visit page)
    (idle : moved.isSubmitting = false) (values : moved.form.values = entered.toEntries)
    (handedOver : moved.form.handedOver = since.form.handedOver)
    (exits : moved.visit.exits = since.visit.exits) :
    Entering since moved.display page 0 entered ∧ ∀ index, moved.display.AtEnd index := by
  refine ⟨⟨shows_display onPage, ?_, ?_, ?_, ?_, ?_⟩, fun index input found => ?_⟩ <;>
    rw [display_eq onPage] at *
  · exact idle
  · exact values
  · exact handedOver
  · exact exits
  · obtain ⟨field, _, made⟩ := List.mem_map.mp (List.mem_of_getElem? found)
    rw [← made]
    exact Nat.le_refl _

namespace Entering

variable (entering : Entering since wizard page index entered)

include entering

/-- Without a text at fault on the page, going on either displays the next page or hands the
values over. -/
theorem enter_cases
    (passes : ∀ field ∈ page.fields,
      Registration.schema.fault? field.name entered.toEntries = none) :
    (page = .personal ∧ Entering since (wizard.press .enter).2 .account 0 entered ∧
      ∀ other, (wizard.press .enter).2.AtEnd other) ∨
    (page = .account ∧ (wizard.press .enter).1 = .advanced .submitted ∧
      (wizard.press .enter).2.form.handedOver =
        since.form.handedOver ++ [entered.toEntries] ∧
      (wizard.press .enter).2.visit.exits = since.visit.exits) := by
  have stays := stays_visitFocused wizard
  have showsLeft := entering.shows.stays stays
  have cases := wizard.advance_cases
  have idleLeft : wizard.visitFocused.isSubmitting = false :=
    stays.form.submitting.trans entering.idle
  have valuesLeft : wizard.visitFocused.form.values = entered.toEntries :=
    stays.form.values.trans entering.values
  have handedOver := stays.form.handedOver.trans entering.handedOver
  have exits := stays.exits.trans entering.exits
  show (_ ∧ Entering since wizard.advance.2 .account 0 entered ∧
      ∀ other, wizard.advance.2.AtEnd other) ∨
    (_ ∧ Action.advanced wizard.advance.1 = _ ∧
      wizard.advance.2.form.handedOver = _ ∧ wizard.advance.2.visit.exits = _)
  generalize wizard.visitFocused = left
    at stays showsLeft cases idleLeft valuesLeft handedOver exits
  simp only [showsLeft.form_schema] at cases
  rcases cases with
    ⟨submitting, _⟩ | ⟨_, faulty, _⟩ | ⟨_, faultless, next, following, outcome⟩ |
      ⟨_, faultless, last, outcome⟩
  · exact absurd (idleLeft.symm.trans submitting) Bool.false_ne_true
  · -- What is at fault on the page is a field of it, and all of these pass.
    obtain ⟨name, member⟩ := List.exists_mem_of_ne_nil _ faulty
    obtain ⟨listed, broken⟩ := (showsLeft.onPage.mem_fieldsAtFault _ name).mp member
    obtain ⟨field, inPage, rfl⟩ := List.mem_map.mp listed
    rw [valuesLeft] at broken
    exact absurd (passes field inPage) broken
  · obtain ⟨later, number, onward⟩ := showsLeft.onPage.push faultless following
    have pages : page = .personal ∧ later = .account := by
      revert number
      cases page <;> cases later <;> decide
    obtain ⟨rfl, rfl⟩ := pages
    rw [outcome]
    exact Or.inl ⟨rfl, entering_display (onward.congr rfl rfl rfl) rfl valuesLeft handedOver exits⟩
  · obtain ⟨account, _, handsOver⟩ := showsLeft.handsOver_submit_of_last faultless last
    rw [outcome]
    refine Or.inr ⟨account, rfl, ?_, exits⟩
    rw [← handedOver, ← valuesLeft]
    exact handsOver.handedOver

/-! ### Going back -/

theorem escape_account (last : page = .account) :
    Entering since (wizard.press .escape).2 .personal 0 entered := by
  show Entering since wizard.retreat.2 .personal 0 entered
  rcases wizard.retreat_cases with
    ⟨submitting, _⟩ | ⟨_, ⟨current, located, first⟩, _⟩ | ⟨_, _, outcome⟩
  · exact absurd (entering.idle.symm.trans submitting) Bool.false_ne_true
  · have zero := (entering.shows.isFirst_iff located).mp first
    rw [last] at zero
    cases zero
  · have back := entering.shows.onPage.back (last ▸ Nat.one_pos)
    rw [outcome]
    refine (entering_display ?_ ?_ ?_ ?_ ?_).1
    · exact back
    · exact entering.idle
    · exact entering.values
    · exact entering.handedOver
    · exact entering.exits

end Entering

end Onboarding.Registration.Wizard
