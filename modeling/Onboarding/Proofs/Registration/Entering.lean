/-
This file proves how texts get into the registration wizard. A wizard that is being
filled in shows a page, has the focus on one of its two inputs, and holds the texts of
an applicant; each key leads from one such wizard to another, and nothing is handed
over on the way nor is the wizard left. The keys that erase a text and type another
one put that text of the applicant in the place of what was there, wherever the cursor
stood before.
-/

import Onboarding.Proofs.Registration.Applicants
import Onboarding.Proofs.Registration.HandingOver
import Onboarding.Proofs.Screen.Typing

namespace Onboarding.Registration

theorem Page.index_unique {page : Page} {first second : Nat} {field : Field}
    (atFirst : page.fields[first]? = some field) (atSecond : page.fields[second]? = some field) :
    first = second := by
  have distinct : page.fields.Nodup := by cases page <;> decide
  obtain ⟨bound, _⟩ := List.getElem?_eq_some_iff.mp atFirst
  exact (List.getElem?_inj bound distinct).mp (atFirst.trans atSecond.symm)

namespace Wizard

open Screen

/-! ### A wizard that is being filled in -/

/-- The wizard shows a page with the focus on an input of it and with the texts of an applicant. No
values are on their way, and since an earlier state none were handed over and the wizard was not
left. -/
structure Entering (since wizard : Wizard) (page : Page) (index : Nat) (entered : Applicant) :
    Prop where
  shows : wizard.Shows page
  idle : wizard.isSubmitting = false
  focus : wizard.focus = index
  values : wizard.form.values = entered.toEntries
  handedOver : wizard.form.handedOver = since.form.handedOver
  exits : wizard.visit.exits = since.visit.exits

/-- The cursor of an input stands at the end of its text or behind it. -/
def AtEnd (wizard : Wizard) (index : Nat) : Prop :=
  ∀ input, wizard.inputs[index]? = some input →
    (wizard.form.value input.name).length ≤ input.cursor

/-- The keys that erase a text, wherever the cursor stands in it, and type another one. -/
def retyping (old new : String) : List Key :=
  .endOfLine :: (List.replicate old.toList.length .backspace ++ typing new)

theorem pressAll_cons (wizard : Wizard) (key : Key) (rest : List Key) :
    wizard.pressAll (key :: rest) = (wizard.press key).2.pressAll rest := rfl

theorem pressAll_append (wizard : Wizard) (first second : List Key) :
    wizard.pressAll (first ++ second) = (wizard.pressAll first).pressAll second :=
  List.foldl_append

@[simp] theorem visitFocused_inputs (wizard : Wizard) :
    wizard.visitFocused.inputs = wizard.inputs := by
  unfold visitFocused
  split <;> rfl

@[simp] theorem visitFocused_focus (wizard : Wizard) :
    wizard.visitFocused.focus = wizard.focus := by
  unfold visitFocused
  split <;> rfl

variable {since wizard : Wizard} {page : Page} {index : Nat} {entered : Applicant} {field : Field}

theorem Shows.length_inputs (shows : wizard.Shows page) : wizard.inputs.length = 2 := by
  have length := congrArg List.length shows.inputs
  rw [List.length_map, List.length_map] at length
  rw [length]
  cases page <;> rfl

/-- The input at an index is that of the page's field there. -/
theorem Shows.name_eq (shows : wizard.Shows page) (owner : page.fields[index]? = some field)
    {input : LineInput} (found : wizard.inputs[index]? = some input) :
    input.name = field.name := by
  have same : (wizard.inputs.map LineInput.name)[index]? = (page.fields.map Field.name)[index]? :=
    congrArg (·[index]?) shows.inputs
  rw [List.getElem?_map, List.getElem?_map, found, owner] at same
  exact Option.some.inj same

/-! ### Editing a text -/

/-- A key that the input with the focus consumes sets the text of that input's field. -/
theorem edit_of_consumed {key : Key} {input edited : LineInput} {text : String}
    (idle : wizard.isSubmitting = false) (found : wizard.inputs[wizard.focus]? = some input)
    (pressed : input.press key (wizard.form.value input.name) = ⟨true, edited, text⟩) :
    wizard.edit key = { wizard with
      inputs := wizard.inputs.set wizard.focus edited
      visit := { wizard.visit with form := wizard.form.set input.name text } } := by
  rw [edit_of_found key idle found, pressed]
  exact if_pos rfl

namespace Entering

theorem value_eq (entering : Entering since wizard page index entered) (field : Field) :
    wizard.form.value field.name = entered.text field := by
  rw [Form.value, entering.values, Applicant.getText_toEntries]

theorem atEnd_of_set {after : Wizard} {input edited : LineInput} {text : String}
    (owner : page.fields[index]? = some field) (found : wizard.inputs[index]? = some input)
    (afterwards : Entering since after page index (entered.enter field text))
    (inputs : after.inputs = wizard.inputs.set index edited)
    (behind : text.length ≤ edited.cursor) : after.AtEnd index := by
  intro other foundAfter
  rw [afterwards.shows.name_eq owner foundAfter, afterwards.value_eq,
    Applicant.text_enter_self]
  rw [inputs, List.getElem?_set_self (List.getElem?_eq_some_iff.mp found).1] at foundAfter
  rwa [← Option.some.inj foundAfter]

variable (entering : Entering since wizard page index entered)

include entering

theorem exists_input (owner : page.fields[index]? = some field) :
    ∃ input, wizard.inputs[index]? = some input ∧ input.name = field.name := by
  have bound : index < wizard.inputs.length := by
    rw [entering.shows.length_inputs]
    obtain ⟨inside, _⟩ := List.getElem?_eq_some_iff.mp owner
    cases page <;> exact inside
  have found := List.getElem?_eq_getElem bound
  exact ⟨_, found, entering.shows.name_eq owner found⟩

/-- A key that sets the text of the field with the focus, and perhaps moves the cursor there. -/
theorem edit {key : Key} {input edited : LineInput} {text : String}
    (owner : page.fields[index]? = some field) (found : wizard.inputs[index]? = some input)
    (pressed : input.press key (entered.text field) = ⟨true, edited, text⟩) :
    Entering since (wizard.edit key) page index (entered.enter field text) ∧
      (wizard.edit key).inputs = wizard.inputs.set index edited := by
  have named : input.name = field.name := entering.shows.name_eq owner found
  have consumed : input.press key (wizard.form.value input.name) = ⟨true, edited, text⟩ := by
    rw [named, entering.value_eq, pressed]
  have outcome := edit_of_consumed entering.idle (entering.focus.symm ▸ found) consumed
  have showsAfter := (entering.shows.edit key).1
  rw [outcome] at showsAfter ⊢
  refine ⟨⟨showsAfter, ?_, entering.focus, ?_, ?_, entering.exits⟩, ?_⟩
  · exact (Form.recheck_submitting _ _).trans entering.idle
  · show (wizard.form.set input.name text).values = _
    rw [Form.set, Form.recheck_values, entering.values, named, Applicant.set_toEntries]
  · exact (Form.recheck_handedOver _ _).trans entering.handedOver
  · rw [entering.focus]

/-- Editing one input leaves the cursor of the other where it is. -/
theorem atEnd_edit_of_ne {after : Wizard} {edited : LineInput} {text : String} {other : Nat}
    (owner : page.fields[index]? = some field)
    (afterwards : Entering since after page index (entered.enter field text))
    (inputs : after.inputs = wizard.inputs.set index edited) (differs : other ≠ index)
    (atEnd : wizard.AtEnd other) : after.AtEnd other := by
  intro input found
  rw [inputs, List.getElem?_set_ne (Ne.symm differs)] at found
  obtain ⟨bound, _⟩ := List.getElem?_eq_some_iff.mp found
  have inside : other < page.fields.length := by
    rw [entering.shows.length_inputs] at bound
    cases page <;> exact bound
  have otherOwner := List.getElem?_eq_getElem inside
  have distinct : page.fields[other] ≠ field := fun same =>
    differs (Page.index_unique (same ▸ otherOwner) owner)
  have before := atEnd input found
  rw [entering.shows.name_eq otherOwner found, entering.value_eq] at before
  rwa [entering.shows.name_eq otherOwner found, afterwards.value_eq, Applicant.text_enter,
    if_neg distinct]

/-! ### Typing -/

/-- Typing behind the end of a text. The other input stays as it is. -/
theorem typeAll (owner : page.fields[index]? = some field) (atEnd : wizard.AtEnd index)
    (characters : List Char) :
    Entering since (wizard.pressAll (characters.map Key.char)) page index
        (entered.enter field (entered.text field ++ String.ofList characters)) ∧
      ∀ other, other ≠ index → wizard.AtEnd other →
        (wizard.pressAll (characters.map Key.char)).AtEnd other := by
  induction characters generalizing wizard entered with
  | nil =>
    rw [String.ofList_nil, String.append_empty, Applicant.enter_text]
    exact ⟨entering, fun _ _ before => before⟩
  | cons c rest inductionHypothesis =>
    obtain ⟨input, found, named⟩ := entering.exists_input owner
    have behind := atEnd input found
    rw [named, entering.value_eq] at behind
    obtain ⟨next, inputs⟩ := entering.edit owner found (input.press_char_of_le _ c behind)
    have nextAtEnd := atEnd_of_set owner found next inputs (Nat.le_of_eq (String.length_push c))
    obtain ⟨final, others⟩ := inductionHypothesis next nextAtEnd
    have text : (entered.text field).push c ++ String.ofList rest =
        entered.text field ++ String.ofList (c :: rest) := by
      rw [← String.toList_inj]
      simp
    rw [Applicant.text_enter_self, Applicant.enter_enter, text] at final
    refine ⟨final, fun other differs before => others other differs ?_⟩
    exact entering.atEnd_edit_of_ne owner next inputs differs before

theorem type_text (owner : page.fields[index]? = some field) (atEnd : wizard.AtEnd index)
    (text : String) :
    Entering since (wizard.pressAll (typing text)) page index
        (entered.enter field (entered.text field ++ text)) ∧
      ∀ other, other ≠ index → wizard.AtEnd other →
        (wizard.pressAll (typing text)).AtEnd other := by
  have typed := entering.typeAll owner atEnd text.toList
  rwa [String.ofList_toList] at typed

/-! ### Erasing -/

/-- The key for erasing, as often as the text is long, takes all of it away. -/
theorem eraseAll (owner : page.fields[index]? = some field) (atEnd : wizard.AtEnd index) :
    let erased :=
      wizard.pressAll (List.replicate (entered.text field).toList.length Key.backspace)
    Entering since erased page index (entered.enter field "") ∧ erased.AtEnd index := by
  -- The last character goes first, so the induction is on the text from behind.
  generalize reversed : (entered.text field).toList.reverse = characters
  induction characters generalizing wizard entered with
  | nil =>
    have empty : entered.text field = "" := by
      rw [← String.toList_inj, ← List.reverse_inj, reversed]
      rfl
    rw [empty]
    show Entering since wizard page index (entered.enter field "") ∧ wizard.AtEnd index
    rw [← empty, Applicant.enter_text]
    exact ⟨entering, atEnd⟩
  | cons c rest inductionHypothesis =>
    have split : entered.text field = (String.ofList rest.reverse).push c := by
      rw [← String.toList_inj, String.toList_push, String.toList_ofList, ← List.reverse_cons,
        ← reversed, List.reverse_reverse]
    obtain ⟨input, found, named⟩ := entering.exists_input owner
    have behind := atEnd input found
    rw [named, entering.value_eq, split] at behind
    obtain ⟨next, inputs⟩ := entering.edit owner found
      (split ▸ input.press_backspace_push (String.ofList rest.reverse) c behind)
    have nextAtEnd := atEnd_of_set owner found next inputs (Nat.le_refl _)
    have left : ((entered.enter field (String.ofList rest.reverse)).text field).toList.reverse =
        rest := by
      rw [Applicant.text_enter_self, String.toList_ofList, List.reverse_reverse]
    have erased := inductionHypothesis next nextAtEnd left
    rw [Applicant.enter_enter, Applicant.text_enter_self] at erased
    rw [split, String.toList_push, List.length_append, List.length_singleton,
      List.replicate_succ]
    exact erased

/-- Putting a text in the place of another, wherever the cursor stood. -/
theorem retype (owner : page.fields[index]? = some field) (text : String) :
    Entering since (wizard.pressAll (retyping (entered.text field) text)) page index
      (entered.enter field text) := by
  obtain ⟨input, found, _⟩ := entering.exists_input owner
  obtain ⟨moved, inputs⟩ := entering.edit owner found (input.press_endOfLine (entered.text field))
  have movedAtEnd := atEnd_of_set owner found moved inputs (Nat.le_refl _)
  rw [Applicant.enter_text] at moved
  obtain ⟨erased, erasedAtEnd⟩ := moved.eraseAll owner movedAtEnd
  have typed := (erased.type_text owner erasedAtEnd text).1
  rw [Applicant.text_enter_self, String.empty_append, Applicant.enter_enter] at typed
  rw [retyping, pressAll_cons, pressAll_append]
  exact typed

/-! ### The other input -/

theorem tab :
    Entering since (wizard.press .tab).2 page ((index + 1) % 2) entered ∧
      ∀ other, wizard.AtEnd other → (wizard.press .tab).2.AtEnd other := by
  have stays := stays_focusNext wizard
  have outcome : wizard.focusNext =
      { wizard.visitFocused with
        focus := (wizard.visitFocused.focus + 1) % wizard.visitFocused.inputs.length } := by
    have some : wizard.inputs.isEmpty = false := by
      rw [List.isEmpty_eq_false_iff]
      exact List.ne_nil_of_length_pos (entering.shows.length_inputs ▸ Nat.two_pos)
    unfold focusNext
    rw [some, if_neg Bool.false_ne_true]
  have inputs : wizard.focusNext.inputs = wizard.inputs := by
    rw [outcome]
    exact visitFocused_inputs wizard
  refine ⟨⟨entering.shows.stays stays, ?_, ?_, ?_, ?_, ?_⟩, fun other atEnd input found => ?_⟩
  · exact stays.form.submitting.trans entering.idle
  · show wizard.focusNext.focus = _
    rw [outcome, visitFocused_inputs, visitFocused_focus, entering.shows.length_inputs,
      entering.focus]
  · exact stays.form.values.trans entering.values
  · exact stays.form.handedOver.trans entering.handedOver
  · exact stays.exits.trans entering.exits
  · have before := atEnd input (inputs ▸ found)
    have same : (wizard.press .tab).2.form.values = wizard.form.values := stays.form.values
    rw [Form.value] at before ⊢
    rwa [same]

end Entering

end Wizard

end Onboarding.Registration
