/-
This file proves that the screen keeps the password. Two registration wizards run side
by side, at locations of their own. The same happens to both, but while the password has
the focus, any character may be typed into the one and any other into the other. As long
as the rules say the same about both passwords, the two cannot be told apart: each key
is answered alike, every cell of every drawing is the same at every size of the screen,
and so is the description of what is handed over.
-/

import Mathlib.Data.List.Basic
import Onboarding.Proofs.Registration.HandingOver
import Onboarding.Proofs.Registration.PublicForms
import Onboarding.Proofs.Screen.Masking
import Onboarding.Registration.WizardView

namespace Onboarding.Registration

open Screen

/-- The action with the place that it names replaced. -/
def Action.map (replacement : Location → Location) : Action → Action
  | advanced outcome => advanced (outcome.map replacement)
  | action => action

namespace Wizard

/-! ### Wizards that look alike -/

/-- What the rules say about the password. -/
def passwordFault? (wizard : Wizard) : Option String :=
  Registration.schema.fault? Field.password.name wizard.form.values

theorem passwordFault?_set (wizard : Wizard) (name text : String) :
    passwordFault?
        { wizard with visit := { wizard.visit with form := wizard.form.set name text } } =
      Registration.schema.fault? Field.password.name (wizard.form.values.set name text) :=
  congrArg _ (Form.recheck_values _ name)

/-- The two keys are the same, or the password has the focus and each of them stands for a
character. -/
def KeysAlike (wizard : Wizard) (key other : Key) : Prop :=
  key = other ∨
    wizard.focused? = some Field.password.name ∧ key.isChar = true ∧ other.isChar = true

/-- The wizards are the same for anyone who looks at them: their steps are at locations of their
own, and their forms differ in the password only. -/
structure LooksLike (wizard other : Wizard) : Prop where
  contents : wizard.plan.contents = other.plan.contents
  visit : Visit.Counterparts wizard.plan other.plan FormsAlike wizard.visit other.visit
  inputs : other.inputs = wizard.inputs
  /-- The text of the password is never shown. -/
  masked : ∀ input ∈ wizard.inputs, input.name = Field.password.name → input.masked = true
  focus : other.focus = wizard.focus
  failure : other.failure = wizard.failure
  signedIn : other.signedIn = wizard.signedIn
  ticks : other.ticks = wizard.ticks

/-- The input for the password is masked. -/
theorem masked_inputFor (form : Form) {field : Field}
    (password : (inputFor form field).name = Field.password.name) :
    (inputFor form field).masked = true := by
  have same : field.name = Field.password.name := password
  show field.isMasked = true
  revert same
  cases field <;> decide

namespace LooksLike

variable {wizard other : Wizard} (looksLike : LooksLike wizard other)

include looksLike

/-! ### What is shown -/

theorem form : FormsAlike wizard.form other.form :=
  looksLike.visit.form

theorem isSubmitting : other.isSubmitting = wizard.isSubmitting :=
  looksLike.form.submitting

theorem focused? : other.focused? = wizard.focused? := by
  rw [Wizard.focused?, Wizard.focused?, looksLike.inputs, looksLike.focus]

theorem current? :
    other.current? = wizard.current?.map (wizard.plan.translate other.plan) :=
  looksLike.visit.current? Form.operations Form.operations looksLike.contents

theorem page? : other.page? = wizard.page? :=
  looksLike.visit.page? Form.operations Form.operations looksLike.contents

theorem progress : other.progress = wizard.progress := by
  have position : other.current?.bind other.plan.position? =
      wizard.current?.bind wizard.plan.position? :=
    looksLike.visit.position? Form.operations Form.operations looksLike.contents
  have length : other.plan.length = wizard.plan.length :=
    (Plan.length_of_contents rfl).trans (Plan.length_of_contents looksLike.contents).symm
  rw [Wizard.progress, Wizard.progress, position, length]

theorem forwardText : other.forwardText = wizard.forwardText := by
  have label : other.forwardLabel = wizard.forwardLabel :=
    looksLike.visit.forwardLabel looksLike.contents FormsAlike.behaveAlike
  rw [Wizard.forwardText, Wizard.forwardText, label, looksLike.ticks]

theorem shownFault? (name : String) :
    other.form.shownFault? name = wizard.form.shownFault? name := by
  rw [Form.shownFault?, Form.shownFault?, Form.isVisited, Form.isVisited, looksLike.form.visited,
    looksLike.form.faults]

/-- Each input is drawn alike: the password behind stars, any other field with the same text. -/
theorem draw_input {input : LineInput} (member : input ∈ wizard.inputs) (canvas : Canvas)
    (area : Area) (focused : Bool) :
    input.draw canvas area (other.form.value input.name) (other.form.shownFault? input.name)
        focused =
      input.draw canvas area (wizard.form.value input.name) (wizard.form.shownFault? input.name)
        focused := by
  rw [looksLike.shownFault?]
  by_cases password : input.name = Field.password.name
  · exact LineInput.draw_of_masked (looksLike.masked input member password)
      (looksLike.form.values.length_getText input.name) canvas area _ focused
  · rw [Form.value, Form.value, looksLike.form.values.getText password]

theorem drawInputs (canvas : Canvas) (areas : List Area) :
    other.drawInputs canvas areas = wizard.drawInputs canvas areas := by
  unfold Wizard.drawInputs
  rw [looksLike.inputs, looksLike.focus, looksLike.isSubmitting]
  refine List.foldl_ext _ _ _ fun canvas entry member => ?_
  obtain ⟨⟨input, area⟩, index⟩ := entry
  have listed : input ∈ wizard.inputs :=
    (List.of_mem_zip (List.fst_mem_of_mem_zipIdx member)).1
  exact looksLike.draw_input listed canvas area _

/-- Every cell of a drawing is the same. -/
theorem draw (width height : Nat) : other.draw width height = wizard.draw width height := by
  unfold Wizard.draw drawButtons
  simp only [looksLike.drawInputs, looksLike.signedIn, looksLike.progress, looksLike.page?,
    looksLike.inputs, looksLike.failure, looksLike.forwardText, looksLike.isSubmitting]

/-! ### What keeps wizards alike -/

theorem inputFor (field : Field) :
    Wizard.inputFor other.form field = Wizard.inputFor wizard.form field := by
  unfold Wizard.inputFor LineInput.moveToEnd Form.value
  rw [looksLike.form.values.length_getText]

/-- The step on display gets the same inputs in both. -/
theorem display : LooksLike wizard.display other.display := by
  unfold Wizard.display
  rw [looksLike.current?]
  cases located : wizard.current? with
  | none => exact { looksLike with inputs := rfl, masked := fun _ member => nomatch member }
  | some current =>
    have fields : other.plan.fieldsAt (wizard.plan.translate other.plan current) =
        wizard.plan.fieldsAt current :=
      Plan.fieldsAt_translate looksLike.contents fun _ => Plan.mem_of_resolve located
    refine { looksLike with inputs := ?_, masked := ?_, focus := rfl }
    · show ((other.plan.fieldsAt _).filterMap Field.ofName?).map (Wizard.inputFor other.form) =
        ((wizard.plan.fieldsAt current).filterMap Field.ofName?).map (Wizard.inputFor wizard.form)
      rw [fields]
      exact List.map_congr_left fun field _ => looksLike.inputFor field
    · intro input member password
      obtain ⟨field, _, rfl⟩ := List.mem_map.mp member
      exact masked_inputFor wizard.form password

theorem visitFocused : LooksLike wizard.visitFocused other.visitFocused := by
  unfold Wizard.visitFocused
  rw [looksLike.focused?]
  cases wizard.focused? with
  | none => exact looksLike
  | some name =>
    exact { looksLike with visit := looksLike.visit.withForms (looksLike.form.visit name) }

theorem refocus {focus otherFocus : Nat} (same : otherFocus = focus) :
    LooksLike { wizard with focus } { other with focus := otherFocus } :=
  { looksLike with focus := same }

theorem focusNext : LooksLike wizard.focusNext other.focusNext := by
  have left := looksLike.visitFocused
  unfold Wizard.focusNext
  rw [looksLike.inputs]
  split
  · exact looksLike
  · exact left.refocus (by rw [left.focus, left.inputs])

theorem focusPrevious : LooksLike wizard.focusPrevious other.focusPrevious := by
  have left := looksLike.visitFocused
  unfold Wizard.focusPrevious
  rw [looksLike.inputs]
  split
  · exact looksLike
  · exact left.refocus (by rw [left.focus, left.inputs])

theorem tick : LooksLike wizard.tick other.tick :=
  { looksLike with ticks := congrArg (· + 1) looksLike.ticks }

theorem fail (message : String) : LooksLike (wizard.fail message) (other.fail message) :=
  { looksLike with
    visit := looksLike.visit.withForms looksLike.form.finish
    failure := rfl }

theorem follow {outcome : Advance} (replacement : Location → Location) :
    LooksLike (wizard.follow outcome) (other.follow (outcome.map replacement)) := by
  cases outcome with
  | ignored => exact looksLike
  | moved place => exact looksLike.display
  | submitted => exact { looksLike with failure := rfl }
  | blocked fields => exact looksLike.refocus (by rw [looksLike.inputs, looksLike.focus])

theorem followBack (outcome : Retreat) :
    LooksLike (wizard.followBack outcome) (other.followBack outcome) := by
  cases outcome with
  | back => exact looksLike.display
  | ignored | exited => exact looksLike

/-- Going on is answered alike. -/
theorem advance :
    other.advance.1 = wizard.advance.1.map (wizard.plan.translate other.plan) ∧
      LooksLike wizard.advance.2 other.advance.2 := by
  have left := looksLike.visitFocused
  have plan : wizard.visitFocused.plan = wizard.plan := (stays_visitFocused wizard).plan
  have otherPlan : other.visitFocused.plan = other.plan := (stays_visitFocused other).plan
  obtain ⟨answer, onward⟩ := left.visit.advance left.contents FormsAlike.behaveAlike
  rw [advance_eq, advance_eq, ← plan, ← otherPlan]
  refine ⟨answer, ?_⟩
  have moved : LooksLike
      { wizard.visitFocused with
        visit := (wizard.visitFocused.plan.advance around wizard.visitFocused.visit).2 }
      { other.visitFocused with
        visit := (other.visitFocused.plan.advance around other.visitFocused.visit).2 } :=
    { left with visit := onward }
  show LooksLike _ (Wizard.follow _ (other.visitFocused.plan.advance around _).1)
  rw [show (other.visitFocused.plan.advance around other.visitFocused.visit).1 = _ from answer]
  exact moved.follow _

/-- Going back is answered alike. -/
theorem retreat :
    other.retreat.1 = wizard.retreat.1 ∧ LooksLike wizard.retreat.2 other.retreat.2 := by
  obtain ⟨answer, backward⟩ := looksLike.visit.retreat looksLike.contents FormsAlike.behaveAlike
  rw [retreat_eq, retreat_eq]
  refine ⟨answer, ?_⟩
  have moved : LooksLike
      { wizard with visit := (wizard.plan.retreat around wizard.visit).2 }
      { other with visit := (other.plan.retreat around other.visit).2 } :=
    { looksLike with visit := backward }
  show LooksLike _ (Wizard.followBack _ (other.plan.retreat around other.visit).1)
  rw [show (other.plan.retreat around other.visit).1 = _ from answer]
  exact moved.followBack _

/-- The input with the focus is replaced by another one of its name. -/
theorem withInput {input edited : LineInput} (found : wizard.inputs[wizard.focus]? = some input)
    (name : edited.name = input.name) (masked : edited.masked = input.masked) :
    LooksLike { wizard with inputs := wizard.inputs.set wizard.focus edited }
      { other with inputs := other.inputs.set other.focus edited } where
  contents := looksLike.contents
  visit := looksLike.visit
  inputs := by rw [looksLike.inputs, looksLike.focus]
  masked some member password := by
    rcases List.mem_or_eq_of_mem_set member with before | rfl
    · exact looksLike.masked some before password
    · rw [masked]
      exact looksLike.masked input (List.mem_of_getElem? found) (name.symm.trans password)
  focus := looksLike.focus
  failure := looksLike.failure
  signedIn := looksLike.signedIn
  ticks := looksLike.ticks

/-- A text is put into a field that leaves the values alike. -/
theorem set {name text otherText : String}
    (values : SamePublic (wizard.form.values.set name text)
      (other.form.values.set name otherText)) :
    LooksLike { wizard with visit := { wizard.visit with form := wizard.form.set name text } }
      { other with visit := { other.visit with form := other.form.set name otherText } } :=
  { looksLike with visit := looksLike.visit.withForms (looksLike.form.set values) }

/-- Editing keeps the wizards alike as long as the rules say the same about the passwords. -/
theorem edit {key otherKey : Key} (alike : wizard.KeysAlike key otherKey)
    (verdict : (other.edit otherKey).passwordFault? = (wizard.edit key).passwordFault?) :
    LooksLike (wizard.edit key) (other.edit otherKey) := by
  cases idle : wizard.isSubmitting with
  | true =>
    rw [edit_of_submitting key idle,
      edit_of_submitting otherKey (looksLike.isSubmitting.trans idle)]
    exact looksLike
  | false =>
    cases found : wizard.inputs[wizard.focus]? with
    | none =>
      have unfocused : other.inputs[other.focus]? = none := by
        rw [looksLike.inputs, looksLike.focus, found]
      rw [edit_of_unfocused key found, edit_of_unfocused otherKey unfocused]
      exact looksLike
    | some input =>
      have idleOther : other.isSubmitting = false := looksLike.isSubmitting.trans idle
      have foundOther : other.inputs[other.focus]? = some input := by
        rw [looksLike.inputs, looksLike.focus, found]
      have focused : wizard.focused? = some input.name := by
        rw [Wizard.focused?, found, Option.map_some]
      have lengths : (other.form.value input.name).length =
          (wizard.form.value input.name).length :=
        looksLike.form.values.length_getText input.name
      obtain ⟨consumed, edited, length⟩ :=
        LineInput.press_of_length input (alike.imp_right And.right) lengths
      have sameText (differs : input.name ≠ Field.password.name) :
          (input.press otherKey (other.form.value input.name)).text =
            (input.press key (wizard.form.value input.name)).text := by
        rcases alike with rfl | ⟨onPassword, _⟩
        · rw [Form.value, looksLike.form.values.getText differs, Form.value]
        · exact absurd (Option.some.inj (focused.symm.trans onPassword)) differs
      have kept := looksLike.withInput found (input.press_name key _)
        (input.press_masked key (wizard.form.value input.name))
      rw [edit_of_found otherKey idleOther foundOther, edit_of_found key idle found] at verdict ⊢
      dsimp only at verdict ⊢
      rw [consumed, edited] at verdict ⊢
      split at verdict
      · next taken =>
        rw [if_pos taken, if_pos taken]
        refine kept.set (looksLike.form.values.set length sameText ?_)
        rw [← passwordFault?_set, ← passwordFault?_set]
        exact verdict
      · next passed =>
        rw [if_neg passed, if_neg passed]
        exact kept

/-- Keys that are alike are answered alike, and keep the wizards alike as long as the rules say the
same about the passwords. -/
theorem press {key otherKey : Key} (alike : wizard.KeysAlike key otherKey) :
    (other.press otherKey).1 = (wizard.press key).1.map (wizard.plan.translate other.plan) ∧
      ((other.press otherKey).2.passwordFault? = (wizard.press key).2.passwordFault? →
        LooksLike (wizard.press key).2 (other.press otherKey).2) := by
  rcases id alike with rfl | ⟨_, typed, typedOther⟩
  · cases key with
    | enter =>
      obtain ⟨outcome, onward⟩ := looksLike.advance
      exact ⟨congrArg Action.advanced outcome, fun _ => onward⟩
    | escape =>
      obtain ⟨outcome, backward⟩ := looksLike.retreat
      exact ⟨congrArg Action.retreated outcome, fun _ => backward⟩
    | tab | down => exact ⟨rfl, fun _ => looksLike.focusNext⟩
    | backTab | up => exact ⟨rfl, fun _ => looksLike.focusPrevious⟩
    | _ => exact ⟨rfl, looksLike.edit alike⟩
  · cases key with
    | char c =>
      cases otherKey with
      | char d => exact ⟨rfl, looksLike.edit alike⟩
      | _ => cases typedOther
    | _ => cases typed

end LooksLike

/-! ### Two runs -/

/-- The wizards have come side by side: from the start of two drawn plans, the same happened to
both, but for the characters that were typed into the password; and after each key the rules said
the same about both passwords. -/
inductive SideBySide : Wizard → Wizard → Prop where
  | opened {stream otherStream : List Location} {plan other : Plan Page}
    (drawn : Plan.draw steps stream = some plan)
    (drawnOther : Plan.draw steps otherStream = some other) (signedIn : Bool) :
    SideBySide (start plan signedIn) (start other signedIn)
  | pressed {wizard other : Wizard} (sideBySide : SideBySide wizard other) {key otherKey : Key}
    (alike : wizard.KeysAlike key otherKey)
    (verdict : (other.press otherKey).2.passwordFault? = (wizard.press key).2.passwordFault?) :
    SideBySide (wizard.press key).2 (other.press otherKey).2
  | ticked {wizard other : Wizard} (sideBySide : SideBySide wizard other) :
    SideBySide wizard.tick other.tick
  | failed {wizard other : Wizard} (sideBySide : SideBySide wizard other) (message : String) :
    SideBySide (wizard.fail message) (other.fail message)

/-- Wizards at the start look alike. -/
theorem looksLike_start {stream otherStream : List Location} {plan other : Plan Page}
    (drawn : Plan.draw steps stream = some plan)
    (drawnOther : Plan.draw steps otherStream = some other) (signedIn : Bool) :
    LooksLike (start plan signedIn) (start other signedIn) := by
  have contents : plan.contents = steps := Plan.contents_of_draw drawn
  have same : plan.contents = other.contents :=
    contents.trans (Plan.contents_of_draw drawnOther).symm
  obtain ⟨step, found, _⟩ := OnPage.exists_step contents .personal
  have first : plan.first? = some step.location := by
    rw [Plan.first?_eq, Plan.getElem?_locations]
    exact congrArg (Option.map Step.location) found
  have firstOther : other.first? = some (plan.translate other step.location) := by
    rw [Plan.first?_translate same, first, Option.map_some]
  have inPlan : step.location ∈ plan.locations := List.mem_map_of_mem (List.mem_of_getElem? found)
  have blank : LooksLike
      ⟨plan, ⟨blankForm Registration.schema, ⟨[step.location], 0⟩, 0⟩, [], 0, none, signedIn, 0⟩
      ⟨other, ⟨blankForm Registration.schema, ⟨[plan.translate other step.location], 0⟩, 0⟩,
        [], 0, none, signedIn, 0⟩ := by
    refine ⟨same, ⟨.blank, rfl, rfl, fun place member _ => ?_⟩, rfl,
      (fun _ member => nomatch member), rfl, rfl, rfl, rfl⟩
    rw [List.mem_singleton.mp member]
    exact inPlan
  unfold start
  rw [first, firstOther]
  exact blank.display

theorem SideBySide.looksLike {wizard other : Wizard} (sideBySide : SideBySide wizard other) :
    LooksLike wizard other := by
  induction sideBySide with
  | opened drawn drawnOther signedIn => exact looksLike_start drawn drawnOther signedIn
  | pressed _ alike verdict looksLike => exact (looksLike.press alike).2 verdict
  | ticked _ looksLike => exact looksLike.tick
  | failed _ message looksLike => exact looksLike.fail message

/-- The two keys of each pair are alike when they are pressed, and after each of them the rules say
the same about both passwords. -/
def AgreeAlong (wizard other : Wizard) : List (Key × Key) → Prop
  | [] => True
  | (key, otherKey) :: rest =>
    wizard.KeysAlike key otherKey ∧
      (other.press otherKey).2.passwordFault? = (wizard.press key).2.passwordFault? ∧
        AgreeAlong (wizard.press key).2 (other.press otherKey).2 rest

instance (wizard : Wizard) (key otherKey : Key) :
    Decidable (wizard.KeysAlike key otherKey) :=
  inferInstanceAs (Decidable (_ ∨ _))

instance AgreeAlong.decidable (wizard other : Wizard) :
    (pairs : List (Key × Key)) → Decidable (AgreeAlong wizard other pairs)
  | [] => inferInstanceAs (Decidable True)
  | (key, otherKey) :: rest =>
    have := AgreeAlong.decidable (wizard.press key).2 (other.press otherKey).2 rest
    inferInstanceAs (Decidable (_ ∧ _ ∧ _))

theorem SideBySide.pressAll {wizard other : Wizard} (sideBySide : SideBySide wizard other)
    (pairs : List (Key × Key)) (agree : AgreeAlong wizard other pairs) :
    SideBySide (wizard.pressAll (pairs.map Prod.fst)) (other.pressAll (pairs.map Prod.snd)) := by
  induction pairs generalizing wizard other with
  | nil => exact sideBySide
  | cons pair rest inductionHypothesis =>
    obtain ⟨alike, verdict, later⟩ := agree
    exact inductionHypothesis (sideBySide.pressed alike verdict) later

end Wizard

end Onboarding.Registration
