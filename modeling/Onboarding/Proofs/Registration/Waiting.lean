/-
This file proves what the keys of the registration wizard leave alone. The keys that move
about leave every text as it is, although going on takes the texts out of the form and
gives them back to it as a fresh start. Any other key is for the input with the focus and
changes no text but that of its field. And while values are on their way, keys change
nothing but the focus.

That no message comes up meanwhile is the point that needs an argument. A key that is
ignored nevertheless visits the field with the focus and checks it again. The check finds
nothing because the values on their way passed all rules when they were handed over and
nothing has changed them since; this is an invariant of every run.
-/

import Onboarding.Proofs.Registration.Inputs

namespace Onboarding.Registration.Wizard

open Screen

variable {wizard : Wizard} {key : Key}

/-! ### Texts that are left alone -/

theorem values_advance (wizard : Wizard) : wizard.advance.2.form.values = wizard.form.values := by
  have left := (stays_visitFocused wizard).form.values
  refine wizard.advance_preserves (·.form.values = wizard.form.values) left (fun _ _ => ?_)
    fun _ => ?_
  · exact (Form.submit_values _).trans left
  · -- The fresh start is with the values that the form held.
    rw [form, display_visit]
    exact left

theorem values_retreat (wizard : Wizard) : wizard.retreat.2.form.values = wizard.form.values := by
  refine wizard.retreat_preserves (·.form.values = wizard.form.values) rfl rfl ?_
  rw [form, display_visit]
  rfl

theorem values_press_of_moving (wizard : Wizard) (moving : key ∈ movingKeys) :
    (wizard.press key).2.form.values = wizard.form.values :=
  wizard.press_preserves (·.form.values = wizard.form.values) key rfl wizard.values_advance
    wizard.values_retreat (fun _ => (stays_visitFocused wizard).form.values)
    fun still => absurd moving still

/-! ### Messages that are up to date -/

theorem upToDate_visitFocused (upToDate : wizard.form.UpToDate) :
    wizard.visitFocused.form.UpToDate := by
  unfold visitFocused
  cases wizard.focused? with
  | none => exact upToDate
  | some name => exact upToDate.visit name

theorem upToDate_advance (upToDate : wizard.form.UpToDate) : wizard.advance.2.form.UpToDate := by
  have left := upToDate_visitFocused upToDate
  refine wizard.advance_preserves (·.form.UpToDate) left (fun _ _ => ?_) fun _ => ?_
  · exact left.obeyAll [.validate, .submit]
  · rw [form, display_visit]
    exact left.obeyAll [.validate, .reset wizard.visitFocused.form.validate.values]

theorem upToDate_retreat (upToDate : wizard.form.UpToDate) : wizard.retreat.2.form.UpToDate := by
  refine wizard.retreat_preserves (·.form.UpToDate) upToDate upToDate ?_
  rwa [form, display_visit]

theorem upToDate_press (upToDate : wizard.form.UpToDate) (key : Key) :
    (wizard.press key).2.form.UpToDate :=
  wizard.press_preserves (·.form.UpToDate) key upToDate (upToDate_advance upToDate)
    (upToDate_retreat upToDate) (fun _ => upToDate_visitFocused upToDate) fun _ =>
      wizard.edit_preserves (·.form.UpToDate) key (fun _ => upToDate)
        fun _ name text => upToDate.set name text

theorem Reached.upToDate (reached : Reached wizard) : wizard.form.UpToDate := by
  induction reached with
  | opened drawn signedIn =>
    obtain ⟨blank, started, _, fresh⟩ := exists_blank_of_start drawn signedIn
    rw [started, form, display_visit]
    show blank.form.UpToDate
    rw [fresh]
    exact Form.upToDate_blank _ _
  | pressed _ key inductionHypothesis => exact upToDate_press inductionHypothesis key
  | ticked _ inductionHypothesis => exact inductionHypothesis
  | failed _ _ inductionHypothesis => exact inductionHypothesis.finish

/-! ### Values on their way -/

/-- As long as values are on their way, the form holds values that pass all rules. -/
theorem Reached.passes_of_submitting (reached : Reached wizard)
    (submitting : wizard.isSubmitting = true) :
    (Registration.schema.faults wizard.form.values).isEmpty = true := by
  induction reached with
  | opened drawn signedIn =>
    obtain ⟨blank, started, _, fresh⟩ := exists_blank_of_start drawn signedIn
    rw [started, isSubmitting, form, display_visit] at submitting
    have idle : blank.visit.form.submitting = false := congrArg Form.submitting fresh
    cases idle.symm.trans submitting
  | @pressed before reached key inductionHypothesis =>
    obtain ⟨page, shows⟩ := reached.shows
    obtain ⟨next, _, pressed⟩ := shows.press key
    cases pressed with
    | stayed stays =>
      rw [stays.form.values]
      exact inductionHypothesis (stays.form.submitting.symm.trans submitting)
    | worked _ idleAfter => cases idleAfter.symm.trans submitting
    | left idle form => cases (form.submitting.trans idle).symm.trans submitting
    | submitted _ _ _ passes handsOver =>
      rw [handsOver.values]
      exact passes
  | ticked _ inductionHypothesis => exact inductionHypothesis submitting
  | failed => cases submitting

/-- No message is kept or shown while values are on their way. -/
theorem Reached.silent_of_submitting (reached : Reached wizard)
    (submitting : wizard.isSubmitting = true) (name : String) :
    wizard.form.faults.get? name = none ∧ wizard.form.shownFault? name = none := by
  obtain ⟨page, shows⟩ := reached.shows
  have passes := reached.passes_of_submitting submitting
  have silent : wizard.form.faults.get? name = none := by
    refine Option.eq_none_iff_forall_ne_some.mpr fun message kept => ?_
    have found := reached.upToDate.sound name message kept
    rw [shows.form_schema, ← Schema.get?_faults, (Entries.isEmpty_iff _).mp passes name] at found
    cases found
  refine ⟨silent, ?_⟩
  unfold Form.shownFault?
  rw [silent]
  exact ite_self none

theorem advance_of_submitting (submitting : wizard.isSubmitting = true) :
    wizard.advance = (.ignored, wizard.visitFocused) := by
  have stays := stays_visitFocused wizard
  rcases wizard.advance_cases with ⟨_, outcome⟩ | ⟨idle, _⟩ | ⟨idle, _⟩ | ⟨idle, _⟩
  · exact outcome
  all_goals
    exact nomatch idle.symm.trans (stays.form.submitting.trans submitting)

theorem retreat_of_submitting (submitting : wizard.isSubmitting = true) :
    wizard.retreat = (.ignored, wizard) := by
  rcases wizard.retreat_cases with ⟨_, outcome⟩ | ⟨idle, _⟩ | ⟨idle, _⟩
  · exact outcome
  all_goals exact nomatch idle.symm.trans submitting

/-- What the wizard holds for its user is as before: its texts, its step, its state and the count
of what it has done. -/
structure Holds (before after : Wizard) : Prop where
  values : after.form.values = before.form.values
  current : after.current? = before.current?
  submitting : after.isSubmitting = before.isSubmitting
  failure : after.failure = before.failure
  exits : after.visit.exits = before.visit.exits
  handedOver : after.form.handedOver = before.form.handedOver

theorem Holds.refl (wizard : Wizard) : wizard.Holds wizard :=
  ⟨rfl, rfl, rfl, rfl, rfl, rfl⟩

theorem Holds.trans {first second third : Wizard} (before : first.Holds second)
    (after : second.Holds third) : first.Holds third :=
  ⟨after.values.trans before.values, after.current.trans before.current,
    after.submitting.trans before.submitting, after.failure.trans before.failure,
    after.exits.trans before.exits, after.handedOver.trans before.handedOver⟩

theorem Stays.current?_eq {after : Wizard} (stays : wizard.Stays after) :
    after.current? = wizard.current? := by
  show after.plan.resolve after.visit.history.location? =
    wizard.plan.resolve wizard.visit.history.location?
  rw [stays.plan, stays.history]

theorem Stays.holds {after : Wizard} (stays : wizard.Stays after)
    (failure : after.failure = wizard.failure) : wizard.Holds after where
  values := stays.form.values
  current := stays.current?_eq
  submitting := stays.form.submitting
  failure := failure
  exits := stays.exits
  handedOver := stays.form.handedOver

theorem failure_visitFocused (wizard : Wizard) : wizard.visitFocused.failure = wizard.failure := by
  unfold visitFocused
  split <;> rfl

theorem holds_press (submitting : wizard.isSubmitting = true) (key : Key) :
    wizard.Holds (wizard.press key).2 := by
  have visited : wizard.Holds wizard.visitFocused :=
    (stays_visitFocused wizard).holds (failure_visitFocused wizard)
  refine wizard.press_preserves wizard.Holds key (.refl wizard) ?_ ?_ (fun focus => ?_) fun _ => ?_
  · rw [advance_of_submitting submitting]
    exact visited
  · rw [retreat_of_submitting submitting]
    exact .refl wizard
  · exact ⟨visited.values, visited.current, visited.submitting, visited.failure, visited.exits,
      visited.handedOver⟩
  · rw [edit_of_submitting key submitting]
    exact .refl wizard

theorem holds_pressAll (submitting : wizard.isSubmitting = true) (keys : List Key) :
    wizard.Holds (wizard.pressAll keys) := by
  induction keys generalizing wizard with
  | nil => exact .refl wizard
  | cons key rest inductionHypothesis =>
    have held := holds_press submitting key
    exact held.trans (inductionHypothesis (held.submitting.trans submitting))

/-! ### What keys leave alone -/

/-- In every wizard that was reached: a key that moves about changes no text. Any other key changes
nothing while values are on their way; else it changes at most the text of the field with the
focus, to what the input there makes of it. While values are on their way, no keys change what the
wizard holds, going on and going back are ignored, and there is no message. -/
theorem holds_of_reached (reached : Reached wizard) :
    (∀ key ∈ movingKeys, (wizard.press key).2.form.values = wizard.form.values) ∧
    (∀ key, key ∉ movingKeys → wizard.isSubmitting = false →
      ∃ input, wizard.inputs[wizard.focus]? = some input ∧
        (wizard.press key).2.form.value input.name =
          (input.press key (wizard.form.value input.name)).text ∧
        ∀ name, name ≠ input.name →
          (wizard.press key).2.form.values.get? name = wizard.form.values.get? name) ∧
    (∀ key, key ∉ movingKeys → wizard.isSubmitting = true → (wizard.press key).2 = wizard) ∧
    (wizard.isSubmitting = true → ∀ keys,
      wizard.Holds (wizard.pressAll keys) ∧
        ((wizard.pressAll keys).press .enter).1 = .advanced .ignored ∧
        ((wizard.pressAll keys).press .escape).1 = .retreated .ignored ∧
        ∀ name, (wizard.pressAll keys).form.faults.get? name = none ∧
          (wizard.pressAll keys).form.shownFault? name = none) := by
  refine ⟨fun key moving => wizard.values_press_of_moving moving, fun key still idle => ?_,
    fun key still submitting => ?_, fun submitting keys => ?_⟩
  · obtain ⟨page, shows⟩ := reached.shows
    have inside : wizard.focus < wizard.inputs.length := shows.length_inputs ▸ reached.focus_lt
    have found := List.getElem?_eq_getElem inside
    rw [wizard.press_of_not_moving still]
    exact ⟨_, found, value_edit idle found, fun name => get?_edit_of_ne idle found⟩
  · rw [wizard.press_of_not_moving still]
    exact edit_of_submitting key submitting
  · have held := holds_pressAll submitting keys
    have waiting := held.submitting.trans submitting
    have advanced : ((wizard.pressAll keys).press .enter).1 = .advanced .ignored := by
      show Action.advanced (wizard.pressAll keys).advance.1 = _
      rw [advance_of_submitting waiting]
    have retreated : ((wizard.pressAll keys).press .escape).1 = .retreated .ignored := by
      show Action.retreated (wizard.pressAll keys).retreat.1 = _
      rw [retreat_of_submitting waiting]
    exact ⟨held, advanced, retreated, (reached.pressAll keys).silent_of_submitting waiting⟩

/-- A wizard whose values are on their way, and the same wizard after the registration failed. -/
theorem holds_of_waiting :
    let waiting := ((start shortPlan false).pressAll fillingIn).pressAll [.enter]
    let failed := waiting.fail "taken"
    let keys : List Key := [.enter, .tab, .char 'x', .escape, .enter]
    Reached waiting ∧ Reached failed ∧ waiting.isSubmitting = true ∧
      failed.isSubmitting = false ∧ waiting.Holds (waiting.pressAll keys) ∧
      (waiting.pressAll keys).form.shownFault? "password" = none ∧
      ∃ input, failed.inputs[failed.focus]? = some input ∧
        (failed.press .backspace).2.form.value input.name =
          (input.press .backspace (failed.form.value input.name)).text := by
  intro waiting failed keys
  have reached : Reached waiting :=
    ((Reached.opened draw_shortPlan false).pressAll fillingIn).pressAll [.enter]
  have submitting : waiting.isSubmitting = true := by decide +kernel
  obtain ⟨_, _, _, holds⟩ := holds_of_reached reached
  obtain ⟨held, _, _, silent⟩ := holds submitting keys
  obtain ⟨_, edits, _⟩ := holds_of_reached (reached.failed "taken")
  obtain ⟨input, found, edited, _⟩ := edits .backspace (by decide) rfl
  exact ⟨reached, reached.failed "taken", submitting, rfl, held, (silent "password").2,
    input, found, edited⟩

end Onboarding.Registration.Wizard
