/-
This file says once what a key can do to the registration wizard. A wizard that
shows a page has an input for each field of that page, so a key changes the text of
a field of the page or of none. Whatever the key, the wizard shows a page again,
and it did one of four things: it stayed as it was for its user, it worked on its
texts or turned to the other page, it was left, or it handed its values over. The
last three it does only while no values are on their way.

For what a wizard keeps through all of these there is one lemma for each move, which
asks for the property once for each state that the move can leave.
-/

import Onboarding.Proofs.Registration.OnPage
import Onboarding.Proofs.Screen.Cursor

namespace Onboarding.Registration.Wizard

open Screen

/-- The names of the inputs stay when one of them is replaced by one of its name. -/
theorem names_set (inputs : List LineInput) {index : Nat} {old new : LineInput}
    (found : inputs[index]? = some old) (same : new.name = old.name) :
    (inputs.set index new).map LineInput.name = inputs.map LineInput.name := by
  obtain ⟨bound, rfl⟩ := List.getElem?_eq_some_iff.mp found
  rw [List.map_set, same, ← List.getElem_map LineInput.name, List.set_getElem_self]
  rwa [List.length_map]

/-! ### A wizard that shows a page -/

/-- The wizard shows a page, with an input for each of its fields. -/
structure Shows (wizard : Wizard) (page : Page) : Prop where
  onPage : OnPage wizard.plan wizard.visit page
  inputs : wizard.inputs.map LineInput.name = page.fields.map Field.name

/-- The wizard stays as it is for its user: at most the focus, the cursors, the messages and the
fields visited differ. -/
structure Stays (before after : Wizard) : Prop where
  plan : after.plan = before.plan
  history : after.visit.history = before.visit.history
  exits : after.visit.exits = before.visit.exits
  form : before.form.Keeps after.form
  inputs : after.inputs.map LineInput.name = before.inputs.map LineInput.name

theorem Stays.refl (wizard : Wizard) : wizard.Stays wizard :=
  ⟨rfl, rfl, rfl, .refl wizard.form, rfl⟩

theorem Stays.trans {first second third : Wizard} (before : first.Stays second)
    (after : second.Stays third) : first.Stays third :=
  ⟨after.plan.trans before.plan, after.history.trans before.history,
    after.exits.trans before.exits, before.form.trans after.form,
    after.inputs.trans before.inputs⟩

variable {wizard : Wizard} {page : Page}

@[simp] theorem display_visit (wizard : Wizard) : wizard.display.visit = wizard.visit := by
  unfold display
  split <;> rfl

/-- Displaying the step of a page makes the inputs for the fields of that page. -/
theorem display_eq (onPage : OnPage wizard.plan wizard.visit page) :
    wizard.display =
      { wizard with inputs := page.fields.map (inputFor wizard.form), focus := 0 } := by
  obtain ⟨step, found, _, sameFields, located⟩ := onPage.current?
  have current : wizard.current? = some step.location := located
  unfold display
  rw [current]
  simp only [Plan.fieldsAt_location found, sameFields, Field.filterMap_ofName?]

theorem shows_display (onPage : OnPage wizard.plan wizard.visit page) :
    wizard.display.Shows page := by
  rw [display_eq onPage]
  refine ⟨onPage, ?_⟩
  show (page.fields.map (inputFor wizard.form)).map LineInput.name = page.fields.map Field.name
  rw [List.map_map]
  rfl

namespace Shows

variable (shows : wizard.Shows page)

include shows

/-- A wizard that stays shows the same page. -/
theorem stays {after : Wizard} (stays : wizard.Stays after) : after.Shows page where
  onPage := by
    rw [stays.plan]
    exact shows.onPage.congr stays.history stays.form.schema stays.form.values
  inputs := stays.inputs.trans shows.inputs

/-- Each input is that of a field of the page. -/
theorem exists_field {index : Nat} {input : LineInput}
    (found : wizard.inputs[index]? = some input) :
    ∃ field ∈ page.fields, field.name = input.name := by
  have member : input.name ∈ wizard.inputs.map LineInput.name :=
    List.mem_map_of_mem (List.mem_of_getElem? found)
  rw [shows.inputs] at member
  exact List.mem_map.mp member

end Shows

/-! ### The focus -/

theorem stays_visitFocused (wizard : Wizard) : wizard.Stays wizard.visitFocused := by
  unfold visitFocused
  cases wizard.focused? with
  | none => exact .refl wizard
  | some name => exact ⟨rfl, rfl, rfl, wizard.form.keeps_visit name, rfl⟩

/-- Where the focus is does not matter to what a wizard keeps. -/
theorem Stays.refocus {after : Wizard} (stays : wizard.Stays after) (focus : Nat) :
    wizard.Stays { after with focus } :=
  ⟨stays.plan, stays.history, stays.exits, stays.form, stays.inputs⟩

/-- Moving the focus leaves the wizard alone, or visits the field with the focus first. -/
theorem focus_preserves (P : Wizard → Prop) (wizard : Wizard) (same : P wizard)
    (refocused : ∀ focus, P { wizard.visitFocused with focus }) :
    P wizard.focusNext ∧ P wizard.focusPrevious := by
  unfold focusNext focusPrevious
  split
  · exact ⟨same, same⟩
  · exact ⟨refocused _, refocused _⟩

theorem stays_focus (wizard : Wizard) :
    wizard.Stays wizard.focusNext ∧ wizard.Stays wizard.focusPrevious :=
  wizard.focus_preserves wizard.Stays (.refl wizard) fun focus =>
    (stays_visitFocused wizard).refocus focus

theorem stays_focusNext (wizard : Wizard) : wizard.Stays wizard.focusNext :=
  wizard.stays_focus.1

theorem stays_focusPrevious (wizard : Wizard) : wizard.Stays wizard.focusPrevious :=
  wizard.stays_focus.2

/-! ### Editing -/

theorem edit_of_submitting {wizard : Wizard} (key : Key) (submitting : wizard.isSubmitting = true) :
    wizard.edit key = wizard := by
  unfold edit
  rw [if_pos submitting]

theorem edit_of_unfocused {wizard : Wizard} (key : Key)
    (unfocused : wizard.inputs[wizard.focus]? = none) : wizard.edit key = wizard := by
  unfold edit
  rw [unfocused]
  exact ite_self wizard

/-- What a key does to the input with the focus while no values are on their way. -/
theorem edit_of_found {wizard : Wizard} {input : LineInput} (key : Key)
    (idle : wizard.isSubmitting = false) (found : wizard.inputs[wizard.focus]? = some input) :
    let edited := input.press key (wizard.form.value input.name)
    let kept := { wizard with inputs := wizard.inputs.set wizard.focus edited.input }
    wizard.edit key =
      if edited.consumed then
        { kept with visit := { kept.visit with form := kept.form.set input.name edited.text } }
      else kept := by
  unfold edit
  rw [idle, found]
  rfl

/-- Whatever a key does to the input with the focus, it replaces inputs, or it sets a text too. -/
theorem edit_preserves (P : Wizard → Prop) (wizard : Wizard) (key : Key)
    (kept : ∀ inputs, P { wizard with inputs })
    (edited : ∀ inputs name text, P { wizard with
      inputs
      visit := { wizard.visit with form := wizard.form.set name text } }) :
    P (wizard.edit key) := by
  unfold edit
  split
  · exact kept wizard.inputs
  · split
    · exact kept wizard.inputs
    · dsimp only
      split
      · exact edited _ _ _
      · exact kept _

/-- A key given to an input leaves the wizard as it is, or it sets the text of that input's
field. -/
theorem edit_cases (wizard : Wizard) (key : Key) :
    wizard.Stays (wizard.edit key) ∨
    (wizard.isSubmitting = false ∧ ∃ index input, wizard.inputs[index]? = some input ∧
      ∃ edited text, edited.name = input.name ∧
        wizard.edit key = { wizard with
          inputs := wizard.inputs.set index edited
          visit := { wizard.visit with form := wizard.form.set input.name text } }) := by
  cases submitting : wizard.isSubmitting with
  | true =>
    rw [edit_of_submitting key submitting]
    exact Or.inl (.refl wizard)
  | false =>
    cases found : wizard.inputs[wizard.focus]? with
    | none =>
      rw [edit_of_unfocused key found]
      exact Or.inl (.refl wizard)
    | some input =>
      have sameName := input.press_name key (wizard.form.value input.name)
      rw [edit_of_found key submitting found]
      dsimp only
      split
      · exact Or.inr ⟨rfl, wizard.focus, input, found, _, _, sameName, rfl⟩
      · exact Or.inl ⟨rfl, rfl, rfl, .refl wizard.form, names_set wizard.inputs found sameName⟩

/-! ### Going on and going back -/

/-- What the wizard does once it has gone on with an outcome. -/
def follow (wizard : Wizard) : Advance → Wizard
  | .moved _ => wizard.display
  | .blocked fields =>
    { wizard with
      focus := (wizard.inputs.findIdx? fun input => fields.contains input.name).getD
        wizard.focus }
  | .submitted => { wizard with failure := none }
  | .ignored => wizard

/-- What the wizard does once it has gone back with an outcome. -/
def followBack (wizard : Wizard) : Retreat → Wizard
  | .back => wizard.display
  | _ => wizard

theorem advance_eq (wizard : Wizard) :
    let left := wizard.visitFocused
    let made := left.plan.advance around left.visit
    wizard.advance = (made.1, { left with visit := made.2 }.follow made.1) := by
  unfold advance
  dsimp only
  rcases wizard.visitFocused.plan.advance around wizard.visitFocused.visit with ⟨outcome, visit⟩
  cases outcome with
  | blocked fields =>
    dsimp only [follow]
    cases wizard.visitFocused.inputs.findIdx? fun input => fields.contains input.name <;> rfl
  | _ => rfl

theorem retreat_eq (wizard : Wizard) :
    let made := wizard.plan.retreat around wizard.visit
    wizard.retreat = (made.1, { wizard with visit := made.2 }.followBack made.1) := by
  unfold retreat
  dsimp only
  rcases wizard.plan.retreat around wizard.visit with ⟨outcome, visit⟩
  cases outcome <;> rfl

/-- Going on, in each of its cases. The field with the focus is visited first, and the form is
checked before anything else is decided. -/
theorem advance_cases (wizard : Wizard) :
    let left := wizard.visitFocused
    let checked := left.form.validate
    let atFault :=
      left.plan.fieldsAtFault left.current? (left.form.schema.faults left.form.values)
    (left.isSubmitting = true ∧ wizard.advance = (.ignored, left)) ∨
    (left.isSubmitting = false ∧ atFault ≠ [] ∧
      wizard.advance = (.blocked atFault, { left with
        visit := { left.visit with form := checked.submit }
        focus := (left.inputs.findIdx? fun input => atFault.contains input.name).getD
          left.focus })) ∨
    (left.isSubmitting = false ∧ atFault = [] ∧
      ∃ next, left.plan.following? around left.visit = some next ∧
        wizard.advance = (.moved next, display { left with
          visit := { left.visit with
            form := checked.reset checked.values
            history := left.visit.history.push next } })) ∨
    (left.isSubmitting = false ∧ atFault = [] ∧
      left.plan.following? around left.visit = none ∧
        wizard.advance = (.submitted, { left with
          visit := { left.visit with form := checked.submit }
          failure := none })) := by
  intro left checked atFault
  rcases left.plan.advance_cases around left.visit with
    ⟨submitting, outcome⟩ | ⟨idle, faulty, outcome⟩ | ⟨idle, faultless, next, following, outcome⟩ |
      ⟨idle, faultless, last, outcome⟩
  · refine Or.inl ⟨submitting, ?_⟩
    rw [advance_eq, outcome]
    rfl
  · refine Or.inr (Or.inl ⟨idle, faulty, ?_⟩)
    rw [advance_eq, outcome]
    rfl
  · refine Or.inr (Or.inr (Or.inl ⟨idle, faultless, next, following, ?_⟩))
    rw [advance_eq, outcome]
    rfl
  · refine Or.inr (Or.inr (Or.inr ⟨idle, faultless, last, ?_⟩))
    rw [advance_eq, outcome]
    rfl

/-- Going back, in each of its cases. -/
theorem retreat_cases (wizard : Wizard) :
    (wizard.isSubmitting = true ∧ wizard.retreat = (.ignored, wizard)) ∨
    (wizard.isSubmitting = false ∧
      (∃ current, wizard.current? = some current ∧ wizard.plan.isFirst current = true) ∧
      wizard.retreat = (.exited, { wizard with
        visit := { wizard.visit with
          history := wizard.visit.history.back
          exits := wizard.visit.exits + 1 } })) ∨
    (wizard.isSubmitting = false ∧
      (∀ current, wizard.current? = some current → wizard.plan.isFirst current = false) ∧
      wizard.retreat = (.back, display { wizard with
        visit := { wizard.visit with history := wizard.visit.history.back } })) := by
  rcases wizard.plan.retreat_cases around wizard.visit with
    ⟨submitting, outcome⟩ | ⟨idle, first, outcome⟩ | ⟨idle, later, outcome⟩
  · refine Or.inl ⟨submitting, ?_⟩
    rw [retreat_eq, outcome]
    rfl
  · refine Or.inr (Or.inl ⟨idle, first, ?_⟩)
    rw [retreat_eq, outcome]
    rfl
  · refine Or.inr (Or.inr ⟨idle, later, ?_⟩)
    rw [retreat_eq, outcome]
    rfl

/-- What holds of a wizard however it goes on: ignored, asked to hand in, or moved. -/
theorem advance_preserves (P : Wizard → Prop) (wizard : Wizard)
    (ignored : P wizard.visitFocused)
    (handedIn : ∀ focus failure, P { wizard.visitFocused with
      visit := { wizard.visitFocused.visit with form := wizard.visitFocused.form.validate.submit }
      focus, failure })
    (moved : ∀ next, P (display { wizard.visitFocused with
      visit := { wizard.visitFocused.visit with
        form := wizard.visitFocused.form.validate.reset wizard.visitFocused.form.validate.values
        history := wizard.visitFocused.visit.history.push next } })) :
    P wizard.advance.2 := by
  rcases wizard.advance_cases with
    ⟨_, outcome⟩ | ⟨_, _, outcome⟩ | ⟨_, _, next, _, outcome⟩ | ⟨_, _, _, outcome⟩
  · rwa [outcome]
  · rw [outcome]
    exact handedIn _ _
  · rw [outcome]
    exact moved next
  · rw [outcome]
    exact handedIn _ _

/-- What holds of a wizard however it goes back: ignored, left, or moved. -/
theorem retreat_preserves (P : Wizard → Prop) (wizard : Wizard) (ignored : P wizard)
    (exited : P { wizard with
      visit := { wizard.visit with
        history := wizard.visit.history.back
        exits := wizard.visit.exits + 1 } })
    (moved : P (display { wizard with
      visit := { wizard.visit with history := wizard.visit.history.back } })) :
    P wizard.retreat.2 := by
  rcases wizard.retreat_cases with ⟨_, outcome⟩ | ⟨_, _, outcome⟩ | ⟨_, _, outcome⟩
  all_goals rwa [outcome]

/-! ### Any key -/

/-- The keys that move about. All others are for the input with the focus. -/
def movingKeys : List Key :=
  [.enter, .escape, .tab, .backTab, .up, .down]

theorem press_of_not_moving (wizard : Wizard) {key : Key} (still : key ∉ movingKeys) :
    wizard.press key = (.none, wizard.edit key) := by
  cases key with
  | enter | escape | tab | backTab | up | down => exact absurd (by decide) still
  | _ => rfl

/-- What holds of a wizard whichever of its moves a key is for. -/
theorem press_preserves (P : Wizard → Prop) (wizard : Wizard) (key : Key) (same : P wizard)
    (advanced : P wizard.advance.2) (retreated : P wizard.retreat.2)
    (refocused : ∀ focus, P { wizard.visitFocused with focus })
    (edited : key ∉ movingKeys → P (wizard.edit key)) : P (wizard.press key).2 := by
  obtain ⟨next, previous⟩ := wizard.focus_preserves P same refocused
  cases key with
  | enter => exact advanced
  | escape => exact retreated
  | tab | down => exact next
  | backTab | up => exact previous
  | _ => exact edited (by simp [movingKeys])

/-- What a key did to a wizard on a page, and the page that is displayed then. -/
inductive Pressed (before : Wizard) (page : Page) (key : Key) (action : Action) (after : Wizard)
    (next : Page) : Prop
  /-- The wizard stayed as it was for its user. -/
  | stayed (stays : before.Stays after) (same : next = page) (quiet : action ≠ .advanced .submitted)
  /-- A text was edited, or the other page is displayed. -/
  | worked (idle : before.isSubmitting = false) (idleAfter : after.isSubmitting = false)
    (exits : after.visit.exits = before.visit.exits)
    (handedOver : after.form.handedOver = before.form.handedOver)
    (quiet : action ≠ .advanced .submitted)
  /-- The wizard was left. -/
  | left (idle : before.isSubmitting = false) (form : before.form.Keeps after.form)
    (exits : after.visit.exits = before.visit.exits + 1)
    (same : next = page) (action : action = .retreated .exited)
  /-- The values were handed over. -/
  | submitted (idle : before.isSubmitting = false) (last : page = .account) (same : next = page)
    (passes : (Registration.schema.faults before.form.values).isEmpty = true)
    (handsOver : before.form.HandsOver after.form)
    (exits : after.visit.exits = before.visit.exits)
    (enter : key = .enter) (action : action = .advanced .submitted)

/-- What a key did to a wizard that stayed as it was, it did to the wizard. -/
theorem Stays.pressed {left after : Wizard} {key : Key} {action : Action} {next : Page}
    (stays : wizard.Stays left) (pressed : left.Pressed page key action after next) :
    wizard.Pressed page key action after next := by
  have idleBefore (idle : left.isSubmitting = false) : wizard.isSubmitting = false :=
    stays.form.submitting.symm.trans idle
  cases pressed with
  | stayed again same quiet => exact .stayed (stays.trans again) same quiet
  | worked idle idleAfter exits handedOver quiet =>
    exact .worked (idleBefore idle) idleAfter (exits.trans stays.exits)
      (handedOver.trans stays.form.handedOver) quiet
  | left idle form exits same action =>
    exact .left (idleBefore idle) (stays.form.trans form)
      (exits.trans (congrArg (· + 1) stays.exits)) same action
  | submitted idle last same passes handsOver exits enter action =>
    rw [stays.form.values] at passes
    exact .submitted (idleBefore idle) last same passes (stays.form.handsOver handsOver)
      (exits.trans stays.exits) enter action

namespace Shows

variable (shows : wizard.Shows page)

include shows

theorem form_schema : wizard.form.schema = Registration.schema :=
  shows.onPage.schema

/-- Handing in with a field at fault on the page leaves the form as it is for its user. -/
theorem keeps_submit_of_faulty
    (faulty : wizard.plan.fieldsAtFault wizard.current?
      (Registration.schema.faults wizard.form.values) ≠ []) :
    wizard.form.Keeps wizard.form.validate.submit := by
  have fails : (wizard.form.schema.faults wizard.form.values).isEmpty = false := by
    rw [shows.form_schema]
    exact shows.onPage.fails_of_faulty faulty
  exact wizard.form.keeps_validate.trans
    (wizard.form.validate.keeps_submit_of_fails fails)

/-- Handing in with no field at fault on the last page hands the values over. -/
theorem handsOver_submit_of_last
    (faultless : wizard.plan.fieldsAtFault wizard.current?
      (Registration.schema.faults wizard.form.values) = [])
    (last : wizard.plan.following? around wizard.visit = none) :
    page = .account ∧ (Registration.schema.faults wizard.form.values).isEmpty = true ∧
      wizard.form.HandsOver wizard.form.validate.submit := by
  obtain ⟨account, passes⟩ := shows.onPage.passes_of_last faultless last
  refine ⟨account, passes, wizard.form.keeps_validate.handsOver ?_⟩
  refine wizard.form.validate.handsOver_submit_of_passes ?_
  show (wizard.form.schema.faults wizard.form.values).isEmpty = true
  rw [shows.form_schema]
  exact passes

/-- Going on shows a page, the next one or the same. -/
theorem advance :
    ∃ next, wizard.advance.2.Shows next ∧
      wizard.Pressed page .enter (.advanced wizard.advance.1) wizard.advance.2 next := by
  have stays := stays_visitFocused wizard
  have showsLeft := shows.stays stays
  have cases := wizard.advance_cases
  -- From here on the wizard is the one whose field with the focus has been visited.
  generalize wizard.visitFocused = left at stays showsLeft cases
  simp only [showsLeft.form_schema] at cases
  rcases cases with
    ⟨_, outcome⟩ | ⟨_, faulty, outcome⟩ | ⟨idle, faultless, next, following, outcome⟩ |
      ⟨idle, faultless, last, outcome⟩
  · rw [outcome]
    exact ⟨page, showsLeft, .stayed stays rfl (fun equal => by cases equal)⟩
  · rw [outcome]
    have same : left.Stays { left with
        visit := { left.visit with form := left.form.validate.submit } } :=
      ⟨rfl, rfl, rfl, showsLeft.keeps_submit_of_faulty faulty, rfl⟩
    exact ⟨page, showsLeft.stays (same.refocus _),
      stays.pressed (.stayed (same.refocus _) rfl (fun equal => by cases equal))⟩
  · rw [outcome]
    obtain ⟨later, _, onward⟩ := showsLeft.onPage.push faultless following
    refine ⟨later, shows_display (onward.congr rfl rfl rfl), stays.pressed ?_⟩
    refine .worked idle ?_ ?_ ?_ (fun equal => by cases equal)
    · rw [isSubmitting, form, display_visit]
      rfl
    · rw [display_visit]
    · rw [form, display_visit]
      rfl
  · rw [outcome]
    obtain ⟨account, passes, handsOver⟩ := showsLeft.handsOver_submit_of_last faultless last
    refine ⟨page, ⟨?_, showsLeft.inputs⟩, stays.pressed ?_⟩
    · exact showsLeft.onPage.congr rfl (Form.submit_schema _) (Form.submit_values _)
    · exact .submitted idle account rfl passes handsOver rfl rfl rfl

/-- The page is the first exactly when its step is the first. -/
theorem isFirst_iff {current : Location} (located : wizard.current? = some current) :
    wizard.plan.isFirst current = true ↔ page.number = 0 := by
  obtain ⟨step, found, _, _, displayed⟩ := shows.onPage.current?
  have same : step.location = current := Option.some.inj (displayed.symm.trans located)
  rw [← same]
  exact Plan.isFirst_location found

theorem number_pos
    (later : ∀ current, wizard.current? = some current → wizard.plan.isFirst current = false) :
    0 < page.number := by
  obtain ⟨step, _, _, _, displayed⟩ := shows.onPage.current?
  refine Nat.pos_of_ne_zero fun zero => ?_
  have first := (shows.isFirst_iff displayed).mpr zero
  rw [later step.location displayed] at first
  cases first

/-- Going back shows a page, the one before or the same. -/
theorem retreat :
    ∃ next, wizard.retreat.2.Shows next ∧
      wizard.Pressed page .escape (.retreated wizard.retreat.1) wizard.retreat.2 next := by
  rcases wizard.retreat_cases with
    ⟨_, outcome⟩ | ⟨idle, ⟨current, located, first⟩, outcome⟩ | ⟨idle, later, outcome⟩
  · rw [outcome]
    exact ⟨page, shows, .stayed (.refl wizard) rfl (fun equal => by cases equal)⟩
  · rw [outcome]
    obtain ⟨start, _, onTrail⟩ := shows.onPage.onTrail
    have zero : page.number = 0 := (shows.isFirst_iff located).mp first
    have kept : wizard.visit.history.back = wizard.visit.history :=
      wizard.visit.history.back_of_index_eq_zero (onTrail.index.trans zero)
    refine ⟨page, ⟨shows.onPage.congr kept rfl rfl, shows.inputs⟩, ?_⟩
    exact .left idle (.refl wizard.form) rfl rfl rfl
  · rw [outcome]
    have onPage := shows.onPage.back (shows.number_pos later)
    refine ⟨.personal, shows_display (onPage.congr rfl rfl rfl), ?_⟩
    refine .worked ?_ ?_ ?_ ?_ (fun equal => by cases equal)
    · exact idle
    · rw [isSubmitting, form, display_visit]
      exact idle
    · rw [display_visit]
    · rw [form, display_visit]
      rfl

/-- A key for an input leaves the page. -/
theorem edit (key : Key) :
    (wizard.edit key).Shows page ∧ wizard.Pressed page key .none (wizard.edit key) page := by
  rcases wizard.edit_cases key with
    stays | ⟨idle, index, input, found, edited, text, sameName, outcome⟩
  · exact ⟨shows.stays stays, .stayed stays rfl (fun equal => by cases equal)⟩
  · obtain ⟨field, member, named⟩ := shows.exists_field found
    rw [outcome, ← named]
    refine ⟨⟨shows.onPage.set member text, ?_⟩, ?_⟩
    · exact (names_set wizard.inputs found sameName).trans shows.inputs
    · exact .worked idle ((Form.recheck_submitting _ _).trans idle) rfl
        (Form.recheck_handedOver _ _) (fun equal => by cases equal)

/-- Whatever the key, the wizard shows a page again. -/
theorem press (key : Key) :
    ∃ next, (wizard.press key).2.Shows next ∧
      wizard.Pressed page key (wizard.press key).1 (wizard.press key).2 next := by
  have stayed (after : Wizard) (stays : wizard.Stays after) :
      ∃ next, after.Shows next ∧ wizard.Pressed page key .none after next :=
    ⟨page, shows.stays stays, .stayed stays rfl (fun equal => by cases equal)⟩
  cases key with
  | enter => exact shows.advance
  | escape => exact shows.retreat
  | tab | down => exact stayed _ (stays_focusNext wizard)
  | backTab | up => exact stayed _ (stays_focusPrevious wizard)
  | _ => exact ⟨page, shows.edit _⟩

end Shows

end Onboarding.Registration.Wizard
