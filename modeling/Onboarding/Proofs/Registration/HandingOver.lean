/-
This file proves when the registration wizard hands its values over. Going on
answers that the values were submitted when nothing is at fault on the last page,
without asking whether the form really handed them over; the form does so when
nothing is at fault on any page. Over every run of the wizard the two come to the
same, since the names are in order whenever the last page is on display. So a key is
answered with that outcome exactly when it hands over the values of the form, once
and as they are.
-/

import Onboarding.Proofs.Registration.Keys

namespace Onboarding.Registration.Wizard

open Screen

/-! ### Runs of the wizard -/

/-- The wizards that come of any keys, rounds drawn and failures reported, from the start of a
drawn plan. -/
inductive Reached : Wizard → Prop where
  | opened {stream : List Location} {plan : Plan Page}
    (drawn : Plan.draw steps stream = some plan) (signedIn : Bool) :
    Reached (start plan signedIn)
  | pressed {wizard : Wizard} (reached : Reached wizard) (key : Key) :
    Reached (wizard.press key).2
  | ticked {wizard : Wizard} (reached : Reached wizard) : Reached wizard.tick
  | failed {wizard : Wizard} (reached : Reached wizard) (message : String) :
    Reached (wizard.fail message)

/-- Presses keys one after the other. -/
def pressAll (wizard : Wizard) (keys : List Key) : Wizard :=
  keys.foldl (fun wizard key => (wizard.press key).2) wizard

variable {wizard : Wizard} {page : Page}

theorem Reached.pressAll (reached : Reached wizard) (keys : List Key) :
    Reached (wizard.pressAll keys) := by
  induction keys generalizing wizard with
  | nil => exact reached
  | cons key rest inductionHypothesis => exact inductionHypothesis (reached.pressed key)

/-- A wizard starts by displaying the first page of a blank form. -/
theorem exists_blank_of_start {stream : List Location} {plan : Plan Page}
    (drawn : Plan.draw steps stream = some plan) (signedIn : Bool) :
    ∃ blank : Wizard, start plan signedIn = blank.display ∧
      OnPage blank.plan blank.visit .personal ∧
      blank.form = blankForm Registration.schema := by
  have contents : plan.contents = steps := Plan.contents_of_draw drawn
  obtain ⟨step, found, _, _⟩ := OnPage.exists_step contents .personal
  have first : plan.first? = some step.location := by
    rw [Plan.first?_eq, Plan.getElem?_locations]
    exact congrArg (Option.map Step.location) found
  unfold start
  rw [first]
  refine ⟨_, rfl, ⟨contents, rfl, rfl, ⟨step.location, first, ?_⟩, ?_⟩, rfl⟩
  · exact .startingAt (plan.lt_length found)
  · exact fun earlier before => absurd before (Nat.not_lt_zero _)

theorem shows_start {stream : List Location} {plan : Plan Page}
    (drawn : Plan.draw steps stream = some plan) (signedIn : Bool) :
    (start plan signedIn).Shows .personal := by
  obtain ⟨blank, started, onPage, _⟩ := exists_blank_of_start drawn signedIn
  rw [started]
  exact shows_display onPage

namespace Shows

variable (shows : wizard.Shows page)

include shows

theorem tick : wizard.tick.Shows page :=
  ⟨shows.onPage, shows.inputs⟩

theorem fail (message : String) : (wizard.fail message).Shows page :=
  ⟨shows.onPage.congr rfl rfl rfl, shows.inputs⟩

/-- The number shown is that of the page. -/
theorem progress : wizard.progress = (page.number + 1, 2) := by
  obtain ⟨step, found, _, _, displayed⟩ := shows.onPage.current?
  have located : wizard.current? = some step.location := displayed
  rw [Wizard.progress, located, Option.bind_some, Plan.position?_location found,
    Option.getD_some, OnPage.length_eq shows.onPage.contents]

/-- On the last page the texts of the pages before keep their rules. -/
theorem passes_names_of_last (last : wizard.progress.1 = wizard.progress.2) :
    Registration.schema.fault? Field.firstName.name wizard.form.values = none ∧
      Registration.schema.fault? Field.lastName.name wizard.form.values = none := by
  rw [shows.progress] at last
  have later : Page.personal.number < page.number := by
    rw [Nat.succ.inj last]
    decide
  exact ⟨shows.onPage.passed .personal later .firstName (by decide),
    shows.onPage.passed .personal later .lastName (by decide)⟩

end Shows

/-- A wizard that was reached shows a page. -/
theorem Reached.shows (reached : Reached wizard) : ∃ page, wizard.Shows page := by
  induction reached with
  | opened drawn signedIn => exact ⟨.personal, shows_start drawn signedIn⟩
  | pressed reached key inductionHypothesis =>
    obtain ⟨page, shows⟩ := inductionHypothesis
    obtain ⟨next, showsNext, _⟩ := shows.press key
    exact ⟨next, showsNext⟩
  | ticked reached inductionHypothesis =>
    obtain ⟨page, shows⟩ := inductionHypothesis
    exact ⟨page, shows.tick⟩
  | failed reached message inductionHypothesis =>
    obtain ⟨page, shows⟩ := inductionHypothesis
    exact ⟨page, shows.fail message⟩

/-! ### What is handed over -/

/-- A key that is not answered with a submission hands nothing over. -/
theorem Pressed.handedOver {key : Key} {action : Action} {after : Wizard} {next : Page}
    (pressed : wizard.Pressed page key action after next) (quiet : action ≠ .advanced .submitted) :
    after.form.handedOver = wizard.form.handedOver := by
  cases pressed with
  | stayed stays => exact stays.form.handedOver
  | worked _ _ _ handedOver => exact handedOver
  | left _ form => exact form.handedOver
  | submitted _ _ _ _ _ _ _ action => exact absurd action quiet

/-- The values that go out and the state of the form behind them. -/
structure Submits (before : Wizard) (key : Key) (after : Wizard) : Prop where
  enter : key = .enter
  handedOver : after.form.handedOver = before.form.handedOver ++ [before.form.values]
  names : before.form.values.names = Field.names
  passes : (Registration.schema.faults before.form.values).isEmpty = true
  values : after.form.values = before.form.values
  submitting : after.isSubmitting = true

theorem Shows.submits {key : Key} {action : Action} {after : Wizard} {next : Page}
    (shows : wizard.Shows page) (pressed : wizard.Pressed page key action after next)
    (submitted : action = .advanced .submitted) : wizard.Submits key after := by
  cases pressed with
  | stayed _ _ quiet => exact absurd submitted quiet
  | worked _ _ _ _ quiet => exact absurd submitted quiet
  | left _ _ _ _ action => cases action.symm.trans submitted
  | submitted _ _ _ passes handsOver _ enter =>
    exact ⟨enter, handsOver.handedOver, shows.onPage.names, passes, handsOver.values,
      handsOver.submitting⟩

/-- In every wizard that was reached: on the last page the names keep their rules; a key is
answered with a submission exactly when it hands values over, and then it hands over the values of
the form, once; and nothing else hands values over. -/
theorem submits_iff_of_reached (reached : Reached wizard) :
    (wizard.progress.1 = wizard.progress.2 →
      Registration.schema.fault? Field.firstName.name wizard.form.values = none ∧
        Registration.schema.fault? Field.lastName.name wizard.form.values = none) ∧
    (∀ key,
      ((wizard.press key).1 = .advanced .submitted ↔
        (wizard.press key).2.form.handedOver ≠ wizard.form.handedOver) ∧
      ((wizard.press key).1 = .advanced .submitted →
        wizard.Submits key (wizard.press key).2)) ∧
    wizard.tick.form.handedOver = wizard.form.handedOver ∧
    ∀ message, (wizard.fail message).form.handedOver = wizard.form.handedOver := by
  obtain ⟨page, shows⟩ := reached.shows
  refine ⟨shows.passes_names_of_last, fun key => ?_, rfl, fun _ => rfl⟩
  obtain ⟨next, _, pressed⟩ := shows.press key
  refine ⟨⟨fun submitted => ?_, fun changed => ?_⟩, shows.submits pressed⟩
  · rw [(shows.submits pressed submitted).handedOver]
    exact fun same => List.cons_ne_nil _ _ (List.append_right_eq_self.mp same)
  · exact Decidable.byContradiction fun quiet => changed (pressed.handedOver quiet)

/-- The keys that type a text. -/
def typing (text : String) : List Key :=
  text.toList.map Key.char

/-- The keys that fill in both pages of a wizard that was just opened. -/
def fillingIn : List Key :=
  typing "A" ++ [.tab] ++ typing "L" ++ [.enter] ++
    typing "a@b.co" ++ [.tab] ++ typing "password"

/-- The plan whose two steps are at short locations. -/
def shortPlan : Plan Page :=
  ⟨[⟨⟨"/a"⟩, .personal, ["firstName", "lastName"]⟩,
    ⟨⟨"/b"⟩, .account, ["email", "password"]⟩], by decide⟩

theorem draw_shortPlan : Plan.draw steps [⟨"/a"⟩, ⟨"/b"⟩] = some shortPlan := rfl

/-- A wizard with both pages filled in, and the key that hands the four values over. -/
theorem submits_of_both_pages :
    let filled := (start shortPlan false).pressAll fillingIn
    Reached filled ∧ filled.progress.1 = filled.progress.2 ∧
      (filled.press .enter).1 = .advanced .submitted ∧
      filled.Submits .enter (filled.press .enter).2 := by
  intro filled
  have reached : Reached filled := (Reached.opened draw_shortPlan false).pressAll fillingIn
  have submitted : (filled.press .enter).1 = .advanced .submitted := by decide +kernel
  obtain ⟨_, answered, _⟩ := submits_iff_of_reached reached
  exact ⟨reached, by decide +kernel, submitted, (answered .enter).2 submitted⟩

end Onboarding.Registration.Wizard
