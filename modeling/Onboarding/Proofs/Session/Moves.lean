/-
This file says once what can happen to a session. A key for the wizard on display
does what the wizard makes of it: nothing more is shown, or the leaving of the wizard
waits as an event, or the values handed over are on their way. A key for the landing
screen opens a wizard or leaves the screen as it is. The first submission on its way
comes to an end that waits as an event.
-/

import Onboarding.Proofs.Registration.HandingOver
import Onboarding.Session

namespace Onboarding.Session

open Registration Screen

variable {ω : Type} (services : Services ω)

/-! ### Keys -/

theorem press_of_landing {session : Session ω} {landing : Landing}
    (displayed : session.display = .landing landing) (plan : Plan Page) (key : Key) :
    session.press services plan key = session.pressLanding services plan key := by
  unfold press
  rw [displayed]

theorem press_of_wizard {session : Session ω} {wizard : Wizard}
    (displayed : session.display = .wizard wizard) (plan : Plan Page) (key : Key) :
    session.press services plan key = session.pressWizard wizard key := by
  unfold press
  rw [displayed]

/-- What a key for a wizard does to the session follows from what the wizard adds to the values
handed over and to the count of times it was left. -/
theorem pressWizard_eq (session : Session ω) {wizard : Wizard} {key : Key}
    (handedOver : List Entries) (exits : Nat)
    (added : (wizard.press key).2.form.handedOver = wizard.form.handedOver ++ handedOver)
    (left : (wizard.press key).2.visit.exits = wizard.visit.exits + exits) :
    session.pressWizard wizard key =
      { session with
        display := .wizard (wizard.press key).2
        running := session.running ++ handedOver
        events := session.events ++ List.replicate exits .left } := by
  unfold pressWizard
  dsimp only
  rw [added, left, List.drop_left, Nat.add_sub_cancel_left]

/-- A key for a wizard that shows a page: the wizard goes on showing a page, or it is left as well,
or it hands its values over on the last page. -/
theorem pressWizard_cases (session : Session ω) {wizard : Wizard} {page : Page}
    (shows : wizard.Shows page) (key : Key) :
    ∃ after next, after.Shows next ∧
      ((session.pressWizard wizard key = { session with display := .wizard after } ∧
        after.isSubmitting = wizard.isSubmitting ∧
        (wizard.isSubmitting = true → next = page ∧ after.form.values = wizard.form.values)) ∨
      (session.pressWizard wizard key =
          { session with display := .wizard after, events := session.events ++ [.left] } ∧
        wizard.isSubmitting = false ∧ after.isSubmitting = false) ∨
      (session.pressWizard wizard key =
          { session with
            display := .wizard after
            running := session.running ++ [after.form.values] } ∧
        wizard.isSubmitting = false ∧ after.isSubmitting = true ∧ next = .account)) := by
  obtain ⟨next, showsNext, pressed⟩ := shows.press key
  refine ⟨(wizard.press key).2, next, showsNext, ?_⟩
  have quietly (handedOver : (wizard.press key).2.form.handedOver = wizard.form.handedOver)
      (exits : (wizard.press key).2.visit.exits = wizard.visit.exits) :
      session.pressWizard wizard key =
        { session with display := .wizard (wizard.press key).2 } := by
    rw [session.pressWizard_eq [] 0 (handedOver.trans (List.append_nil _).symm) exits,
      List.append_nil, List.replicate_zero, List.append_nil]
  cases pressed with
  | stayed stays same =>
    exact Or.inl ⟨quietly stays.form.handedOver stays.exits, stays.form.submitting,
      fun _ => ⟨same, stays.form.values⟩⟩
  | worked idle idleAfter exits handedOver =>
    refine Or.inl ⟨quietly handedOver exits, idleAfter.trans idle.symm, fun submitting => ?_⟩
    rw [idle] at submitting
    cases submitting
  | left idle form exits =>
    refine Or.inr (Or.inl ⟨?_, idle, form.submitting.trans idle⟩)
    rw [session.pressWizard_eq [] 1 (form.handedOver.trans (List.append_nil _).symm) exits,
      List.append_nil]
    rfl
  | submitted idle last same passes handsOver exits =>
    refine Or.inr (Or.inr ⟨?_, idle, handsOver.submitting, same.trans last⟩)
    rw [session.pressWizard_eq [wizard.form.values] 0 handsOver.handedOver exits,
      List.replicate_zero, List.append_nil]
    rw [show (wizard.press key).2.form.values = wizard.form.values from handsOver.values]

/-- A key for the landing screen opens a wizard on its first page, or leaves the screen as it
is. -/
theorem pressLanding_cases (session : Session ω) {stream : List Location} {plan : Plan Page}
    (drawn : Plan.draw steps stream = some plan) (key : Key) :
    (∃ wizard, wizard.Shows .personal ∧ wizard.isSubmitting = false ∧
      session.pressLanding services plan key = { session with display := .wizard wizard }) ∨
    ∃ quit, session.pressLanding services plan key = { session with quit } := by
  have opens : ∃ wizard : Wizard, wizard.Shows .personal ∧ wizard.isSubmitting = false ∧
      { session with
        display := .wizard (Wizard.start plan (hasToken services session.world)) } =
          { session with display := .wizard wizard } := by
    refine ⟨_, Wizard.shows_start drawn (hasToken services session.world), ?_, rfl⟩
    unfold Wizard.start
    rw [Wizard.isSubmitting, Wizard.form, Wizard.display_visit]
    rfl
  unfold pressLanding
  split
  · exact Or.inl opens
  · exact Or.inl opens
  · exact Or.inr ⟨true, rfl⟩
  · exact Or.inr ⟨true, rfl⟩
  · exact Or.inr ⟨session.quit, rfl⟩

theorem tick_of_landing {session : Session ω} {landing : Landing}
    (displayed : session.display = .landing landing) : session.tick = session := by
  unfold tick
  rw [displayed]

theorem tick_of_wizard {session : Session ω} {wizard : Wizard}
    (displayed : session.display = .wizard wizard) :
    session.tick = { session with display := .wizard wizard.tick } := by
  unfold tick
  rw [displayed]

/-! ### Ends of submissions -/

/-- A failure is told to the wizard on display. -/
theorem take_error {session : Session ω} {wizard : Wizard}
    (displayed : session.display = .wizard wizard) (message : String) :
    { session with events := [] }.take services (.finished (.error message)) =
      { session with events := [], display := .wizard (wizard.fail message) } := by
  unfold take
  rw [displayed]

theorem complete_zero {session : Session ω} {values : Entries} {others : List Entries}
    (running : session.running = values :: others) :
    ∃ world outcome, session.complete services 0 =
      { session with
        world
        running := others
        events := session.events ++ [.finished outcome] } := by
  unfold complete
  rw [running]
  exact ⟨_, _, rfl⟩

end Onboarding.Session
