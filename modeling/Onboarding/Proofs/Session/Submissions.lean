/-
This file proves that a session has at most one submission at a time, on its way or
ended and waiting to be taken in, and that it has one exactly while the wizard on
display waits for it. So the end of a submission always comes before the wizard that
handed the values over, which still shows its last page and the same values.

Four parts keep to this together. The form is submitting from the moment it hands
over; while it is, no key edits, moves, leaves or hands over again; a wizard that is
left is gone before the next key, since its leaving is taken in first; and the end of
a submission is the only thing that makes the form ready again.
-/

import Onboarding.Proofs.Session.Moves
import Onboarding.Proofs.Session.Turns

namespace Onboarding.Session

open Registration Screen

variable {ω : Type} (services : Services ω)

/-- How many submissions there are, those on their way and those whose end waits. -/
def submissions (session : Session ω) : Nat :=
  session.running.length + session.events.countP Event.isFinished

/-! ### The two states of a session -/

/-- What is displayed while nothing is on its way. -/
inductive Rests : Display → Prop where
  | landing (landing : Landing) : Rests (.landing landing)
  | wizard {wizard : Wizard} {page : Page} (shows : wizard.Shows page)
    (idle : wizard.isSubmitting = false) : Rests (.wizard wizard)

namespace Turn

/-- There is no submission. At most the leaving of a wizard waits, and before the next key not even
that. -/
structure Idle (turn : Turn ω) : Prop where
  display : Rests turn.session.display
  sessionRunning : turn.session.running = []
  running : turn.running = []
  ended : turn.ended = []
  onlyLeft : ∀ event ∈ turn.session.events, event = .left
  settled : turn.settled = true → turn.session.events = []

/-- Where the one submission is: on its way, or ended and waiting to be taken in. -/
inductive Stage (turn : Turn ω) (origin : Origin) : Prop where
  | running (sessionRunning : turn.session.running = [origin.values])
    (running : turn.running = [origin]) (events : turn.session.events = [])
    (ended : turn.ended = [])
  | ended (outcome : Except String String) (sessionRunning : turn.session.running = [])
    (running : turn.running = []) (events : turn.session.events = [.finished outcome])
    (ended : turn.ended = [origin])

theorem Stage.congr {turn next : Turn ω} {origin : Origin} (stage : turn.Stage origin)
    (sessionRunning : next.session.running = turn.session.running)
    (running : next.running = turn.running)
    (events : next.session.events = turn.session.events) (ended : next.ended = turn.ended) :
    next.Stage origin := by
  cases stage with
  | running inSession inTurn nothing none =>
    exact .running (sessionRunning.trans inSession) (running.trans inTurn) (events.trans nothing)
      (ended.trans none)
  | ended outcome inSession inTurn waiting recorded =>
    exact .ended outcome (sessionRunning.trans inSession) (running.trans inTurn)
      (events.trans waiting) (ended.trans recorded)

/-- There is one submission, and the wizard that it comes from is on display and waits for it. -/
structure Busy (turn : Turn ω) (wizard : Wizard) (origin : Origin) : Prop where
  display : turn.session.display = .wizard wizard
  shows : wizard.Shows .account
  submitting : wizard.isSubmitting = true
  comes : origin = ⟨turn.opened, wizard.form.values⟩
  stage : turn.Stage origin

/-- One of the two states. -/
def Sound (turn : Turn ω) : Prop :=
  turn.Idle ∨ ∃ wizard origin, turn.Busy wizard origin

/-! ### What each step keeps -/

variable {turn : Turn ω}

theorem sound_start (world : ω) : (start services world).Sound :=
  Or.inl ⟨.landing _, rfl, rfl, rfl, fun event member => (by cases member), fun _ => rfl⟩

/-- The record of a key follows the session. -/
theorem running_press {plan : Plan Page} {key : Key} (handedOver : List Entries)
    (added : (turn.session.press services plan key).running = turn.session.running ++ handedOver) :
    (turn.press services plan key).running =
      turn.running ++ handedOver.map fun values => ⟨turn.opened, values⟩ := by
  unfold Turn.press
  dsimp only
  rw [added, List.drop_left]

/-- A key for a wizard opens no other. -/
theorem opened_press {wizard : Wizard} (displayed : turn.session.display = .wizard wizard)
    (plan : Plan Page) (key : Key) : (turn.press services plan key).opened = turn.opened := by
  have shown : turn.session.wizard? = some wizard := by rw [wizard?, displayed]
  unfold Turn.press
  dsimp only
  rw [shown, Option.isNone_some, Bool.false_and, if_neg Bool.false_ne_true]

/-- A key after which nothing is on its way. -/
theorem Idle.of_press (idle : turn.Idle) {plan : Plan Page} {key : Key} {session : Session ω}
    (pressed : turn.session.press services plan key = session) (display : Rests session.display)
    (running : session.running = []) (onlyLeft : ∀ event ∈ session.events, event = .left) :
    (turn.press services plan key).Idle := by
  have sameRunning : (turn.session.press services plan key).running =
      turn.session.running ++ [] := by
    rw [pressed, running, idle.sessionRunning, List.append_nil]
  rw [← pressed] at display running onlyLeft
  refine ⟨display, running, ?_, idle.ended, onlyLeft, fun settled => by cases settled⟩
  rw [running_press services [] sameRunning, idle.running, List.map_nil, List.append_nil]

/-- A key with which the wizard on display hands its values over. -/
theorem Idle.busy_of_press (idle : turn.Idle) (nothing : turn.session.events = [])
    {wizard after : Wizard} (displayed : turn.session.display = .wizard wizard)
    {plan : Plan Page} {key : Key}
    (pressed : turn.session.press services plan key =
      { turn.session with
        display := .wizard after
        running := turn.session.running ++ [after.form.values] })
    (shows : after.Shows .account) (submitting : after.isSubmitting = true) :
    (turn.press services plan key).Busy after ⟨turn.opened, after.form.values⟩ := by
  have added := running_press services [after.form.values] (congrArg Session.running pressed)
  refine ⟨congrArg Session.display pressed, shows, submitting, ?_, .running ?_ ?_ ?_ idle.ended⟩
  · rw [opened_press services displayed]
  · show (turn.session.press services plan key).running = [after.form.values]
    rw [pressed, idle.sessionRunning]
    rfl
  · rw [added, idle.running]
    rfl
  · show (turn.session.press services plan key).events = []
    rw [pressed]
    exact nothing

/-- Any key before which nothing is on its way. -/
theorem Idle.press (idle : turn.Idle) (settled : turn.settled = true) {stream : List Location}
    {plan : Plan Page} (drawn : Plan.draw steps stream = some plan) (key : Key) :
    (turn.press services plan key).Sound := by
  have nothing := idle.settled settled
  have display := idle.display
  cases displayed : turn.session.display with
  | landing landing =>
    have pressed := press_of_landing services displayed plan key
    rcases pressLanding_cases services turn.session drawn key with
      ⟨wizard, shows, idleWizard, outcome⟩ | ⟨quit, outcome⟩
    · exact Or.inl (idle.of_press services (pressed.trans outcome) (.wizard shows idleWizard)
        idle.sessionRunning idle.onlyLeft)
    · exact Or.inl (idle.of_press services (pressed.trans outcome) idle.display idle.sessionRunning
        idle.onlyLeft)
  | wizard wizard =>
    have pressed := press_of_wizard services displayed plan key
    rw [displayed] at display
    cases display with
    | wizard shows idleWizard =>
      obtain ⟨after, next, showsAfter, outcomes⟩ := turn.session.pressWizard_cases shows key
      rcases outcomes with ⟨outcome, same, _⟩ | ⟨outcome, _, idleAfter⟩ |
        ⟨outcome, _, submitting, last⟩
      · exact Or.inl (idle.of_press services (pressed.trans outcome)
          (.wizard showsAfter (same.trans idleWizard)) idle.sessionRunning idle.onlyLeft)
      · refine Or.inl (idle.of_press services (pressed.trans outcome) (.wizard showsAfter idleAfter)
          idle.sessionRunning fun event member => ?_)
        have only : event ∈ [Event.left] := by
          rwa [nothing, List.nil_append] at member
        exact List.mem_singleton.mp only
      · exact Or.inr ⟨after, _, idle.busy_of_press services nothing displayed
          (pressed.trans outcome) (last ▸ showsAfter) submitting⟩

/-- While values are on their way, a key leaves the submission and its wizard as they are. -/
theorem Busy.press {wizard : Wizard} {origin : Origin} (busy : turn.Busy wizard origin)
    (plan : Plan Page) (key : Key) :
    ∃ after, (turn.press services plan key).Busy after origin := by
  have pressed := press_of_wizard services busy.display plan key
  obtain ⟨after, next, showsAfter, outcomes⟩ := turn.session.pressWizard_cases busy.shows key
  rcases outcomes with ⟨outcome, same, kept⟩ | ⟨_, idle, _⟩ | ⟨_, idle, _⟩
  · obtain ⟨samePage, sameValues⟩ := kept busy.submitting
    have session := pressed.trans outcome
    have running : (turn.press services plan key).running = turn.running := by
      rw [running_press services [] (by rw [session, List.append_nil]), List.map_nil,
        List.append_nil]
    have sessionRunning : (turn.session.press services plan key).running =
        turn.session.running := by rw [session]
    have events : (turn.session.press services plan key).events = turn.session.events := by
      rw [session]
    refine ⟨after, congrArg Session.display session, samePage ▸ showsAfter,
      same.trans busy.submitting, ?_, ?_⟩
    · rw [opened_press services busy.display, sameValues]
      exact busy.comes
    · exact busy.stage.congr sessionRunning running events rfl
  · rw [busy.submitting] at idle
    cases idle
  · rw [busy.submitting] at idle
    cases idle

/-- Taking in that a wizard was left shows the landing screen. -/
theorem Idle.take (idle : turn.Idle) {event : Event} {others : List Event}
    (waiting : turn.session.events = event :: others) :
    (turn.take services event others).Idle := by
  have onlyLeft := idle.onlyLeft
  rw [waiting] at onlyLeft
  have left : event = .left := onlyLeft event List.mem_cons_self
  subst left
  refine ⟨.landing _, idle.sessionRunning, idle.running, idle.ended,
    fun event member => onlyLeft event (List.mem_cons_of_mem _ member), fun settled => ?_⟩
  have nothing := idle.settled settled
  rw [waiting] at nothing
  cases nothing

/-- Taking in the end of the submission leaves nothing on its way. -/
theorem Busy.take {wizard : Wizard} {origin : Origin} (busy : turn.Busy wizard origin)
    {event : Event} {others : List Event} (waiting : turn.session.events = event :: others) :
    (turn.take services event others).Idle := by
  cases busy.stage with
  | running _ _ nothing =>
    rw [waiting] at nothing
    cases nothing
  | ended outcome sessionRunning running events ended =>
    rw [waiting] at events
    obtain ⟨rfl, rfl⟩ := List.cons.inj events
    have taken (display : Display)
        (session : (turn.take services (.finished outcome) []).session =
          { turn.session with events := [], display })
        (rests : Rests display) : (turn.take services (.finished outcome) []).Idle := by
      refine ⟨?_, ?_, running, ?_, ?_, ?_⟩
      · rw [session]
        exact rests
      · rw [session]
        exact sessionRunning
      · show turn.ended.drop 1 = []
        rw [ended]
        rfl
      · intro event member
        rw [session] at member
        cases member
      · intro _
        rw [session]
    cases outcome with
    | ok token => exact taken _ rfl (.landing _)
    | error message =>
      exact taken _ (take_error services busy.display message)
        (.wizard (busy.shows.fail message) rfl)

/-- Where no submission is on its way, none comes to its end. -/
theorem complete_of_none {index : Nat} (inSession : turn.session.running[index]? = none)
    (inTurn : turn.running[index]? = none) : turn.complete services index = turn := by
  have session : turn.session.complete services index = turn.session := by
    unfold Session.complete
    rw [inSession]
  have running : turn.running.eraseIdx index = turn.running :=
    List.eraseIdx_of_length_le (List.getElem?_eq_none_iff.mp inTurn)
  unfold complete
  rw [session, running, inTurn, Option.toList_none, List.append_nil]

theorem Idle.complete (idle : turn.Idle) (index : Nat) : (turn.complete services index).Idle := by
  rw [complete_of_none services (by rw [idle.sessionRunning]; rfl) (by rw [idle.running]; rfl)]
  exact idle

/-- When the submission ends, it waits to be taken in, and the wizard waits on. -/
theorem Busy.complete {wizard : Wizard} {origin : Origin} (busy : turn.Busy wizard origin)
    (index : Nat) : (turn.complete services index).Busy wizard origin := by
  cases busy.stage with
  | running sessionRunning running nothing ended =>
    cases index with
    | zero =>
      obtain ⟨world, outcome, session⟩ := complete_zero services sessionRunning
      have completed : (turn.complete services 0).session =
          { turn.session with world, running := [], events := [.finished outcome] } := by
        rw [nothing] at session
        exact session
      refine ⟨?_, busy.shows, busy.submitting, busy.comes, .ended outcome ?_ ?_ ?_ ?_⟩
      · rw [completed]
        exact busy.display
      · rw [completed]
      · show turn.running.eraseIdx 0 = []
        rw [running]
        rfl
      · rw [completed]
      · show turn.ended ++ turn.running[0]?.toList = [origin]
        rw [ended, running]
        rfl
    | succ later =>
      rw [complete_of_none services (by rw [sessionRunning]; rfl) (by rw [running]; rfl)]
      exact busy
  | ended outcome sessionRunning running =>
    rw [complete_of_none services (by rw [sessionRunning]; rfl) (by rw [running]; rfl)]
    exact busy

/-- A round that is drawn changes no more than a count. -/
theorem Sound.tick (sound : turn.Sound) :
    Sound { turn with session := turn.session.tick } := by
  cases displayed : turn.session.display with
  | landing landing =>
    rw [tick_of_landing displayed]
    exact sound
  | wizard wizard =>
    rw [tick_of_wizard displayed]
    rcases sound with idle | ⟨shown, origin, busy⟩
    · have display := idle.display
      rw [displayed] at display
      cases display with
      | wizard shows idleWizard =>
        exact Or.inl ⟨.wizard shows.tick idleWizard, idle.sessionRunning, idle.running,
          idle.ended, idle.onlyLeft, idle.settled⟩
    · have same : Display.wizard shown = .wizard wizard := busy.display.symm.trans displayed
      cases same
      exact Or.inr ⟨wizard.tick, origin, rfl, busy.shows.tick, busy.submitting, busy.comes,
        busy.stage.congr rfl rfl rfl rfl⟩

/-- Other changes to the session and its surroundings are of no account. -/
theorem Sound.congr (sound : turn.Sound) (world : ω) (quit settled : Bool)
    (nothing : settled = true → turn.settled = true ∨ turn.session.events = []) :
    Sound { turn with session := { turn.session with world, quit }, settled } := by
  rcases sound with idle | ⟨wizard, origin, busy⟩
  · refine Or.inl ⟨idle.display, idle.sessionRunning, idle.running, idle.ended, idle.onlyLeft,
      fun nowSettled => ?_⟩
    rcases nothing nowSettled with wasSettled | none
    · exact idle.settled wasSettled
    · exact none
  · exact Or.inr ⟨wizard, origin, busy.display, busy.shows, busy.submitting, busy.comes,
      busy.stage.congr rfl rfl rfl rfl⟩

/-- Each step keeps a session in one of the two states. -/
theorem Sound.step (sound : turn.Sound) {next : Turn ω} (step : Step services turn next) :
    next.Sound := by
  cases step with
  | pressed settled drawn key =>
    rcases sound with idle | ⟨wizard, origin, busy⟩
    · exact idle.press services settled drawn key
    · obtain ⟨after, busyAfter⟩ := busy.press services _ key
      exact Or.inr ⟨after, origin, busyAfter⟩
  | took waiting =>
    rcases sound with idle | ⟨wizard, origin, busy⟩
    · exact Or.inl (idle.take services waiting)
    · exact Or.inl (busy.take services waiting)
  | settled nothing =>
    exact sound.congr turn.session.world turn.session.quit true fun _ => Or.inr nothing
  | completed index =>
    rcases sound with idle | ⟨wizard, origin, busy⟩
    · exact Or.inl (idle.complete services index)
    · exact Or.inr ⟨wizard, origin, busy.complete services index⟩
  | interrupted => exact sound.congr turn.session.world true turn.settled Or.inl
  | ticked => exact sound.tick
  | changed world => exact sound.congr world turn.session.quit turn.settled Or.inl

theorem Reached.sound (reached : Reached services turn) : turn.Sound := by
  induction reached with
  | started world => exact sound_start services world
  | stepped reached step inductionHypothesis => exact inductionHypothesis.step services step

/-! ### One submission at a time -/

theorem Idle.countP_eq_zero (idle : turn.Idle) :
    turn.session.events.countP Event.isFinished = 0 := by
  refine List.countP_eq_zero.mpr fun event member => ?_
  rw [idle.onlyLeft event member]
  exact Bool.false_ne_true

theorem Idle.submissions_eq_zero (idle : turn.Idle) : turn.session.submissions = 0 := by
  rw [submissions, idle.countP_eq_zero, idle.sessionRunning, List.length_nil]

theorem Idle.isSubmitting_eq_false (idle : turn.Idle) : turn.session.isSubmitting = false := by
  have display := idle.display
  rw [isSubmitting, wizard?]
  generalize turn.session.display = shown at display
  cases display with
  | landing landing => rfl
  | wizard shows idleWizard => exact idleWizard

theorem Busy.submissions_eq_one {wizard : Wizard} {origin : Origin}
    (busy : turn.Busy wizard origin) : turn.session.submissions = 1 := by
  rw [submissions]
  cases busy.stage with
  | running sessionRunning _ nothing =>
    rw [sessionRunning, nothing]
    rfl
  | ended outcome sessionRunning _ waiting =>
    rw [sessionRunning, waiting]
    rfl

theorem Busy.isSubmitting_eq_true {wizard : Wizard} {origin : Origin}
    (busy : turn.Busy wizard origin) : turn.session.isSubmitting = true := by
  rw [isSubmitting, wizard?, busy.display]
  exact busy.submitting

/-- The record agrees with the session: it has an origin for each submission on its way, with the
values that are submitted, and for each end that waits. -/
theorem Sound.record (sound : turn.Sound) :
    turn.running.map Origin.values = turn.session.running ∧
      turn.ended.length = turn.session.events.countP Event.isFinished := by
  rcases sound with idle | ⟨wizard, origin, busy⟩
  · rw [idle.running, idle.sessionRunning, idle.ended, idle.countP_eq_zero]
    exact ⟨rfl, rfl⟩
  · cases busy.stage with
    | running sessionRunning running events ended =>
      rw [running, sessionRunning, ended, events]
      exact ⟨rfl, rfl⟩
    | ended outcome sessionRunning running events ended =>
      rw [running, sessionRunning, ended, events]
      exact ⟨rfl, rfl⟩

/-- The end of a submission is taken in by the wizard that it comes from. -/
structure Answers (services : Services ω) (turn : Turn ω) (outcome : Except String String)
    (others : List Event) (wizard : Wizard) (origin : Origin) : Prop where
  ended : turn.ended = [origin]
  display : turn.session.display = .wizard wizard
  same : origin.wizard = turn.opened
  last : wizard.progress.1 = wizard.progress.2
  values : wizard.form.values = origin.values
  /-- A success shows the landing screen, signed in. -/
  welcomed : ∀ token, outcome = .ok token →
    (turn.take services (.finished outcome) others).session.display =
      .landing ⟨true, some welcome⟩
  /-- A failure leaves the wizard where it is, ready for another attempt. -/
  failed : ∀ message, outcome = .error message → ∃ after : Wizard,
    (turn.take services (.finished outcome) others).session.display = .wizard after ∧
      after.plan = wizard.plan ∧ after.progress = wizard.progress ∧
      after.form.values = origin.values ∧ after.isSubmitting = false ∧
      after.failure = some message

theorem Busy.answers {wizard : Wizard} {origin : Origin} (busy : turn.Busy wizard origin)
    {outcome : Except String String} {others : List Event}
    (waiting : turn.session.events = .finished outcome :: others) :
    Answers services turn outcome others wizard origin := by
  cases busy.stage with
  | running _ _ nothing =>
    rw [waiting] at nothing
    cases nothing
  | ended outcome _ _ events ended =>
    rw [waiting] at events
    cases events
    refine ⟨ended, busy.display, by rw [busy.comes], by rw [busy.shows.progress]; rfl,
      by rw [busy.comes], ?_, ?_⟩
    · rintro token rfl
      rfl
    · rintro message rfl
      refine ⟨wizard.fail message, ?_, rfl, ?_, ?_, rfl, rfl⟩
      · exact congrArg Session.display (take_error services busy.display message)
      · rw [busy.shows.progress, (busy.shows.fail message).progress]
      · rw [busy.comes]
        rfl

/-- Whatever a session came to, it has at most one submission, on its way or waiting to be taken
in; it has one exactly when the wizard on display is submitting; and each end of a submission is
taken in by the very wizard that handed the values over. The record agrees with the session. -/
theorem answers_of_reached (reached : Reached services turn) :
    (turn.running.map Origin.values = turn.session.running ∧
      turn.ended.length = turn.session.events.countP Event.isFinished) ∧
    turn.session.submissions ≤ 1 ∧
    (turn.session.submissions = 1 ↔ turn.session.isSubmitting = true) ∧
    ∀ outcome others, turn.session.events = .finished outcome :: others →
      ∃ wizard origin, Answers services turn outcome others wizard origin := by
  refine ⟨(reached.sound services).record, ?_⟩
  rcases reached.sound services with idle | ⟨wizard, origin, busy⟩
  · rw [idle.submissions_eq_zero, idle.isSubmitting_eq_false]
    refine ⟨Nat.zero_le 1, by decide, fun outcome others waiting => ?_⟩
    have left := idle.onlyLeft (.finished outcome) (by rw [waiting]; exact List.mem_cons_self)
    cases left
  · rw [busy.submissions_eq_one, busy.isSubmitting_eq_true]
    exact ⟨Nat.le_refl 1, by decide,
      fun outcome others waiting => ⟨wizard, origin, busy.answers services waiting⟩⟩

/-- A wizard that is filled in and handed in, and the end of its submission, which waits. -/
theorem answers_of_welcome :
    let services : Services Unit :=
      ⟨fun _ world => (.ok "token", world), fun _ world => (.ok (), world), fun _ => none⟩
    let turn := ((start services ()).pressAll services Wizard.shortPlan
      ([.enter] ++ Wizard.fillingIn ++ [.enter])).complete services 0
    Reached services turn ∧ turn.session.submissions = 1 ∧ turn.session.isSubmitting = true ∧
      ∃ outcome others wizard origin, turn.session.events = .finished outcome :: others ∧
        Answers services turn outcome others wizard origin := by
  intro services turn
  have reached : Reached services turn :=
    .stepped ((Reached.started ()).pressAll services rfl Wizard.draw_shortPlan _)
      (.completed _ 0)
  have one : turn.session.submissions = 1 := by decide +kernel
  have ended : (turn.session.events.head?.any Event.isFinished) = true := by decide +kernel
  obtain ⟨_, _, submitting, answered⟩ := answers_of_reached services reached
  refine ⟨reached, one, submitting.mp one, ?_⟩
  cases waiting : turn.session.events with
  | nil =>
    rw [waiting] at ended
    cases ended
  | cons event others =>
    rw [waiting] at ended
    cases event with
    | left => cases ended
    | finished outcome =>
      obtain ⟨wizard, origin, answers⟩ := answered outcome others waiting
      exact ⟨outcome, others, wizard, origin, rfl, answers⟩

end Turn

end Onboarding.Session
