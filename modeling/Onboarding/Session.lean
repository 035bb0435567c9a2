/-
This file holds a session: the screen on display, the submissions that are on
their way, and the events that wait to be shown. A key acts on the screen at
once; what happens meanwhile, such as the end of a submission, waits as an event
until the events are taken in.
-/

import Onboarding.Landing
import Onboarding.Registration.Submission
import Onboarding.Registration.WizardView

namespace Onboarding

open Registration Screen

/-- The screen on display. -/
inductive Display where
  | landing (landing : Landing)
  | wizard (wizard : Wizard)

/-- What waits to be shown. -/
inductive Event where
  /-- The wizard was left. -/
  | left
  /-- A submission came to its end, with the token or the words for its failure. -/
  | finished (outcome : Except String String)

/-- A session in surroundings `ω`. -/
structure Session (ω : Type) where
  display : Display
  world : ω
  /-- The values on their way, those handed over first in front. -/
  running : List Entries
  /-- The events not yet taken in, the oldest in front. -/
  events : List Event
  /-- Whether the user asked to end the session. -/
  quit : Bool

namespace Session

variable {ω : Type} (services : Services ω)

/-- Whether a token is stored. -/
def hasToken (world : ω) : Bool :=
  (services.token? world).isSome

/-- A session on the landing screen. -/
def start (world : ω) : Session ω :=
  ⟨.landing ⟨hasToken services world, none⟩, world, [], [], false⟩

/-- The wizard on display. -/
def wizard? (session : Session ω) : Option Wizard :=
  match session.display with
  | .wizard wizard => some wizard
  | .landing _ => none

/-- Whether the wizard on display waits for the end of a submission. -/
def isSubmitting (session : Session ω) : Bool :=
  session.wizard?.any Wizard.isSubmitting

/-! ### Keys -/

/-- Gives a key to the wizard. Values that it hands over are on their way, and leaving it waits as
an event. -/
def pressWizard (session : Session ω) (wizard : Wizard) (key : Key) : Session ω :=
  let pressed := (wizard.press key).2
  let handedOver := pressed.form.handedOver.drop wizard.form.handedOver.length
  let exits := pressed.visit.exits - wizard.visit.exits
  { session with
    display := .wizard pressed
    running := session.running ++ handedOver
    events := session.events ++ List.replicate exits .left }

/-- Gives a key to the landing screen; a wizard that it opens follows the plan. -/
def pressLanding (session : Session ω) (plan : Plan Page) (key : Key) : Session ω :=
  match key with
  | .enter | .char 's' =>
    { session with display := .wizard (Wizard.start plan (hasToken services session.world)) }
  | .escape | .char 'q' => { session with quit := true }
  | _ => session

/-- What a key does. -/
def press (session : Session ω) (plan : Plan Page) (key : Key) : Session ω :=
  match session.display with
  | .wizard wizard => session.pressWizard wizard key
  | .landing _ => session.pressLanding services plan key

/-- The user asks to end the session, whatever the screen on display. -/
def interrupt (session : Session ω) : Session ω :=
  { session with quit := true }

/-- Counts a round that was drawn, for the wizard on display. -/
def tick (session : Session ω) : Session ω :=
  match session.display with
  | .wizard wizard => { session with display := .wizard wizard.tick }
  | .landing _ => session

/-! ### Submissions -/

/-- The submission at an index comes to its end, which waits as an event. -/
def complete (session : Session ω) (index : Nat) : Session ω :=
  match session.running[index]? with
  | none => session
  | some values =>
    let (outcome, world) := services.submit values session.world
    let shown := match outcome with
      | .ok token => .ok token
      | .error failure => .error failure.advice
    { session with
      world
      running := session.running.eraseIdx index
      events := session.events ++ [.finished shown] }

/-! ### Events -/

/-- The line on the landing screen after a registration. -/
def welcome : String := "Registration complete. You are signed in."

/-- Takes in an event. -/
def take (session : Session ω) (event : Event) : Session ω :=
  match event, session.display with
  | .left, _ => { session with display := .landing ⟨hasToken services session.world, none⟩ }
  | .finished (.ok _), _ => { session with display := .landing ⟨true, some welcome⟩ }
  | .finished (.error message), .wizard wizard =>
    { session with display := .wizard (wizard.fail message) }
  | .finished (.error _), .landing _ => session

/-- Takes in all events that wait. -/
def drain (session : Session ω) : Session ω :=
  session.events.foldl (take services) { session with events := [] }

/-! ### Drawing -/

/-- Draws the screen on display. -/
def draw (session : Session ω) (width height : Nat) : Canvas :=
  match session.display with
  | .landing landing => landing.draw width height
  | .wizard wizard => wizard.draw width height

end Session

end Onboarding
