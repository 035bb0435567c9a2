/-
This file holds what a session can come to. Keys, the end of submissions and the
taking in of events follow each other in any order, with one exception: after a key
the events are taken in until none is left before the next key is pressed. The
surroundings may change at any time, so the services may answer anything.

Beside the session a turn keeps a record that no definition of the session reads:
how many wizards were opened, and from which of them each submission comes. It is
what lets us say that a submission ends before the very wizard that began it.
-/

import Onboarding.Session

namespace Onboarding

open Registration Screen

/-- Whether an event is the end of a submission. -/
def Event.isFinished : Event → Bool
  | .left => false
  | .finished _ => true

namespace Session

variable {ω : Type} (services : Services ω)

/-! ### Turns -/

/-- Where a submission comes from. -/
structure Origin where
  /-- The number of the wizard that handed the values over. -/
  wizard : Nat
  values : Entries

/-- A session between two steps, with the record of its submissions. -/
structure Turn (ω : Type) where
  session : Session ω
  /-- Whether all events were taken in after the last key. -/
  settled : Bool
  /-- How many wizards were opened; one on display is the last of them. -/
  opened : Nat
  /-- The origins of the submissions on their way, in order. -/
  running : List Origin
  /-- The origins of the submissions whose ends wait as events, in order. -/
  ended : List Origin

namespace Turn

/-- The session on the landing screen, before any key. -/
def start (world : ω) : Turn ω :=
  ⟨Session.start services world, true, 0, [], []⟩

/-- A key is pressed; a wizard that it opens is the next one. -/
def press (turn : Turn ω) (plan : Plan Page) (key : Key) : Turn ω :=
  let session := turn.session.press services plan key
  let opens := turn.session.wizard?.isNone && session.wizard?.isSome
  let handedOver := session.running.drop turn.session.running.length
  { turn with
    session
    settled := false
    opened := if opens then turn.opened + 1 else turn.opened
    running := turn.running ++ handedOver.map fun values => ⟨turn.opened, values⟩ }

/-- The submission at an index comes to its end. -/
def complete (turn : Turn ω) (index : Nat) : Turn ω :=
  { turn with
    session := turn.session.complete services index
    running := turn.running.eraseIdx index
    ended := turn.ended ++ turn.running[index]?.toList }

/-- The first event is taken in, and the others wait. -/
def take (turn : Turn ω) (event : Event) (others : List Event) : Turn ω :=
  { turn with
    session := { turn.session with events := others }.take services event
    ended := if event.isFinished then turn.ended.drop 1 else turn.ended }

/-- All events that wait are taken in. -/
def drain (turn : Turn ω) : Turn ω :=
  { turn with
    session := turn.session.drain services
    settled := true
    ended := turn.ended.drop (turn.session.events.countP Event.isFinished) }

/-- What can happen next. -/
inductive Step : Turn ω → Turn ω → Prop where
  | pressed {turn : Turn ω} (settled : turn.settled = true) {stream : List Location}
    {plan : Plan Page} (drawn : Plan.draw steps stream = some plan) (key : Key) :
    Step turn (turn.press services plan key)
  | took {turn : Turn ω} {event : Event} {others : List Event}
    (waiting : turn.session.events = event :: others) :
    Step turn (turn.take services event others)
  | settled {turn : Turn ω} (nothing : turn.session.events = []) :
    Step turn { turn with settled := true }
  | completed (turn : Turn ω) (index : Nat) : Step turn (turn.complete services index)
  | interrupted (turn : Turn ω) : Step turn { turn with session := turn.session.interrupt }
  | ticked (turn : Turn ω) : Step turn { turn with session := turn.session.tick }
  | changed (turn : Turn ω) (world : ω) :
    Step turn { turn with session := { turn.session with world } }

/-- The turns that a session can come to. -/
inductive Reached : Turn ω → Prop where
  | started (world : ω) : Reached (start services world)
  | stepped {turn next : Turn ω} (reached : Reached turn) (step : Step services turn next) :
    Reached next

/-! ### Taking in all events -/

/-- Taking in an event leaves the events that wait alone. -/
theorem take_events (session : Session ω) (event : Event) (others : List Event) :
    { session with events := others }.take services event =
      { session.take services event with events := others } := by
  obtain ⟨display, world, running, events, quit⟩ := session
  cases event with
  | left => rfl
  | finished outcome =>
    cases outcome with
    | ok token => rfl
    | error message => cases display <;> rfl

/-- To take in the first event and then the others is to take in all. -/
theorem drain_take_session {session : Session ω} {event : Event} {others : List Event}
    (waiting : session.events = event :: others) :
    ({ session with events := others }.take services event).drain services =
      session.drain services := by
  have one := take_events services session event others
  have alone := take_events services session event []
  rw [Session.drain, Session.drain, waiting, List.foldl_cons, one, alone]

/-- The record agrees with taking in the first event and then the others. -/
theorem drain_take (turn : Turn ω) {event : Event} {others : List Event}
    (waiting : turn.session.events = event :: others) :
    (turn.take services event others).drain services = turn.drain services := by
  have drained := drain_take_session services waiting
  have left : ({ turn.session with events := others }.take services event).events = others := by
    rw [take_events]
  have recorded : (if event.isFinished then turn.ended.drop 1 else turn.ended).drop
      (others.countP Event.isFinished) =
        turn.ended.drop ((event :: others).countP Event.isFinished) := by
    cases event with
    | left => rfl
    | finished outcome =>
      show (turn.ended.drop 1).drop (others.countP Event.isFinished) = _
      rw [List.drop_drop, List.countP_cons_of_pos rfl, Nat.add_comm]
  unfold drain take
  dsimp only
  rw [drained, left, recorded, waiting]

/-- Taking in all events is taking them in one by one until none is left. -/
theorem Reached.drain {turn : Turn ω} (reached : Reached services turn) :
    Reached services (turn.drain services) := by
  generalize waiting : turn.session.events = events
  induction events generalizing turn with
  | nil =>
    have same : turn.drain services = { turn with settled := true } := by
      obtain ⟨⟨display, world, running, events, quit⟩, settled, opened, origins, ended⟩ := turn
      cases waiting
      rfl
    rw [same]
    exact .stepped reached (.settled waiting)
  | cons event others inductionHypothesis =>
    rw [← drain_take services turn waiting]
    refine inductionHypothesis (.stepped reached (.took waiting)) ?_
    show ({ turn.session with events := others }.take services event).events = others
    rw [take_events]

/-- Presses keys one after the other, and takes in all events after each of them. -/
def pressAll (turn : Turn ω) (plan : Plan Page) (keys : List Key) : Turn ω :=
  keys.foldl (fun turn key => (turn.press services plan key).drain services) turn

theorem Reached.pressAll {turn : Turn ω} (reached : Reached services turn)
    (settled : turn.settled = true) {stream : List Location} {plan : Plan Page}
    (drawn : Plan.draw steps stream = some plan) (keys : List Key) :
    Reached services (turn.pressAll services plan keys) := by
  induction keys generalizing turn with
  | nil => exact reached
  | cons key rest inductionHypothesis =>
    have pressed : Reached services (turn.press services plan key) :=
      .stepped reached (.pressed settled drawn key)
    exact inductionHypothesis (pressed.drain services) rfl

end Turn

end Session

end Onboarding
