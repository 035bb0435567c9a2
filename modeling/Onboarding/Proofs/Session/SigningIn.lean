/-
This file proves that what a session says about being signed in is true, and that it
is up to date whenever nothing is going on. The screens are told once, when they are
made, and never look at the store again, while submissions store tokens at any other
time. A screen that was made too early is replaced when the end of the submission is
taken in; the landing screen that replaces a wizard left too early is made from the
store. So what a screen does not say yet is always on its way to it.

Keys, ends of submissions and the taking in of events follow each other in any order
here, with any number of keys in between, so that several wizards may have handed
values over. A submission ends in two steps: the token is stored, and later the end is
told to the session. Between the two anything else may happen.
-/

import Mathlib.Data.List.Perm.Basic
import Onboarding.Proofs.Registration.HandingOver
import Onboarding.Proofs.Registration.Submitting
import Onboarding.Proofs.Session.Turns
import Onboarding.Registration.Online

namespace Onboarding

open Registration Screen

/-! ### What is asked of the services -/

/-- The services of the program itself, with any store. -/
theorem Registration.stores_onlineServices (charsets : Text.Charsets) (store : TokenStore)
    (now : Moment) : (onlineServices charsets store now).Stores where
  kept token online _ := by
    cases store with
    | slotOnly => rfl
    | file path =>
      show (((TokenStore.file path).set online.vault token now).2.keeping path).token?.isSome = true
      unfold TokenStore.set Vault.keep Keeping.token?
      dsimp only
      split <;> rfl
  refused token online failure refused := by
    cases store <;> cases refused
  registered _ _ := rfl

/-- Whether the screen says that the user is signed in. -/
def Display.signedIn : Display → Bool
  | .landing screen => screen.signedIn
  | .wizard screen => screen.signedIn

/-- Whether the event tells that a token was stored. -/
def Event.isWelcome : Event → Bool
  | .finished (.ok _) => true
  | _ => false

/-! ### A wizard says what it was told -/

namespace Registration.Wizard

variable (wizard : Wizard)

@[simp] theorem signedIn_display : wizard.display.signedIn = wizard.signedIn := by
  unfold display
  split <;> rfl

@[simp] theorem signedIn_start (plan : Plan Page) (signedIn : Bool) :
    (start plan signedIn).signedIn = signedIn := by
  rw [start, signedIn_display]

@[simp] theorem signedIn_visitFocused : wizard.visitFocused.signedIn = wizard.signedIn := by
  unfold visitFocused
  split <;> rfl

theorem signedIn_advance : wizard.advance.2.signedIn = wizard.signedIn := by
  have left := wizard.signedIn_visitFocused
  exact wizard.advance_preserves (·.signedIn = wizard.signedIn) left (fun _ _ => left)
    fun _ => (signedIn_display _).trans left

theorem signedIn_retreat : wizard.retreat.2.signedIn = wizard.signedIn :=
  wizard.retreat_preserves (·.signedIn = wizard.signedIn) rfl rfl (signedIn_display _)

/-- No key changes what a wizard says. -/
theorem signedIn_press (key : Key) : (wizard.press key).2.signedIn = wizard.signedIn :=
  wizard.press_preserves (·.signedIn = wizard.signedIn) key rfl wizard.signedIn_advance
    wizard.signedIn_retreat (fun _ => wizard.signedIn_visitFocused) fun _ =>
      wizard.edit_preserves (·.signedIn = wizard.signedIn) key (fun _ => rfl) fun _ _ _ => rfl

end Registration.Wizard

namespace Session

variable {ω : Type} (services : Services ω)

/-! ### Courses -/

/-- A session together with the ends of submissions that it was not told yet. -/
structure Course (ω : Type) where
  session : Session ω
  untold : List Event

namespace Course

/-- The submission at an index comes to its end. Its token is stored, but the session does not know
yet. -/
def finish (course : Course ω) (index : Nat) : Course ω :=
  let completed := course.session.complete services index
  ⟨{ completed with events := course.session.events },
    course.untold ++ completed.events.drop course.session.events.length⟩

/-- The end at an index is told to the session, where it waits to be taken in. -/
def tell (course : Course ω) (index : Nat) : Course ω :=
  ⟨{ course.session with
      events := course.session.events ++ course.untold[index]?.toList },
    course.untold.eraseIdx index⟩

/-- What can happen next. -/
inductive Step : Course ω → Course ω → Prop where
  | pressed (course : Course ω) (plan : Plan Page) (key : Key) :
    Step course { course with session := course.session.press services plan key }
  | took {course : Course ω} {event : Event} {others : List Event}
    (waiting : course.session.events = event :: others) :
    Step course
      { course with session := { course.session with events := others }.take services event }
  | finished (course : Course ω) (index : Nat) : Step course (course.finish services index)
  | told (course : Course ω) (index : Nat) : Step course (course.tell index)
  | interrupted (course : Course ω) :
    Step course { course with session := course.session.interrupt }
  | ticked (course : Course ω) : Step course { course with session := course.session.tick }
  | changed (course : Course ω) {world : ω}
    (same : services.token? world = services.token? course.session.world) :
    Step course { course with session := { course.session with world } }

/-- What a session can come to. -/
inductive Reached : Course ω → Prop where
  | started (world : ω) : Reached ⟨start services world, []⟩
  | stepped {course next : Course ω} (reached : Reached course)
    (step : Step services course next) : Reached next

variable {services} {course : Course ω}

/-- Taking in all events is taking them in one by one until none is left. -/
theorem Reached.drain (reached : Reached services course) :
    Reached services { course with session := course.session.drain services } := by
  obtain ⟨session, untold⟩ := course
  generalize waiting : session.events = events
  induction events generalizing session with
  | nil =>
    have same : session.drain services = session := by
      obtain ⟨display, world, running, events, quit⟩ := session
      cases waiting
      rfl
    show Reached services ⟨session.drain services, untold⟩
    rw [same]
    exact reached
  | cons event others inductionHypothesis =>
    have drained := Turn.drain_take_session services waiting
    have left : ({ session with events := others }.take services event).events = others := by
      rw [Turn.take_events]
    have rest := inductionHypothesis _ (.stepped reached (.took waiting)) left
    show Reached services ⟨session.drain services, untold⟩
    rw [← drained]
    exact rest

/-! ### What is on its way to the screen -/

/-- The events that wait, and those that were not told yet. -/
def coming (course : Course ω) : List Event :=
  course.session.events ++ course.untold

/-- The screen, the events on their way to it, and the store: what is said or about to be said is
true, and what is true is said or about to be said. -/
structure Sound (services : Services ω) (course : Course ω) : Prop where
  shown : course.session.display.signedIn = true →
    hasToken services course.session.world = true
  welcomed : ∀ event ∈ course.coming, event.isWelcome = true →
    hasToken services course.session.world = true
  known : hasToken services course.session.world = true →
    course.session.display.signedIn = true ∨ ∃ event ∈ course.coming, event.isWelcome = true

theorem sound_start (world : ω) : Sound services ⟨start services world, []⟩ where
  shown := id
  welcomed _ none := nomatch none
  known := .inl

/-- Any change after which the screen says what it did or what the store says, with the same tokens
on their way to it. -/
theorem Sound.congr (sound : course.Sound services) {next : Course ω}
    (token : hasToken services next.session.world = hasToken services course.session.world)
    (display : next.session.display.signedIn = course.session.display.signedIn ∨
      next.session.display.signedIn = hasToken services course.session.world)
    (coming : ∀ event : Event, event.isWelcome = true →
      (event ∈ next.coming ↔ event ∈ course.coming)) : next.Sound services where
  shown said := by
    rw [token]
    rcases display with same | stored
    · exact sound.shown (same ▸ said)
    · exact stored ▸ said
  welcomed event member welcome := by
    rw [token]
    exact sound.welcomed event ((coming event welcome).mp member) welcome
  known has := by
    rw [token] at has
    rcases display with same | stored
    · rw [same]
      refine (sound.known has).imp_right ?_
      rintro ⟨event, member, welcome⟩
      exact ⟨event, (coming event welcome).mpr member, welcome⟩
    · exact .inl (stored.trans has)

/-! ### What each step keeps -/

/-- A key leaves the store alone and tells at most that a wizard was left; a screen that it makes is
made from the store. -/
theorem press_spec (session : Session ω) (plan : Plan Page) (key : Key) :
    (session.press services plan key).world = session.world ∧
      (∃ exits, (session.press services plan key).events =
        session.events ++ List.replicate exits .left) ∧
      ((session.press services plan key).display.signedIn = session.display.signedIn ∨
        (session.press services plan key).display.signedIn =
          hasToken services session.world) := by
  obtain ⟨display, world, running, events, quit⟩ := session
  cases display with
  | wizard wizard => exact ⟨rfl, ⟨_, rfl⟩, .inl (wizard.signedIn_press key)⟩
  | landing landing =>
    show (pressLanding services _ plan key).world = world ∧ _
    have quiet : ∃ exits, events = events ++ List.replicate exits Event.left :=
      ⟨0, (List.append_nil events).symm⟩
    unfold press pressLanding
    split
    · exact ⟨rfl, quiet, .inr (Wizard.signedIn_start plan _)⟩
    · exact ⟨rfl, quiet, .inr (Wizard.signedIn_start plan _)⟩
    · exact ⟨rfl, quiet, .inl rfl⟩
    · exact ⟨rfl, quiet, .inl rfl⟩
    · exact ⟨rfl, quiet, .inl rfl⟩

theorem Sound.press (sound : course.Sound services) (plan : Plan Page) (key : Key) :
    Sound services { course with session := course.session.press services plan key } := by
  obtain ⟨world, ⟨exits, events⟩, display⟩ := press_spec course.session plan key
  refine sound.congr (congrArg _ world) display fun event welcome => ?_
  have noLeft : event ∉ List.replicate exits .left := fun member => by
    rw [List.eq_of_mem_replicate member] at welcome
    cases welcome
  rw [coming, events, coming, List.mem_append, List.mem_append, List.mem_append,
    or_iff_left noLeft]

/-- The end of a submission is welcome exactly when its token was stored. -/
theorem finish_cases (course : Course ω) (index : Nat) :
    course.finish services index = course ∨
      ∃ values event, course.finish services index =
          ⟨{ course.session with
              world := (services.submit values course.session.world).2
              running := course.session.running.eraseIdx index },
            course.untold ++ [event]⟩ ∧
        (event.isWelcome = true ↔
          ∃ token, (services.submit values course.session.world).1 = .ok token) := by
  unfold finish complete
  cases course.session.running[index]? with
  | none => exact .inl (by simp)
  | some values =>
    refine .inr ⟨values, _, by simp only [List.drop_left]; rfl, ?_⟩
    cases (services.submit values course.session.world).1 with
    | ok token => exact iff_of_true rfl ⟨token, rfl⟩
    | error failure => exact iff_of_false Bool.false_ne_true fun ⟨_, stored⟩ => nomatch stored

/-- A submission stores its token, or leaves the stored one as it is. -/
theorem submit_cases (stores : services.Stores) (values : Entries) (world : ω) :
    ((∃ token, (services.submit values world).1 = .ok token) ∧
      hasToken services (services.submit values world).2 = true) ∨
    ((∃ failure, (services.submit values world).1 = .error failure) ∧
      hasToken services (services.submit values world).2 = hasToken services world) := by
  obtain ⟨outcome, after, calls, goes, submitted, -⟩ := services.exists_goes values world
  rw [submitted]
  cases outcome with
  | error failure => exact .inr ⟨⟨_, rfl⟩, congrArg Option.isSome (goes.token?_of_error stores)⟩
  | ok token =>
    obtain ⟨between, taking⟩ := goes.exists_keep
    have kept := stores.kept token between
    rw [taking] at kept
    exact .inl ⟨⟨_, rfl⟩, kept rfl⟩

/-- What a submission that ended has to tell joins what is on its way to the screen. -/
theorem Sound.finish (sound : course.Sound services) (stores : services.Stores) (index : Nat) :
    Sound services (course.finish services index) := by
  rcases finish_cases course index with same | ⟨values, event, finished, welcome⟩
  · rw [same]
    exact sound
  · rw [finished]
    rcases submit_cases stores values course.session.world with ⟨stored, has⟩ | ⟨failed, has⟩
    · exact ⟨fun _ => has, fun _ _ _ => has, fun _ =>
        .inr ⟨event, List.mem_append_right _ (List.mem_append_right _ (List.mem_singleton_self _)),
          welcome.mpr stored⟩⟩
    · refine sound.congr has (.inl rfl) fun other otherWelcome => ?_
      obtain ⟨failure, failed⟩ := failed
      have differs : other ≠ event := by
        rintro rfl
        obtain ⟨token, stored⟩ := welcome.mp otherWelcome
        cases stored.symm.trans failed
      simp [coming, differs]

/-- Telling the end of a submission only moves it on. -/
theorem Sound.tell (sound : course.Sound services) (index : Nat) :
    Sound services (course.tell index) := by
  refine sound.congr rfl (.inl rfl) fun event _ => ?_
  have moved : (course.tell index).coming.Perm course.coming := by
    rw [coming, Course.tell, coming, List.append_assoc]
    refine .append_left _ ?_
    cases found : course.untold[index]? with
    | none => rw [List.eraseIdx_of_length_le (List.getElem?_eq_none_iff.mp found)]; rfl
    | some told =>
      obtain ⟨bound, rfl⟩ := List.getElem?_eq_some_iff.mp found
      exact List.getElem_cons_eraseIdx_perm bound
  exact moved.mem_iff

/-- Taking in an event makes the screen say what the store says, or leaves it as it is. -/
theorem Sound.take (sound : course.Sound services) {event : Event} {others : List Event}
    (waiting : course.session.events = event :: others) :
    Sound services
      { course with session := { course.session with events := others }.take services event } := by
  obtain ⟨⟨display, world, running, events, quit⟩, untold⟩ := course
  cases waiting
  have quietly (quiet : event.isWelcome = false) (other : Event)
      (welcome : other.isWelcome = true) :
      other ∈ others ++ untold ↔ other ∈ event :: others ++ untold := by
    have differs : other ≠ event := by
      rintro rfl
      cases quiet.symm.trans welcome
    rw [List.cons_append, List.mem_cons, or_iff_right differs]
  cases event with
  | left => exact sound.congr rfl (.inr rfl) (quietly rfl)
  | finished outcome =>
    cases outcome with
    | ok token =>
      have has := sound.welcomed (.finished (.ok token)) (List.mem_cons_self ..) rfl
      exact ⟨fun _ => has, fun _ _ _ => has, fun _ => .inl rfl⟩
    | error message =>
      cases display with
      | landing landing => exact sound.congr rfl (.inl rfl) (quietly rfl)
      | wizard wizard => exact sound.congr rfl (.inl rfl) (quietly rfl)

theorem Sound.step (sound : course.Sound services) (stores : services.Stores) {next : Course ω}
    (step : Step services course next) : next.Sound services := by
  cases step with
  | pressed plan key => exact sound.press plan key
  | took waiting => exact sound.take waiting
  | finished index => exact sound.finish stores index
  | told index => exact sound.tell index
  | interrupted => exact sound.congr rfl (.inl rfl) fun _ _ => .rfl
  | ticked =>
    obtain ⟨⟨display, world, running, events, quit⟩, untold⟩ := course
    cases display with
    | landing landing => exact sound
    | wizard wizard => exact sound.congr rfl (.inl rfl) fun _ _ => .rfl
  | changed same => exact sound.congr (congrArg Option.isSome same) (.inl rfl) fun _ _ => .rfl

theorem Reached.sound (stores : services.Stores) (reached : Reached services course) :
    course.Sound services := by
  induction reached with
  | started world => exact sound_start world
  | stepped reached step inductionHypothesis => exact inductionHypothesis.step stores step

/-- Whatever a session came to, the screen on display says that the user is signed in only if a
token is stored; and when no submission is on its way and nothing waits to be taken in, it says so
exactly if a token is stored. -/
theorem signedIn_of_reached (stores : services.Stores) (reached : Reached services course) :
    (course.session.display.signedIn = true →
      hasToken services course.session.world = true) ∧
    (course.session.running = [] → course.untold = [] → course.session.events = [] →
      course.session.display.signedIn = hasToken services course.session.world) := by
  have sound := reached.sound stores
  refine ⟨sound.shown, fun _ nothingUntold nothingWaits => ?_⟩
  have nothing : course.coming = [] := by
    rw [coming, nothingWaits, nothingUntold, List.append_nil]
  refine Bool.eq_iff_iff.mpr ⟨sound.shown, fun has => ?_⟩
  rcases sound.known has with said | ⟨event, member, _⟩
  · exact said
  · rw [nothing] at member
    cases member

/-- Presses keys one after the other, and takes no event in. -/
def pressAll (services : Services ω) (course : Course ω) (plan : Plan Page) (keys : List Key) :
    Course ω :=
  keys.foldl (fun course key => { course with session := course.session.press services plan key })
    course

theorem Reached.pressAll (reached : Reached services course) (plan : Plan Page)
    (keys : List Key) : Reached services (course.pressAll services plan keys) := by
  induction keys generalizing course with
  | nil => exact reached
  | cons key rest inductionHypothesis =>
    exact inductionHypothesis (.stepped reached (.pressed course plan key))

/-- A wizard that is left, and handed in before its leaving is taken in: the landing screen comes
before the token, and another one behind it. -/
theorem signedIn_of_left_wizard :
    let answer := "\x7b\"data\":\x7b\"registerUser\":\x7b\"token\":\"T\"\x7d\x7d\x7d"
    let services := onlineServices (fun _ => none) .slotOnly ⟨⟨2024, 2, 29⟩, 23, 59, 60, 999⟩
    let world : Online :=
      ⟨⟨none, .empty⟩, [.replied ⟨200, [], .whole (Text.utf8Bytes answer)⟩], []⟩
    let pressed := pressAll services ⟨start services world, []⟩ Wizard.shortPlan
      (.enter :: .escape :: Wizard.fillingIn ++ [.enter])
    let landed : Course Online := { pressed with session := pressed.session.drain services }
    let told := (landed.finish services 0).tell 0
    let last : Course Online := { told with session := told.session.drain services }
    services.Stores ∧ Reached services last ∧ landed.session.display.signedIn = false ∧
      last.session.running = [] ∧ last.untold = [] ∧ last.session.events = [] ∧
      hasToken services last.session.world = true ∧ last.session.display.signedIn = true := by
  intro answer services world pressed landed told last
  have stores : services.Stores := stores_onlineServices _ _ _
  have reached : Reached services last :=
    Reached.drain (.stepped (.stepped (Reached.drain ((Reached.started world).pressAll _ _))
      (.finished _ 0)) (.told _ 0))
  have running : last.session.running = [] := by decide +kernel
  have untold : last.untold = [] := List.isEmpty_iff.mp (by decide +kernel)
  have events : last.session.events = [] := List.isEmpty_iff.mp (by decide +kernel)
  have has : hasToken services last.session.world = true := by decide +kernel
  exact ⟨stores, reached, by decide +kernel, running, untold, events, has,
    ((signedIn_of_reached stores reached).2 running untold events).trans has⟩

end Course

end Session

end Onboarding
