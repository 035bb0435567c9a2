/-
This file proves what the registration wizard displays once it was asked to go on or to
go back. When going on is refused, the focus is on the first input at fault, and its
message is shown. When another step comes on display, its inputs are made anew: each has
the text that it had when it was last on display, and no message before its user has been
there again.

What an input had then is not kept by the wizard. It is read off the story of the wizard,
all that it was and all that happened to it. That the text is the same now comes of two
things: a key changes no text but that of the input with the focus, and an input that has
the focus is on display.
-/

import Onboarding.Proofs.Registration.Waiting
import Onboarding.Proofs.Wizard.Advancing

namespace Onboarding.Registration.Wizard

open Screen

variable {wizard : Wizard} {page : Page} {name : String}

/-! ### Stories -/

/-- What can happen to a wizard. -/
inductive Happening where
  | pressed (key : Key)
  | ticked
  | failed (message : String)
  deriving DecidableEq

/-- The wizard once it has happened. -/
def happen (wizard : Wizard) : Happening → Wizard
  | .pressed key => (wizard.press key).2
  | .ticked => wizard.tick
  | .failed message => wizard.fail message

/-- A wizard with its story: what it was and what happened to it then, the last of it first. -/
inductive Told : List (Wizard × Happening) → Wizard → Prop where
  | opened {stream : List Location} {plan : Plan Page}
    (drawn : Plan.draw steps stream = some plan) (signedIn : Bool) :
    Told [] (start plan signedIn)
  | onward {story : List (Wizard × Happening)} {wizard : Wizard} (told : Told story wizard)
    (happening : Happening) :
    Told ((wizard, happening) :: story) (wizard.happen happening)

variable {story : List (Wizard × Happening)}

theorem Told.reached (told : Told story wizard) : Reached wizard := by
  induction told with
  | opened drawn signedIn => exact .opened drawn signedIn
  | onward _ happening inductionHypothesis =>
    cases happening with
    | pressed key => exact .pressed inductionHypothesis key
    | ticked => exact .ticked inductionHypothesis
    | failed message => exact .failed inductionHypothesis message

/-- Every wizard that was reached has a story. -/
theorem Reached.exists_told (reached : Reached wizard) : ∃ story, Told story wizard := by
  induction reached with
  | opened drawn signedIn => exact ⟨_, .opened drawn signedIn⟩
  | pressed _ key inductionHypothesis =>
    obtain ⟨story, told⟩ := inductionHypothesis
    exact ⟨_, told.onward (.pressed key)⟩
  | ticked _ inductionHypothesis =>
    obtain ⟨story, told⟩ := inductionHypothesis
    exact ⟨_, told.onward .ticked⟩
  | failed _ message inductionHypothesis =>
    obtain ⟨story, told⟩ := inductionHypothesis
    exact ⟨_, told.onward (.failed message)⟩

/-- The text of a field when there was last an input for it, empty when there was none. -/
def lastText (name : String) : List (Wizard × Happening) → String
  | [] => ""
  | (wizard, _) :: story =>
    if name ∈ wizard.inputs.map LineInput.name then wizard.form.value name
    else lastText name story

/-- A key was given to the input for a field. -/
def Edited (name : String) (story : List (Wizard × Happening)) : Prop :=
  ∃ past ∈ story, ∃ key ∉ movingKeys,
    past.2 = .pressed key ∧ past.1.focused? = some name

/-! ### Texts of fields that are not on display -/

theorem value_blank (schema : Schema) (name : String) : (blankForm schema).value name = "" := by
  show Option.getD ((Entries.ofList (Field.names.map fun name => (name, ""))).get? name) "" = ""
  rw [Entries.get?_ofList]
  cases found : ((Field.names.map fun name => (name, "")).reverse).lookup name with
  | none => rfl
  | some text =>
    obtain ⟨before, after, split, _⟩ := List.lookup_eq_some_iff.mp found
    have member : (name, text) ∈ Field.names.map fun name => (name, "") := by
      rw [← List.mem_reverse, split]
      exact List.mem_append_right _ List.mem_cons_self
    obtain ⟨other, _, same⟩ := List.mem_map.mp member
    cases same
    rfl

theorem value_start {stream : List Location} {plan : Plan Page}
    (drawn : Plan.draw steps stream = some plan) (signedIn : Bool) (name : String) :
    (start plan signedIn).form.value name = "" := by
  obtain ⟨blank, started, _, fresh⟩ := exists_blank_of_start drawn signedIn
  rw [started, form, display_visit]
  show blank.form.value name = ""
  rw [fresh, value_blank]

/-- A key leaves the text of a field as it is, unless it is one for the input with the focus and
this input is the field's. -/
theorem value_press (wizard : Wizard) (key : Key) (name : String) :
    (wizard.press key).2.form.value name = wizard.form.value name ∨
      key ∉ movingKeys ∧ wizard.focused? = some name := by
  by_cases moving : key ∈ movingKeys
  · exact .inl (congrArg (Entries.getText · name) (wizard.values_press_of_moving moving))
  rw [wizard.press_of_not_moving moving]
  cases submitting : wizard.isSubmitting with
  | true => exact .inl (by rw [edit_of_submitting key submitting])
  | false =>
    cases found : wizard.inputs[wizard.focus]? with
    | none => exact .inl (by rw [edit_of_unfocused key found])
    | some input =>
      by_cases same : name = input.name
      · exact .inr ⟨moving, by rw [focused?, found, same, Option.map_some]⟩
      · exact .inl (congrArg (Option.getD · "") (get?_edit_of_ne submitting found same))

theorem value_happen (wizard : Wizard) (happening : Happening) (name : String) :
    (wizard.happen happening).form.value name = wizard.form.value name ∨
      ∃ key ∉ movingKeys, happening = .pressed key ∧ wizard.focused? = some name := by
  cases happening with
  | pressed key =>
    rcases wizard.value_press key name with same | ⟨still, focused⟩
    · exact .inl same
    · exact .inr ⟨key, still, rfl, focused⟩
  | ticked | failed => exact .inl rfl

theorem names_press_of_not_moving (wizard : Wizard) {key : Key} (still : key ∉ movingKeys) :
    (wizard.press key).2.inputs.map LineInput.name = wizard.inputs.map LineInput.name := by
  rw [wizard.press_of_not_moving still]
  rcases wizard.edit_cases key with stays | ⟨_, _, _, found, _, _, sameName, outcome⟩
  · exact stays.inputs
  · rw [outcome]
    exact names_set wizard.inputs found sameName

namespace Told

/-- A field that is not on display has the text with which it was last there. -/
theorem value_eq_lastText (told : Told story wizard)
    (absent : name ∉ wizard.inputs.map LineInput.name) :
    wizard.form.value name = lastText name story := by
  induction told with
  | opened drawn signedIn => exact value_start drawn signedIn name
  | @onward story before _ happening inductionHypothesis =>
    rcases before.value_happen happening name with same | ⟨key, still, rfl, focused⟩
    · rw [same, lastText]
      split
      · rfl
      · next before => exact inductionHypothesis before
    · -- A key for the input of the field leaves the field on display.
      rw [happen, names_press_of_not_moving before still] at absent
      obtain ⟨input, found, named⟩ := Option.map_eq_some_iff.mp focused
      exact absurd (named ▸ List.mem_map_of_mem (List.mem_of_getElem? found)) absent

/-- A field that was not edited is empty. -/
theorem value_of_not_edited (told : Told story wizard) (untouched : ¬ Edited name story) :
    wizard.form.value name = "" := by
  induction told with
  | opened drawn signedIn => exact value_start drawn signedIn name
  | @onward story before _ happening inductionHypothesis =>
    rcases before.value_happen happening name with same | ⟨key, still, rfl, focused⟩
    · rw [same]
      refine inductionHypothesis fun edited => untouched ?_
      obtain ⟨past, member, given⟩ := edited
      exact ⟨past, List.mem_cons_of_mem _ member, given⟩
    · exact absurd ⟨_, List.mem_cons_self, key, still, rfl, focused⟩ untouched

end Told

/-! ### Going on when it is refused -/

/-- The wizard did not go on: it is as it was but for the focus and the messages. The focus is on
the first input at fault, and its message is shown. -/
structure Stopped (before after : Wizard) : Prop where
  current : after.current? = before.current?
  inputs : after.inputs = before.inputs
  values : after.form.values = before.form.values
  idle : after.isSubmitting = false
  handedOver : after.form.handedOver = before.form.handedOver
  focus : ∃ input message, after.inputs[after.focus]? = some input ∧
    Registration.schema.fault? input.name before.form.values = some message ∧
    after.form.shownFault? input.name = some message
  first : ∀ index < after.focus, ∀ input, after.inputs[index]? = some input →
    Registration.schema.fault? input.name before.form.values = none

/-- The first of the inputs that are for one of some fields. -/
theorem exists_first_input {inputs : List LineInput} {names : List String}
    (among : ∃ input ∈ inputs, input.name ∈ names) :
    ∃ index input, (inputs.findIdx? fun input => names.contains input.name) = some index ∧
      inputs[index]? = some input ∧ input.name ∈ names ∧
      ∀ earlier < index, ∀ other, inputs[earlier]? = some other → other.name ∉ names := by
  obtain ⟨input, inside, member⟩ := among
  cases found : inputs.findIdx? fun input => names.contains input.name with
  | none =>
    have missing := List.findIdx?_eq_none_iff.mp found input inside
    rw [List.contains_iff_mem.mpr member] at missing
    cases missing
  | some index =>
    obtain ⟨bound, contained, before⟩ := List.findIdx?_eq_some_iff_getElem.mp found
    refine ⟨index, _, rfl, List.getElem?_eq_getElem bound, List.contains_iff_mem.mp contained, ?_⟩
    intro earlier less other foundOther memberOther
    obtain ⟨boundOther, rfl⟩ := List.getElem?_eq_some_iff.mp foundOther
    exact before earlier less (List.contains_iff_mem.mpr memberOther)

namespace Shows

variable (shows : wizard.Shows page)

include shows

/-- The inputs at fault are those for the fields at fault on the page. -/
theorem mem_fieldsAtFault_iff {input : LineInput} (member : input ∈ wizard.inputs) :
    input.name ∈ wizard.plan.fieldsAtFault wizard.current?
        (Registration.schema.faults wizard.form.values) ↔
      Registration.schema.fault? input.name wizard.form.values ≠ none := by
  refine (shows.onPage.mem_fieldsAtFault wizard.form.values input.name).trans ?_
  rw [← shows.inputs]
  exact and_iff_right (List.mem_map_of_mem member)

/-- Each field at fault on the page has an input. -/
theorem exists_input_at_fault
    (faulty : wizard.plan.fieldsAtFault wizard.current?
      (Registration.schema.faults wizard.form.values) ≠ []) :
    ∃ input ∈ wizard.inputs, input.name ∈ wizard.plan.fieldsAtFault wizard.current?
      (Registration.schema.faults wizard.form.values) := by
  obtain ⟨name, member⟩ := List.exists_mem_of_ne_nil _ faulty
  have listed := ((shows.onPage.mem_fieldsAtFault wizard.form.values name).mp member).1
  rw [← shows.inputs] at listed
  obtain ⟨input, inside, rfl⟩ := List.mem_map.mp listed
  exact ⟨input, inside, member⟩

theorem stopped_advance {fields : List String} (blocked : wizard.advance.1 = .blocked fields) :
    wizard.Stopped wizard.advance.2 := by
  have stays := stays_visitFocused wizard
  have showsLeft := shows.stays stays
  have sameInputs := visitFocused_inputs wizard
  have cases := wizard.advance_cases
  -- From here on the wizard is the one whose field with the focus has been visited.
  generalize wizard.visitFocused = left at stays showsLeft sameInputs cases
  simp only [showsLeft.form_schema] at cases
  rcases cases with
    ⟨_, outcome⟩ | ⟨idle, faulty, outcome⟩ | ⟨_, _, _, _, outcome⟩ | ⟨_, _, _, outcome⟩
  all_goals rw [outcome] at blocked ⊢
  case inr.inl =>
    have keeps := stays.form.trans (showsLeft.keeps_submit_of_faulty faulty)
    obtain ⟨index, input, found, located, listed, before⟩ :=
      exists_first_input (showsLeft.exists_input_at_fault faulty)
    have broken := (showsLeft.mem_fieldsAtFault_iff (List.mem_of_getElem? located)).mp listed
    obtain ⟨message, fault⟩ := Option.ne_none_iff_exists'.mp broken
    have shown : left.form.validate.submit.shownFault? input.name = some message :=
      Form.shownFault?_submit (showsLeft.form_schema ▸ fault)
    have first : ∀ earlier < index, ∀ other, left.inputs[earlier]? = some other →
        Registration.schema.fault? other.name left.form.values = none := by
      intro earlier less other foundOther
      refine Decidable.byContradiction fun broken => before earlier less other foundOther ?_
      exact (showsLeft.mem_fieldsAtFault_iff (List.mem_of_getElem? foundOther)).mpr broken
    rw [found, Option.getD_some]
    rw [stays.form.values] at fault first
    exact
      { current := stays.current?_eq
        inputs := sameInputs
        values := keeps.values
        idle := keeps.submitting.trans (stays.form.submitting.symm.trans idle)
        handedOver := keeps.handedOver
        focus := ⟨input, message, located, fault, shown⟩
        first := first }
  all_goals cases blocked

end Shows

/-! ### Another step on display -/

/-- The wizard displays the step at a place, with the focus on the first of its inputs. Each input
has the text with which it was last on display, and its cursor is behind that text. -/
structure TurnedTo (before after : Wizard) (place : Location) (story : List (Wizard × Happening)) :
    Prop where
  plan : after.plan = before.plan
  located : after.current? = some place
  inputs : after.inputs.map LineInput.name = after.plan.fieldsAt place
  focus : after.focus = 0 ∧ after.inputs ≠ []
  texts : ∀ input ∈ after.inputs, after.form.value input.name = lastText input.name story ∧
    input.cursor = (lastText input.name story).length
  untouched : ∀ input ∈ after.inputs, ¬ Edited input.name story → lastText input.name story = ""

/-- The fields of two pages are different ones. -/
theorem Shows.notMem_names_of_ne (shows : wizard.Shows page) {other : Page} (differs : other ≠ page)
    {field : Field} (member : field ∈ other.fields) :
    field.name ∉ wizard.inputs.map LineInput.name := by
  rw [shows.inputs]
  intro listed
  obtain ⟨same, memberPage, equal⟩ := List.mem_map.mp listed
  rcases Nat.lt_trichotomy other.number page.number with before | equalNumber | behind
  · exact Page.name_ne_of_lt before member memberPage equal.symm
  · exact differs (Page.eq_of_number equalNumber)
  · exact Page.name_ne_of_lt behind memberPage member equal

/-- A page that was not on display comes on display with the texts with which it last was. -/
theorem Told.turnedTo (told : Told story wizard) (shows : wizard.Shows page)
    {happening : Happening} {moved after : Wizard} {next : Page} {place : Location}
    (onward : Told ((wizard, happening) :: story) after) (displayed : after = moved.display)
    (differs : next ≠ page) (onPage : OnPage moved.plan moved.visit next)
    (plan : moved.plan = wizard.plan) (values : moved.form.values = wizard.form.values)
    (located : moved.current? = some place) :
    wizard.TurnedTo after place ((wizard, happening) :: story) := by
  -- The inputs for the page are those of no page that was just on display.
  have texts : ∀ input ∈ next.fields.map (inputFor moved.form),
      moved.form.value input.name = lastText input.name ((wizard, happening) :: story) := by
    intro input member
    obtain ⟨field, inside, rfl⟩ := List.mem_map.mp member
    have absent : field.name ∉ wizard.inputs.map LineInput.name :=
      shows.notMem_names_of_ne differs inside
    have kept : moved.form.value field.name = wizard.form.value field.name :=
      congrArg (Entries.getText · field.name) values
    show moved.form.value field.name = lastText field.name _
    rw [kept, told.value_eq_lastText absent, lastText, if_neg absent]
  obtain ⟨step, found, _, fields, displayedStep⟩ := onPage.current?
  have samePlace : step.location = place := Option.some.inj (displayedStep.symm.trans located)
  rw [display_eq onPage] at displayed
  subst displayed
  refine ⟨plan, located, ?_, ⟨rfl, ?_⟩, fun input member => ⟨texts input member, ?_⟩,
    fun input member untouched => ?_⟩
  · show (next.fields.map (inputFor moved.form)).map LineInput.name = moved.plan.fieldsAt place
    rw [← samePlace, Plan.fieldsAt_location found, fields, List.map_map]
    rfl
  · show next.fields.map (inputFor moved.form) ≠ []
    cases next <;> exact List.cons_ne_nil _ _
  · rw [← texts input member]
    obtain ⟨field, _, rfl⟩ := List.mem_map.mp member
    rfl
  · rw [← texts input member]
    exact onward.value_of_not_edited untouched

theorem Told.turnedTo_advance (told : Told story wizard) {place : Location}
    (moved : wizard.advance.1 = .moved place) :
    wizard.current?.bind wizard.plan.next? = some place ∧
      wizard.TurnedTo wizard.advance.2 place ((wizard, .pressed .enter) :: story) ∧
      wizard.advance.2.form.visited = [] := by
  obtain ⟨page, shows⟩ := told.reached.shows
  have stays := stays_visitFocused wizard
  have showsLeft := shows.stays stays
  have cases := wizard.advance_cases
  generalize wizard.visitFocused = left at stays showsLeft cases
  simp only [showsLeft.form_schema] at cases
  rcases cases with
    ⟨_, outcome⟩ | ⟨_, _, outcome⟩ | ⟨_, faultless, next, following, outcome⟩ | ⟨_, _, _, outcome⟩
  all_goals rw [outcome] at moved
  case inr.inr.inl =>
    cases moved
    obtain ⟨later, number, onward⟩ := showsLeft.onPage.push faultless following
    obtain ⟨step, found, _, _, located⟩ := onward.current?
    have samePlace : step.location = place := by
      rw [showsLeft.onPage.following?, ← number, Plan.getElem?_locations] at following
      exact Option.some.inj ((congrArg (Option.map Step.location) found).symm.trans following)
    refine ⟨?_, told.turnedTo shows (told.onward (.pressed .enter)) (congrArg Prod.snd outcome) ?_
      (onward.congr rfl rfl rfl) stays.plan stays.form.values
      (located.trans (congrArg some samePlace)), ?_⟩
    · rw [← stays.current?_eq, ← stays.plan]
      exact following
    · rintro rfl
      exact absurd number (Nat.ne_of_lt (Nat.lt_succ_self _))
    · rw [outcome, form, display_visit]
      rfl
  all_goals cases moved

theorem Told.turnedTo_retreat (told : Told story wizard) (back : wizard.retreat.1 = .back) :
    ∃ place, wizard.plan.next? place = wizard.current? ∧
      wizard.TurnedTo wizard.retreat.2 place ((wizard, .pressed .escape) :: story) := by
  obtain ⟨page, shows⟩ := told.reached.shows
  rcases wizard.retreat_cases with ⟨_, outcome⟩ | ⟨_, _, outcome⟩ | ⟨_, later, outcome⟩
  all_goals rw [outcome] at back
  case inr.inr =>
    have positive := shows.number_pos later
    have onward := shows.onPage.back positive
    obtain ⟨step, found, _, _, located⟩ := onward.current?
    obtain ⟨stepBefore, foundBefore, _, _, locatedBefore⟩ := shows.onPage.current?
    have differs : Page.personal ≠ page := by
      rintro rfl
      exact absurd positive (Nat.lt_irrefl 0)
    have account : page.number = Page.personal.number + 1 := by
      cases page with
      | personal => exact absurd rfl differs
      | account => rfl
    refine ⟨step.location, ?_, told.turnedTo shows (told.onward (.pressed .escape))
      (congrArg Prod.snd outcome) differs onward rfl rfl located⟩
    rw [Plan.next?_location found, ← account, Plan.getElem?_locations, foundBefore]
    exact locatedBefore.symm
  all_goals cases back

/-! ### Messages after another step came on display -/

/-- The keys that take the focus to another input. -/
def focusKeys : List Key :=
  [.tab, .backTab, .up, .down]

/-- What happens is not that the wizard is asked to go on, nor that the focus leaves the input for
a field. -/
def Spares (wizard : Wizard) (name : String) : Happening → Prop
  | .pressed key => key ≠ .enter ∧ (key ∈ focusKeys → wizard.focused? ≠ some name)
  | _ => True

/-- What comes of a wizard while the input for a field is spared. -/
inductive Spared (name : String) (before : Wizard) : Wizard → Prop where
  | refl : Spared name before before
  | onward {wizard : Wizard} (spared : Spared name before wizard) {happening : Happening}
    (spares : wizard.Spares name happening) : Spared name before (wizard.happen happening)

theorem notMem_visited_visitFocused (other : wizard.focused? ≠ some name)
    (unvisited : name ∉ wizard.form.visited) : name ∉ wizard.visitFocused.form.visited := by
  unfold visitFocused
  cases focused : wizard.focused? with
  | none => exact unvisited
  | some visited =>
    show name ∉ (wizard.form.visit visited).visited
    rw [Form.visit, Form.recheck_visited, Form.mem_visitAll, List.mem_singleton, not_or]
    exact ⟨unvisited, fun same => other (focused.trans (congrArg some same.symm))⟩

theorem notMem_visited_happen {happening : Happening} (spares : wizard.Spares name happening)
    (unvisited : name ∉ wizard.form.visited) : name ∉ (wizard.happen happening).form.visited := by
  cases happening with
  | ticked | failed => exact unvisited
  | pressed key =>
    obtain ⟨notEnter, other⟩ := spares
    have refocused (focuses : key ∈ focusKeys) :=
      wizard.focus_preserves (name ∉ ·.form.visited) unvisited fun _ =>
        notMem_visited_visitFocused (other focuses) unvisited
    cases key with
    | enter => exact absurd rfl notEnter
    | escape =>
      refine wizard.retreat_preserves (name ∉ ·.form.visited) unvisited unvisited ?_
      rwa [form, display_visit]
    | tab | down => exact (refocused (by decide)).1
    | backTab | up => exact (refocused (by decide)).2
    | _ =>
      refine wizard.edit_preserves (name ∉ ·.form.visited) _ (fun _ => unvisited) fun _ _ _ => ?_
      show name ∉ (Form.recheck _ _).visited
      rwa [Form.recheck_visited]

theorem Spared.shownFault? {before after : Wizard} (spared : Spared name before after)
    (unvisited : name ∉ before.form.visited) : after.form.shownFault? name = none := by
  have still : name ∉ after.form.visited := by
    induction spared with
    | refl => exact unvisited
    | onward _ spares inductionHypothesis => exact notMem_visited_happen spares inductionHypothesis
  exact if_neg fun visited => still ((Form.isVisited_iff _ name).mp visited)

/-! ### What is on display -/

/-- In every wizard that was reached, and whatever its story: when going on is refused, the wizard
stays, with the focus on the first input at fault and its message shown; when it moves, or goes
back, the step beside comes on display, with the focus on its first input, and with the text that
each input last had. After it has moved, nothing is shown about a field until the focus leaves its
input or the wizard is asked to go on again. -/
theorem displays_of_told (told : Told story wizard) :
    (∀ fields, (wizard.press .enter).1 = .advanced (.blocked fields) →
      wizard.Stopped (wizard.press .enter).2) ∧
    (∀ place, (wizard.press .enter).1 = .advanced (.moved place) →
      wizard.current?.bind wizard.plan.next? = some place ∧
        wizard.TurnedTo (wizard.press .enter).2 place ((wizard, .pressed .enter) :: story) ∧
        ∀ name after, Spared name (wizard.press .enter).2 after →
          after.form.shownFault? name = none) ∧
    ((wizard.press .escape).1 = .retreated .back →
      ∃ place, wizard.plan.next? place = wizard.current? ∧
        wizard.TurnedTo (wizard.press .escape).2 place ((wizard, .pressed .escape) :: story)) := by
  obtain ⟨page, shows⟩ := told.reached.shows
  refine ⟨fun fields blocked => ?_, fun place moved => ?_, fun back => ?_⟩
  · exact shows.stopped_advance (Action.advanced.inj blocked)
  · obtain ⟨beside, turned, unvisited⟩ := told.turnedTo_advance (Action.advanced.inj moved)
    refine ⟨beside, turned, fun name after spared => spared.shownFault? ?_⟩
    show name ∉ wizard.advance.2.form.visited
    rw [unvisited]
    exact List.not_mem_nil
  · exact told.turnedTo_retreat (Action.retreated.inj back)

/-- A wizard that was refused at first, a wizard that moved, and one that went back from a page that
was begun. -/
theorem displays_of_short_story :
    let blank := start shortPlan false
    let named := blank.pressAll (typing "A" ++ [.tab] ++ typing "L")
    let mailed := named.pressAll ([.enter] ++ typing "a@b")
    (Told [] blank ∧ (blank.press .enter).1 = .advanced (.blocked ["firstName", "lastName"]) ∧
        blank.Stopped (blank.press .enter).2) ∧
      (∃ story, Told story named ∧ (named.press .enter).1 = .advanced (.moved ⟨"/b"⟩) ∧
        named.TurnedTo (named.press .enter).2 ⟨"/b"⟩ ((named, .pressed .enter) :: story) ∧
        Spared "email" (named.press .enter).2 ((named.press .enter).2.press (.char 'a')).2 ∧
        ((named.press .enter).2.press (.char 'a')).2.form.shownFault? "email" = none) ∧
      ∃ story, Told story mailed ∧ (mailed.press .escape).1 = .retreated .back ∧
        ∃ place, mailed.TurnedTo (mailed.press .escape).2 place
          ((mailed, .pressed .escape) :: story) := by
  intro blank named mailed
  have told : Told [] blank := .opened draw_shortPlan false
  have refused : (blank.press .enter).1 = .advanced (.blocked ["firstName", "lastName"]) := by
    decide +kernel
  have moved : (named.press .enter).1 = .advanced (.moved ⟨"/b"⟩) := by decide +kernel
  have back : (mailed.press .escape).1 = .retreated .back := by decide +kernel
  obtain ⟨story, toldNamed⟩ := (told.reached.pressAll _ : Reached named).exists_told
  obtain ⟨later, toldMailed⟩ := (toldNamed.reached.pressAll _ : Reached mailed).exists_told
  have typed (wizard : Wizard) : Spared "email" wizard (wizard.press (.char 'a')).2 := by
    have spares : wizard.Spares "email" (.pressed (.char 'a')) :=
      ⟨by decide, fun focuses => absurd focuses (by decide)⟩
    exact .onward .refl spares
  obtain ⟨_, turned, silent⟩ := (displays_of_told toldNamed).2.1 _ moved
  obtain ⟨place, _, turnedBack⟩ := (displays_of_told toldMailed).2.2 back
  exact ⟨⟨told, refused, (displays_of_told told).1 _ refused⟩,
    ⟨story, toldNamed, moved, turned, typed _, silent "email" _ (typed _)⟩,
    later, toldMailed, back, place, turnedBack⟩

end Onboarding.Registration.Wizard
