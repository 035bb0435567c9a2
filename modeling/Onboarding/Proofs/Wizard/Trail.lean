/-
This file proves that a wizard's history and its steps never part. A wizard keeps
no count of how far it has come: the step on display is looked up from the present
place of a history that is cut, pushed and walked back by other code. After any
moves the history up to its present place is nevertheless the start followed by
the locations of the steps after the first, in order, as far as the step on
display.

The start is the location of the first step or a place that is no step's; both
show the first step. The form around the moves is arbitrary: it may answer anything
at each check, and it may change by itself between two moves.
-/

import Onboarding.Proofs.Wizard.Lookup
import Onboarding.Proofs.Wizard.Moves
import Onboarding.Wizard.Scripted

namespace Onboarding

/-! ### The places up to the present one -/

namespace History

/-- The places from the first to the present one. -/
def trail (history : History) : List Location :=
  history.places.take (history.index + 1)

theorem location?_eq (history : History) :
    history.location? = history.trail[history.index]? := by
  rw [location?, trail, List.getElem?_take_of_lt (Nat.lt_succ_self _)]

/-- Going on adds to the trail; what was gone back over is forgotten. -/
theorem trail_push (history : History) (place : Location) :
    (history.push place).trail = history.trail ++ [place] := by
  unfold push
  split
  · next empty =>
    rw [trail, trail, List.isEmpty_iff.mp empty, List.take_nil, List.nil_append]
    rfl
  · exact List.take_of_length_le (Nat.le_of_eq List.length_append)

theorem index_push (history : History) (place : Location) :
    (history.push place).index = history.trail.length := by
  unfold push
  split
  · next empty => rw [trail, List.isEmpty_iff.mp empty, List.take_nil, List.length_nil]
  · rfl

/-- Going back takes the last place from the trail. -/
theorem trail_back (history : History) (later : 0 < history.index) :
    history.back.trail = history.trail.take history.index := by
  rw [trail, trail, back, List.take_take, Nat.sub_add_cancel later,
    Nat.min_eq_left (Nat.le_succ _)]

theorem back_of_index_eq_zero (history : History) (first : history.index = 0) :
    history.back = history := by
  rw [back, first, Nat.zero_sub, ← first]

end History

/-! ### Where a plan stands -/

namespace Plan

variable {υ : Type} (plan : Plan υ)

/-- The history has come from the start to the step at a position: its trail is the start followed
by the locations of the steps after the first up to that one. -/
structure OnTrail (start : Location) (history : History) (position : Nat) : Prop where
  inside : position < plan.length
  index : history.index = position
  trail : history.trail = start :: (plan.locations.drop 1).take position

/-- A start that shows the first step: its location, or a place that is no step's. -/
def Opens (start : Location) : Prop :=
  plan.first? = some start ∨ start ∉ plan.locations

variable {plan} {start : Location} {history : History} {position : Nat}

theorem OnTrail.startingAt (inside : 0 < plan.length) :
    plan.OnTrail start (History.startingAt start) 0 :=
  ⟨inside, rfl, rfl⟩

/-- A start that opens a plan shows its first step. -/
theorem Opens.resolve (opens : plan.Opens start) {step : Step υ}
    (found : plan.steps[0]? = some step) :
    plan.resolve (some start) = some step.location := by
  have first : plan.first? = some step.location := by
    rw [first?_eq, getElem?_locations, found, Option.map_some]
  rcases opens with shown | unknown
  · rw [← shown, first]
    exact resolve_location found
  · rw [resolve_of_notMem unknown, first]

namespace OnTrail

variable (onTrail : plan.OnTrail start history position)

include onTrail

/-- Behind the start, the present place is the location of the step at the position. -/
theorem location?_of_pos (later : 0 < position) :
    history.location? = plan.locations[position]? := by
  obtain ⟨before, rfl⟩ := Nat.exists_eq_add_of_lt later
  rw [History.location?_eq, onTrail.index, onTrail.trail, Nat.zero_add, List.getElem?_cons_succ,
    List.getElem?_take_of_lt (Nat.lt_succ_self _), List.getElem?_drop, Nat.add_comm 1]

theorem location?_of_eq_zero (first : position = 0) : history.location? = some start := by
  rw [History.location?_eq, onTrail.index, onTrail.trail, first, List.getElem?_cons_zero]

/-- The step on display is the one at the position. -/
theorem resolve (opens : plan.Opens start) {step : Step υ}
    (found : plan.steps[position]? = some step) :
    plan.resolve history.location? = some step.location := by
  rcases Nat.eq_zero_or_pos position with first | later
  · rw [onTrail.location?_of_eq_zero first]
    exact opens.resolve (first ▸ found)
  · rw [onTrail.location?_of_pos later, getElem?_locations, found, Option.map_some]
    exact resolve_location found

/-- Going on to the next step prolongs the trail by one. -/
theorem push {place : Location} (next : plan.locations[position + 1]? = some place) :
    plan.OnTrail start (history.push place) (position + 1) where
  inside := by
    have bound := (List.getElem?_eq_some_iff.mp next).1
    rwa [locations, List.length_map] at bound
  index := by
    have short : position ≤ plan.locations.length - 1 := by
      rw [locations, List.length_map]
      exact Nat.le_sub_one_of_lt onTrail.inside
    rw [History.index_push, onTrail.trail, List.length_cons, List.length_take, List.length_drop,
      Nat.min_eq_left short]
  trail := by
    have added : (plan.locations.drop 1)[position]? = some place := by
      rw [List.getElem?_drop, Nat.add_comm 1, next]
    rw [History.trail_push, onTrail.trail, List.cons_append, List.take_add_one, added,
      Option.toList_some]

/-- Going back from a later step shortens the trail by one. -/
theorem back (later : 0 < position) : plan.OnTrail start history.back (position - 1) where
  inside := Nat.lt_of_le_of_lt (Nat.sub_le position 1) onTrail.inside
  index := by rw [History.back, onTrail.index]
  trail := by
    obtain ⟨before, rfl⟩ := Nat.exists_eq_add_of_lt later
    rw [History.trail_back history (by rw [onTrail.index]; exact later), onTrail.index,
      onTrail.trail, Nat.zero_add, List.take_succ_cons, List.take_take, Nat.add_sub_cancel,
      Nat.min_eq_left (Nat.le_succ _)]

end OnTrail

end Plan

/-! ### Moves along the trail -/

/-- How the position changes with what came of going on: by one step, to the place named, or not at
all; only the last step hands in. -/
def Advance.Shifts {υ : Type} (plan : Plan υ) (before after : Nat) : Advance → Prop
  | .moved place => after = before + 1 ∧ plan.locations[after]? = some place
  | .submitted => after = before ∧ before + 1 = plan.length
  | .blocked _ => after = before
  | .ignored => after = before

/-- How the position changes with what came of going back: by one step, or not at all; only the
first step is left. -/
def Retreat.Shifts (before after : Nat) : Retreat → Prop
  | .back => before = after + 1
  | .exited => before = 0 ∧ after = before
  | .ignored => after = before

namespace Visit

variable {υ σ : Type} {plan : Plan υ} {start : Location}

/-- The visits that come of going on and going back. Between the moves the form may become any
other form. -/
inductive Reached (plan : Plan υ) (operations : FormOperations σ) (start : Location) :
    Visit σ → Prop where
  | opened (form : σ) (exits : Nat) :
    Reached plan operations start ⟨form, .startingAt start, exits⟩
  | changed {visit : Visit σ} (reached : Reached plan operations start visit) (form : σ) :
    Reached plan operations start { visit with form }
  | advanced {visit : Visit σ} (reached : Reached plan operations start visit) :
    Reached plan operations start (plan.advance operations.surroundings visit).2
  | retreated {visit : Visit σ} (reached : Reached plan operations start visit) :
    Reached plan operations start (plan.retreat operations.surroundings visit).2

variable {visit : Visit σ} {position : Nat} (operations : FormOperations σ)

/-- The step on display on the way of a visit. -/
theorem current?_of_onTrail (opens : plan.Opens start)
    (onTrail : plan.OnTrail start visit.history position) {step : Step υ}
    (found : plan.steps[position]? = some step) :
    plan.current? operations.surroundings visit = some step.location :=
  onTrail.resolve opens found

/-- The step after the one on display on the way of a visit. -/
theorem following?_of_onTrail (opens : plan.Opens start)
    (onTrail : plan.OnTrail start visit.history position) :
    plan.following? operations.surroundings visit = plan.locations[position + 1]? := by
  obtain ⟨step, found⟩ := plan.exists_step onTrail.inside
  rw [Plan.following?, current?_of_onTrail operations opens onTrail found, Option.bind_some,
    Plan.next?_location found]

/-- Going on stays on the trail. -/
theorem onTrail_advance (opens : plan.Opens start)
    (onTrail : plan.OnTrail start visit.history position) :
    ∃ next, plan.OnTrail start (plan.advance operations.surroundings visit).2.history next ∧
      (plan.advance operations.surroundings visit).1.Shifts plan position next := by
  have checkedTrail : plan.OnTrail start (operations.surroundings.validate visit).2.history
      position := onTrail
  rcases plan.advance_cases operations.surroundings visit with
    ⟨_, outcome⟩ | ⟨_, _, outcome⟩ | ⟨_, _, place, following, outcome⟩ |
      ⟨_, _, following, outcome⟩
  · rw [outcome]
    exact ⟨position, onTrail, rfl⟩
  · rw [outcome]
    exact ⟨position, onTrail, rfl⟩
  · rw [outcome]
    rw [following?_of_onTrail operations opens checkedTrail] at following
    exact ⟨position + 1, onTrail.push following, rfl, following⟩
  · rw [outcome]
    rw [following?_of_onTrail operations opens checkedTrail, List.getElem?_eq_none_iff,
      Plan.locations, List.length_map] at following
    exact ⟨position, onTrail, rfl, Nat.le_antisymm onTrail.inside following⟩

/-- Going back stays on the trail. -/
theorem onTrail_retreat (opens : plan.Opens start)
    (onTrail : plan.OnTrail start visit.history position) :
    ∃ next, plan.OnTrail start (plan.retreat operations.surroundings visit).2.history next ∧
      (plan.retreat operations.surroundings visit).1.Shifts position next := by
  obtain ⟨step, found⟩ := plan.exists_step onTrail.inside
  have displayed : plan.current? operations.surroundings visit = some step.location :=
    current?_of_onTrail operations opens onTrail found
  rcases plan.retreat_cases operations.surroundings visit with
    ⟨_, outcome⟩ | ⟨_, ⟨current, located, first⟩, outcome⟩ | ⟨_, later, outcome⟩
  · rw [outcome]
    exact ⟨position, onTrail, rfl⟩
  · rw [outcome]
    have same : step.location = current := Option.some.inj (displayed.symm.trans located)
    have zero : position = 0 := (Plan.isFirst_location found).mp (same ▸ first)
    have kept : visit.history.back = visit.history :=
      visit.history.back_of_index_eq_zero (onTrail.index.trans zero)
    refine ⟨position, ?_, zero, rfl⟩
    show plan.OnTrail start visit.history.back position
    rw [kept]
    exact onTrail
  · rw [outcome]
    have positive : 0 < position := by
      refine Nat.pos_of_ne_zero fun zero => ?_
      have first : plan.isFirst step.location = true := (Plan.isFirst_location found).mpr zero
      rw [later step.location displayed] at first
      cases first
    exact ⟨position - 1, onTrail.back positive, (Nat.sub_add_cancel positive).symm⟩

/-- Every visit that was reached is on the trail. -/
theorem Reached.onTrail (inside : 0 < plan.length) (opens : plan.Opens start)
    (reached : Reached plan operations start visit) :
    ∃ position, plan.OnTrail start visit.history position := by
  induction reached with
  | opened form exits => exact ⟨0, .startingAt inside⟩
  | changed reached form inductionHypothesis => exact inductionHypothesis
  | advanced reached inductionHypothesis =>
    obtain ⟨position, onTrail⟩ := inductionHypothesis
    obtain ⟨next, onward, _⟩ := onTrail_advance operations opens onTrail
    exact ⟨next, onward⟩
  | retreated reached inductionHypothesis =>
    obtain ⟨position, onTrail⟩ := inductionHypothesis
    obtain ⟨next, onward, _⟩ := onTrail_retreat operations opens onTrail
    exact ⟨next, onward⟩

/-- The visit shows the step at a position, and its history up to the present place is the start
followed by the locations of the steps after the first up to that one. -/
def StandsAt (plan : Plan υ) (operations : FormOperations σ) (start : Location)
    (visit : Visit σ) (position : Nat) : Prop :=
  (plan.current? operations.surroundings visit).bind plan.position? = some position ∧
    visit.history.places.take (visit.history.index + 1) =
      start :: (plan.locations.drop 1).take position

theorem standsAt_of_onTrail (opens : plan.Opens start)
    (onTrail : plan.OnTrail start visit.history position) :
    visit.StandsAt plan operations start position := by
  obtain ⟨step, found⟩ := plan.exists_step onTrail.inside
  refine ⟨?_, onTrail.trail⟩
  rw [current?_of_onTrail operations opens onTrail found, Option.bind_some,
    Plan.position?_location found]

/-- A visit starts at the first step; after any moves it stands at some step, with the history
telling the way, and every further move shifts the step as its outcome says. -/
theorem standsAt_of_reached (plan : Plan υ) (operations : FormOperations σ) (start : Location)
    (inside : 0 < plan.length) (opens : plan.first? = some start ∨ start ∉ plan.locations) :
    (∀ form exits,
      StandsAt plan operations start ⟨form, History.startingAt start, exits⟩ 0) ∧
    ∀ visit, Reached plan operations start visit →
      ∃ position, StandsAt plan operations start visit position ∧
        (∃ next,
          StandsAt plan operations start (plan.advance operations.surroundings visit).2 next ∧
          (plan.advance operations.surroundings visit).1.Shifts plan position next) ∧
        ∃ next,
          StandsAt plan operations start (plan.retreat operations.surroundings visit).2 next ∧
          (plan.retreat operations.surroundings visit).1.Shifts position next := by
  refine ⟨fun form exits => standsAt_of_onTrail operations opens (.startingAt inside),
    fun visit reached => ?_⟩
  obtain ⟨position, onTrail⟩ := reached.onTrail operations inside opens
  obtain ⟨onward, onwardTrail, onwardShift⟩ := onTrail_advance operations
    opens onTrail
  obtain ⟨backward, backwardTrail, backwardShift⟩ := onTrail_retreat operations
    opens onTrail
  exact ⟨position, standsAt_of_onTrail operations opens onTrail,
    ⟨onward, standsAt_of_onTrail operations opens onwardTrail, onwardShift⟩,
    ⟨backward, standsAt_of_onTrail operations opens backwardTrail, backwardShift⟩⟩

/-- Three steps, entered from a place that is none of theirs and gone through to the last. -/
theorem standsAt_of_three_steps :
    let plan : Plan Unit :=
      ⟨[⟨⟨"/a"⟩, (), ["x"]⟩, ⟨⟨"/b"⟩, (), ["y"]⟩, ⟨⟨"/c"⟩, (), ["z"]⟩], by decide⟩
    let move (visit : Visit ScriptedForm) : Visit ScriptedForm :=
      (plan.advance ScriptedForm.operations.surroundings visit).2
    let last := move (move ⟨.initial, .startingAt ⟨"/"⟩, 0⟩)
    0 < plan.length ∧ (plan.first? = some ⟨"/"⟩ ∨ ⟨"/"⟩ ∉ plan.locations) ∧
      last.history.location? = some ⟨"/c"⟩ ∧
      Reached plan ScriptedForm.operations ⟨"/"⟩ last ∧
      ∃ position, StandsAt plan ScriptedForm.operations ⟨"/"⟩ last position ∧
        (∃ next, StandsAt plan ScriptedForm.operations ⟨"/"⟩ (move last) next ∧
          (plan.advance ScriptedForm.operations.surroundings last).1.Shifts plan position
            next) ∧
        ∃ next,
          StandsAt plan ScriptedForm.operations ⟨"/"⟩
            (plan.retreat ScriptedForm.operations.surroundings last).2 next ∧
          (plan.retreat ScriptedForm.operations.surroundings last).1.Shifts position next := by
  intro plan move last
  have inside : 0 < plan.length := by decide
  have unknown : (⟨"/"⟩ : Location) ∉ plan.locations := by decide
  have reached : Reached plan ScriptedForm.operations ⟨"/"⟩ last :=
    .advanced (.advanced (.opened ScriptedForm.initial 0))
  exact ⟨inside, Or.inr unknown, by decide, reached,
    (standsAt_of_reached plan ScriptedForm.operations ⟨"/"⟩ inside (Or.inr unknown)).2 last
      reached⟩

end Visit

end Onboarding
