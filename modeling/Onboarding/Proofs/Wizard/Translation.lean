/-
This file proves that a wizard does not depend on the locations that were drawn for
its steps. Two plans with the same contents are gone through alike, whatever the
locations of each: with every location of the one plan replaced by the location that
the other plan gave to the same step, the same is asked of the form, and the same is
answered and shown.

A plan looks at a place only to find the step that is there. So it is enough that
the places that were visited are told apart in the same way by both plans, which is
the case for the locations of the first one and for the places that neither knows.
The forms behind the two wizards may differ as well, as long as they behave alike.
-/

import Onboarding.Proofs.Wizard.Lookup
import Onboarding.Proofs.Wizard.Moves

namespace Onboarding

/-! ### Places that correspond -/

namespace Plan

variable {υ : Type} (plan other : Plan υ)

/-- The place with a location of the plan replaced by the one that another plan gave to the same
step; a place that is no step's stays. -/
def translate (place : Location) : Location :=
  ((plan.position? place).bind fun index => other.locations[index]?).getD place

/-- The place is a step's in this plan, or a step's in neither of the two. -/
def Knows (place : Location) : Prop :=
  place ∈ other.locations → place ∈ plan.locations

variable {plan other}

/-! ### What the plans find there -/

variable (same : plan.contents = other.contents)

include same

/-- The other plan has a step of the same number, with the same page and the same fields. -/
theorem exists_counterpart {index : Nat} {step : Step υ}
    (found : plan.steps[index]? = some step) :
    ∃ counterpart, other.steps[index]? = some counterpart ∧ counterpart.page = step.page ∧
      counterpart.fields = step.fields := by
  have content : plan.contents[index]? = some ⟨step.page, step.fields⟩ := by
    rw [contents, List.getElem?_map, found, Option.map_some]
  exact exists_step_of_contents same.symm content

omit same in
theorem translate_location {index : Nat} {step counterpart : Step υ}
    (found : plan.steps[index]? = some step)
    (foundOther : other.steps[index]? = some counterpart) :
    plan.translate other step.location = counterpart.location := by
  rw [translate, position?_location found, Option.bind_some, getElem?_locations, foundOther,
    Option.map_some, Option.getD_some]

omit same in
theorem translate_of_notMem {place : Location} (unknown : place ∉ plan.locations) :
    plan.translate other place = place := by
  rw [translate, position?_of_notMem unknown, Option.bind_none, Option.getD_none]

/-- A place that the plan knows is that of two steps of the same number, or of no step at all. All
look-ups are compared by these two cases. -/
theorem knows_cases {place : Location} (knows : plan.Knows other place) :
    (∃ (index : Nat) (step counterpart : Step υ),
      plan.steps[index]? = some step ∧ other.steps[index]? = some counterpart ∧
        counterpart.page = step.page ∧ counterpart.fields = step.fields ∧
          place = step.location ∧ plan.translate other place = counterpart.location) ∨
    (place ∉ plan.locations ∧ place ∉ other.locations ∧ plan.translate other place = place) := by
  by_cases member : place ∈ plan.locations
  · obtain ⟨index, step, found, rfl⟩ := exists_step_of_mem member
    obtain ⟨counterpart, foundOther, samePage, sameFields⟩ := exists_counterpart same found
    exact Or.inl ⟨index, step, counterpart, found, foundOther, samePage, sameFields, rfl,
      translate_location found foundOther⟩
  · exact Or.inr ⟨member, fun memberOther => member (knows memberOther),
      translate_of_notMem member⟩

theorem getElem?_locations_translate (index : Nat) :
    other.locations[index]? = plan.locations[index]?.map (plan.translate other) := by
  rw [getElem?_locations, getElem?_locations]
  cases found : plan.steps[index]? with
  | none =>
    have outside : other.steps[index]? = none := by
      rw [List.getElem?_eq_none_iff] at found ⊢
      have lengths : other.length = plan.length :=
        (length_of_contents rfl).trans (length_of_contents same).symm
      exact Nat.le_trans (Nat.le_of_eq lengths) found
    rw [outside]
    rfl
  | some step =>
    obtain ⟨counterpart, foundOther, _⟩ := exists_counterpart same found
    rw [foundOther, Option.map_some, Option.map_some, Option.map_some,
      translate_location found foundOther]

theorem first?_translate : other.first? = plan.first?.map (plan.translate other) := by
  rw [first?_eq, first?_eq, getElem?_locations_translate same]

variable {place : Location} (knows : plan.Knows other place)

include knows

theorem position?_translate :
    other.position? (plan.translate other place) = plan.position? place := by
  rcases knows_cases same knows with
    ⟨index, step, counterpart, found, foundOther, _, _, rfl, translated⟩ |
      ⟨unknown, unknownOther, translated⟩
  · rw [translated, position?_location found, position?_location foundOther]
  · rw [translated, position?_of_notMem unknown, position?_of_notMem unknownOther]

theorem next?_translate :
    other.next? (plan.translate other place) =
      (plan.next? place).map (plan.translate other) := by
  rw [next?, next?, position?_translate same knows, Option.map_bind]
  refine congrArg (Option.bind _) (funext fun index => ?_)
  show _ = Option.map _ (plan.steps[index + 1]?.map Step.location)
  rw [← getElem?_locations, ← getElem?_locations, getElem?_locations_translate same]

theorem page?_translate : other.page? (plan.translate other place) = plan.page? place := by
  rcases knows_cases same knows with
    ⟨index, step, counterpart, found, foundOther, samePage, _, rfl, translated⟩ |
      ⟨unknown, unknownOther, translated⟩
  · rw [translated, page?, page?, step?_location found, step?_location foundOther,
      Option.map_some, Option.map_some, samePage]
  · rw [translated, page?, page?, step?_of_notMem unknown, step?_of_notMem unknownOther]

theorem fieldsAt_translate :
    other.fieldsAt (plan.translate other place) = plan.fieldsAt place := by
  rcases knows_cases same knows with
    ⟨index, step, counterpart, found, foundOther, _, sameFields, rfl, translated⟩ |
      ⟨unknown, unknownOther, translated⟩
  · rw [translated, fieldsAt_location found, fieldsAt_location foundOther, sameFields]
  · rw [translated, fieldsAt, fieldsAt, step?_of_notMem unknown, step?_of_notMem unknownOther]

/-- The place stands for steps of the same number. -/
theorem resolve_translate :
    other.resolve (some (plan.translate other place)) =
      (plan.resolve (some place)).map (plan.translate other) := by
  rcases knows_cases same knows with
    ⟨index, step, counterpart, found, foundOther, _, _, rfl, translated⟩ |
      ⟨unknown, unknownOther, translated⟩
  · rw [translated, resolve_location found, resolve_location foundOther, Option.map_some,
      translated]
  · rw [translated, resolve_of_notMem unknown, resolve_of_notMem unknownOther,
      first?_translate same]

omit knows in
theorem isFirst_translate (member : place ∈ plan.locations) :
    other.isFirst (plan.translate other place) = plan.isFirst place := by
  obtain ⟨index, step, found, rfl⟩ := exists_step_of_mem member
  obtain ⟨counterpart, foundOther, _⟩ := exists_counterpart same found
  rw [translate_location found foundOther, Bool.eq_iff_iff, isFirst_location found,
    isFirst_location foundOther]

end Plan

/-! ### Histories with other places -/

namespace History

/-- The history with each of its places replaced. -/
def map (replacement : Location → Location) (history : History) : History :=
  { history with places := history.places.map replacement }

variable (replacement : Location → Location) (history : History) (place : Location)

theorem location?_map :
    (history.map replacement).location? = history.location?.map replacement :=
  List.getElem?_map

theorem push_map :
    (history.map replacement).push (replacement place) =
      (history.push place).map replacement := by
  unfold push map
  rw [List.isEmpty_map]
  split
  · rfl
  · simp only [List.map_append, List.map_take, List.length_take, List.length_map, List.map_cons,
      List.map_nil]

theorem replace_map :
    (history.map replacement).replace (replacement place) =
      (history.replace place).map replacement := by
  unfold replace map
  simp only [List.length_map]
  split
  · simp only [List.map_set]
  · simp only [List.map_append, List.map_cons, List.map_nil]

theorem back_map : (history.map replacement).back = history.back.map replacement := rfl

theorem mem_push {old : Location} (member : old ∈ (history.push place).places) :
    old = place ∨ old ∈ history.places := by
  unfold push at member
  split at member
  · exact Or.inl (List.mem_singleton.mp member)
  · rcases List.mem_append.mp member with kept | new
    · exact Or.inr (List.mem_of_mem_take kept)
    · exact Or.inl (List.mem_singleton.mp new)

theorem mem_replace {old : Location} (member : old ∈ (history.replace place).places) :
    old = place ∨ old ∈ history.places := by
  unfold replace at member
  split at member
  · exact (List.mem_or_eq_of_mem_set member).symm
  · rcases List.mem_append.mp member with kept | new
    · exact Or.inr kept
    · exact Or.inl (List.mem_singleton.mp new)

end History

/-! ### Visits that correspond -/

section Counterparts

variable {υ σ τ : Type}

/-- Forms that a relation holds of answer alike, and the relation holds again of what becomes of
them. -/
structure FormOperations.BehaveAlike (operations : FormOperations σ) (others : FormOperations τ)
    (related : σ → τ → Prop) : Prop where
  submitting : ∀ {form other}, related form other →
    others.submitting other = operations.submitting form
  faults : ∀ {form other}, related form other →
    (others.validate other).1 = (operations.validate form).1
  validate : ∀ {form other}, related form other →
    related (operations.validate form).2 (others.validate other).2
  submit : ∀ {form other}, related form other →
    related (operations.submit form) (others.submit other)
  restart : ∀ {form other}, related form other →
    related (operations.reset (operations.values form) form)
      (others.reset (others.values other) other)

/-- Each form behaves as itself. -/
theorem FormOperations.behaveAlike_eq (operations : FormOperations σ) :
    operations.BehaveAlike operations Eq := by
  constructor <;> rintro form _ rfl <;> rfl

namespace Visit

/-- The visits stand at places that correspond, with related forms. -/
structure Counterparts (plan other : Plan υ) (related : σ → τ → Prop) (visit : Visit σ)
    (counterpart : Visit τ) : Prop where
  form : related visit.form counterpart.form
  history : counterpart.history = visit.history.map (plan.translate other)
  exits : counterpart.exits = visit.exits
  known : ∀ place ∈ visit.history.places, plan.Knows other place

end Visit

/-- The answer with the place that it names replaced. -/
def Advance.map (replacement : Location → Location) : Advance → Advance
  | moved place => moved (replacement place)
  | outcome => outcome

namespace Visit.Counterparts

variable {plan other : Plan υ} {operations : FormOperations σ} {others : FormOperations τ}
  {related : σ → τ → Prop} {visit : Visit σ} {counterpart : Visit τ}
  (counterparts : Counterparts plan other related visit counterpart)

include counterparts

/-- Another pair of related forms. -/
theorem withForms {form : σ} {otherForm : τ} (forms : related form otherForm) :
    Counterparts plan other related { visit with form } { counterpart with form := otherForm } :=
  ⟨forms, counterparts.history, counterparts.exits, counterparts.known⟩

/-- Going to a place that the plan knows. -/
theorem push {place : Location} (knows : plan.Knows other place) :
    Counterparts plan other related { visit with history := visit.history.push place }
      { counterpart with
        history := counterpart.history.push (plan.translate other place) } where
  form := counterparts.form
  history := by rw [counterparts.history, History.push_map]
  exits := counterparts.exits
  known old member := by
    rcases History.mem_push _ _ member with rfl | before
    · exact knows
    · exact counterparts.known old before

theorem replace {place : Location} (knows : plan.Knows other place) :
    Counterparts plan other related { visit with history := visit.history.replace place }
      { counterpart with
        history := counterpart.history.replace (plan.translate other place) } where
  form := counterparts.form
  history := by rw [counterparts.history, History.replace_map]
  exits := counterparts.exits
  known old member := by
    rcases History.mem_replace _ _ member with rfl | before
    · exact knows
    · exact counterparts.known old before

theorem back :
    Counterparts plan other related { visit with history := visit.history.back }
      { counterpart with history := counterpart.history.back } where
  form := counterparts.form
  history := by rw [counterparts.history, History.back_map]
  exits := counterparts.exits
  known := counterparts.known

theorem leave :
    Counterparts plan other related { visit with exits := visit.exits + 1 }
      { counterpart with exits := counterpart.exits + 1 } where
  form := counterparts.form
  history := counterparts.history
  exits := congrArg Nat.succ counterparts.exits
  known := counterparts.known

variable (same : plan.contents = other.contents) (operations others)

include same

/-- The same step is on display. -/
theorem current? :
    other.current? others.surroundings counterpart =
      (plan.current? operations.surroundings visit).map (plan.translate other) := by
  show other.resolve counterpart.history.location? = (plan.resolve visit.history.location?).map _
  rw [counterparts.history, History.location?_map]
  cases located : visit.history.location? with
  | none => exact Plan.first?_translate same
  | some place =>
    exact Plan.resolve_translate same (counterparts.known place (List.mem_of_getElem? located))

/-- The same step follows. -/
theorem following? :
    other.following? others.surroundings counterpart =
      (plan.following? operations.surroundings visit).map (plan.translate other) := by
  unfold Plan.following?
  rw [counterparts.current? operations others same]
  cases resolved : plan.current? operations.surroundings visit with
  | none => rfl
  | some current =>
    exact Plan.next?_translate same fun _ => Plan.mem_of_resolve resolved

/-- The same page is on display. -/
theorem page? :
    (other.current? others.surroundings counterpart).bind other.page? =
      (plan.current? operations.surroundings visit).bind plan.page? := by
  rw [counterparts.current? operations others same]
  cases located : plan.current? operations.surroundings visit with
  | none => rfl
  | some current => exact Plan.page?_translate same fun _ => Plan.mem_of_resolve located

/-- The step on display has the same number. -/
theorem position? :
    (other.current? others.surroundings counterpart).bind other.position? =
      (plan.current? operations.surroundings visit).bind plan.position? := by
  rw [counterparts.current? operations others same]
  cases located : plan.current? operations.surroundings visit with
  | none => rfl
  | some current => exact Plan.position?_translate same fun _ => Plan.mem_of_resolve located

/-- The same fields are at fault. -/
theorem fieldsAtFault (faults : Entries) :
    other.fieldsAtFault (other.current? others.surroundings counterpart) faults =
      plan.fieldsAtFault (plan.current? operations.surroundings visit) faults := by
  unfold Plan.fieldsAtFault
  rw [counterparts.current? operations others same]
  cases resolved : plan.current? operations.surroundings visit with
  | none => rfl
  | some current =>
    simp only [Option.map_some, Option.getD_some,
      Plan.fieldsAt_translate same fun _ => Plan.mem_of_resolve resolved]

variable {operations others} (alike : operations.BehaveAlike others related)

include alike

/-- The control for going on offers the same. -/
theorem forwardLabel :
    other.forwardLabel others.surroundings counterpart =
      plan.forwardLabel operations.surroundings visit := by
  have submitting : others.surroundings.submitting counterpart =
      operations.surroundings.submitting visit := alike.submitting counterparts.form
  unfold Plan.forwardLabel
  rw [submitting, counterparts.following? operations others same, Option.isSome_map]

/-- Going on comes to the same. -/
theorem advance :
    (other.advance others.surroundings counterpart).1 =
      (plan.advance operations.surroundings visit).1.map (plan.translate other) ∧
    Counterparts plan other related (plan.advance operations.surroundings visit).2
      (other.advance others.surroundings counterpart).2 := by
  have submitting : others.surroundings.submitting counterpart =
      operations.surroundings.submitting visit := alike.submitting counterparts.form
  have faults : (others.surroundings.validate counterpart).1 =
      (operations.surroundings.validate visit).1 := alike.faults counterparts.form
  have checked : Counterparts plan other related (operations.surroundings.validate visit).2
      (others.surroundings.validate counterpart).2 :=
    counterparts.withForms (alike.validate counterparts.form)
  have atFault : other.fieldsAtFault (other.current? others.surroundings
        (others.surroundings.validate counterpart).2)
        (others.surroundings.validate counterpart).1 =
      plan.fieldsAtFault (plan.current? operations.surroundings
        (operations.surroundings.validate visit).2) (operations.surroundings.validate visit).1 := by
    rw [faults]
    exact checked.fieldsAtFault operations others same (operations.surroundings.validate visit).1
  have following := checked.following? operations others same
  rcases plan.advance_cases operations.surroundings visit with
    ⟨busy, outcome⟩ | ⟨idle, faulty, outcome⟩ | ⟨idle, faultless, next, onward, outcome⟩ |
      ⟨idle, faultless, last, outcome⟩
  · rw [outcome, other.advance_of_submitting (submitting.trans busy)]
    exact ⟨rfl, counterparts⟩
  · have faultyOther := faulty
    rw [← atFault] at faultyOther
    rw [outcome, other.advance_of_faulty (submitting.trans idle) faultyOther, atFault]
    exact ⟨rfl, checked.withForms (alike.submit checked.form)⟩
  · rw [onward] at following
    rw [outcome, other.advance_of_following (submitting.trans idle) (atFault.trans faultless)
      following]
    obtain ⟨_, _, isNext⟩ := Option.bind_eq_some_iff.mp onward
    exact ⟨rfl, (checked.withForms (alike.restart checked.form)).push
      fun _ => Plan.mem_of_next? isNext⟩
  · rw [last] at following
    rw [outcome, other.advance_of_last (submitting.trans idle) (atFault.trans faultless) following]
    exact ⟨rfl, checked.withForms (alike.submit checked.form)⟩

/-- Going back comes to the same. -/
theorem retreat :
    (other.retreat others.surroundings counterpart).1 =
      (plan.retreat operations.surroundings visit).1 ∧
    Counterparts plan other related (plan.retreat operations.surroundings visit).2
      (other.retreat others.surroundings counterpart).2 := by
  have submitting : others.surroundings.submitting counterpart =
      operations.surroundings.submitting visit := alike.submitting counterparts.form
  have first : ((other.current? others.surroundings counterpart).map other.isFirst).getD false =
      ((plan.current? operations.surroundings visit).map plan.isFirst).getD false := by
    rw [counterparts.current? operations others same]
    cases located : plan.current? operations.surroundings visit with
    | none => rfl
    | some current => exact Plan.isFirst_translate same (Plan.mem_of_resolve located)
  cases busy : operations.surroundings.submitting visit with
  | true =>
    rw [plan.retreat_of_submitting busy, other.retreat_of_submitting (submitting.trans busy)]
    exact ⟨rfl, counterparts⟩
  | false =>
    rw [plan.retreat_of_idle busy, other.retreat_of_idle (submitting.trans busy), first]
    split
    · exact ⟨rfl, counterparts.leave.back⟩
    · exact ⟨rfl, counterparts.back⟩

end Visit.Counterparts

end Counterparts

end Onboarding
