/-
This file proves what a plan finds at the location of a step: since no two steps
are at one location, looking up the location of the step at an index finds that
step, its index and its successor, and any other place stands for the first step.
-/

import Onboarding.Wizard.Plan

namespace Onboarding.Plan

variable {υ : Type} (plan : Plan υ)

/-! ### Steps by their index -/

theorem getElem?_locations (index : Nat) :
    plan.locations[index]? = plan.steps[index]?.map Step.location :=
  List.getElem?_map

theorem exists_step {index : Nat} (bound : index < plan.length) :
    ∃ step, plan.steps[index]? = some step :=
  ⟨plan.steps.get ⟨index, bound⟩, List.getElem?_eq_getElem bound⟩

theorem lt_length {index : Nat} {step : Step υ} (found : plan.steps[index]? = some step) :
    index < plan.length :=
  (List.getElem?_eq_some_iff.mp found).1

/-- No two steps are at one location. -/
theorem index_unique {first second : Nat} {firstStep secondStep : Step υ}
    (foundFirst : plan.steps[first]? = some firstStep)
    (foundSecond : plan.steps[second]? = some secondStep)
    (same : firstStep.location = secondStep.location) : first = second := by
  have equal : plan.locations[first]? = plan.locations[second]? := by
    rw [getElem?_locations, getElem?_locations, foundFirst, foundSecond, Option.map_some,
      Option.map_some, same]
  have bound : first < plan.locations.length := by
    rw [locations, List.length_map]
    exact plan.lt_length foundFirst
  exact (List.getElem?_inj bound plan.distinct).mp equal

variable {plan}

/-- A location of the plan is that of one of its steps. -/
theorem exists_step_of_mem {place : Location} (member : place ∈ plan.locations) :
    ∃ (index : Nat) (step : Step υ), plan.steps[index]? = some step ∧ step.location = place := by
  obtain ⟨step, found, located⟩ := List.mem_map.mp member
  obtain ⟨index, atIndex⟩ := List.mem_iff_getElem?.mp found
  exact ⟨index, step, atIndex, located⟩

/-- A search for the location of a step passes over the steps before it. -/
theorem not_beq_of_lt {index other : Nat} (bound : index < plan.steps.length)
    (before : other < index) :
    (!(plan.steps[other].location == plan.steps[index].location)) = true := by
  have differs : plan.steps[other].location ≠ plan.steps[index].location := by
    intro same
    have equal := plan.index_unique (List.getElem?_eq_getElem (Nat.lt_trans before bound))
      (List.getElem?_eq_getElem bound) same
    exact Nat.ne_of_lt before equal
  simpa using differs

/-! ### What is found at a step's location -/

theorem step?_location {index : Nat} {step : Step υ} (found : plan.steps[index]? = some step) :
    plan.step? step.location = some step := by
  obtain ⟨bound, rfl⟩ := List.getElem?_eq_some_iff.mp found
  refine List.find?_eq_some_iff_getElem.mpr
    ⟨beq_self_eq_true _, index, bound, rfl, fun _ before => ?_⟩
  exact not_beq_of_lt bound before

theorem position?_location {index : Nat} {step : Step υ}
    (found : plan.steps[index]? = some step) :
    plan.position? step.location = some index := by
  obtain ⟨bound, rfl⟩ := List.getElem?_eq_some_iff.mp found
  exact List.findIdx?_eq_some_iff_getElem.mpr
    ⟨bound, beq_self_eq_true _, fun _ before => by simpa using not_beq_of_lt bound before⟩

theorem next?_location {index : Nat} {step : Step υ} (found : plan.steps[index]? = some step) :
    plan.next? step.location = plan.locations[index + 1]? := by
  rw [next?, position?_location found, Option.bind_some, getElem?_locations]

theorem fieldsAt_location {index : Nat} {step : Step υ}
    (found : plan.steps[index]? = some step) :
    plan.fieldsAt step.location = step.fields := by
  rw [fieldsAt, step?_location found, Option.map_some, Option.getD_some]

theorem mem_of_next? {place next : Location} (following : plan.next? place = some next) :
    next ∈ plan.locations := by
  obtain ⟨index, _, found⟩ := Option.bind_eq_some_iff.mp following
  rw [← getElem?_locations] at found
  exact List.mem_of_getElem? found

theorem first?_eq (plan : Plan υ) : plan.first? = plan.locations[0]? := by
  rw [getElem?_locations, first?, List.head?_eq_getElem?]

/-- A step is the first exactly when its index is zero. -/
theorem isFirst_location {index : Nat} {step : Step υ}
    (found : plan.steps[index]? = some step) :
    plan.isFirst step.location = true ↔ index = 0 := by
  rw [isFirst, beq_iff_eq, first?_eq, getElem?_locations]
  constructor
  · intro first
    obtain ⟨head, foundHead, same⟩ := Option.map_eq_some_iff.mp first
    exact (plan.index_unique foundHead found same).symm
  · rintro rfl
    rw [found, Option.map_some]

/-! ### What a place stands for -/

theorem resolve_location {index : Nat} {step : Step υ}
    (found : plan.steps[index]? = some step) :
    plan.resolve (some step.location) = some step.location := by
  rw [resolve, Option.bind_some, step?_location found, Option.map_some, Option.some_or]

theorem step?_of_notMem {place : Location} (unknown : place ∉ plan.locations) :
    plan.step? place = none := by
  rw [step?, List.find?_eq_none]
  intro step member
  have differs : step.location ≠ place := fun same =>
    unknown (same ▸ List.mem_map_of_mem member)
  simpa using differs

theorem position?_of_notMem {place : Location} (unknown : place ∉ plan.locations) :
    plan.position? place = none := by
  rw [position?, List.findIdx?_eq_none_iff]
  intro step member
  have differs : step.location ≠ place := fun same =>
    unknown (same ▸ List.mem_map_of_mem member)
  simpa using differs

/-- Whatever a place stands for is a step of the plan. -/
theorem mem_of_resolve {place : Option Location} {current : Location}
    (resolved : plan.resolve place = some current) : current ∈ plan.locations := by
  rcases Option.or_eq_some_iff.mp resolved with found | ⟨_, first⟩
  · obtain ⟨step, search, rfl⟩ := Option.map_eq_some_iff.mp found
    obtain ⟨known, _, visited⟩ := Option.bind_eq_some_iff.mp search
    exact List.mem_map_of_mem (List.mem_of_find?_eq_some visited)
  · rw [first?_eq] at first
    exact List.mem_of_getElem? first

/-- A place that is no step's stands for the first step. -/
theorem resolve_of_notMem {place : Location} (unknown : place ∉ plan.locations) :
    plan.resolve (some place) = plan.first? := by
  rw [resolve, Option.bind_some, step?_of_notMem unknown, Option.map_none, Option.none_or]

/-! ### Drawn plans -/

/-- What the steps show and ask for, without their locations. -/
def contents (plan : Plan υ) : List (StepContent υ) :=
  plan.steps.map fun step => ⟨step.page, step.fields⟩

theorem assign_contents (contents : List (StepContent υ)) (used stream : List Location)
    {steps : List (Step υ)} (assigned : assign contents used stream = some steps) :
    steps.map (fun step => (⟨step.page, step.fields⟩ : StepContent υ)) = contents := by
  induction stream generalizing contents used steps with
  | nil =>
    cases contents with
    | nil => cases assigned; rfl
    | cons content contents => cases assigned
  | cons drawn stream inductionHypothesis =>
    cases contents with
    | nil => cases assigned; rfl
    | cons content contents =>
      unfold assign at assigned
      split at assigned
      · exact inductionHypothesis _ _ assigned
      · obtain ⟨rest, assignedRest, rfl⟩ := Option.map_eq_some_iff.mp assigned
        rw [List.map_cons, inductionHypothesis _ _ assignedRest]

/-- A drawn plan has the steps that it was drawn for, in order. -/
theorem contents_of_draw {contents : List (StepContent υ)} {stream : List Location}
    {plan : Plan υ} (drawn : draw contents stream = some plan) : plan.contents = contents := by
  unfold draw at drawn
  split at drawn
  · next steps assigned =>
    rw [← Option.some.inj drawn]
    exact assign_contents contents [] stream assigned
  · cases drawn

theorem length_of_contents {contents : List (StepContent υ)} {plan : Plan υ}
    (same : plan.contents = contents) : plan.length = contents.length := by
  rw [← same, Plan.contents, List.length_map, length]

/-- The step with the content at an index. -/
theorem exists_step_of_contents {contents : List (StepContent υ)} {plan : Plan υ}
    (same : plan.contents = contents) {index : Nat} {content : StepContent υ}
    (found : contents[index]? = some content) :
    ∃ step, plan.steps[index]? = some step ∧ step.page = content.page ∧
      step.fields = content.fields := by
  rw [← same, Plan.contents, List.getElem?_map] at found
  obtain ⟨step, foundStep, rfl⟩ := Option.map_eq_some_iff.mp found
  exact ⟨step, foundStep, rfl, rfl⟩

end Onboarding.Plan
