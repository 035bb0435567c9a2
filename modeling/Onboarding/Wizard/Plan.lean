/-
This file holds the plan of a wizard: its steps in order, each with its location,
what is shown on it and the fields it asks for. The locations are drawn from a
stream and a location drawn before is passed over, so no two steps share one.
-/

import Onboarding.Wizard.Location

namespace Onboarding

/-- What a step shows, and the fields it asks for. -/
structure StepContent (υ : Type) where
  page : υ
  fields : List String
  deriving DecidableEq, Repr

/-- A step at its location. -/
structure Step (υ : Type) where
  location : Location
  page : υ
  fields : List String
  deriving DecidableEq, Repr

/-- The steps of a wizard in order; no two are at one location. -/
structure Plan (υ : Type) where
  steps : List (Step υ)
  distinct : (steps.map Step.location).Nodup
  deriving Repr

namespace Plan

variable {υ : Type}

/-! ### Drawing the locations -/

/-- Gives each content the next location of the stream that is not among those used; none when
the stream ends before all contents have one. -/
def assign : List (StepContent υ) → List Location → List Location → Option (List (Step υ))
  | [], _, _ => some []
  | _ :: _, _, [] => none
  | content :: contents, used, drawn :: stream =>
    if drawn ∈ used then
      assign (content :: contents) used stream
    else
      (assign contents (drawn :: used) stream).map fun steps =>
        ⟨drawn, content.page, content.fields⟩ :: steps

theorem assign_fresh (contents : List (StepContent υ)) (used stream : List Location)
    {steps : List (Step υ)} (assigned : assign contents used stream = some steps) :
    (steps.map Step.location).Nodup ∧ ∀ step ∈ steps, step.location ∉ used := by
  induction stream generalizing contents used steps with
  | nil =>
    cases contents with
    | nil => cases assigned; simp
    | cons content contents => simp [assign] at assigned
  | cons drawn stream inductionHypothesis =>
    cases contents with
    | nil => cases assigned; simp
    | cons content contents =>
      unfold assign at assigned
      split at assigned
      · exact inductionHypothesis _ _ assigned
      · next fresh =>
        obtain ⟨rest, assignedRest, rfl⟩ := Option.map_eq_some_iff.mp assigned
        obtain ⟨nodup, unused⟩ := inductionHypothesis _ _ assignedRest
        refine ⟨?_, ?_⟩
        · rw [List.map_cons, List.nodup_cons]
          refine ⟨fun member => ?_, nodup⟩
          obtain ⟨step, inRest, equal⟩ := List.mem_map.mp member
          exact unused step inRest (by simp [equal])
        · intro step member
          rcases List.mem_cons.mp member with rfl | inRest
          · exact fresh
          · exact fun known => unused step inRest (List.mem_cons_of_mem _ known)

/-- The plan with these contents, at locations drawn from the stream; none when the stream holds
too few different ones. -/
def draw (contents : List (StepContent υ)) (stream : List Location) : Option (Plan υ) :=
  match assigned : assign contents [] stream with
  | some steps => some ⟨steps, (assign_fresh contents [] stream assigned).1⟩
  | none => none

/-! ### Looking up -/

/-- The locations of the steps in order. -/
def locations (plan : Plan υ) : List Location :=
  plan.steps.map Step.location

/-- How many steps there are. -/
def length (plan : Plan υ) : Nat :=
  plan.steps.length

/-- The location of the first step. -/
def first? (plan : Plan υ) : Option Location :=
  plan.steps.head?.map Step.location

/-- Whether the location is that of the first step. -/
def isFirst (plan : Plan υ) (location : Location) : Bool :=
  plan.first? == some location

/-- The step at a location. -/
def step? (plan : Plan υ) (location : Location) : Option (Step υ) :=
  plan.steps.find? fun step => step.location == location

/-- What the step at a location shows. -/
def page? (plan : Plan υ) (location : Location) : Option υ :=
  (plan.step? location).map Step.page

/-- The fields that the step at a location asks for; none at any other location. -/
def fieldsAt (plan : Plan υ) (location : Location) : List String :=
  ((plan.step? location).map Step.fields).getD []

/-- How many steps come before the one at a location. -/
def position? (plan : Plan υ) (location : Location) : Option Nat :=
  plan.steps.findIdx? fun step => step.location == location

/-- The location of the step after the one at a location. -/
def next? (plan : Plan υ) (location : Location) : Option Location :=
  (plan.position? location).bind fun index => plan.steps[index + 1]?.map Step.location

/-- The step's location that a place in the history stands for: itself when it is a step's, else
that of the first step. -/
def resolve (plan : Plan υ) (place : Option Location) : Option Location :=
  ((place.bind plan.step?).map Step.location).or plan.first?

end Plan

end Onboarding
