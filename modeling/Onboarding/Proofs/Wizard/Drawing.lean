/-
This file proves which locations the steps of a wizard get, and what a drawn plan finds
at them. However often the random source repeats itself, the steps get the first
different locations that it gives, in the order in which they first came; what it would
give after these does not matter.

Since no two steps are at one location then, every question about the location of a step
is answered for that step, and going from the first step to the next one visits every
step once, in order. Any other place has no step.
-/

import Onboarding.Proofs.Wizard.Lookup

namespace Onboarding

variable {υ : Type}

/-- The step with this content at a location. -/
def StepContent.placed (content : StepContent υ) (location : Location) : Step υ :=
  ⟨location, content.page, content.fields⟩

namespace Plan

/-! ### Which locations are drawn -/

/-- The contents get the different locations of the stream that are not used, in the order in which
they first come; there is no plan exactly when these are too few. -/
theorem assign_eq (contents : List (StepContent υ)) (used stream : List Location) :
    assign contents used stream =
      if contents.length ≤ (stream.filter (· ∉ used)).eraseDups.length then
        some (List.zipWith StepContent.placed contents (stream.filter (· ∉ used)).eraseDups)
      else none := by
  induction stream generalizing contents used with
  | nil => cases contents <;> rfl
  | cons drawn stream inductionHypothesis =>
    cases contents with
    | nil => rw [List.length_nil, if_pos (Nat.zero_le _), List.zipWith_nil_left, assign]
    | cons content contents =>
      rw [assign]
      split
      · next known =>
        rw [inductionHypothesis, List.filter_cons_of_neg (by simpa using known)]
      · next fresh =>
        -- A location that is drawn counts as used from then on.
        have others : (stream.filter (· ∉ used)).filter (fun other => !other == drawn) =
            stream.filter (· ∉ drawn :: used) := by
          rw [List.filter_filter]
          exact List.filter_congr fun other _ => by
            simp only [List.mem_cons, not_or, Bool.decide_and, decide_not]
            rfl
        rw [inductionHypothesis, List.filter_cons_of_pos (by simpa using fresh),
          List.eraseDups_cons, others, List.length_cons, List.length_cons, List.zipWith_cons_cons]
        simp only [Nat.add_le_add_iff_right, apply_ite (Option.map _), Option.map_some,
          Option.map_none, StepContent.placed]

theorem draw_eq_some_iff {contents : List (StepContent υ)} {stream : List Location}
    {plan : Plan υ} :
    draw contents stream = some plan ↔ assign contents [] stream = some plan.steps := by
  obtain ⟨wanted, distinct⟩ := plan
  unfold draw
  split
  · next steps assigned => simp only [assigned, Option.some.injEq, mk.injEq]
  · next missing => simp only [missing, reduceCtorEq]

/-- From a stream with enough different locations the same plan is drawn, whatever follows. -/
theorem exists_draw_append {contents : List (StepContent υ)} {stream : List Location}
    (enough : contents.length ≤ stream.eraseDups.length) :
    ∃ plan : Plan υ, (∀ rest, draw contents (stream ++ rest) = some plan) ∧
      plan.steps =
        List.zipWith StepContent.placed contents (stream.eraseDups.take contents.length) := by
  have assigned (rest : List Location) : assign contents [] (stream ++ rest) =
      some (List.zipWith StepContent.placed contents
        (stream.eraseDups.take contents.length)) := by
    have unused : (stream ++ rest).filter (· ∉ []) = stream ++ rest :=
      List.filter_eq_self.mpr fun _ _ => by simp
    have longer : contents.length ≤ (stream ++ rest).eraseDups.length := by
      rw [List.eraseDups_append, List.length_append]
      exact Nat.le_add_right_of_le enough
    rw [assign_eq, unused, if_pos longer, List.zipWith_eq_zipWith_take_min,
      Nat.min_eq_left longer, List.take_length, List.eraseDups_append,
      List.take_append_of_le_length enough]
  refine ⟨⟨_, (assign_fresh _ _ _ (assigned [])).1⟩, fun rest => ?_, rfl⟩
  exact draw_eq_some_iff.mpr (assigned rest)

theorem locations_of_zipWith {plan : Plan υ} {contents : List (StepContent υ)}
    {locations : List Location} (each : locations.length = contents.length)
    (steps : plan.steps = List.zipWith StepContent.placed contents locations) :
    plan.locations = locations := by
  rw [Plan.locations, steps, ← List.map_uncurry_zip_eq_zipWith, List.map_map]
  exact List.map_snd_zip (Nat.le_of_eq each)

/-! ### What is found at a step, and at other places -/

/-- At the location of the step at an index, with this content, that step is found, and the location
of the step after it. -/
structure HasStep (plan : Plan υ) (index : Nat) (content : StepContent υ) (location : Location) :
    Prop where
  located : plan.locations[index]? = some location
  position : plan.position? location = some index
  page : plan.page? location = some content.page
  fields : plan.fieldsAt location = content.fields
  resolve : plan.resolve (some location) = some location
  next : plan.next? location = plan.locations[index + 1]?

/-- At a place no step is found, and it stands for the first step, if there is one. -/
structure Lacks (plan : Plan υ) (place : Location) : Prop where
  position : plan.position? place = none
  page : plan.page? place = none
  fields : plan.fieldsAt place = []
  resolve : plan.resolve (some place) = plan.locations.head?
  next : plan.next? place = none

variable {plan : Plan υ}

theorem exists_hasStep {contents : List (StepContent υ)} (same : plan.contents = contents)
    {index : Nat} {content : StepContent υ} (found : contents[index]? = some content) :
    ∃ location, plan.HasStep index content location := by
  obtain ⟨step, foundStep, page, fields⟩ := exists_step_of_contents same found
  refine ⟨step.location, ?_, position?_location foundStep, ?_, ?_, resolve_location foundStep,
    next?_location foundStep⟩
  · rw [getElem?_locations, foundStep, Option.map_some]
  · rw [page?, step?_location foundStep, Option.map_some, page]
  · rw [fieldsAt_location foundStep, fields]

theorem lacks_of_notMem {place : Location} (unknown : place ∉ plan.locations) :
    plan.Lacks place where
  position := position?_of_notMem unknown
  page := by rw [page?, step?_of_notMem unknown, Option.map_none]
  fields := by rw [fieldsAt, step?_of_notMem unknown, Option.map_none, Option.getD_none]
  resolve := by rw [resolve_of_notMem unknown, first?_eq, List.head?_eq_getElem?]
  next := by rw [next?, position?_of_notMem unknown, Option.bind_none]

/-! ### From each step to the next -/

/-- These are the places passed from a place on, going from each to the next until there is none. -/
inductive Tour (plan : Plan υ) : Option Location → List Location → Prop
  | ended : Tour plan none []
  | onward {place : Location} {rest : List Location} :
      Tour plan (plan.next? place) rest → Tour plan (some place) (place :: rest)

theorem Tour.unique {start : Option Location} {first second : List Location}
    (tour : plan.Tour start first) (other : plan.Tour start second) : first = second := by
  induction tour generalizing second with
  | ended =>
    cases other
    rfl
  | onward _ inductionHypothesis =>
    cases other with
    | onward onward => rw [inductionHypothesis onward]

/-- From the step at an index on, the locations of this step and of all later ones are passed. -/
theorem tour_of_drop {index : Nat} {rest : List Location}
    (later : plan.locations.drop index = rest) : plan.Tour plan.locations[index]? rest := by
  induction rest generalizing index with
  | nil =>
    rw [List.getElem?_eq_none (List.drop_eq_nil_iff.mp later)]
    exact .ended
  | cons place rest inductionHypothesis =>
    have located : plan.locations[index]? = some place := by
      rw [← List.head?_drop, later, List.head?_cons]
    have behind : plan.locations.drop (index + 1) = rest := by
      rw [← List.tail_drop, later, List.tail_cons]
    obtain ⟨step, found, rfl⟩ := Option.map_eq_some_iff.mp
      ((plan.getElem?_locations index).symm.trans located)
    rw [located]
    refine .onward ?_
    rw [next?_location found]
    exact inductionHypothesis behind

/-- From the first step on, every step is passed once, in order. -/
theorem tour_first?_iff {visited : List Location} :
    plan.Tour plan.first? visited ↔ visited = plan.locations := by
  have whole : plan.Tour plan.first? plan.locations := by
    rw [first?_eq]
    exact tour_of_drop rfl
  exact ⟨fun tour => tour.unique whole, fun same => same ▸ whole⟩

/-! ### Drawn plans -/

/-- From a stream with enough different locations a plan is drawn. Its steps have the contents
given, in order, and are at the first different locations of the stream, in the order in which these
first come. Each step is found at its location, the next one is told there, and no step is found
anywhere else. -/
theorem draw_of_enough (contents : List (StepContent υ)) (stream : List Location)
    (enough : contents.length ≤ stream.eraseDups.length) :
    ∃ plan : Plan υ,
      (∀ rest, draw contents (stream ++ rest) = some plan) ∧
      plan.contents = contents ∧
      plan.locations = stream.eraseDups.take contents.length ∧
      plan.locations.Nodup ∧
      (∀ index content, contents[index]? = some content →
        ∃ location, plan.HasStep index content location) ∧
      (∀ visited, plan.Tour plan.first? visited ↔ visited = plan.locations) ∧
      ∀ place ∉ plan.locations, plan.Lacks place := by
  obtain ⟨plan, drawn, steps⟩ := exists_draw_append enough
  have same : plan.contents = contents := contents_of_draw (drawn [])
  have each : (stream.eraseDups.take contents.length).length = contents.length := by
    rw [List.length_take, Nat.min_eq_left enough]
  exact ⟨plan, drawn, same, locations_of_zipWith each steps, plan.distinct,
    fun _ _ => exists_hasStep same, fun _ => tour_first?_iff, fun _ => lacks_of_notMem⟩

/-- Three steps, and a source that repeats itself before, between and behind the locations that
they get. -/
theorem draw_of_three_in_six :
    let contents : List (StepContent Nat) := [⟨1, ["x", "y"]⟩, ⟨2, []⟩, ⟨3, ["z"]⟩]
    let stream : List Location := [⟨"/a"⟩, ⟨"/a"⟩, ⟨"/b"⟩, ⟨"/a"⟩, ⟨"/c"⟩, ⟨"/d"⟩]
    contents.length ≤ stream.eraseDups.length ∧
      ∃ plan : Plan Nat, draw contents stream = some plan ∧
        plan.locations = [⟨"/a"⟩, ⟨"/b"⟩, ⟨"/c"⟩] ∧ plan.next? ⟨"/b"⟩ = some ⟨"/c"⟩ ∧
        plan.Tour plan.first? [⟨"/a"⟩, ⟨"/b"⟩, ⟨"/c"⟩] ∧ plan.Lacks ⟨"/d"⟩ := by
  intro contents stream
  have enough : contents.length ≤ stream.eraseDups.length := by decide
  obtain ⟨plan, drawn, -, located, -, steps, tour, lacks⟩ :=
    draw_of_enough contents stream enough
  have three : plan.locations = [⟨"/a"⟩, ⟨"/b"⟩, ⟨"/c"⟩] := located.trans (by decide)
  obtain ⟨second, hasSecond⟩ := steps 1 ⟨2, []⟩ rfl
  have atSecond : second = ⟨"/b"⟩ := by
    have found := hasSecond.located
    rw [three] at found
    exact (Option.some.inj found).symm
  refine ⟨enough, plan, drawn [], three, ?_, (tour _).mpr three.symm, lacks _ ?_⟩
  · rw [← atSecond, hasSecond.next, three]
    rfl
  · rw [three]
    decide

end Plan

end Onboarding
