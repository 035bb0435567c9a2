/-
This file proves what a user can tell of the locations that were drawn for the steps
of a wizard: nothing but their names. Everything that is seen after each request, the
answer, the step on display, what the control for going on offers, how often the wizard
was left, and the whole state of the form, is the same at any other locations, with
the name of each location replaced by the name of the other one.

The requests may send the history to any step, and to any place that is no step's
at either locations. Any kind of form will do, also one that counts or records what
is asked of it; and whatever changes the form between the moves is a request as well.
-/

import Onboarding.Proofs.Wizard.Translation
import Onboarding.Wizard.Scripted

namespace Onboarding.Visit

variable {υ σ : Type}

/-! ### Requests and what is seen after them -/

/-- What can be asked of a visit. -/
inductive Request (σ : Type) where
  | advance
  | retreat
  | push (place : Location)
  | replace (place : Location)
  | back
  /-- The form becomes another one, as when a text is typed. -/
  | change (becomes : σ → σ)

/-- What a request is answered with. -/
inductive Response where
  | advanced (outcome : Advance)
  | retreated (outcome : Retreat)
  | done
  deriving DecidableEq, Repr

/-- The place that a request names. -/
def Request.place? : Request σ → Option Location
  | push place => some place
  | replace place => some place
  | _ => none

/-- The answer to a request and the visit after it. -/
def respond (plan : Plan υ) (operations : FormOperations σ) (visit : Visit σ) :
    Request σ → Response × Visit σ
  | .advance =>
    let (outcome, next) := plan.advance operations.surroundings visit
    (.advanced outcome, next)
  | .retreat =>
    let (outcome, next) := plan.retreat operations.surroundings visit
    (.retreated outcome, next)
  | .push place => (.done, { visit with history := visit.history.push place })
  | .replace place => (.done, { visit with history := visit.history.replace place })
  | .back => (.done, { visit with history := visit.history.back })
  | .change becomes => (.done, { visit with form := becomes visit.form })

/-- What is seen of a visit after a request. -/
structure Sight (υ σ : Type) where
  response : Response
  label : ForwardLabel
  location? : Option Location
  current? : Option Location
  following? : Option Location
  page? : Option υ
  exits : Nat
  form : σ
  deriving DecidableEq, Repr

/-- What is seen of a visit that came of a request with the response. -/
def sight (plan : Plan υ) (operations : FormOperations σ) (response : Response)
    (visit : Visit σ) : Sight υ σ where
  response
  label := plan.forwardLabel operations.surroundings visit
  location? := visit.history.location?
  current? := plan.current? operations.surroundings visit
  following? := plan.following? operations.surroundings visit
  page? := (plan.current? operations.surroundings visit).bind plan.page?
  exits := visit.exits
  form := visit.form

/-- What is seen after each of the requests, made one after the other. -/
def sights (plan : Plan υ) (operations : FormOperations σ) :
    Visit σ → List (Request σ) → List (Sight υ σ)
  | _, [] => []
  | visit, request :: rest =>
    let (response, next) := visit.respond plan operations request
    next.sight plan operations response :: sights plan operations next rest

/-! ### With the places replaced -/

/-- The visit with each place of its history replaced. -/
def map (replacement : Location → Location) (visit : Visit σ) : Visit σ :=
  { visit with history := visit.history.map replacement }

/-- The request with the place that it names replaced. -/
def Request.map (replacement : Location → Location) : Request σ → Request σ
  | push place => push (replacement place)
  | replace place => replace (replacement place)
  | request => request

/-- The response with the place that it names replaced. -/
def Response.map (replacement : Location → Location) : Response → Response
  | advanced outcome => advanced (outcome.map replacement)
  | response => response

/-- The sight with each place in it replaced. -/
def Sight.map (replacement : Location → Location) (seen : Sight υ σ) : Sight υ σ :=
  { seen with
    response := seen.response.map replacement
    location? := seen.location?.map replacement
    current? := seen.current?.map replacement
    following? := seen.following?.map replacement }

/-! ### The same is seen -/

namespace Counterparts

variable {plan other : Plan υ} (operations : FormOperations σ) {visit counterpart : Visit σ}
  (counterparts : Counterparts plan other Eq visit counterpart)
  (same : plan.contents = other.contents)

include counterparts same

/-- A request is answered alike and leads to visits that correspond again. -/
theorem respond {request : Request σ}
    (knows : ∀ place, request.place? = some place → plan.Knows other place) :
    (counterpart.respond other operations (request.map (plan.translate other))).1 =
      (visit.respond plan operations request).1.map (plan.translate other) ∧
    Counterparts plan other Eq (visit.respond plan operations request).2
      (counterpart.respond other operations (request.map (plan.translate other))).2 := by
  cases request with
  | advance =>
    obtain ⟨outcome, onward⟩ := counterparts.advance same operations.behaveAlike_eq
    exact ⟨congrArg Response.advanced outcome, onward⟩
  | retreat =>
    obtain ⟨outcome, backward⟩ := counterparts.retreat same operations.behaveAlike_eq
    exact ⟨congrArg Response.retreated outcome, backward⟩
  | push place => exact ⟨rfl, counterparts.push (knows place rfl)⟩
  | replace place => exact ⟨rfl, counterparts.replace (knows place rfl)⟩
  | back => exact ⟨rfl, counterparts.back⟩
  | change becomes => exact ⟨rfl, counterparts.withForms (congrArg becomes counterparts.form)⟩

theorem sight (response : Response) :
    counterpart.sight other operations (response.map (plan.translate other)) =
      (visit.sight plan operations response).map (plan.translate other) := by
  simp only [Visit.sight, Sight.map, Sight.mk.injEq]
  refine ⟨trivial, counterparts.forwardLabel same operations.behaveAlike_eq, ?_,
    counterparts.current? operations operations same,
    counterparts.following? operations operations same,
    counterparts.page? operations operations same, counterparts.exits, counterparts.form.symm⟩
  rw [counterparts.history, History.location?_map]

theorem sights {requests : List (Request σ)}
    (known : ∀ request ∈ requests, ∀ place, request.place? = some place →
      plan.Knows other place) :
    counterpart.sights other operations (requests.map (Request.map (plan.translate other))) =
      (visit.sights plan operations requests).map (Sight.map (plan.translate other)) := by
  induction requests generalizing visit counterpart with
  | nil => rfl
  | cons request rest inductionHypothesis =>
    obtain ⟨response, onward⟩ :=
      counterparts.respond operations same (known request List.mem_cons_self)
    have later := inductionHypothesis onward
      fun next member => known next (List.mem_cons_of_mem _ member)
    simp only [List.map_cons, Visit.sights]
    rw [later, response, onward.sight operations same]

end Counterparts

/-- Two plans with the same contents are seen alike through any requests: what is seen at the
locations of the one is what is seen at those of the other, with each location replaced by the one
of the same step. The places visited so far and those named by the requests must be told apart by
both: each is a step's in the first plan, or a step's in neither. -/
theorem sights_translate (plan other : Plan υ) (same : plan.contents = other.contents)
    (operations : FormOperations σ) (visit : Visit σ) (requests : List (Request σ))
    (known : ∀ place ∈ visit.history.places,
      place ∈ plan.locations ∨ place ∉ plan.locations ∧ place ∉ other.locations)
    (knownAsked : ∀ request ∈ requests, ∀ place, request.place? = some place →
      place ∈ plan.locations ∨ place ∉ plan.locations ∧ place ∉ other.locations) :
    (visit.map (plan.translate other)).sights other operations
        (requests.map (Request.map (plan.translate other))) =
      (visit.sights plan operations requests).map (Sight.map (plan.translate other)) := by
  have knows {place : Location}
      (toldApart : place ∈ plan.locations ∨ place ∉ plan.locations ∧ place ∉ other.locations) :
      plan.Knows other place := by
    rcases toldApart with member | ⟨_, unknown⟩
    · exact fun _ => member
    · exact fun memberOther => absurd memberOther unknown
  have counterparts :
      Counterparts plan other Eq visit (visit.map (plan.translate other)) :=
    ⟨rfl, rfl, rfl, fun place member => knows (known place member)⟩
  exact counterparts.sights operations same
    fun request member place named => knows (knownAsked request member place named)

/-- Two steps at two locations, and the same steps with the locations exchanged. The history starts
at a place of its own, is sent to the first step and away from it, and the form finds a fault in
between. -/
theorem sights_of_exchanged_locations :
    let plan : Plan Unit :=
      ⟨[⟨⟨"/a"⟩, (), ["x"]⟩, ⟨⟨"/b"⟩, (), ["y"]⟩], by decide⟩
    let other : Plan Unit :=
      ⟨[⟨⟨"/b"⟩, (), ["x"]⟩, ⟨⟨"/a"⟩, (), ["y"]⟩], by decide⟩
    let visit : Visit ScriptedForm := ⟨.initial, .startingAt ⟨"/"⟩, 0⟩
    let faulty (form : ScriptedForm) := { form with faults := .ofList [("x", "bad")] }
    let requests : List (Request ScriptedForm) :=
      [.advance, .push ⟨"/a"⟩, .change faulty, .advance, .replace ⟨"/help"⟩, .retreat, .advance]
    plan.contents = other.contents ∧
      (∀ place ∈ visit.history.places,
        place ∈ plan.locations ∨ place ∉ plan.locations ∧ place ∉ other.locations) ∧
      (∀ request ∈ requests, ∀ place, request.place? = some place →
        place ∈ plan.locations ∨ place ∉ plan.locations ∧ place ∉ other.locations) ∧
      (visit.sights plan ScriptedForm.operations requests).map Sight.response =
        [.advanced (.moved ⟨"/b"⟩), .done, .done, .advanced (.blocked ["x"]), .done,
          .retreated .exited, .advanced .submitted] ∧
      (visit.map (plan.translate other)).sights other ScriptedForm.operations
          (requests.map (Request.map (plan.translate other))) =
        (visit.sights plan ScriptedForm.operations requests).map
          (Sight.map (plan.translate other)) := by
  intro plan other visit faulty requests
  have same : plan.contents = other.contents := by decide
  have known : ∀ place ∈ visit.history.places,
      place ∈ plan.locations ∨ place ∉ plan.locations ∧ place ∉ other.locations := by decide
  have knownAsked : ∀ request ∈ requests, ∀ place, request.place? = some place →
      place ∈ plan.locations ∨ place ∉ plan.locations ∧ place ∉ other.locations := by
    simp only [requests, List.forall_mem_cons, Request.place?, Option.some.injEq, forall_eq',
      reduceCtorEq, false_implies, implies_true, true_and]
    decide
  exact ⟨same, known, knownAsked, by decide,
    sights_translate plan other same ScriptedForm.operations visit requests known knownAsked⟩

end Onboarding.Visit
