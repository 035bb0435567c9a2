/-
This file proves how a submission can go. The values lack a field, and nobody is called;
or the registrar is called, and the applicant is not registered; or the store is called as
well, and takes the token or does not. Each way is told with what is answered, the world
that is left and the calls that are made; what the registrar and the store answer is
arbitrary, and may depend on all that happened before.
-/

import Onboarding.Registration.Submission

namespace Onboarding.Registration

/-! ### The applicant in the values -/

/-- The applicant whose texts are the values of the four fields. -/
structure Applicant.Of (applicant : Applicant) (values : Entries) : Prop where
  made : Applicant.ofEntries values = .ok applicant
  texts : ∀ field : Field, values.get? field.name = some (applicant.text field)

/-- The first of the four fields that has no value. -/
def firstMissing? (values : Entries) : Option Field :=
  [Field.firstName, .lastName, .email, .password].find? fun field =>
    (values.get? field.name).isNone

variable {values others : Entries}

/-- Values lack a field, or they are those of an applicant. -/
theorem ofEntries_cases (values : Entries) :
    (∃ field, firstMissing? values = some field ∧ Applicant.ofEntries values = .error field) ∨
      firstMissing? values = none ∧ ∃ applicant : Applicant, applicant.Of values := by
  simp only [firstMissing?, List.find?_cons, List.find?_nil, Applicant.ofEntries]
  cases firstName : values.get? Field.firstName.name with
  | none => exact .inl ⟨.firstName, rfl, rfl⟩
  | some first =>
    cases lastName : values.get? Field.lastName.name with
    | none => exact .inl ⟨.lastName, rfl, rfl⟩
    | some last =>
      cases email : values.get? Field.email.name with
      | none => exact .inl ⟨.email, rfl, rfl⟩
      | some address =>
        cases password : values.get? Field.password.name with
        | none => exact .inl ⟨.password, rfl, rfl⟩
        | some secret =>
          refine .inr ⟨rfl, ⟨first, last, address, secret⟩, ?_, fun field => ?_⟩
          · simp only [Applicant.ofEntries, firstName, lastName, email, password]
            rfl
          · cases field <;> assumption

/-- Values under other names than those of the four fields do not count. -/
theorem ofEntries_congr (same : ∀ field : Field, values.get? field.name = others.get? field.name) :
    Applicant.ofEntries values = Applicant.ofEntries others := by
  simp only [Applicant.ofEntries, same]

/-! ### Calls -/

/-- A call to a registrar, or to a store, which took the token or not. -/
inductive Call where
  | register (applicant : Applicant)
  | keep (token : String) (taken : Bool)
  deriving DecidableEq, Repr

namespace Call

/-- The applicant whom the call asked to register. -/
def applicant? : Call → Option Applicant
  | register applicant => some applicant
  | keep _ _ => none

/-- The token that the store took on the call. -/
def taken? : Call → Option String
  | keep token true => some token
  | _ => none

end Call

variable {ω : Type}

namespace Services

/-- The services with a record of the calls that are made to them. -/
def logged (services : Services ω) : Services (ω × List Call) where
  register applicant world :=
    let (outcome, next) := services.register applicant world.1
    (outcome, next, world.2 ++ [.register applicant])
  keep token world :=
    let (outcome, next) := services.keep token world.1
    (outcome, next, world.2 ++ [.keep token outcome.isOk])
  token? world := services.token? world.1

/-- What becomes of the stored token: there is one after it was stored, a refusal leaves the store
as it was, and a registration alone does not touch it. -/
structure Stores (services : Services ω) : Prop where
  kept : ∀ token world, (services.keep token world).1 = .ok () →
    (services.token? (services.keep token world).2).isSome = true
  refused : ∀ token world failure, (services.keep token world).1 = .error failure →
    services.token? (services.keep token world).2 = services.token? world
  registered : ∀ applicant world,
    services.token? (services.register applicant world).2 = services.token? world

/-! ### How a submission goes -/

/-- How a submission of the values can go: what it answers, the world that it leaves, and the calls
that it makes. -/
inductive Goes (services : Services ω) (values : Entries) (world : ω) :
    Except SubmissionFailure String → ω → List Call → Prop
  | lacking {field : Field} (missing : firstMissing? values = some field)
      (lacks : Applicant.ofEntries values = .error field) :
    Goes services values world (.error (.missingField field)) world []
  | unregistered {applicant : Applicant} {failure : Failure} {after : ω}
      (complete : firstMissing? values = none) (of : applicant.Of values)
      (answer : services.register applicant world = (.error failure, after)) :
    Goes services values world (.error (.registration failure)) after [.register applicant]
  | unstored {applicant : Applicant} {token : String} {failure : CredentialFailure}
      {between after : ω} (complete : firstMissing? values = none) (of : applicant.Of values)
      (answer : services.register applicant world = (.ok token, between))
      (refusal : services.keep token between = (.error failure, after)) :
    Goes services values world (.error (.storing failure)) after
      [.register applicant, .keep token false]
  | stored {applicant : Applicant} {token : String} {between after : ω}
      (complete : firstMissing? values = none) (of : applicant.Of values)
      (answer : services.register applicant world = (.ok token, between))
      (taking : services.keep token between = (.ok (), after)) :
    Goes services values world (.ok token) after [.register applicant, .keep token true]

/-- The record of the calls does not change what comes of a submission. -/
theorem exists_goes (services : Services ω) (values : Entries) (world : ω) :
    ∃ outcome after calls, services.Goes values world outcome after calls ∧
      services.submit values world = (outcome, after) ∧
      ∀ before, services.logged.submit values (world, before) =
        (outcome, after, before ++ calls) := by
  rcases ofEntries_cases values with ⟨field, missing, lacks⟩ | ⟨complete, applicant, of⟩
  · refine ⟨_, _, _, .lacking missing lacks, ?_, fun before => ?_⟩
    · rw [submit, lacks]
    · rw [submit, lacks, List.append_nil]
  · cases answer : services.register applicant world with
    | mk answered between =>
      cases answered with
      | error failure =>
        refine ⟨_, _, _, .unregistered complete of answer, ?_, fun before => ?_⟩
        · simp only [submit, of.made, registerAndKeep, answer]
        · simp only [submit, of.made, registerAndKeep, logged, answer]
      | ok token =>
        cases taking : services.keep token between with
        | mk taken after =>
          cases taken with
          | error failure =>
            refine ⟨_, _, _, .unstored complete of answer taking, ?_, fun before => ?_⟩
            · simp only [submit, of.made, registerAndKeep, answer, taking]
            · simp only [submit, of.made, registerAndKeep, logged, answer, taking,
                List.append_assoc]
              rfl
          | ok =>
            refine ⟨_, _, _, .stored complete of answer taking, ?_, fun before => ?_⟩
            · simp only [submit, of.made, registerAndKeep, answer, taking]
            · simp only [submit, of.made, registerAndKeep, logged, answer, taking,
                List.append_assoc]
              rfl

section

variable {services : Services ω} {world after : ω} {outcome : Except SubmissionFailure String}
  {calls : List Call}

theorem Goes.applicants (goes : services.Goes values world outcome after calls) :
    calls.filterMap Call.applicant? = (Applicant.ofEntries values).toOption.toList := by
  cases goes with
  | lacking _ lacks => rw [lacks]; rfl
  | unregistered _ of => rw [of.made]; rfl
  | unstored _ of => rw [of.made]; rfl
  | stored _ of => rw [of.made]; rfl

theorem Goes.taken (goes : services.Goes values world outcome after calls) :
    calls.filterMap Call.taken? = outcome.toOption.toList := by
  cases goes <;> rfl

/-- The store is left as it is unless the submission goes well. -/
theorem Goes.token?_of_error (stores : services.Stores) {failure : SubmissionFailure}
    (goes : services.Goes values world (.error failure) after calls) :
    services.token? after = services.token? world := by
  cases goes with
  | lacking => rfl
  | @unregistered applicant _ _ _ _ answer =>
    have left := stores.registered applicant world
    rwa [answer] at left
  | @unstored applicant token failure between _ _ _ answer refusal =>
    have left := stores.registered applicant world
    have refused := stores.refused token between failure
    rw [refusal] at refused
    rw [answer] at left
    exact (refused rfl).trans left

/-- Where a submission goes well, the store was called last. -/
theorem Goes.exists_keep {token : String}
    (goes : services.Goes values world (.ok token) after calls) :
    ∃ between, services.keep token between = (.ok (), after) := by
  cases goes with
  | stored _ _ _ taking => exact ⟨_, taking⟩

end

end Services

end Onboarding.Registration
