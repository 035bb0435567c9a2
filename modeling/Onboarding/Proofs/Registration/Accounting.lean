/-
This file proves what any number of submissions add up to. Each of them can fail at three
stages, and at the last one the applicant is registered already although nothing is
stored. Still the accounts are exact: a submission whose values lack a field calls nobody;
any other one asks for one registration, with its own four texts; the tokens that the
store took are those of the submissions that went well, in their order; and one that
failed leaves the stored token as it was.
-/

import Mathlib.Data.List.Forall2
import Onboarding.Proofs.Registration.Submitting

namespace Onboarding.Registration.Services

variable {ω : Type} {values others : Entries}

/-- What comes of submissions that are made one after the other. -/
def submitAll (services : Services ω) :
    List Entries → ω → List (Except SubmissionFailure String) × ω
  | [], world => ([], world)
  | values :: rest, world =>
    let (outcome, next) := services.submit values world
    let (outcomes, last) := submitAll services rest next
    (outcome :: outcomes, last)

/-- The token that the store took last is the stored one. -/
structure HoldsLatest (services : Services ω) : Prop extends services.Stores where
  latest : ∀ token world, (services.keep token world).1 = .ok () →
    services.token? (services.keep token world).2 = some token

/-- The stored token changes only when the submission goes well. -/
theorem Goes.token? {services : Services ω} {world after : ω}
    {outcome : Except SubmissionFailure String} {calls : List Call} (holds : services.HoldsLatest)
    (goes : services.Goes values world outcome after calls) :
    services.token? after = outcome.toOption.or (services.token? world) := by
  cases outcome with
  | error failure => exact goes.token?_of_error holds.toStores
  | ok token =>
    obtain ⟨between, taking⟩ := goes.exists_keep
    have taken := holds.latest token between
    rw [taking] at taken
    exact taken rfl

/-! ### The accounts of one submission -/

/-- The accounts of a submission of the values between two worlds, with what it answered and the
calls that it made. -/
structure Balances (services : Services ω) (values : Entries) (before after : ω)
    (outcome : Except SubmissionFailure String) (calls : List Call) : Prop where
  /-- When a field has no value, the first one is named, and nobody is called. -/
  lacking : ∀ field, firstMissing? values = some field →
    outcome = .error (.missingField field) ∧ calls = [] ∧ after = before
  /-- Else one applicant is to be registered, the one with the four values. -/
  complete : firstMissing? values = none → ∃ applicant : Applicant,
    (∀ field : Field, values.get? field.name = some (applicant.text field)) ∧
      calls.filterMap Call.applicant? = [applicant]
  taken : calls.filterMap Call.taken? = outcome.toOption.toList
  failed : ∀ failure, outcome = .error failure → services.token? after = services.token? before
  stored : ∀ token, outcome = .ok token → services.token? after = some token

theorem Goes.balances {services : Services ω} (holds : services.HoldsLatest) {before after : ω}
    {outcome : Except SubmissionFailure String} {calls : List Call}
    (goes : services.Goes values before outcome after calls) :
    services.Balances values before after outcome calls where
  lacking field missing := by
    cases goes with
    | lacking found => exact ⟨by rw [Option.some.inj (found.symm.trans missing)], rfl, rfl⟩
    | unregistered complete => cases complete.symm.trans missing
    | unstored complete => cases complete.symm.trans missing
    | stored complete => cases complete.symm.trans missing
  complete none := by
    cases goes with
    | lacking missing => cases none.symm.trans missing
    | unregistered _ of => exact ⟨_, of.texts, rfl⟩
    | unstored _ of => exact ⟨_, of.texts, rfl⟩
    | stored _ of => exact ⟨_, of.texts, rfl⟩
  taken := goes.taken
  failed failure failed := by
    have left := goes.token? holds
    rwa [failed] at left
  stored token stored := by
    have left := goes.token? holds
    rwa [stored] at left

/-! ### Any number of submissions -/

/-- How submissions that are made one after the other can go. -/
inductive GoAll (services : Services ω) :
    List Entries → ω → List (Except SubmissionFailure String) → ω → List Call → Prop
  | none (world : ω) : GoAll services [] world [] world []
  | next {values : Entries} {rest : List Entries} {world between after : ω}
      {outcome : Except SubmissionFailure String}
      {outcomes : List (Except SubmissionFailure String)} {calls later : List Call}
      (first : services.Goes values world outcome between calls)
      (others : GoAll services rest between outcomes after later) :
    GoAll services (values :: rest) world (outcome :: outcomes) after (calls ++ later)

theorem exists_goAll (services : Services ω) (submissions : List Entries) (world : ω) :
    ∃ outcomes after calls, services.GoAll submissions world outcomes after calls ∧
      services.submitAll submissions world = (outcomes, after) ∧
      ∀ before, services.logged.submitAll submissions (world, before) =
        (outcomes, after, before ++ calls) := by
  induction submissions generalizing world with
  | nil => exact ⟨_, _, _, .none world, rfl, fun before => by rw [submitAll, List.append_nil]⟩
  | cons values rest inductionHypothesis =>
    obtain ⟨outcome, between, calls, goes, submitted, recorded⟩ := services.exists_goes values world
    obtain ⟨outcomes, after, later, goAll, submittedAll, recordedAll⟩ := inductionHypothesis between
    refine ⟨_, _, _, .next goes goAll, ?_, fun before => ?_⟩
    · rw [submitAll, submitted]
      dsimp only
      rw [submittedAll]
    · rw [submitAll, recorded]
      dsimp only
      rw [recordedAll, List.append_assoc]

namespace GoAll

variable {services : Services ω} {submissions : List Entries} {world after : ω}
  {outcomes : List (Except SubmissionFailure String)} {calls : List Call}
  (goAll : services.GoAll submissions world outcomes after calls)

include goAll

theorem applicants : calls.filterMap Call.applicant? =
    submissions.filterMap fun values => (Applicant.ofEntries values).toOption := by
  induction goAll with
  | none => rfl
  | next first _ inductionHypothesis =>
    rw [List.filterMap_append, first.applicants, inductionHypothesis, List.filterMap_cons]
    cases (Applicant.ofEntries _).toOption <;> rfl

theorem taken : calls.filterMap Call.taken? = outcomes.filterMap Except.toOption := by
  induction goAll with
  | none => rfl
  | next first _ inductionHypothesis =>
    rw [List.filterMap_append, first.taken, inductionHypothesis, List.filterMap_cons]
    cases Except.toOption _ <;> rfl

theorem token? (holds : services.HoldsLatest) : services.token? after =
    (outcomes.filterMap Except.toOption).getLast?.or (services.token? world) := by
  induction goAll with
  | none => rfl
  | next first _ inductionHypothesis =>
    rw [inductionHypothesis, first.token? holds, List.filterMap_cons]
    cases Except.toOption _ with
    | none => rfl
    | some token =>
      rw [List.getLast?_cons]
      cases List.getLast? _ <;> rfl

end GoAll

/-- Submissions of values that agree on the four fields make the same calls and answer the same. -/
theorem submitAll_congr (services : Services ω) {submissions others : List Entries}
    (agree : List.Forall₂ (fun values other => ∀ field : Field,
      values.get? field.name = other.get? field.name) submissions others) (world : ω) :
    services.submitAll submissions world = services.submitAll others world := by
  induction agree generalizing world with
  | nil => rfl
  | cons same _ inductionHypothesis =>
    simp only [submitAll, submit, ofEntries_congr same, inductionHypothesis]

/-- After any submissions: the record of the calls has not changed what came of them; one
registration was asked for each applicant whose values were complete, in order; the tokens that the
store took are those of the submissions that went well, in order, and the last of them is the stored
one. The accounts of each further submission balance as well, and values beside those of the four
fields make no difference to any of this. -/
theorem submitAll_balances (services : Services ω) (holds : services.HoldsLatest) (world : ω)
    (submissions : List Entries) :
    let run := services.logged.submitAll submissions (world, [])
    let outcomes := run.1
    let after := run.2.1
    let calls := run.2.2
    services.submitAll submissions world = (outcomes, after) ∧
      calls.filterMap Call.applicant? =
        submissions.filterMap (fun values => (Applicant.ofEntries values).toOption) ∧
      calls.filterMap Call.taken? = outcomes.filterMap Except.toOption ∧
      services.token? after =
        (outcomes.filterMap Except.toOption).getLast?.or (services.token? world) ∧
      (∀ values, ∃ outcome next made,
        services.logged.submit values (after, calls) = (outcome, next, calls ++ made) ∧
          services.Balances values after next outcome made) ∧
      ∀ others, List.Forall₂ (fun values other => ∀ field : Field,
          values.get? field.name = other.get? field.name) submissions others →
        services.logged.submitAll others (world, []) = run := by
  intro run
  obtain ⟨outcomes, after, calls, goAll, submitted, recorded⟩ :=
    services.exists_goAll submissions world
  have whole : run = (outcomes, after, calls) := (recorded []).trans (by rw [List.nil_append])
  rw [whole]
  refine ⟨submitted, goAll.applicants, goAll.taken, goAll.token? holds, fun values => ?_,
    fun others agree => ?_⟩
  · obtain ⟨outcome, next, made, goes, -, logged⟩ := services.exists_goes values after
    exact ⟨outcome, next, made, logged calls, goes.balances holds⟩
  · rw [← services.logged.submitAll_congr agree]
    exact whole

/-- A store that takes every other token, a registrar that refuses an empty address, and values
that lack a field. -/
theorem submitAll_balances_of_failures :
    let services : Services (Bool × Option String) :=
      ⟨fun applicant world =>
          (if applicant.email = "" then .error ⟨"registerUser", .unauthorized⟩
            else .ok applicant.email, world),
        fun token world =>
          if world.1 then (.ok (), false, some token)
          else (.error (.access "token.json" "read-only"), true, world.2),
        fun world => world.2⟩
    let values (email : String) : Entries :=
      (Applicant.mk "Ada" "Lovelace" email "secret").toEntries
    let submissions := [values "a@b", values "c@d", values "", .ofList [("firstName", "Ada")],
      (values "e@f").set "newsletter" "yes"]
    let run := services.logged.submitAll submissions ((true, none), [])
    services.HoldsLatest ∧ run.1.filterMap Except.toOption = ["a@b", "e@f"] ∧
      run.2.2.filterMap Call.taken? = ["a@b", "e@f"] ∧ services.token? run.2.1 = some "e@f" ∧
      (run.2.2.filterMap Call.applicant?).map Applicant.email = ["a@b", "c@d", "", "e@f"] := by
  intro services values submissions run
  have latest : ∀ token world, (services.keep token world).1 = .ok () →
      services.token? (services.keep token world).2 = some token := fun token world took => by
    obtain ⟨_ | _, slot⟩ := world
    · cases took
    · rfl
  have holds : services.HoldsLatest := {
    kept := fun token world took => by rw [latest token world took]; rfl
    latest := latest
    refused := fun token world failure refused => by
      obtain ⟨_ | _, slot⟩ := world
      · rfl
      · cases refused
    registered := fun _ _ => rfl }
  have tokens : run.1.filterMap Except.toOption = ["a@b", "e@f"] := by decide +kernel
  obtain ⟨-, applicants, taken, stored, -⟩ :=
    submitAll_balances services holds (true, none) submissions
  refine ⟨holds, tokens, taken.trans tokens, ?_, ?_⟩
  · rw [stored, tokens]
    rfl
  · rw [applicants]
    decide +kernel

end Onboarding.Registration.Services
