/-
This file holds a submission: the values of a form are taken as an applicant, the
applicant is registered, and the token that this brings is stored. The services
that do so are given; each is asked at most once, and the store only for a token
that the registration brought.
-/

import Onboarding.Credential.Keeping
import Onboarding.Exchange.Failure
import Onboarding.Registration.Applicant

namespace Onboarding.Registration

/-! ### Services and failures -/

/-- What a submission needs of its surroundings `ω`. -/
structure Services (ω : Type) where
  /-- Registers an applicant; the token that this brings. -/
  register : Applicant → ω → Except Failure String × ω
  /-- Stores a token. -/
  keep : String → ω → Except CredentialFailure Unit × ω
  /-- The token that is stored. -/
  token? : ω → Option String

/-- Why a submission failed. -/
inductive SubmissionFailure where
  /-- The values lack a field. -/
  | missingField (field : Field)
  /-- The applicant was not registered. -/
  | registration (failure : Failure)
  /-- The applicant was registered, but the token not stored. -/
  | storing (failure : CredentialFailure)
  deriving DecidableEq, Repr

namespace SubmissionFailure

/-- The words for a failure. -/
def message : SubmissionFailure → String
  | missingField field => "missing form field '" ++ field.name ++ "'"
  | registration failure => failure.message
  | storing failure =>
    "registration succeeded but the credential could not be stored: " ++ failure.message

/-- The words for a failure with an invitation to try again where that may help. -/
def advice : SubmissionFailure → String
  | registration failure => failure.advice
  | failure => failure.message

end SubmissionFailure

/-! ### Submitting -/

/-- What came of the registration of an applicant: the token when it was brought and stored. -/
def Services.registerAndKeep {ω : Type} (services : Services ω) (applicant : Applicant)
    (world : ω) : Except SubmissionFailure String × ω :=
  match services.register applicant world with
  | (.error failure, world) => (.error (.registration failure), world)
  | (.ok token, world) =>
    match services.keep token world with
    | (.error failure, world) => (.error (.storing failure), world)
    | (.ok (), world) => (.ok token, world)

/-- Submits the values of a form. Values that lack a field are not submitted. -/
def Services.submit {ω : Type} (services : Services ω) (values : Entries) (world : ω) :
    Except SubmissionFailure String × ω :=
  match Applicant.ofEntries values with
  | .error field => (.error (.missingField field), world)
  | .ok applicant => services.registerAndKeep applicant world

end Onboarding.Registration
