/-
This file holds what a command leaves behind: an exit code, and the words on the
two streams. The commands are functions of what they find, so that what a later
command prints follows from what an earlier one kept.
-/

import Onboarding.Registration.Submission
import Onboarding.Settings.Loading
import Onboarding.Settings.Written

namespace Onboarding.CommandLine

open Registration

/-! ### Outcomes -/

/-- What a command leaves behind. -/
structure Outcome where
  code : Nat
  /-- The words on the standard output. -/
  out : String
  /-- The words on the standard error. -/
  err : String
  deriving DecidableEq, Repr

namespace Outcome

/-- The command did what it was asked for. -/
def done (out : String) : Outcome := ⟨0, out, ""⟩

/-- The command failed. What is behind the failure is told below it. -/
def failed (message : String) (cause : Option String) : Outcome :=
  let behind := match cause with
    | some cause => "\n\nCaused by:\n    " ++ cause
    | none => ""
  ⟨1, "", "Error: " ++ message ++ behind ++ "\n"⟩

/-- What is behind the failure of a credential. -/
def credentialCause : CredentialFailure → String
  | .access _ reason => reason
  | .malformed _ reason => reason

/-- A failure of a credential. -/
def credentialFailed (failure : CredentialFailure) : Outcome :=
  failed failure.message (some (credentialCause failure))

/-- A failure of a submission. -/
def submissionFailed (failure : SubmissionFailure) : Outcome :=
  failed failure.message (match failure with
    | .storing failure => some failure.message
    | _ => none)

end Outcome

/-! ### Commands -/

/-- The lines for the fields at fault, in the order of the fields. -/
def faultLines (faults : Entries) : String :=
  String.join (Field.all.filterMap fun field =>
    (faults.get? field.name).map fun message => "  " ++ field.name ++ ": " ++ message ++ "\n")

/-- The words after a registration. -/
def registeredText (persist : Bool) (path : String) : String :=
  if persist then "Registered. Token stored at " ++ path ++ "\n"
  else "Registered. Token kept for this session only (credentials.persist = false)\n"

/-- Registers an applicant that keeps the rules of the form; the words for success are given. -/
def register {ω : Type} (services : Services ω) (success : String) (applicant : Applicant)
    (world : ω) : Outcome × ω :=
  let values := applicant.toEntries
  let faults := schema.faults values
  if !faults.isEmpty then
    let failed := Outcome.failed "invalid registration details" none
    ({ failed with err := faultLines faults ++ failed.err }, world)
  else
    match services.submit values world with
    | (.ok _, world) => (.done success, world)
    | (.error failure, world) => (.submissionFailed failure, world)

/-- Prints a token. -/
def printToken : Option String → Outcome
  | some token => .done (token ++ "\n")
  | none => .failed "no stored access token; run `swallowtail register` first" none

/-- Tells that the token is forgotten. -/
def loggedOut : Except CredentialFailure Unit → Outcome
  | .ok () => .done "Signed out\n"
  | .error failure => .credentialFailed failure

/-- Prints the settings. -/
def printSettings (settings : Settings) : Outcome :=
  match settings.write? with
  | some text => .done (String.ofList text)
  | none => .failed "Failed to serialize config to TOML" (some "a number is out of range")

end Onboarding.CommandLine
