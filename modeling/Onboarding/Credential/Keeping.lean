/-
This file holds the keeping of a token: in a slot that lasts as long as the
program runs, and in a file that lasts longer. Whether a change of the file
succeeds is not decided here but given; a token that cannot be written stays in
the slot, so that the user is signed in all the same.
-/

import Onboarding.Credential.Record
import Onboarding.Text.Decoding

namespace Onboarding

/-! ### The file -/

/-- What is found where the credential should be. -/
inductive FileContent where
  | missing
  | directory
  | file (bytes : List UInt8) (mode : Nat)
  deriving DecidableEq, Repr

/-- Why a credential cannot be read, written or removed. -/
inductive CredentialFailure where
  | access (path reason : String)
  | malformed (path reason : String)
  deriving DecidableEq, Repr

/-- The words for a failure. -/
def CredentialFailure.message : CredentialFailure → String
  | access path reason => "failed to access credential file " ++ path ++ ": " ++ reason
  | malformed path reason => "credential file " ++ path ++ " is malformed: " ++ reason

/-- What came of writing the file. -/
inductive WriteOutcome where
  /-- All of it was written, readable by its owner only. -/
  | complete
  /-- Its directory could not be made or it could not be opened, and it is as it was. -/
  | untouched
  /-- It was emptied, but whom it is readable by could not be changed. -/
  | emptied
  /-- So many bytes were written before it broke off. -/
  | brokenOff (count : Nat)
  deriving DecidableEq, Repr

/-- What came of removing the file. -/
inductive RemovalOutcome where
  | removed
  | refused (reason : String)
  deriving DecidableEq, Repr

namespace FileContent

/-- The mode of a file that its owner alone may read and write. -/
def ownerOnly : Nat := 0o600

/-- The mode of what is found, and of a new file where nothing is. -/
def mode : FileContent → Nat
  | .file _ mode => mode
  | _ => ownerOnly

/-- What is found after writing a text. -/
def written (content : FileContent) (new : String) : WriteOutcome → FileContent
  | .complete => .file (Text.utf8Bytes new) ownerOnly
  | .untouched => content
  | .emptied => .file [] content.mode
  | .brokenOff count => .file ((Text.utf8Bytes new).take count) ownerOnly

/-- The credential that is found; nothing where there is no file. -/
def credential (path : String) : FileContent → Except CredentialFailure (Option Credential)
  | .missing => .ok none
  | .directory => .error (.access path "Is a directory (os error 21)")
  | .file bytes _ =>
    match Text.ofUtf8? bytes with
    | none => .error (.access path "stream did not contain valid UTF-8")
    | some text =>
      match Credential.read? text with
      | some credential => .ok (some credential)
      | none => .error (.malformed path "not a credential")

/-- The token that is found; none when nothing can be read. -/
def token? (content : FileContent) : Option String :=
  match content.credential "" with
  | .ok (some credential) => some credential.token
  | _ => none

end FileContent

/-! ### The slot and the file -/

/-- The slot and the file of one running program. -/
structure Keeping where
  slot : Option String
  file : FileContent
  deriving DecidableEq, Repr

namespace Keeping

/-- Puts a token into the slot and writes it to the file. A file that cannot be written is passed
over, and the token counts as stored all the same. -/
def set (keeping : Keeping) (token : String) (now : Moment) (outcome : WriteOutcome) :
    Except CredentialFailure Unit × Keeping :=
  (.ok (), ⟨some token, keeping.file.written (Credential.write ⟨token, now⟩) outcome⟩)

/-- The token in the slot, else the one in the file. -/
def token? (keeping : Keeping) : Option String :=
  keeping.slot.or keeping.file.token?

/-- Puts the token of the file into the slot, if there is one; the failure to read it leaves the
slot as it is. -/
def restore (keeping : Keeping) : Keeping :=
  match keeping.file.token? with
  | some token => { keeping with slot := some token }
  | none => keeping

/-- Empties the slot and removes the file. -/
def clear (keeping : Keeping) (path : String) (outcome : RemovalOutcome) :
    Except CredentialFailure Unit × Keeping :=
  match keeping.file, outcome with
  | .missing, _ => (.ok (), ⟨none, .missing⟩)
  | _, .removed => (.ok (), ⟨none, .missing⟩)
  | file, .refused reason => (.error (.access path reason), ⟨none, file⟩)

end Keeping

end Onboarding
