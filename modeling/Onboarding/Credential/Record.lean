/-
This file holds the credential that a registration brings: a token and the moment
at which it was stored. It is kept as a small JSON document.
-/

import Onboarding.Json.Printer
import Onboarding.Json.Record
import Onboarding.Time.Stamp

namespace Onboarding

open Json

/-- A token and the moment at which it was stored. -/
structure Credential where
  token : String
  storedAt : Moment
  deriving DecidableEq, Repr

namespace Credential

/-- The credential as a document of one member a line. -/
def write (credential : Credential) : String :=
  String.ofList (indentedObject [
    ("token", writtenString credential.token),
    ("stored_at", writtenString credential.storedAt.text)])

/-- The credential that a document holds, a record of two members. -/
def ofTree? (tree : Tree) : Option Credential := do
  match ← tree.members? ["token", "stored_at"] 2 with
  | [some token, some storedAt] =>
    return ⟨← token.text?, ← Moment.read? (← storedAt.text?).toList⟩
  | _ => none

/-- The credential that a text holds. -/
def read? (text : String) : Option Credential :=
  (Tree.read? text.toList).bind ofTree?

end Credential

end Onboarding
