/-
This file holds the registration with the service: the request that is sent for
an applicant, the token that the exchange brings, and applicants as JSON.
-/

import Onboarding.Exchange.Answer
import Onboarding.Exchange.Request
import Onboarding.Registration.Applicant

namespace Onboarding.Registration

open Json

/-! ### Applicants as JSON -/

namespace Applicant

/-- The member of a request that holds the field's text. -/
def memberName (field : Field) : String := field.name

/-- The applicant as an object, its members in the order of the fields. -/
def write (applicant : Applicant) : List Char :=
  writtenObject
    (Field.all.map fun field => (memberName field, writtenString (applicant.text field)))

/-- The applicant that a document holds, a record of four texts. -/
def ofTree? (tree : Tree) : Option Applicant := do
  match ← tree.members? (Field.all.map memberName) 4 with
  | [some firstName, some lastName, some email, some password] =>
    return ⟨← firstName.text?, ← lastName.text?, ← email.text?, ← password.text?⟩
  | _ => none

/-- The applicant that a text holds. -/
def read? (text : String) : Option Applicant :=
  (Tree.read? text.toList).bind ofTree?

/-- The applicant as the variables of a request. -/
def parameters (applicant : Applicant) : Value :=
  .object (sortMembers
    (Field.all.map fun field => (memberName field, .string (applicant.text field))))

end Applicant

/-! ### The request -/

/-- The name of the operation. -/
def operationName : String := "registerUser"

/-- The operation as a text of the service's query language. -/
def mutation : String :=
  String.intercalate "\n" [
    "",
    "    mutation registerUser(",
    "        $firstName: String!",
    "        $lastName: String!",
    "        $email: String!",
    "        $password: String!",
    "    ) \x7b",
    "        registerUser(",
    "            firstName: $firstName",
    "            lastName: $lastName",
    "            email: $email",
    "            password: $password",
    "        ) \x7b",
    "            token",
    "        \x7d",
    "    \x7d",
    ""]

/-- The request that registers an applicant. -/
def request (applicant : Applicant) : Request :=
  ⟨mutation, some applicant.parameters⟩

/-! ### The answer -/

/-- The token in what the service tells of the new user, a record of which the token may be missing
or null. -/
def payloadToken? (tree : Tree) : Option (Option String) := do
  match ← tree.members? ["token"] 1 with
  | [token] => Answer.member? Tree.text? token
  | _ => none

/-- The token in the data of an answer, if the data holds one. -/
def dataToken? (tree : Tree) : Option (Option String) := do
  match ← tree.members? [operationName] 1 with
  | [user] => return (← Answer.member? payloadToken? user).join
  | _ => none

/-- The token that an exchange brought, which is not empty; else the failure of the registration. -/
def tokenOf (charsets : Text.Charsets) (exchange : Exchange) : Except Failure String :=
  match Answer.ofExchange charsets operationName dataToken? exchange with
  | .error failure => .error failure
  | .ok (some token) => if token = "" then .error ⟨operationName, .missingToken⟩ else .ok token
  | .ok none => .error ⟨operationName, .missingToken⟩

end Onboarding.Registration
