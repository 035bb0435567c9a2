/-
This file holds the body of a request: an operation as a text of the service's
query language, and the values of its variables. The members are written in this
order, so that equal requests have equal bodies.
-/

import Onboarding.Json.Printer

namespace Onboarding

open Json

/-- An operation to be asked of a service. -/
structure Request where
  query : String
  /-- The values of the variables, if the operation has any. -/
  parameters : Option Value
  deriving Repr

/-- The body of the request. -/
def Request.body (request : Request) : List Char :=
  let query := ("query", writtenString request.query)
  match request.parameters with
  | some parameters => writtenObject [query, ("variables", parameters.write)]
  | none => writtenObject [query]

end Onboarding
