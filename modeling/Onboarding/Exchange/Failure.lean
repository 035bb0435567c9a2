/-
This file holds what can go wrong when a request is sent: the causes, the words
for each of them, and which of them may pass when the request is sent again.
-/

namespace Onboarding

/-- Why a request failed. -/
inductive FailureCause where
  /-- The service does not know who asks. -/
  | unauthorized
  /-- The service knows who asks and refuses. -/
  | forbidden
  /-- Too many requests were sent; perhaps with the number of seconds to wait. -/
  | rateLimited (waitSeconds : Option Nat)
  /-- No reply came, or it broke off. -/
  | network (reason : String)
  /-- The service replied with some other status than success. -/
  | http (status : Nat) (body : String)
  /-- The service replied that the operation failed. -/
  | refused (messages : List String)
  /-- The reply is not what a service replies. -/
  | undecodable (reason : String)
  /-- The registration went well and yet brought no token. -/
  | missingToken
  deriving DecidableEq, Repr

/-- The operation that failed, and why. -/
structure Failure where
  operation : String
  cause : FailureCause
  deriving DecidableEq, Repr

namespace FailureCause

/-- The words for a cause. -/
def message : FailureCause → String
  | unauthorized => "Unauthorized (401)"
  | forbidden => "Forbidden (403) - insufficient permissions"
  | rateLimited _ => "Rate limited"
  | network reason => "Network error - " ++ reason
  | http status body => "HTTP " ++ toString status ++ " - " ++ body
  | refused messages => String.intercalate "; " messages
  | undecodable reason => "Parse error - " ++ reason
  | missingToken => "No token in response"

/-- Whether the same request may go well later. -/
def isRetryable : FailureCause → Bool
  | rateLimited _ => true
  | network _ => true
  | http status _ => 500 ≤ status
  | _ => false

end FailureCause

namespace Failure

/-- The words for a failure. -/
def message (failure : Failure) : String :=
  failure.operation ++ ": " ++ failure.cause.message

/-- Whether the same request may go well later. -/
def isRetryable (failure : Failure) : Bool :=
  failure.cause.isRetryable

/-- The words for a failure with an invitation to try again where that may help. -/
def advice (failure : Failure) : String :=
  if failure.isRetryable then failure.message ++ " (try again)" else failure.message

end Failure

end Onboarding
