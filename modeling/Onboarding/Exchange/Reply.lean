/-
This file holds the reply to a request: its status, its headers and its body.
Main questions: what text a header and a body hold, how long the service asks to
wait, and which failure a status stands for.
-/

import Onboarding.Exchange.Failure
import Onboarding.Exchange.MediaType
import Onboarding.Numeric.Word
import Onboarding.Text.Decoding

namespace Onboarding

open Text

/-! ### Replies -/

/-- The body of a reply. -/
inductive Body where
  | whole (bytes : List UInt8)
  /-- The body broke off before its end, for the reason told. -/
  | broken (reason : String)
  deriving DecidableEq, Repr

/-- A reply. -/
structure Reply where
  status : Nat
  /-- The headers in order, each with its name. -/
  headers : List (String × String)
  body : Body
  deriving DecidableEq, Repr

/-- What came of sending a request. The reply is the one that is left when redirects have been
followed: a reply that sends the request elsewhere is seen only where it cannot be followed. -/
inductive Exchange where
  /-- No reply came, or no end of redirects, for the reason told. -/
  | failed (reason : String)
  | replied (reply : Reply)
  deriving DecidableEq, Repr

namespace Reply

/-! ### Headers -/

/-- Whether a header may hold the character in a value that is read as text. -/
def isHeaderChar (c : Char) : Bool :=
  c == '\t' || (' ' ≤ c && c ≤ '~')

/-- The value of a header without the blanks and tabs around it. -/
def trimHeader (value : List Char) : List Char :=
  let isSpace (c : Char) : Bool := c == ' ' || c == '\t'
  ((value.dropWhile isSpace).reverse.dropWhile isSpace).reverse

/-- The text of the first header with a name, in letters of any case; none when it holds anything
but visible characters and blanks. -/
def header? (reply : Reply) (name : String) : Option String := do
  let (_, value) ← reply.headers.find? fun header => header.1.toLower == name.toLower
  let kept := trimHeader value.toList
  if kept.all isHeaderChar then some (String.ofList kept) else none

/-- How many seconds the service asks to wait. -/
def waitSeconds? (reply : Reply) : Option Nat :=
  (reply.header? "Retry-After").bind fun text => Numeric.wordOfText? text.toList

/-! ### Bodies -/

/-- The encoding of the body: the one that the media type names, else the usual one. -/
def encoding (charsets : Charsets) (reply : Reply) : Encoding :=
  let named := do
    let parameters ← MediaType.parameters? (← reply.header? "Content-Type").toList
    encodingNamed? charsets (← parameters.lookup "charset")
  named.getD .utf8

/-- The text of the body; the reason when it broke off. -/
def text (charsets : Charsets) (reply : Reply) : Except String String :=
  match reply.body with
  | .whole bytes => .ok (decoded (reply.encoding charsets) bytes)
  | .broken reason => .error reason

/-- Whether the status is one of success. -/
def isSuccess (reply : Reply) : Bool :=
  200 ≤ reply.status && reply.status < 300

/-- The failure that a status stands for, which is not one of success. A body that broke off counts
as empty. -/
def statusFailure (charsets : Charsets) (reply : Reply) : FailureCause :=
  match reply.status with
  | 401 => .unauthorized
  | 403 => .forbidden
  | 429 => .rateLimited reply.waitSeconds?
  | status =>
    .http status (match reply.text charsets with
      | .ok text => text
      | .error _ => "")

end Reply

/-- The text that an exchange brought with a status of success, else why there is none. -/
def Exchange.text (charsets : Charsets) : Exchange → Except FailureCause String
  | .failed reason => .error (.network reason)
  | .replied reply =>
    if reply.isSuccess then
      match reply.text charsets with
      | .ok text => .ok text
      | .error reason => .error (.network reason)
    else .error (reply.statusFailure charsets)

end Onboarding
