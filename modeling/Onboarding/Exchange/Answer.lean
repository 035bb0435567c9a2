/-
This file holds the document that a service answers with: data, or messages that
say why the operation failed, or both. Messages count before data, so that an
operation that failed is never taken for one that went well.
-/

import Onboarding.Exchange.Reply
import Onboarding.Json.Record

namespace Onboarding

open Json

/-- What a service answers; the data is of the type `α`. -/
structure Answer (α : Type) where
  data : Option α
  messages : Option (List String)
  deriving Repr

namespace Answer

variable {α : Type}

/-- The message of an error, a record whose one member is a text. -/
def message? (tree : Tree) : Option String := do
  match ← tree.members? ["message"] 1 with
  | [some message] => message.text?
  | _ => none

/-- What an optional member of a record holds; a member that is missing holds nothing. -/
def member? {β : Type} (read : Tree → Option β) : Option Tree → Option (Option β)
  | some tree => tree.optional? read
  | none => some none

/-- The answer that a document holds, when `readData` finds the data; a record of which both members
may be missing or null. -/
def ofTree? (readData : Tree → Option α) (tree : Tree) : Option (Answer α) := do
  match ← tree.members? ["data", "errors"] 2 with
  | [data, errors] => return ⟨← member? readData data, ← member? (Tree.items? message?) errors⟩
  | _ => none

/-- The data of an answer without messages; else why there is none. -/
def outcome (answer : Answer α) : Except FailureCause α :=
  match answer.messages, answer.data with
  | some (message :: rest), _ => .error (.refused (message :: rest))
  | _, some data => .ok data
  | _, none => .error (.undecodable "No data in response")

/-- The data that a text holds; else why it holds none. -/
def decode (readData : Tree → Option α) (text : String) : Except FailureCause α :=
  match (Tree.read? text.toList).bind (ofTree? readData) with
  | some answer => answer.outcome
  | none => .error (.undecodable "not an answer")

/-- The data that an exchange brought; else the failure of the operation. -/
def ofExchange (charsets : Text.Charsets) (operation : String) (readData : Tree → Option α)
    (exchange : Exchange) : Except Failure α :=
  match (exchange.text charsets).bind (decode readData) with
  | .ok data => .ok data
  | .error cause => .error ⟨operation, cause⟩

end Answer

/-- The data of an answer when any data will do; one level of nesting is taken by the answer. -/
def anyData? (tree : Tree) : Option Value :=
  tree.keep? (levelLimit - 1)

end Onboarding
