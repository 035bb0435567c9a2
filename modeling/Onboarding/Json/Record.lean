/-
This file holds the reading of records from JSON documents. A record is an
object with named members, of which unknown ones are passed over and known ones
must not be repeated, or an array of the members in order.
-/

import Onboarding.Json.Value

namespace Onboarding.Json

namespace Tree

/-! ### Plain members -/

/-- The text of a string. -/
def text? : Tree → Option String
  | string pieces => string? pieces
  | _ => none

/-- The truth value. -/
def bool? : Tree → Option Bool
  | bool value => some value
  | _ => none

/-- The word of 64 bits. -/
def word? : Tree → Option Nat
  | number numeral => numeral.word?
  | _ => none

/-- What an optional member holds: nothing when it is null, else what `read` finds; none when that
finds nothing. -/
def optional? {α : Type} (read : Tree → Option α) : Tree → Option (Option α)
  | null => some none
  | tree => (read tree).map some

/-- What `read` finds in each item of an array. -/
def items? {α : Type} (read : Tree → Option α) : Tree → Option (List α)
  | array items => items.mapM read
  | _ => none

/-! ### Records -/

/-- The one member with a name, if there is one; none when there are several. -/
def onlyMember? (members : List (String × Tree)) (name : String) : Option (Option Tree) :=
  match members.filter fun member => member.1 == name with
  | [] => some none
  | [member] => some (some member.2)
  | _ => none

/-- The members with their names as texts. -/
def namedMembers? (members : List (List StringPiece × Tree)) : Option (List (String × Tree)) :=
  members.mapM fun member => (string? member.1).map fun name => (name, member.2)

/-- The members of a record in the order of `names`, each if it is there. As an array it has at most
all of them and at least the first `required` ones. -/
def members? (names : List String) (required : Nat) : Tree → Option (List (Option Tree))
  | object members => do
    let named ← namedMembers? members
    names.mapM (onlyMember? named)
  | array items =>
    if items.length ≤ names.length && required ≤ items.length then
      some (items.map some ++ List.replicate (names.length - items.length) none)
    else none
  | _ => none

end Tree

end Onboarding.Json
