/-
This file holds JSON data that is kept: its strings are texts, its numbers are
in range, and the members of an object are sorted by name without repeats. Data
is kept from a document unless it is nested too deep or holds a string or a
number that has no value.
-/

import Onboarding.Json.Number
import Onboarding.Json.Tree

namespace Onboarding.Json

/-! ### Strings -/

/-- The text that the pieces of a string spell; two units that make a surrogate pair stand for one
character, and any other surrogate for none. -/
def textOf? : List StringPiece → Option (List Char)
  | [] => some []
  | .char c :: rest => (textOf? rest).map (c :: ·)
  | .unit high :: .unit low :: rest =>
    if 0xd800 ≤ high && high < 0xdc00 then
      if 0xdc00 ≤ low && low < 0xe000 then
        (textOf? rest).map
          (Char.ofNat (0x10000 + (high - 0xd800) * 0x400 + (low - 0xdc00)) :: ·)
      else none
    else if 0xdc00 ≤ high && high < 0xe000 then none
    else (textOf? (.unit low :: rest)).map (Char.ofNat high :: ·)
  | .unit code :: rest =>
    if 0xd800 ≤ code && code < 0xe000 then none
    else (textOf? rest).map (Char.ofNat code :: ·)

/-- The text of a string. -/
def string? (pieces : List StringPiece) : Option String :=
  (textOf? pieces).map String.ofList

/-! ### Values -/

/-- JSON data that is kept. -/
inductive Value where
  | null
  | bool (value : Bool)
  | number (value : Number)
  | string (text : String)
  | array (items : List Value)
  /-- The members, sorted by name. -/
  | object (members : List (String × Value))
  deriving Repr, Inhabited

/-- The members with the value under a name put into its place. -/
def insertMember (name : String) (value : Value) :
    List (String × Value) → List (String × Value)
  | [] => [(name, value)]
  | (other, old) :: rest =>
    if name = other then (name, value) :: rest
    else if name < other then (name, value) :: (other, old) :: rest
    else (other, old) :: insertMember name value rest

/-- The members sorted by name; of those with one name the last stays. -/
def sortMembers (members : List (String × Value)) : List (String × Value) :=
  members.foldl (fun sorted member => insertMember member.1 member.2 sorted) []

mutual

/-- The data that a document keeps when so many levels of arrays and objects are allowed. -/
def Tree.keep? (levels : Nat) : Tree → Option Value
  | .null => some .null
  | .bool value => some (.bool value)
  | .number numeral => numeral.number?.map .number
  | .string pieces => (string? pieces).map .string
  | .array items =>
    if levels = 0 then none else (keepItems? (levels - 1) items).map .array
  | .object members =>
    if levels = 0 then none
    else (keepMembers? (levels - 1) members).map fun kept => .object (sortMembers kept)

/-- The data that each of the documents keeps. -/
def keepItems? (levels : Nat) : List Tree → Option (List Value)
  | [] => some []
  | item :: rest => do
    let kept ← item.keep? levels
    return kept :: (← keepItems? levels rest)

/-- The data that each of the members keeps, under its name. -/
def keepMembers? (levels : Nat) :
    List (List StringPiece × Tree) → Option (List (String × Value))
  | [] => some []
  | (pieces, tree) :: rest => do
    let name ← string? pieces
    let kept ← tree.keep? levels
    return (name, kept) :: (← keepMembers? levels rest)

end

/-- How many levels of arrays and objects are allowed in data that is kept. -/
def levelLimit : Nat := 127

end Onboarding.Json
