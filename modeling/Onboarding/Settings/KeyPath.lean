/-
This file holds paths through data: names with dots between them, and numbers in
brackets for the items of arrays. Data is put under a path; a table is not put in
the place of another but merged into it, name by name.
-/

import Onboarding.Settings.Datum

namespace Onboarding

/-! ### Paths -/

/-- A step from a piece of data to one inside it. -/
inductive PathStep where
  | name (name : String)
  /-- The item with the index; a negative index counts from the end. -/
  | index (index : Int)
  deriving DecidableEq, Repr

namespace PathStep

/-- Whether the character may stand in a name. -/
def isNameChar (c : Char) : Bool :=
  c.isAlphanum || c == ' ' || c == '_' || c == '-'

/-- Reads a name. -/
def readName? (text : List Char) : Option (PathStep × List Char) :=
  let name := text.takeWhile isNameChar
  if name.isEmpty then none
  else some (.name (String.ofList name), text.drop name.length)

/-- The text without the spaces and tabs at its start. -/
def dropSpaces (text : List Char) : List Char :=
  text.dropWhile fun c => c == ' ' || c == '\t'

/-- Reads an index up to its bracket. -/
def readIndex? (text : List Char) : Option (PathStep × List Char) :=
  let text := dropSpaces text
  let (negative, text) := match text with
    | '-' :: rest => (true, rest)
    | text => (false, text)
  let digits := text.takeWhile Char.isDigit
  match dropSpaces (text.drop digits.length) with
  | ']' :: rest =>
    let value := Numeric.digitsValue digits
    if digits.isEmpty || Numeric.signedCount ≤ value then none
    else some (.index (if negative then -(value : Int) else value), rest)
  | _ => none

/-- Reads the steps that follow a name; so many at most. -/
def readSteps? : Nat → List Char → Option (List PathStep)
  | _, [] => some []
  | 0, _ => none
  | fuel + 1, c :: rest => do
    let (step, rest) ←
      if c == '.' then readName? rest else if c == '[' then readIndex? rest else none
    return step :: (← readSteps? fuel rest)

/-- The path that a key spells; a key that spells none is a name as a whole. -/
def ofKey (key : String) : List PathStep :=
  let spelled := do
    let (step, rest) ← readName? key.toList
    return step :: (← readSteps? rest.length rest)
  spelled.getD [.name key]

end PathStep

/-! ### Putting data under a path -/

namespace Datum

/-- The members with a datum under a name, in the place of the one that is there. -/
def setMember (name : String) (datum : Datum) :
    List (String × Datum) → List (String × Datum)
  | [] => [(name, datum)]
  | (other, old) :: rest =>
    if other = name then (name, datum) :: rest else (other, old) :: setMember name datum rest

/-- The members of a table; anything else has none. -/
def tableMembers : Datum → List (String × Datum)
  | table members => members
  | _ => []

/-- The items of an array; anything else has none. -/
def arrayItems : Datum → List Datum
  | array items => items
  | _ => []

mutual

/-- The datum with another put under a name, which is taken in small letters. Under the name a table
is merged with the one that is there; data of any other kind replaces what is there. -/
def put (root : Datum) (name : String) : Datum → Datum
  | .table incoming =>
    let members := root.tableMembers
    let target := (members.lookup name.toLower).getD (.table [])
    .table (setMember name.toLower (putAll target incoming) members)
  | datum => .table (setMember name.toLower datum root.tableMembers)

/-- The datum with the members of a table put under their names. -/
def putAll (root : Datum) : List (String × Datum) → Datum
  | [] => root
  | (name, datum) :: rest => putAll (put root name datum) rest

end

/-- The place of an index in so many items, and none before the first. -/
def placeOf (index : Int) (count : Nat) : Nat :=
  if 0 ≤ index then index.toNat else count - index.natAbs

/-- The datum with `act` done to what lies at the end of a path; what is missing on the way is
made. -/
def alter (act : Datum → Datum) (root : Datum) : List PathStep → Datum
  | [] => act root
  | .name name :: rest =>
    let members := root.tableMembers
    let inner := (members.lookup name.toLower).getD .nothing
    .table (setMember name.toLower (alter act inner rest) members)
  | .index index :: rest =>
    let items := root.arrayItems
    let place := placeOf index items.length
    let items := items ++ List.replicate (place + 1 - items.length) .nothing
    .array (items.set place (alter act (items.getD place .nothing) rest))

/-- The datum with another put under a path. -/
def putAt (root : Datum) (path : List PathStep) (datum : Datum) : Datum :=
  match path.getLast? with
  | some (.name name) => alter (fun inner => put inner name datum) root path.dropLast
  | some (.index _) => alter (fun _ => datum) root path
  | none => root

/-- The datum with the members of a layer put under the paths that their names spell. -/
def putLayer (root : Datum) (members : List (String × Datum)) : Datum :=
  members.foldl (fun root member => putAt root (PathStep.ofKey member.1) member.2) root

end Datum

end Onboarding
