/-
This file holds the tables of a TOML document while they grow. A table is made by
a header, by a header of a table inside it, or by a key with dots; what may be
added to it later depends on that, so that nothing is defined twice.
-/

import Onboarding.Settings.Datum

namespace Onboarding.Toml

/-! ### Tables -/

/-- How a table came to be. -/
inductive Origin where
  /-- By a header of its own. -/
  | header
  /-- By the header of a table inside it. -/
  | implied
  /-- By a key with dots. -/
  | dotted
  deriving DecidableEq, Repr

/-- What stands under a name. -/
inductive Entry where
  /-- A value, to which nothing can be added. -/
  | value (datum : Datum)
  | table (origin : Origin) (members : List (String × Entry))
  /-- A list of tables, of which the last one grows. -/
  | tables (items : List (List (String × Entry)))
  deriving Repr, Inhabited

/-- The members of a table, in the order in which they came. -/
abbrev Members := List (String × Entry)

namespace Members

/-- Puts an entry under a name, in the place of the one that is there. -/
def put (name : String) (entry : Entry) : Members → Members
  | [] => [(name, entry)]
  | (other, old) :: rest =>
    if other = name then (name, entry) :: rest else (other, old) :: put name entry rest

/-- Changes the table that a path leads to from a table. Tables that are missing are made, and of a
list of tables the last one counts; a key with dots does not lead through a table with a header. -/
def change (dots : Bool) (act : Origin → Members → Option Members) :
    Origin → Members → List String → Option Members
  | origin, members, [] => act origin members
  | _, members, name :: path =>
    match members.lookup name with
    | none => do
      let origin := if dots then .dotted else .implied
      let inner ← change dots act origin [] path
      return put name (.table origin inner) members
    | some (.value _) => none
    | some (.table origin inner) =>
      if dots && origin = .header then none
      else do
        let inner ← change dots act origin inner path
        return put name (.table origin inner) members
    | some (.tables items) => do
      let last ← items.getLast?
      let inner ← change dots act .header last path
      return put name (.tables (items.dropLast ++ [inner])) members

/-- Adds a value under a key of a table; none when the key has been used. -/
def add (origin : Origin) (members : Members) (key : List String) (datum : Datum) :
    Option Members :=
  let path := key.dropLast
  let act (origin : Origin) (members : Members) : Option Members := do
    let name ← key.getLast?
    if decide (origin = .dotted) == path.isEmpty then none
    else
      match members.lookup name with
      | some _ => none
      | none => some (members ++ [(name, .value datum)])
  change true act origin members path

/-- Begins the table of a header; none when the table has been begun. -/
def beginTable (members : Members) (key : List String) : Option Members :=
  let act (_ : Origin) (members : Members) : Option Members := do
    let name ← key.getLast?
    match members.lookup name with
    | none => some (put name (.table .header []) members)
    | some (.table .implied inner) => some (put name (.table .header inner) members)
    | some _ => none
  change false act .header members key.dropLast

/-- Begins one more table of a list; none when something else stands under the key. -/
def beginItem (members : Members) (key : List String) : Option Members :=
  let act (_ : Origin) (members : Members) : Option Members := do
    let name ← key.getLast?
    match members.lookup name with
    | none => some (put name (.tables [[]]) members)
    | some (.tables items) => some (put name (.tables (items ++ [[]])) members)
    | some _ => none
  change false act .header members key.dropLast

/-- Adds a value under a key of the table that a header began. -/
def addUnder (members : Members) (header key : List String) (datum : Datum) : Option Members :=
  change false (fun origin members => add origin members key datum) .header members header

end Members

/-! ### Data -/

mutual

/-- The data that stands under a name. -/
def Entry.datum : Entry → Datum
  | .value datum => datum
  | .table _ members => .table (membersData members)
  | .tables items => .array (tablesData items)

/-- The data of the members of a table. -/
def membersData : List (String × Entry) → List (String × Datum)
  | [] => []
  | (name, entry) :: rest => (name, entry.datum) :: membersData rest

/-- The data of each of the tables. -/
def tablesData : List (List (String × Entry)) → List Datum
  | [] => []
  | members :: rest => .table (membersData members) :: tablesData rest

end

end Onboarding.Toml
