/-
This file holds the settings of the program: their names, their defaults, and how
they are read from a JSON document and from data of any format. What is not given
has its default.
-/

import Onboarding.Json.Record
import Onboarding.Settings.Datum

namespace Onboarding

open Json

/-- The settings of the program. -/
structure Settings where
  /-- The address of the service. -/
  endpoint : String
  /-- The directory for the credential and for logs. -/
  state : String
  /-- Whether the token is kept in a file. -/
  persist : Bool
  /-- How many milliseconds pass between two rounds of drawing. -/
  refreshMillis : Nat
  /-- How much is logged. -/
  level : String
  /-- Whether logs go to a file. -/
  toFile : Bool
  deriving DecidableEq, Repr

namespace Settings

/-- The settings when nothing is given. -/
def default : Settings where
  endpoint := "http://0.0.0.0:5000/graphql"
  state := ".swallowtail"
  persist := true
  refreshMillis := 100
  level := "info"
  toFile := true

/-- The names of the sections, in order. -/
def sectionNames : List String := ["api", "paths", "credentials", "ui", "logging"]

/-! ### Reading a JSON document -/

/-- What `read` finds in a member, or the default when there is no member. -/
def memberOr? {α : Type} (read : Tree → Option α) (otherwise : α) : Option Tree → Option α
  | some tree => read tree
  | none => some otherwise

/-- The member of a section with one. -/
def sectionOf? {α : Type} (name : String) (read : Tree → Option α) (otherwise : α) (tree : Tree) :
    Option α := do
  match ← tree.members? [name] 0 with
  | [member] => memberOr? read otherwise member
  | _ => none

/-- The level and the way of logging. -/
def logging? (tree : Tree) : Option (String × Bool) := do
  match ← tree.members? ["level", "to_file"] 0 with
  | [level, toFile] =>
    return (← memberOr? Tree.text? default.level level,
      ← memberOr? Tree.bool? default.toFile toFile)
  | _ => none

/-- The settings that a document holds, a record of records. -/
def ofTree? (tree : Tree) : Option Settings := do
  match ← tree.members? sectionNames 0 with
  | [api, paths, credentials, ui, logging] =>
    let endpoint ←
      memberOr? (sectionOf? "endpoint" Tree.text? default.endpoint) default.endpoint api
    let state ← memberOr? (sectionOf? "state" Tree.text? default.state) default.state paths
    let persist ←
      memberOr? (sectionOf? "persist" Tree.bool? default.persist) default.persist credentials
    let refreshMillis ← memberOr? (sectionOf? "refresh_rate_ms" Tree.word? default.refreshMillis)
      default.refreshMillis ui
    let (level, toFile) ← memberOr? logging? (default.level, default.toFile) logging
    return { endpoint, state, persist, refreshMillis, level, toFile }
  | _ => none

/-- The settings that a text holds. -/
def readJson? (text : String) : Option Settings :=
  (Tree.read? text.toList).bind ofTree?

/-! ### Reading data -/

/-- What `convert` makes of the member of a section, or the default when either is missing. -/
def datumOr? {α : Type} (names : List String) (index : Nat) (convert : Datum → Option α)
    (otherwise : α) : Option Datum → Option α
  | none => some otherwise
  | some given => do
    let members ← given.members? names
    match members[index]?.join with
    | some member => convert member
    | none => some otherwise

/-- The settings that data holds. -/
def ofDatum? (given : Datum) : Option Settings := do
  match ← given.members? sectionNames with
  | [api, paths, credentials, ui, logging] =>
    let endpoint ← datumOr? ["endpoint"] 0 Datum.toText? default.endpoint api
    let state ← datumOr? ["state"] 0 Datum.toText? default.state paths
    let persist ← datumOr? ["persist"] 0 Datum.toBool? default.persist credentials
    let refreshMillis ← datumOr? ["refresh_rate_ms"] 0 Datum.toWord? default.refreshMillis ui
    let level ← datumOr? ["level", "to_file"] 0 Datum.toText? default.level logging
    let toFile ← datumOr? ["level", "to_file"] 1 Datum.toBool? default.toFile logging
    return { endpoint, state, persist, refreshMillis, level, toFile }
  | _ => none

/-! ### Questions -/

/-- How much is logged when the user may ask for everything. -/
def effectiveLevel (settings : Settings) (debug : Bool) : String :=
  if debug then "debug" else settings.level

end Settings

end Onboarding
