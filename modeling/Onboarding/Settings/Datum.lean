/-
This file holds the data that settings are read from, whichever format it was
written in, and how it is converted: a text is made from any single value, and
words such as "yes" stand for truth values.
-/

import Onboarding.Json.Value

namespace Onboarding

open Numeric

/-- A piece of data. -/
inductive Datum where
  | nothing
  | bool (value : Bool)
  | integer (value : Int)
  | float (value : Binary64)
  | text (content : String)
  | array (items : List Datum)
  | table (members : List (String × Datum))
  deriving Repr, Inhabited

namespace Datum

/-! ### Conversions -/

/-- A floating-point number in positional notation. -/
def floatText : Binary64 → String
  | .finite negative significand exponent =>
    String.ofList (Binary64.shortest .up negative significand exponent).positional
  | .infinite negative => if negative then "-inf" else "inf"
  | .notANumber => "NaN"

/-- The datum as a text. -/
def toText? : Datum → Option String
  | text content => some content
  | bool value => some (if value then "true" else "false")
  | integer value => some (toString value)
  | float value => some (floatText value)
  | _ => none

/-- The words that stand for truth. -/
def trueWords : List String := ["true", "on", "yes"]

/-- The words that stand for falsehood. -/
def falseWords : List String := ["false", "off", "no"]

/-- The datum as a truth value: a number is true unless it is zero. -/
def toBool? : Datum → Option Bool
  | bool value => some value
  | integer value => some (value != 0)
  | float value => some (!value.isZero)
  | text content =>
    let word := content.toLower
    if word = "1" || trueWords.contains word then some true
    else if word = "0" || falseWords.contains word then some false
    else none
  | _ => none

/-- The datum as a word of 64 bits: a floating-point number is rounded, and one out of range becomes
the nearest word. -/
def toWord? : Datum → Option Nat
  | bool value => some (if value then 1 else 0)
  | integer value => if 0 ≤ value && value < wordCount then some value.toNat else none
  | float value => some value.toWord
  | text content =>
    let word := content.toLower
    if trueWords.contains word then some 1
    else if falseWords.contains word then some 0
    else wordOfText? content.toList
  | _ => none

/-! ### Members -/

/-- The members of a record by their names, each if it is there. An array holds them in order, and
what it holds beyond them does not count. -/
def members? (names : List String) : Datum → Option (List (Option Datum))
  | table members => some (names.map fun name => members.lookup name)
  | array items => some (names.mapIdx fun index _ => items[index]?)
  | _ => none

mutual

/-- The data of a JSON document; an integer that 64 bits with a sign cannot hold is a floating-point
number. -/
def ofJson : Json.Value → Datum
  | .null => .nothing
  | .bool value => .bool value
  | .number (.integer value) =>
    if value < signedCount then .integer value
    else .float (Binary64.ofDecimal ⟨false, value.toNat, 0⟩)
  | .number (.float value) => .float value
  | .string content => .text content
  | .array items => .array (ofJsonItems items)
  | .object members => .table (ofJsonMembers members)

/-- The data of each of the items. -/
def ofJsonItems : List Json.Value → List Datum
  | [] => []
  | item :: rest => ofJson item :: ofJsonItems rest

/-- The data of each of the members. -/
def ofJsonMembers : List (String × Json.Value) → List (String × Datum)
  | [] => []
  | (name, value) :: rest => (name, ofJson value) :: ofJsonMembers rest

end

end Datum

/-! ### Orders -/

/-- An order of which nothing is known but that it leaves nothing out and adds nothing. -/
structure Order (α : Type) where
  arrange : List α → List α
  perm : ∀ items, (arrange items).Perm items

/-- The order in which the items are given. -/
def Order.asGiven {α : Type} : Order α := ⟨id, fun items => .refl items⟩

/-- The order in which the members of each table are taken, by the names that lead to it, the last
of them first. -/
abbrev Orders := List String → Order (String × Datum)

namespace Datum

mutual

/-- The datum under a place with the members of each table in an order. -/
def arranged (orders : Orders) (place : List String) : Datum → Datum
  | array items => array (arrangedItems orders place items)
  | table members => table ((orders place).arrange (arrangedMembers orders place members))
  | datum => datum

/-- Each of the items with the members of its tables in an order. -/
def arrangedItems (orders : Orders) (place : List String) : List Datum → List Datum
  | [] => []
  | item :: rest => arranged orders place item :: arrangedItems orders place rest

/-- Each of the members with the members of its tables in an order. -/
def arrangedMembers (orders : Orders) (place : List String) :
    List (String × Datum) → List (String × Datum)
  | [] => []
  | (name, datum) :: rest =>
    (name, arranged orders (name :: place) datum) :: arrangedMembers orders place rest

end

/-! ### Comparing -/

mutual

/-- Whether two data are the same. -/
def same : Datum → Datum → Bool
  | nothing, nothing => true
  | bool value, bool other => value = other
  | integer value, integer other => value = other
  | float value, float other => value = other
  | text content, text other => content = other
  | array items, array others => sameItems items others
  | table members, table others => sameMembers members others
  | _, _ => false

/-- Whether two lists of items are the same. -/
def sameItems : List Datum → List Datum → Bool
  | [], [] => true
  | item :: rest, other :: others => same item other && sameItems rest others
  | _, _ => false

/-- Whether two lists of members are the same. -/
def sameMembers : List (String × Datum) → List (String × Datum) → Bool
  | [], [] => true
  | (name, datum) :: rest, (otherName, other) :: others =>
    name = otherName && (same datum other && sameMembers rest others)
  | _, _ => false

end

mutual

theorem eq_of_same : {datum other : Datum} → same datum other = true → datum = other
  | nothing, nothing, _ => rfl
  | bool _, bool _, found => congrArg bool (of_decide_eq_true found)
  | integer _, integer _, found => congrArg integer (of_decide_eq_true found)
  | float _, float _, found => congrArg float (of_decide_eq_true found)
  | text _, text _, found => congrArg text (of_decide_eq_true found)
  | array _, array _, found => congrArg array (eq_of_sameItems found)
  | table _, table _, found => congrArg table (eq_of_sameMembers found)

theorem eq_of_sameItems : {items others : List Datum} → sameItems items others = true →
    items = others
  | [], [], _ => rfl
  | _ :: _, _ :: _, found => by
    obtain ⟨first, rest⟩ := Bool.and_eq_true_iff.mp found
    rw [eq_of_same first, eq_of_sameItems rest]

theorem eq_of_sameMembers : {members others : List (String × Datum)} →
    sameMembers members others = true → members = others
  | [], [], _ => rfl
  | (_, _) :: _, (_, _) :: _, found => by
    obtain ⟨name, others⟩ := Bool.and_eq_true_iff.mp found
    obtain ⟨datum, rest⟩ := Bool.and_eq_true_iff.mp others
    rw [of_decide_eq_true name, eq_of_same datum, eq_of_sameMembers rest]

end

mutual

theorem same_self : (datum : Datum) → same datum datum = true
  | nothing => rfl
  | bool _ | integer _ | float _ | text _ => decide_eq_true rfl
  | array items => sameItems_self items
  | table members => sameMembers_self members

theorem sameItems_self : (items : List Datum) → sameItems items items = true
  | [] => rfl
  | item :: rest => Bool.and_eq_true_iff.mpr ⟨same_self item, sameItems_self rest⟩

theorem sameMembers_self : (members : List (String × Datum)) → sameMembers members members = true
  | [] => rfl
  | (_, datum) :: rest => Bool.and_eq_true_iff.mpr ⟨decide_eq_true rfl,
      Bool.and_eq_true_iff.mpr ⟨same_self datum, sameMembers_self rest⟩⟩

end

instance : DecidableEq Datum := fun datum other =>
  decidable_of_iff (same datum other = true)
    ⟨eq_of_same, fun equal => equal ▸ same_self datum⟩

end Datum

end Onboarding
