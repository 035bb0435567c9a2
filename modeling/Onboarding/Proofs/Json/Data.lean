/-
This file proves that data is read back from its text. The document that is printed for
the data is written down here, so that two questions come apart: that the text is written
by the rules of JSON from this document, and that the document holds the data again.

The data that a document holds is said here without the limits of a reader: arrays and
objects may be nested to any depth, but no name may stand twice in an object.
-/

import Onboarding.Json.Value
import Onboarding.Proofs.Json.Numbers
import Onboarding.Proofs.Json.Printing

namespace Onboarding.Json

/-! ### The data that a document holds -/

/-- An object with members whose names differ. -/
def distinct? (members : List (String × Value)) : Option Value :=
  if (members.map Prod.fst).Nodup then some (.object (sortMembers members)) else none

mutual

/-- The data that a document holds. -/
def Tree.data? : Tree → Option Value
  | .null => some .null
  | .bool value => some (.bool value)
  | .number numeral => numeral.nearest?.map .number
  | .string pieces => (string? pieces).map .string
  | .array items => (itemsData? items).map .array
  | .object members => (membersData? members).bind distinct?

/-- The data that each of the documents holds. -/
def itemsData? : List Tree → Option (List Value)
  | [] => some []
  | item :: rest => do
    let held ← item.data?
    return held :: (← itemsData? rest)

/-- The data that each of the members holds, under its name. -/
def membersData? : List (List StringPiece × Tree) → Option (List (String × Value))
  | [] => some []
  | (pieces, tree) :: rest => do
    let name ← string? pieces
    let held ← tree.data?
    return (name, held) :: (← membersData? rest)

end

/-- The data that a text holds; none when the text is not well formed or does not hold data. -/
def Value.read? (text : List Char) : Option Value :=
  (Tree.read? text).bind Tree.data?

/-- The data that there is: its numbers can be held, and the members of each object are sorted by
name and do not repeat one. -/
inductive Value.IsValid : Value → Prop
  | null : IsValid .null
  | bool (value : Bool) : IsValid (.bool value)
  | number {value : Number} : value.IsValid → IsValid (.number value)
  | string (text : String) : IsValid (.string text)
  | array {items : List Value} : (∀ item ∈ items, IsValid item) → IsValid (.array items)
  | object {members : List (String × Value)} :
      (members.map Prod.fst).Pairwise (· < ·) → (∀ member ∈ members, IsValid member.2) →
      IsValid (.object members)

/-! ### The document that is printed -/

mutual

/-- The document that is printed for data. -/
def Value.printed : Value → Tree
  | .null => .null
  | .bool value => .bool value
  | .number value => value.printed
  | .string text => .string (printedPieces text)
  | .array items => .array (printedItems items)
  | .object members => .object (printedMembers members)

/-- The documents that are printed for items. -/
def printedItems : List Value → List Tree
  | [] => []
  | item :: rest => item.printed :: printedItems rest

/-- The members of a document that are printed for members. -/
def printedMembers : List (String × Value) → List (List StringPiece × Tree)
  | [] => []
  | (name, value) :: rest => (printedPieces name, value.printed) :: printedMembers rest

end

theorem printedItems_eq (items : List Value) : printedItems items = items.map Value.printed := by
  induction items with
  | nil => rfl
  | cons item rest inductionHypothesis =>
    rw [printedItems, inductionHypothesis]
    rfl

theorem printedMembers_eq (members : List (String × Value)) :
    printedMembers members =
      members.map fun member => (printedPieces member.1, member.2.printed) := by
  induction members with
  | nil => rfl
  | cons member rest inductionHypothesis =>
    rw [printedMembers, inductionHypothesis]
    rfl

theorem writeItems_eq (items : List Value) : writeItems items = items.map Value.write := by
  induction items with
  | nil => rfl
  | cons item rest inductionHypothesis =>
    rw [writeItems, inductionHypothesis]
    rfl

theorem writeMembers_eq (members : List (String × Value)) :
    writeMembers members =
      members.map fun member => writtenString member.1 ++ ':' :: member.2.write := by
  induction members with
  | nil => rfl
  | cons member rest inductionHypothesis =>
    rw [writeMembers, inductionHypothesis]
    rfl

/-- The text of data is written from the document that is printed for it. -/
theorem Value.IsValid.printed_written {value : Value} (valid : value.IsValid) :
    value.printed.Written value.write := by
  induction valid with
  | null =>
    rw [printed, Tree.Written, Tree.tokens]
    exact Token.Written.null.single
  | bool value =>
    rw [printed, Tree.Written, Tree.tokens]
    cases value with
    | true => exact Token.Written.true.single
    | false => exact Token.Written.false.single
  | number =>
    rw [printed, write]
    exact Number.printed_written _
  | string text =>
    rw [printed]
    exact string_written text
  | array _ inductionHypothesis =>
    have items := joined_written inductionHypothesis
    rw [printed, Tree.Written, tokens_array, printedItems_eq, List.map_map, write, writeItems_eq,
      List.cons_append]
    exact .cons .openArray (items.append Token.Written.closeArray.single)
  | object _ _ inductionHypothesis =>
    have members := joined_written fun member inside =>
      member_written member.1 (inductionHypothesis member inside)
    rw [printed, Tree.Written, tokens_object, printedMembers_eq, List.map_map, write,
      writeMembers_eq, List.cons_append]
    exact .cons .openObject (members.append Token.Written.closeObject.single)

/-! ### The data that is read back -/

theorem Number.IsValid.data?_printed {number : Number} (valid : number.IsValid) :
    number.printed.data? = some (.number number) := by
  cases valid with
  | integer least most =>
    rw [printed, Tree.data?, nearest?_printedInteger least most]
    rfl
  | float finite =>
    rw [printed, Tree.data?, nearest?_printedDecimal finite]
    rfl

theorem itemsData?_printed {items : List Value}
    (each : ∀ item ∈ items, item.printed.data? = some item) :
    itemsData? (items.map Value.printed) = some items := by
  induction items with
  | nil => rfl
  | cons item rest inductionHypothesis =>
    have others := inductionHypothesis fun other inside =>
      each other (List.mem_cons_of_mem _ inside)
    rw [List.map_cons, itemsData?, each item List.mem_cons_self, others]
    rfl

theorem membersData?_printed {members : List (String × Value)}
    (each : ∀ member ∈ members, member.2.printed.data? = some member.2) :
    membersData? (members.map fun member => (printedPieces member.1, member.2.printed)) =
      some members := by
  induction members with
  | nil => rfl
  | cons member rest inductionHypothesis =>
    have others := inductionHypothesis fun other inside =>
      each other (List.mem_cons_of_mem _ inside)
    rw [List.map_cons, membersData?, string?_printedPieces, each member List.mem_cons_self, others]
    rfl

/-- A member goes to the end when its name is behind all the others. -/
theorem insertMember_of_lt {name : String} {value : Value} {members : List (String × Value)}
    (behind : ∀ member ∈ members, member.1 < name) :
    insertMember name value members = members ++ [(name, value)] := by
  induction members with
  | nil => rfl
  | cons member rest inductionHypothesis =>
    have less := behind member List.mem_cons_self
    have differ : name ≠ member.1 := fun same => String.lt_irrefl _ (same ▸ less)
    rw [insertMember, if_neg differ, if_neg (String.lt_asymm less),
      inductionHypothesis fun other inside => behind other (List.mem_cons_of_mem _ inside)]
    rfl

/-- Members that are sorted go one behind the other. -/
theorem foldl_insertMember (before : List (String × Value)) {members : List (String × Value)}
    (sorted : ((before ++ members).map Prod.fst).Pairwise (· < ·)) :
    members.foldl (fun sorted member => insertMember member.1 member.2 sorted) before =
      before ++ members := by
  induction members generalizing before with
  | nil => exact (List.append_nil before).symm
  | cons member rest inductionHypothesis =>
    have behind : ∀ other ∈ before, other.1 < member.1 := by
      intro other inside
      rw [List.map_append, List.pairwise_append] at sorted
      exact sorted.2.2 _ (List.mem_map_of_mem inside) _ List.mem_cons_self
    rw [List.append_cons] at sorted
    rw [List.foldl_cons, insertMember_of_lt behind, inductionHypothesis _ sorted,
      ← List.append_cons]

theorem sortMembers_of_sorted {members : List (String × Value)}
    (sorted : (members.map Prod.fst).Pairwise (· < ·)) : sortMembers members = members :=
  foldl_insertMember [] sorted

theorem Value.IsValid.data?_printed {value : Value} (valid : value.IsValid) :
    value.printed.data? = some value := by
  induction valid with
  | null | bool =>
    rw [printed, Tree.data?]
  | number valid =>
    rw [printed]
    exact valid.data?_printed
  | string text =>
    rw [printed, Tree.data?, string?_printedPieces]
    rfl
  | array _ inductionHypothesis =>
    rw [printed, Tree.data?, printedItems_eq, itemsData?_printed inductionHypothesis]
    rfl
  | @object members sorted _ inductionHypothesis =>
    have differ : (members.map Prod.fst).Nodup := sorted.imp String.ne_of_lt
    rw [printed, Tree.data?, printedMembers_eq, membersData?_printed inductionHypothesis,
      Option.bind_some, distinct?, if_pos differ, sortMembers_of_sorted sorted]

/-- Data is read back from its text. -/
theorem Value.IsValid.read?_write {value : Value} (valid : value.IsValid) :
    Value.read? value.write = some value := by
  rw [read?, Tree.read?_eq_some_iff.mpr valid.printed_written, Option.bind_some,
    valid.data?_printed]

end Onboarding.Json
