/-
This file proves when the messages of a service come out of its answer. That they stand
before the data in an answer does not help when there is no answer: the document is read
as a whole, and data of another shape than was asked for leaves nothing of it, neither
the messages nor the data.

What is read of the errors and what is read of the data are told apart here. The errors
are given as a service sends them, and of the data nothing is assumed.
-/

import Mathlib.Data.List.Forall2
import Onboarding.Proofs.Registration.Tokens

namespace Onboarding.Answer

open Json Tree

variable {α : Type} {members : List (List StringPiece × Tree)} {items : List Tree}
  {messages : List String}

/-! ### Errors -/

/-- The names in an object are texts. A name may also be spelled with one half of a pair of
surrogates. -/
def HasTextNames : Tree → Prop
  | .object members => ∀ member ∈ members, ∃ text, Spells member.1 text
  | _ => True

/-- An error with its message, an object with a text under the name for messages. -/
inductive IsError : Tree → String → Prop
  | object {members : List (List StringPiece × Tree)} {tree : Tree} {message : String} :
      Under members "message" (some tree) → tree.IsText message → IsError (.object members) message

theorem message?_eq_some_iff {tree : Tree} {message other : String}
    (isError : IsError tree message) :
    message? tree = some other ↔ HasTextNames tree ∧ other = message := by
  obtain @⟨members, inner, _, under, isText⟩ := isError
  constructor
  · intro read
    obtain ⟨found, known, rest⟩ := Option.bind_eq_some_iff.mp read
    cases members?_eq_some_iff.mp known with
    | @object _ held texts each =>
      have same : held "message" = some inner :=
        Under.unique texts (each "message" List.mem_cons_self) under
      simp only [List.map_cons, List.map_nil, same] at rest
      rw [text?_eq_some_iff.mpr isText] at rest
      exact ⟨texts, (Option.some.inj rest).symm⟩
  · rintro ⟨texts, rfl⟩
    have single : ∀ name ∈ ["message"], Under members name ((fun _ => some inner) name) :=
      List.forall_mem_singleton.mpr under
    have holds : Holds ["message"] 1 (.object members) [some inner] := .object texts single
    rw [message?, members?_eq_some_iff.mpr holds]
    exact text?_eq_some_iff.mpr isText

/-- Either all of the messages are read, in their order, or none is. -/
theorem items?_message?_eq_some_iff {others : List String}
    (each : List.Forall₂ IsError items messages) :
    items? message? (.array items) = some others ↔
      (∀ item ∈ items, HasTextNames item) ∧ others = messages := by
  rw [items?]
  induction each generalizing others with
  | nil => simp [eq_comm]
  | @cons item message items messages isError _ inductionHypothesis =>
    rw [List.mapM_cons, List.forall_mem_cons]
    constructor
    · intro read
      obtain ⟨first, found, rest⟩ := Option.bind_eq_some_iff.mp read
      obtain ⟨later, foundLater, equal⟩ := Option.bind_eq_some_iff.mp rest
      obtain ⟨texts, rfl⟩ := (message?_eq_some_iff isError).mp found
      obtain ⟨textsLater, rfl⟩ := inductionHypothesis.mp foundLater
      exact ⟨⟨texts, textsLater⟩, (Option.some.inj equal).symm⟩
    · rintro ⟨⟨texts, textsLater⟩, rfl⟩
      rw [(message?_eq_some_iff isError).mpr ⟨texts, rfl⟩,
        inductionHypothesis.mpr ⟨textsLater, rfl⟩]
      rfl

/-! ### Answers with errors -/

/-- What has to be so beside the messages, if they are to come out: the names in the answer and in
its errors are texts, and the data is not repeated, and missing, null or such as is asked for. -/
structure Fits (readData : Tree → Option α) (members : List (List StringPiece × Tree))
    (items : List Tree) : Prop where
  names : HasTextNames (.object members)
  errorNames : ∀ item ∈ items, HasTextNames item
  data : ∃ data value, Under members "data" data ∧
    Optionally (fun tree value => readData tree = some value) data value

variable {readData : Tree → Option α} (errors : Under members "errors" (some (.array items)))
  (each : List.Forall₂ IsError items messages)

include errors each in
theorem fits_of_ofTree? {answer : Answer α}
    (read : ofTree? readData (.object members) = some answer) :
    Fits readData members items ∧ answer.messages = some messages := by
  obtain ⟨data, found, holds, foundData, foundMessages⟩ := ofTree?_eq_some_iff.mp read
  generalize known : [data, found] = held at holds
  cases holds with
  | @object _ held texts under =>
    obtain ⟨rfl, rest⟩ := List.cons.inj known
    obtain ⟨rfl, -⟩ := List.cons.inj rest
    have underData := under "data" List.mem_cons_self
    have same := Under.unique texts (under "errors" (List.mem_cons_of_mem _ List.mem_cons_self))
      errors
    rw [same] at foundMessages
    obtain ⟨others, foundOthers, isSome⟩ := Option.map_eq_some_iff.mp foundMessages
    obtain ⟨errorTexts, rfl⟩ := (items?_message?_eq_some_iff each).mp foundOthers
    have fitting := (member?_eq_some_iff fun _ _ => Iff.rfl).mp foundData
    exact ⟨⟨texts, errorTexts, _, _, underData, fitting⟩, isSome.symm⟩

include errors each in
theorem Fits.exists_answer (fits : Fits readData members items) :
    ∃ answer, ofTree? readData (.object members) = some answer := by
  obtain ⟨data, value, underData, fitting⟩ := fits.data
  have holds : Holds ["data", "errors"] 2 (.object members) [data, some (.array items)] := by
    let held (name : String) : Option Tree := if name = "data" then data else some (.array items)
    have under : ∀ name ∈ ["data", "errors"], Under members name (held name) := by
      simp only [List.forall_mem_cons, held]
      exact ⟨underData, errors, fun _ member => nomatch member⟩
    exact .object fits.names under
  have foundData := (member?_eq_some_iff fun _ _ => Iff.rfl).mpr fitting
  have foundMessages := (items?_message?_eq_some_iff each).mpr ⟨fits.errorNames, rfl⟩
  refine ⟨⟨value, some messages⟩, ofTree?_eq_some_iff.mpr ⟨_, _, holds, foundData, ?_⟩⟩
  exact Option.map_eq_some_iff.mpr ⟨messages, foundMessages, rfl⟩

/-- Of an answer with errors no data comes out. All messages come out, in their order, when the rest
of the answer fits; when it does not, nothing but that it is no answer. -/
theorem decode_eq_refused_iff {text : String} (written : (Tree.object members).Written text.toList)
    (errors : Under members "errors" (some (.array items))) (some : items ≠ [])
    (each : List.Forall₂ IsError items messages) :
    (decode readData text = .error (.refused messages) ↔ Fits readData members items) ∧
      (¬ Fits readData members items →
        decode readData text = .error (.undecodable "not an answer")) ∧
      ∀ value, decode readData text ≠ .ok value := by
  rw [decode, read?_eq_some_iff.mpr written, Option.bind_some]
  cases read : ofTree? readData (.object members) with
  | none =>
    have unfit : ¬ Fits readData members items := fun fits => by
      obtain ⟨answer, made⟩ := fits.exists_answer errors each
      cases read.symm.trans made
    exact ⟨iff_of_false (fun same => by cases same) unfit, fun _ => rfl,
      fun _ same => by cases same⟩
  | some answer =>
    obtain ⟨fits, found⟩ := fits_of_ofTree? errors each read
    have refused : answer.outcome = .error (.refused messages) := by
      cases each with
      | nil => exact absurd rfl some
      | cons => rw [outcome, found]
    dsimp only
    rw [refused]
    exact ⟨iff_of_true rfl fits, fun unfit => absurd fits unfit, fun _ same => by cases same⟩

/-! ### The same error with other data -/

/-- A name or a text without escapes. -/
def plain (text : String) : List StringPiece :=
  text.toList.map .char

/-- An error with one more member than its message. -/
def takenEmail : Tree :=
  .object [(plain "message", .string (plain "email taken")), (plain "path", .array [])]

/-- The members of an answer with this error. -/
def membersWith (data : Tree) : List (List StringPiece × Tree) :=
  [(plain "errors", .array [takenEmail]), (plain "data", data)]

/-- The same answer as it is written, with its data as that is written. -/
def textWith (data : String) : String :=
  "\x7b\"errors\":[\x7b\"message\":\"email taken\",\"path\":[]\x7d],\"data\":" ++ data ++ "\x7d"

theorem forall₂_takenEmail : List.Forall₂ IsError [takenEmail] ["email taken"] := by
  have under : Under [(plain "message", .string (plain "email taken")), (plain "path", .array [])]
      "message" (some (.string (plain "email taken"))) := (onlyMember?_eq_some_iff rfl).mp rfl
  exact .cons (.object under (text?_eq_some_iff.mp rfl)) .nil

theorem under_errors (data : Tree) :
    Under (membersWith data) "errors" (some (.array [takenEmail])) :=
  (onlyMember?_eq_some_iff rfl).mp rfl

/-- Data in which the user is null. -/
def nullUser : Tree :=
  .object [(plain "registerUser", .null)]

/-- The message comes out beside data in which the user is null. -/
theorem refused_beside_partial_data :
    let text := textWith "\x7b\"registerUser\":null\x7d"
    (Tree.object (membersWith nullUser)).Written text.toList ∧
      Under (membersWith nullUser) "errors" (some (.array [takenEmail])) ∧ [takenEmail] ≠ [] ∧
      List.Forall₂ IsError [takenEmail] ["email taken"] ∧
      decode Registration.dataToken? text = .error (.refused ["email taken"]) := by
  have written : (Tree.object (membersWith nullUser)).Written
      (textWith "\x7b\"registerUser\":null\x7d").toList := read?_eq_some_iff.mp rfl
  have some : [takenEmail] ≠ [] := List.cons_ne_nil _ _
  have fits : Fits Registration.dataToken? (membersWith nullUser) [takenEmail] :=
    { names := exists_namedMembers_iff.mp ⟨_, rfl⟩
      errorNames := List.forall_mem_singleton.mpr (exists_namedMembers_iff.mp ⟨_, rfl⟩)
      data := ⟨_, _, (onlyMember?_eq_some_iff rfl).mp rfl, .value Tree.noConfusion rfl⟩ }
  exact ⟨written, under_errors _, some, forall₂_takenEmail,
    (decode_eq_refused_iff written (under_errors _) some forall₂_takenEmail).1.mpr fits⟩

/-- The message does not come out beside an array for the data. -/
theorem undecodable_beside_array :
    (Tree.object (membersWith (.array []))).Written (textWith "[]").toList ∧
      Under (membersWith (.array [])) "errors" (some (.array [takenEmail])) ∧
      List.Forall₂ IsError [takenEmail] ["email taken"] ∧
      decode Registration.dataToken? (textWith "[]") = .error (.undecodable "not an answer") :=
  ⟨read?_eq_some_iff.mp rfl, under_errors _, forall₂_takenEmail, rfl⟩

end Onboarding.Answer
