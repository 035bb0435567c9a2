/-
This file proves that what is printed is written by the rules of JSON, so that it is
read back as what it was printed from. Every text can be a string: the characters
that may not stand for themselves are escaped.
-/

import Onboarding.Json.Printer
import Onboarding.Proofs.Json.Documents
import Onboarding.Proofs.Json.Records

namespace Onboarding.Json

/-! ### Strings -/

/-- The characters that are printed as short escapes. -/
def shortEscaped : List Char := ['"', '\\', '\u0008', '\u000c', '\n', '\r', '\t']

/-- The piece of a string that a character is printed as. -/
def printedPiece (c : Char) : StringPiece :=
  if c.toNat < 0x20 ∧ c ∉ shortEscaped then .unit c.toNat else .char c

/-- The pieces of the string that a text is printed as. -/
def printedPieces (text : String) : List StringPiece :=
  text.toList.map printedPiece

theorem printedPiece_written (c : Char) : (printedPiece c).Written (writtenChar c) := by
  by_cases short : c ∈ shortEscaped
  · have plain : printedPiece c = .char c := if_neg fun both => both.2 short
    rw [plain]
    simp only [shortEscaped, List.mem_cons, List.not_mem_nil, or_false] at short
    rcases short with rfl | rfl | rfl | rfl | rfl | rfl | rfl <;> exact .short rfl
  · have others : c ≠ '"' ∧ c ≠ '\\' ∧ c ≠ '\u0008' ∧ c ≠ '\u000c' ∧ c ≠ '\n' ∧ c ≠ '\r' ∧
        c ≠ '\t' := by
      simpa [shortEscaped] using short
    have written : writtenChar c =
        if c.toNat < 0x20 then '\\' :: 'u' :: ('0' :: '0' :: twoHexDigits c.toNat) else [c] := by
      simp [writtenChar, others]
    rw [written]
    split
    · next control =>
      -- Four digits for each of the thirty-two control characters.
      have code : ∀ number < 0x20,
          hexValue? ('0' :: '0' :: twoHexDigits number) = some number := by decide
      rw [printedPiece, if_pos ⟨control, short⟩]
      exact .code rfl (code c.toNat control)
    · next printable =>
      rw [printedPiece, if_neg fun both => printable both.1]
      exact .plain others.1 others.2.1 printable

theorem spells_printedPieces (text : String) : Spells (printedPieces text) text.toList := by
  rw [printedPieces]
  induction text.toList with
  | nil => exact .nil
  | cons c rest inductionHypothesis =>
    rw [List.map_cons, printedPiece]
    split
    · next control =>
      have plain : ¬ (0xd800 ≤ c.toNat ∧ c.toNat < 0xe000) := by omega
      have unit := Spells.unit plain inductionHypothesis
      rwa [Char.ofNat_toNat] at unit
    · exact .char inductionHypothesis

@[simp]
theorem string?_printedPieces (text : String) : string? (printedPieces text) = some text :=
  string?_eq_some_iff.mpr (spells_printedPieces text)

/-- Every text can be printed as a string. -/
theorem writtenString_written (text : String) :
    Token.Written (.string (printedPieces text)) (writtenString text) := by
  refine .string ?_
  rw [printedPieces]
  induction text.toList with
  | nil => exact .nil
  | cons c rest inductionHypothesis => exact .cons (printedPiece_written c) inductionHypothesis

theorem string_written (text : String) :
    Tree.Written (.string (printedPieces text)) (writtenString text) := by
  rw [Tree.Written, Tree.tokens]
  exact (writtenString_written text).single

/-! ### Arrays and objects -/

/-- Tokens with a comma between each part and the next. -/
def separated : List (List Token) → List Token
  | [] => []
  | [tokens] => tokens
  | tokens :: rest => tokens ++ .comma :: separated rest

/-- The tokens of a member of an object. -/
def memberTokens (member : List StringPiece × Tree) : List Token :=
  .string member.1 :: .colon :: member.2.tokens

theorem separated_cons (tokens next : List Token) (rest : List (List Token)) :
    separated (tokens :: next :: rest) = tokens ++ .comma :: separated (next :: rest) := rfl

theorem append_laterItems (item : Tree) (rest : List Tree) :
    item.tokens ++ laterItems rest =
      separated ((item :: rest).map Tree.tokens) ++ [.closeArray] := by
  induction rest generalizing item with
  | nil =>
    rw [laterItems]
    rfl
  | cons next rest inductionHypothesis =>
    rw [laterItems, inductionHypothesis]
    simp only [List.map_cons, separated_cons, List.append_assoc, List.cons_append]

theorem append_laterMembers (member : List StringPiece × Tree)
    (rest : List (List StringPiece × Tree)) :
    memberTokens member ++ laterMembers rest =
      separated ((member :: rest).map memberTokens) ++ [.closeObject] := by
  induction rest generalizing member with
  | nil =>
    rw [laterMembers]
    rfl
  | cons next rest inductionHypothesis =>
    have later : laterMembers (next :: rest) =
        .comma :: (memberTokens next ++ laterMembers rest) := by
      rw [laterMembers]
      rfl
    rw [later, inductionHypothesis]
    simp only [List.map_cons, separated_cons, List.append_assoc, List.cons_append]

theorem tokens_array (items : List Tree) :
    (Tree.array items).tokens =
      .openArray :: (separated (items.map Tree.tokens) ++ [.closeArray]) := by
  cases items with
  | nil =>
    rw [Tree.tokens]
    rfl
  | cons item rest => rw [Tree.tokens, append_laterItems]

theorem tokens_object (members : List (List StringPiece × Tree)) :
    (Tree.object members).tokens =
      .openObject :: (separated (members.map memberTokens) ++ [.closeObject]) := by
  cases members with
  | nil =>
    rw [Tree.tokens]
    rfl
  | cons member rest =>
    rw [Tree.tokens, ← append_laterMembers]
    rfl

/-- Texts of tokens with commas between them. -/
theorem joined_written {α : Type} {tokens : α → List Token} {text : α → List Char} {parts : List α}
    (each : ∀ part ∈ parts, TokensWritten (tokens part) (text part)) :
    TokensWritten (separated (parts.map tokens)) (joined (parts.map text)) := by
  induction parts with
  | nil => exact .nil
  | cons first rest inductionHypothesis =>
    have written := each first List.mem_cons_self
    have others := inductionHypothesis fun part member => each part (List.mem_cons_of_mem _ member)
    cases rest with
    | nil => exact written
    | cons => exact written.append (.cons .comma others)

/-- A member is written as its name, a colon and its value. -/
theorem member_written (name : String) {tree : Tree} {text : List Char}
    (written : tree.Written text) :
    TokensWritten (memberTokens (printedPieces name, tree)) (writtenString name ++ ':' :: text) :=
  .cons (writtenString_written name) (.cons .colon written)

/-! ### Objects of texts -/

/-- The document that is printed for texts under names. -/
def printedObject (members : List (String × String)) : Tree :=
  .object (members.map fun member => (printedPieces member.1, .string (printedPieces member.2)))

/-- An object of texts that is printed without blanks. -/
theorem writtenObject_written (members : List (String × String)) :
    (printedObject members).Written
      (writtenObject (members.map fun member => (member.1, writtenString member.2))) := by
  have parts := joined_written fun member (_ : member ∈ members) =>
    member_written member.1 (string_written member.2)
  rw [Tree.Written, printedObject, tokens_object, List.map_map, writtenObject, List.map_map,
    List.cons_append]
  exact .cons .openObject (parts.append Token.Written.closeObject.single)

/-- An object of texts that is printed with one member a line. -/
theorem indentedObject_written (members : List (String × String)) :
    (printedObject members).Written
      (indentedObject (members.map fun member => (member.1, writtenString member.2))) := by
  have each : ∀ member ∈ members, TokensWritten
      (memberTokens (printedPieces member.1, .string (printedPieces member.2)))
      (['\n', ' ', ' '] ++ writtenString member.1 ++ [':', ' '] ++ writtenString member.2) := by
    intro member _
    have value :
        Tree.Written (.string (printedPieces member.2)) (' ' :: writtenString member.2) :=
      .blank rfl (string_written member.2)
    have both := member_written member.1 value
    rw [List.append_assoc, List.append_assoc]
    exact .blank rfl (.blank rfl (.blank rfl both))
  have closes : TokensWritten [.closeObject] ['\n', '}'] := .blank rfl (.cons .closeObject .nil)
  have lines := (joined_written each).append closes
  rw [Tree.Written, printedObject, tokens_object, List.map_map, indentedObject, List.map_map,
    List.cons_append]
  exact .cons .openObject lines

end Onboarding.Json
