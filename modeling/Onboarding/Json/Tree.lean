/-
This file holds JSON documents as they are written, with repeated members and
strings that may not be texts, and how tokens are put together to a document.
Any depth is allowed here; a limit holds only for data that is kept.
-/

import Onboarding.Json.Lexeme

namespace Onboarding.Json

/-- A JSON document as it is written. -/
inductive Tree where
  | null
  | bool (value : Bool)
  | number (numeral : Numeral)
  | string (pieces : List StringPiece)
  | array (items : List Tree)
  | object (members : List (List StringPiece × Tree))
  deriving Repr, Inhabited

/-- A container being read, with what it holds so far, the last of it first. -/
inductive Container where
  | array (items : List Tree)
  /-- An object, with the name of the member whose value comes next. -/
  | object (members : List (List StringPiece × Tree)) (name : List StringPiece)
  deriving Repr

/-- Where the reading of tokens stands, with the containers around it, the innermost first. -/
inductive Assembly where
  /-- A value must come. -/
  | awaitValue (around : List Container)
  /-- An array was opened: a value or its end must come. -/
  | openedArray (around : List Container)
  /-- A value of an array was read: a comma or the end must come. -/
  | afterItem (items : List Tree) (around : List Container)
  /-- An object was opened: a name or its end must come. -/
  | openedObject (around : List Container)
  /-- A comma of an object was read: a name must come. -/
  | awaitName (members : List (List StringPiece × Tree)) (around : List Container)
  /-- A name was read: a colon must come. -/
  | awaitColon (members : List (List StringPiece × Tree)) (name : List StringPiece)
      (around : List Container)
  /-- A member of an object was read: a comma or the end must come. -/
  | afterMember (members : List (List StringPiece × Tree)) (around : List Container)
  /-- The document is complete. -/
  | complete (tree : Tree)
  deriving Repr

namespace Assembly

/-- Puts a value into the innermost container. -/
def place (tree : Tree) : List Container → Assembly
  | [] => complete tree
  | .array items :: around => afterItem (tree :: items) around
  | .object members name :: around => afterMember ((name, tree) :: members) around

/-- Reads a token where a value must come. -/
def stepValue (around : List Container) : Token → Option Assembly
  | .openArray => some (openedArray around)
  | .openObject => some (openedObject around)
  | .null => some (place .null around)
  | .bool value => some (place (.bool value) around)
  | .number numeral => some (place (.number numeral) around)
  | .string pieces => some (place (.string pieces) around)
  | _ => none

/-- Reads a token; none when no document can go on with it. -/
def step (assembly : Assembly) (token : Token) : Option Assembly :=
  match assembly, token with
  | awaitValue around, token => stepValue around token
  | openedArray around, .closeArray => some (place (.array []) around)
  | openedArray around, token => stepValue (.array [] :: around) token
  | afterItem items around, .comma => some (awaitValue (.array items :: around))
  | afterItem items around, .closeArray => some (place (.array items.reverse) around)
  | openedObject around, .closeObject => some (place (.object []) around)
  | openedObject around, .string name => some (awaitColon [] name around)
  | awaitName members around, .string name => some (awaitColon members name around)
  | awaitColon members name around, .colon => some (awaitValue (.object members name :: around))
  | afterMember members around, .comma => some (awaitName members around)
  | afterMember members around, .closeObject =>
    some (place (.object members.reverse) around)
  | _, _ => none

/-- The document when it is complete. -/
def finish : Assembly → Option Tree
  | complete tree => some tree
  | _ => none

end Assembly

/-- The document that the tokens make up. -/
def Tree.ofTokens? (tokens : List Token) : Option Tree :=
  (tokens.foldlM Assembly.step (.awaitValue [])).bind Assembly.finish

/-- The document that a text holds; none when the text is not well formed. -/
def Tree.read? (text : List Char) : Option Tree :=
  (tokens? text).bind Tree.ofTokens?

end Onboarding.Json
