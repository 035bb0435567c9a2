/-
This file holds how a TOML document is read: keys and values, and the lines that
put values under keys and begin tables.
-/

import Onboarding.Toml.Clock
import Onboarding.Toml.Number
import Onboarding.Toml.Quoted
import Onboarding.Toml.Table

namespace Onboarding.Toml

/-! ### Blanks, comments and ends of lines -/

/-- The text behind blanks and tabs. -/
def dropBlanks (text : List Char) : List Char :=
  text.dropWhile fun c => c == ' ' || c == '\t'

/-- What follows a comment, up to the end of its line; none when it holds a control character. -/
def afterComment? : List Char → Option (List Char)
  | [] => some []
  | c :: rest =>
    if c == '\n' || c == '\r' then some (c :: rest)
    else if isTextChar c then afterComment? rest
    else none

/-- What follows the end of a line, before which blanks and a comment may stand; none when there is
anything else. The end of the text ends the line, too. -/
def afterLine? (text : List Char) : Option (List Char) := do
  let text ← match dropBlanks text with
    | '#' :: rest => afterComment? rest
    | text => some text
  match text with
  | [] => some []
  | '\n' :: rest => some rest
  | '\r' :: '\n' :: rest => some rest
  | _ => none

/-- What follows blanks, comments and ends of lines; so many of them are passed over at most. -/
def dropLines? : Nat → List Char → Option (List Char)
  | 0, text => some text
  | fuel + 1, text =>
    match dropBlanks text with
    | '#' :: rest => do dropLines? fuel (← afterComment? rest)
    | '\n' :: rest => dropLines? fuel rest
    | '\r' :: '\n' :: rest => dropLines? fuel rest
    | text => some text

/-! ### Keys -/

/-- Whether the character may stand in a key without quotes. -/
def isKeyChar (c : Char) : Bool :=
  c.isAlphanum || c == '_' || c == '-'

/-- Reads a part of a key. -/
def keyPart? (text : List Char) : Option (String × List Char) :=
  match lineText? text with
  | some (name, rest) => some (String.ofList name, rest)
  | none =>
    let name := text.takeWhile isKeyChar
    if name.isEmpty then none else some (String.ofList name, text.drop name.length)

/-- Reads a key of at most so many parts with dots between them. -/
def keyParts? : Nat → List Char → Option (List String × List Char)
  | 0, _ => none
  | left + 1, text => do
    let (name, rest) ← keyPart? (dropBlanks text)
    match dropBlanks rest with
    | '.' :: rest =>
      let (names, rest) ← keyParts? left rest
      return (name :: names, rest)
    | rest => return ([name], rest)

/-- How many parts a key may have, and how many values may be nested. -/
def depthLimit : Nat := 79

/-- Reads a key. -/
def key? (text : List Char) : Option (List String × List Char) :=
  keyParts? depthLimit text

/-! ### Values -/

/-- Reads a value that holds no others. -/
def scalar? (text : List Char) : Option (Datum × List Char) :=
  match text with
  | 't' :: 'r' :: 'u' :: 'e' :: rest => some (.bool true, rest)
  | 'f' :: 'a' :: 'l' :: 's' :: 'e' :: rest => some (.bool false, rest)
  | c :: _ =>
    if c == '"' || c == '\'' then
      (quotedText? text).map fun (content, rest) => (.text (String.ofList content), rest)
    else
      match clock? .strict text with
      | some (clock, rest) => some (markedClock clock, rest)
      | none => number? text
  | [] => none

/-- Reads the items of an array up to its end, with `value` for each of them; so many at most. -/
def items? (value : List Char → Option (Datum × List Char)) :
    Nat → List Char → Option (List Datum × List Char)
  | 0, _ => none
  | fuel + 1, text => do
    match ← dropLines? text.length text with
    | ']' :: rest => return ([], rest)
    | text =>
      let (item, rest) ← value text
      match ← dropLines? rest.length rest with
      | ',' :: rest =>
        let (items, rest) ← items? value fuel rest
        return (item :: items, rest)
      | ']' :: rest => return ([item], rest)
      | _ => none

/-- Reads a key, the sign of equality and a value. -/
def pair? (value : List Char → Option (Datum × List Char)) (text : List Char) :
    Option ((List String × Datum) × List Char) := do
  let (key, rest) ← key? text
  let (datum, rest) ← value (dropBlanks (← mark? '=' rest))
  return ((key, datum), rest)

/-- Reads the pairs of a table on one line up to its end; so many at most. -/
def pairs? (value : List Char → Option (Datum × List Char)) :
    Nat → List Char → Option (List (List String × Datum) × List Char)
  | 0, _ => none
  | fuel + 1, text => do
    let (pair, rest) ← pair? value text
    match dropBlanks rest with
    | ',' :: rest =>
      let (pairs, rest) ← pairs? value fuel rest
      return (pair :: pairs, rest)
    | '\x7d' :: rest => return ([pair], rest)
    | _ => none

/-- The table with the pairs; none when a key is used twice. -/
def tableOf? (pairs : List (List String × Datum)) : Option Datum := do
  let members ← pairs.foldlM (fun members pair => Members.add .header members pair.1 pair.2) []
  return .table (membersData members)

/-- Reads a value in which so many others may be nested. -/
def value? : Nat → List Char → Option (Datum × List Char)
  | 0, text => scalar? text
  | levels + 1, text =>
    match text with
    | '[' :: rest =>
      (items? (value? levels) (rest.length + 1) rest).map fun (items, rest) => (.array items, rest)
    | '\x7b' :: rest =>
      match dropBlanks rest with
      | '\x7d' :: rest => some (.table [], rest)
      | text => do
        let (pairs, rest) ← pairs? (value? levels) (text.length + 1) text
        return (← tableOf? pairs, rest)
    | text => scalar? text

/-! ### Documents -/

/-- Reads what stands behind the tables begun so far, the last of them with the header; so many
lines at most. -/
def statements? : Nat → List String → Members → List Char → Option Members
  | 0, _, _, _ => none
  | fuel + 1, header, members, text =>
    match dropBlanks text with
    | [] => some members
    | '[' :: '[' :: rest => do
      let (key, rest) ← key? rest
      let rest ← afterLine? (← mark? ']' (← mark? ']' rest))
      statements? fuel key (← members.beginItem key) rest
    | '[' :: rest => do
      let (key, rest) ← key? rest
      let rest ← afterLine? (← mark? ']' rest)
      statements? fuel key (← members.beginTable key) rest
    | c :: rest =>
      if c == '#' || c == '\n' || c == '\r' then do
        statements? fuel header members (← afterLine? (c :: rest))
      else do
        let ((key, datum), rest) ← pair? (value? depthLimit) (c :: rest)
        let rest ← afterLine? rest
        statements? fuel header (← members.addUnder header key datum) rest

/-- The members of the table that a document holds. A byte order mark in front is passed over. -/
def read? (text : List Char) : Option (List (String × Datum)) := do
  let text := match text with
    | '\ufeff' :: rest => rest
    | text => text
  let members ← statements? (text.length + 1) [] [] text
  match ← unmarked? (.table (membersData members)) with
  | .table members => some members
  | _ => none

end Onboarding.Toml
