/-
This file holds the four ways in which TOML quotes a text, on one line or on
several, with escapes or without, how one of them is chosen for a text, and how
the quoted text is read again, one character at a time.
-/

import Onboarding.Json.Lexeme

namespace Onboarding.Toml

/-! ### Choosing a quoting -/

/-- A way to quote a text. -/
structure Quoting where
  /-- The character that quotes. -/
  mark : Char
  /-- Whether a backslash begins an escape. -/
  escapes : Bool
  /-- Whether the text may have several lines; three marks quote it then. -/
  lines : Bool
  deriving DecidableEq, Repr

namespace Quoting

def basic : Quoting := ⟨'"', true, false⟩
def literal : Quoting := ⟨'\'', false, false⟩
def basicLines : Quoting := ⟨'"', true, true⟩
def literalLines : Quoting := ⟨'\'', false, true⟩

end Quoting

/-- The length of the longest run of a character, when `run` of it have just been seen. -/
def longestRun (mark : Char) : Nat → List Char → Nat
  | run, [] => run
  | run, c :: rest =>
    if c == mark then longestRun mark (run + 1) rest
    else max run (longestRun mark 0 rest)

/-- Whether the character is a control character other than the tab and the line feed. -/
def isControl (c : Char) : Bool :=
  (c.toNat < 0x20 || c == '\u007f') && c != '\t' && c != '\n'

/-- The quoting for a text: the first that needs no escapes, and one with escapes when there is
none. -/
def quotingFor (text : List Char) : Quoting :=
  let controls := text.any isControl
  let newline := text.contains '\n'
  let backslash := text.contains '\\'
  let double := longestRun '"' 0 text
  let single := longestRun '\'' 0 text
  if !controls && !backslash && double = 0 && !newline then .basic
  else if !controls && single = 0 && !newline then .literal
  else if !controls && !backslash && double ≤ 2 then .basicLines
  else if !controls && single ≤ 2 then .literalLines
  else if newline then .basicLines
  else .basic

/-! ### Writing -/

/-- The digits of a code below `2 ^ 16` to the base sixteen, in upper case, four of them. -/
def fourHexDigits (code : Nat) : List Char :=
  [code / 4096 % 16, code / 256 % 16, code / 16 % 16, code % 16].map fun digit =>
    (Nat.digitChar digit).toUpper

/-- How a character other than the mark is written where there are escapes. -/
def writtenChar (lines : Bool) (c : Char) : List Char :=
  if c == '\u0008' then ['\\', 'b']
  else if c == '\t' then ['\\', 't']
  else if c == '\n' then if lines then ['\n'] else ['\\', 'n']
  else if c == '\u000c' then ['\\', 'f']
  else if c == '\r' then ['\\', 'r']
  else if c == '\\' then ['\\', '\\']
  else if c.toNat < 0x20 || c == '\u007f' then ['\\', 'u'] ++ fourHexDigits c.toNat
  else [c]

/-- The text with escapes, when `run` marks have just been written. A mark is escaped where too many
would stand together. -/
def writtenEscaped (lines : Bool) : Nat → List Char → List Char
  | _, [] => []
  | run, c :: rest =>
    if c == '"' then
      if lines && run < 2 then '"' :: writtenEscaped lines (run + 1) rest
      else '\\' :: '"' :: writtenEscaped lines 0 rest
    else writtenChar lines c ++ writtenEscaped lines 0 rest

/-- The text in a quoting. On several lines it begins on a line of its own when it has a line
end. -/
def writtenIn (quoting : Quoting) (text : List Char) : List Char :=
  let marks := List.replicate (if quoting.lines then 3 else 1) quoting.mark
  let opening := if quoting.lines && text.contains '\n' then ['\n'] else []
  let inside := if quoting.escapes then writtenEscaped quoting.lines 0 text else text
  marks ++ opening ++ inside ++ marks

/-- The text in the quoting for it. -/
def writtenText (text : List Char) : List Char :=
  writtenIn (quotingFor text) text

/-! ### Reading -/

/-- Where the reading of a quoted text stands. -/
inductive Mode where
  /-- In the text. -/
  | plain
  /-- Behind a carriage return, where a line feed must come. -/
  | carriage
  /-- Behind so many marks of a text on several lines. -/
  | marks (count : Nat)
  /-- Behind a backslash. -/
  | escape
  /-- In an escape of digits, of which one and so many more are left. -/
  | code (left value : Nat)
  /-- Behind a backslash and blanks, where the line must end. -/
  | beforeEnd
  /-- Behind a backslash at the end of a line, where blanks and line ends do not count. -/
  | trimming
  /-- Behind a carriage return there. -/
  | trimmingCarriage
  deriving DecidableEq, Repr

/-- What a character does to the reading; the text is kept with its last character first. -/
inductive Turn where
  | failed
  | goOn (mode : Mode) (read : List Char)
  /-- The character was the last mark. -/
  | ended (read : List Char)
  /-- The text ended before the character. -/
  | endedBefore (read : List Char)
  deriving DecidableEq, Repr

/-- Whether the character may stand in a text as itself. -/
def isTextChar (c : Char) : Bool :=
  c == '\t' || (0x20 ≤ c.toNat && c != '\u007f')

/-- A character in the text. -/
def turnPlain (quoting : Quoting) (read : List Char) (c : Char) : Turn :=
  if c == quoting.mark then if quoting.lines then .goOn (.marks 1) read else .ended read
  else if quoting.escapes && c == '\\' then .goOn .escape read
  else if quoting.lines && c == '\n' then .goOn .plain ('\n' :: read)
  else if quoting.lines && c == '\r' then .goOn .carriage read
  else if isTextChar c then .goOn .plain (c :: read)
  else .failed

/-- The character of a short escape. -/
def shortEscape? (c : Char) : Option Char :=
  match c with
  | 'b' => some '\u0008'
  | 't' => some '\t'
  | 'n' => some '\n'
  | 'f' => some '\u000c'
  | 'r' => some '\r'
  | '"' => some '"'
  | '\\' => some '\\'
  | _ => none

/-- A character where a line must end. -/
def turnBeforeEnd (read : List Char) (c : Char) : Turn :=
  if c == ' ' || c == '\t' then .goOn .beforeEnd read
  else if c == '\n' then .goOn .trimming read
  else if c == '\r' then .goOn .trimmingCarriage read
  else .failed

/-- A character behind a backslash. -/
def turnEscape (quoting : Quoting) (read : List Char) (c : Char) : Turn :=
  match shortEscape? c with
  | some meant => .goOn .plain (meant :: read)
  | none =>
    if c == 'u' then .goOn (.code 3 0) read
    else if c == 'U' then .goOn (.code 7 0) read
    else if quoting.lines then turnBeforeEnd read c
    else .failed

/-- A digit of an escape; the code must be that of a character. -/
def turnCode (read : List Char) (left value : Nat) (c : Char) : Turn :=
  match Json.Lexer.hexDigit? c with
  | none => .failed
  | some digit =>
    let value := 16 * value + digit
    if left != 0 then .goOn (.code (left - 1) value) read
    else if value.isValidChar then .goOn .plain (Char.ofNat value :: read)
    else .failed

/-- What a character does. -/
def turn (quoting : Quoting) (mode : Mode) (read : List Char) (c : Char) : Turn :=
  match mode with
  | .plain => turnPlain quoting read c
  | .carriage => if c == '\n' then .goOn .plain ('\n' :: read) else .failed
  | .marks count =>
    if c == quoting.mark then
      if count = 4 then .ended (quoting.mark :: quoting.mark :: read)
      else .goOn (.marks (count + 1)) read
    else if count < 3 then turnPlain quoting (List.replicate count quoting.mark ++ read) c
    else .endedBefore (List.replicate (count - 3) quoting.mark ++ read)
  | .escape => turnEscape quoting read c
  | .code left value => turnCode read left value c
  | .beforeEnd => turnBeforeEnd read c
  | .trimming =>
    if c == ' ' || c == '\t' || c == '\n' then .goOn .trimming read
    else if c == '\r' then .goOn .trimmingCarriage read
    else turnPlain quoting read c
  | .trimmingCarriage => if c == '\n' then .goOn .trimming read else .failed

/-- The text up to its last mark, and what follows. -/
def readFrom (quoting : Quoting) : Mode → List Char → List Char → Option (List Char × List Char)
  | .marks count, read, [] =>
    if 3 ≤ count then
      some ((List.replicate (count - 3) quoting.mark ++ read).reverse, [])
    else none
  | _, _, [] => none
  | mode, read, c :: rest =>
    match turn quoting mode read c with
    | .failed => none
    | .goOn mode read => readFrom quoting mode read rest
    | .ended read => some (read.reverse, rest)
    | .endedBefore read => some (read.reverse, c :: rest)

/-- What follows the line end at the start, if there is one. -/
def dropLineEnd : List Char → List Char
  | '\n' :: rest => rest
  | '\r' :: '\n' :: rest => rest
  | text => text

/-- Reads a text quoted on one line. -/
def lineText? : List Char → Option (List Char × List Char)
  | '"' :: rest => readFrom .basic .plain [] rest
  | '\'' :: rest => readFrom .literal .plain [] rest
  | _ => none

/-- Reads a text in any quoting. -/
def quotedText? : List Char → Option (List Char × List Char)
  | '"' :: '"' :: '"' :: rest => readFrom .basicLines .plain [] (dropLineEnd rest)
  | '\'' :: '\'' :: '\'' :: rest => readFrom .literalLines .plain [] (dropLineEnd rest)
  | text => lineText? text

end Onboarding.Toml
