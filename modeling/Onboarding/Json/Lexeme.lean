/-
This file holds the pieces of a JSON text, its tokens, and how a text is read
into them one character at a time. Strings and numbers are kept as they are
written: whether an escape names a character and whether a number is in range
matters only where the data is kept.
-/

namespace Onboarding.Json

/-! ### Tokens -/

/-- A piece of a string. -/
inductive StringPiece where
  /-- A character, written as itself or as a short escape. -/
  | char (c : Char)
  /-- Sixteen bits written as an escape of four digits. -/
  | unit (code : Nat)
  deriving DecidableEq, Repr

/-- A number as it is written: its sign, and the digits before the point, behind it and in the
exponent. -/
structure Numeral where
  negative : Bool
  whole : List Char
  fraction : Option (List Char)
  /-- Whether the exponent is negative, and its digits. -/
  exponent : Option (Bool × List Char)
  deriving DecidableEq, Repr

/-- A token of a text. -/
inductive Token where
  | openArray
  | closeArray
  | openObject
  | closeObject
  | colon
  | comma
  | null
  | bool (value : Bool)
  | number (numeral : Numeral)
  | string (pieces : List StringPiece)
  deriving DecidableEq, Repr

/-! ### Reading characters -/

/-- Where the reading of a text stands. -/
inductive Mode where
  /-- Between tokens. -/
  | between
  /-- In a word of which these letters are left. -/
  | word (left : List Char) (token : Token)
  /-- Behind the minus sign of a number. -/
  | minus
  /-- In the digits before the point. -/
  | whole (numeral : Numeral)
  /-- Behind the point, where a digit must come. -/
  | point (numeral : Numeral)
  /-- In the digits behind the point; the last of them first. -/
  | fraction (numeral : Numeral) (digits : List Char)
  /-- Behind the mark of an exponent, where a sign or a digit must come. -/
  | mark (numeral : Numeral)
  /-- Behind the sign of an exponent, where a digit must come. -/
  | sign (numeral : Numeral) (negative : Bool)
  /-- In the digits of an exponent; the last of them first. -/
  | exponent (numeral : Numeral) (negative : Bool) (digits : List Char)
  /-- In a string; the last of its pieces first. -/
  | string (pieces : List StringPiece)
  /-- Behind a backslash in a string. -/
  | escape (pieces : List StringPiece)
  /-- In an escape of four digits, of which so many are left. -/
  | code (pieces : List StringPiece) (left : Nat) (value : Nat)
  deriving DecidableEq, Repr

/-- The mode, and the tokens read so far, the last of them first. -/
structure Lexer where
  mode : Mode
  tokens : List Token
  deriving DecidableEq, Repr

namespace Lexer

/-- Before the first character. -/
def start : Lexer := ⟨.between, []⟩

/-- Blanks between tokens: the space, the tab, the line feed and the carriage return. -/
def isSpace (c : Char) : Bool :=
  c == ' ' || c == '\t' || c == '\n' || c == '\r'

/-- Adds a token and goes on between tokens. -/
def emit (tokens : List Token) (token : Token) : Lexer :=
  ⟨.between, token :: tokens⟩

/-- Reads a character between tokens. -/
def stepBetween (tokens : List Token) (c : Char) : Option Lexer :=
  if isSpace c then some ⟨.between, tokens⟩
  else
    match c with
    | '[' => some (emit tokens .openArray)
    | ']' => some (emit tokens .closeArray)
    | '{' => some (emit tokens .openObject)
    | '}' => some (emit tokens .closeObject)
    | ':' => some (emit tokens .colon)
    | ',' => some (emit tokens .comma)
    | '"' => some ⟨.string [], tokens⟩
    | 'n' => some ⟨.word ['u', 'l', 'l'] .null, tokens⟩
    | 't' => some ⟨.word ['r', 'u', 'e'] (.bool true), tokens⟩
    | 'f' => some ⟨.word ['a', 'l', 's', 'e'] (.bool false), tokens⟩
    | '-' => some ⟨.minus, tokens⟩
    | c => if c.isDigit then some ⟨.whole ⟨false, [c], none, none⟩, tokens⟩ else none

/-- The number behind which a character has been read that is no part of it. -/
def endNumber (tokens : List Token) (numeral : Numeral) (c : Char) : Option Lexer :=
  stepBetween (.number numeral :: tokens) c

/-- Whether the character marks an exponent. -/
def isMark (c : Char) : Bool := c == 'e' || c == 'E'

/-- The value of a digit to the base sixteen. -/
def hexDigit? (c : Char) : Option Nat :=
  if c.isDigit then some (c.toNat - '0'.toNat)
  else if 'a' ≤ c && c ≤ 'f' then some (c.toNat - 'a'.toNat + 10)
  else if 'A' ≤ c && c ≤ 'F' then some (c.toNat - 'A'.toNat + 10)
  else none

/-- The character of a short escape. -/
def shortEscape? (c : Char) : Option Char :=
  match c with
  | '"' => some '"'
  | '\\' => some '\\'
  | '/' => some '/'
  | 'b' => some '\u0008'
  | 'f' => some '\u000c'
  | 'n' => some '\n'
  | 'r' => some '\r'
  | 't' => some '\t'
  | _ => none

/-- Reads a character; none when no text can go on with it. -/
def step (lexer : Lexer) (c : Char) : Option Lexer :=
  let tokens := lexer.tokens
  match lexer.mode with
  | .between => stepBetween tokens c
  | .word [] token => stepBetween (token :: tokens) c
  | .word (next :: left) token => if c == next then some ⟨.word left token, tokens⟩ else none
  | .minus => if c.isDigit then some ⟨.whole ⟨true, [c], none, none⟩, tokens⟩ else none
  | .whole numeral =>
    if c.isDigit then
      if numeral.whole = ['0'] then none
      else some ⟨.whole { numeral with whole := numeral.whole ++ [c] }, tokens⟩
    else if c == '.' then some ⟨.point numeral, tokens⟩
    else if isMark c then some ⟨.mark numeral, tokens⟩
    else endNumber tokens numeral c
  | .point numeral => if c.isDigit then some ⟨.fraction numeral [c], tokens⟩ else none
  | .fraction numeral digits =>
    if c.isDigit then some ⟨.fraction numeral (c :: digits), tokens⟩
    else
      let numeral := { numeral with fraction := some digits.reverse }
      if isMark c then some ⟨.mark numeral, tokens⟩ else endNumber tokens numeral c
  | .mark numeral =>
    if c == '+' then some ⟨.sign numeral false, tokens⟩
    else if c == '-' then some ⟨.sign numeral true, tokens⟩
    else if c.isDigit then some ⟨.exponent numeral false [c], tokens⟩
    else none
  | .sign numeral negative =>
    if c.isDigit then some ⟨.exponent numeral negative [c], tokens⟩ else none
  | .exponent numeral negative digits =>
    if c.isDigit then some ⟨.exponent numeral negative (c :: digits), tokens⟩
    else endNumber tokens { numeral with exponent := some (negative, digits.reverse) } c
  | .string pieces =>
    if c == '"' then some (emit tokens (.string pieces.reverse))
    else if c == '\\' then some ⟨.escape pieces, tokens⟩
    else if c.toNat < 0x20 then none
    else some ⟨.string (.char c :: pieces), tokens⟩
  | .escape pieces =>
    if c == 'u' then some ⟨.code pieces 3 0, tokens⟩
    else (shortEscape? c).map fun meant => ⟨.string (.char meant :: pieces), tokens⟩
  | .code pieces left value =>
    (hexDigit? c).map fun digit =>
      let value := 16 * value + digit
      if left = 0 then ⟨.string (.unit value :: pieces), tokens⟩
      else ⟨.code pieces (left - 1) value, tokens⟩

/-- The tokens at the end of the text; none in the middle of one. -/
def finish (lexer : Lexer) : Option (List Token) :=
  match lexer.mode with
  | .between => some lexer.tokens.reverse
  | .word [] token => some (token :: lexer.tokens).reverse
  | .whole numeral => some (.number numeral :: lexer.tokens).reverse
  | .fraction numeral digits =>
    some (.number { numeral with fraction := some digits.reverse } :: lexer.tokens).reverse
  | .exponent numeral negative digits =>
    some (.number { numeral with exponent := some (negative, digits.reverse) } ::
      lexer.tokens).reverse
  | _ => none

/-- Reads the characters one after the other. -/
def run (lexer : Lexer) (text : List Char) : Option Lexer :=
  text.foldlM step lexer

end Lexer

/-- The tokens of a text; none when it does not consist of tokens. -/
def tokens? (text : List Char) : Option (List Token) :=
  (Lexer.start.run text).bind Lexer.finish

end Onboarding.Json
