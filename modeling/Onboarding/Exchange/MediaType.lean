/-
This file holds media types as headers name them: two names with a slash between them,
and behind these the parameters, each a name with a value. A text with a mistake
anywhere is no media type, so that none of its parameters counts.
-/

namespace Onboarding.MediaType

/-- Whether the character may stand in a name, or in a value without quotes. -/
def isNameChar (c : Char) : Bool :=
  c.isAlphanum || "!#$%&'*+-.^_`|~".toList.contains c

/-- Whether the character may stand between quotes. -/
def isQuotedChar (c : Char) : Bool :=
  ' ' ≤ c && c != '\u007f'

/-- Where the reading of parameters stands. -/
inductive Mode where
  /-- In front of a parameter, where spaces do not count. -/
  | front
  /-- In a name; its last character first. -/
  | name (read : List Char)
  /-- In the value under a name; its last character first. -/
  | value (name : String) (read : List Char)
  /-- In a value between quotes; its last character first. -/
  | quoted (name : String) (read : List Char)
  /-- Behind a value between quotes. -/
  | behind
  deriving DecidableEq, Repr

/-- The parameters read so far, and where the reading stands. -/
structure Reader where
  parameters : List (String × String)
  mode : Mode
  deriving DecidableEq, Repr

namespace Reader

/-- In front of the first parameter. -/
def start : Reader := ⟨[], .front⟩

/-- Adds a parameter and goes on behind it; a name is the same in letters of any case. -/
def add (reader : Reader) (name : String) (read : List Char) (mode : Mode) : Reader :=
  ⟨reader.parameters ++ [(name, String.ofList read.reverse)], mode⟩

/-- Reads a character; none when no parameters can go on with it. -/
def step? (reader : Reader) (c : Char) : Option Reader :=
  let goOn (mode : Mode) : Option Reader := some { reader with mode }
  match reader.mode with
  | .front =>
    if c == ' ' then goOn .front else if isNameChar c then goOn (.name [c]) else none
  | .name read =>
    if c == '=' then goOn (.value (String.ofList read.reverse).toLower [])
    else if isNameChar c then goOn (.name (c :: read))
    else none
  | .value name read =>
    if read.isEmpty && c == '"' then goOn (.quoted name [])
    else if !read.isEmpty && c == ';' then some (reader.add name read .front)
    else if isNameChar c then goOn (.value name (c :: read))
    else none
  | .quoted name read =>
    -- A quote right behind the first one does not end the value.
    if !read.isEmpty && c == '"' then some (reader.add name read .behind)
    else if isQuotedChar c then goOn (.quoted name (c :: read))
    else none
  | .behind => if c == ' ' then goOn .behind else if c == ';' then goOn .front else none

/-- The parameters at the end of the text; none in the middle of one. -/
def finish? (reader : Reader) : Option (List (String × String)) :=
  match reader.mode with
  | .front | .behind => some reader.parameters
  | .value name read => some (reader.add name read .front).parameters
  | .name _ | .quoted .. => none

end Reader

/-- The parameters of a media type in order, their names in lower case; none when the text is no
media type. -/
def parameters? (text : List Char) : Option (List (String × String)) :=
  let top := text.takeWhile isNameChar
  match text.drop top.length with
  | '/' :: rest =>
    let sub := rest.takeWhile isNameChar
    if top.isEmpty || sub.isEmpty then none
    else
      match rest.drop sub.length with
      | [] => some []
      | ';' :: rest => (rest.foldlM Reader.step? Reader.start).bind Reader.finish?
      | _ => none
  | _ => none

/-- A quoted value with a semicolon in it, and a name in capital letters. -/
example : parameters? "text/html; a=\";b\" ;Charset=X".toList =
    some [("a", ";b"), ("charset", "X")] := by
  decide +kernel

end Onboarding.MediaType
