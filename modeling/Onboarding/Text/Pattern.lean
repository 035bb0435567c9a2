/-
This file holds regular patterns over characters and their matching. A pattern
is read one character at a time: the patterns that may still match the rest are
kept as a list without repeats, and the text is accepted when one of those left
at its end also matches the empty text.
-/

namespace Onboarding.Text

/-! ### Character classes -/

/-- A class of characters, given as closed ranges. -/
structure CharClass where
  ranges : List (Char × Char)
  deriving DecidableEq, Repr

namespace CharClass

/-- A character is in a class when it lies in one of its ranges. -/
def contains (kind : CharClass) (c : Char) : Bool :=
  kind.ranges.any fun (low, high) => low ≤ c && c ≤ high

/-- The characters of both classes. -/
def union (first second : CharClass) : CharClass :=
  ⟨first.ranges ++ second.ranges⟩

/-- The class of the listed characters. -/
def ofList (members : List Char) : CharClass :=
  ⟨members.map fun c => (c, c)⟩

/-- The letters a to z and A to Z. -/
def latinLetter : CharClass := ⟨[('a', 'z'), ('A', 'Z')]⟩

/-- The digits 0 to 9. -/
def digit : CharClass := ⟨[('0', '9')]⟩

end CharClass

/-! ### Patterns -/

/-- A regular pattern. -/
inductive Pattern where
  /-- Matches the empty text only. -/
  | empty
  /-- Matches one character of the class. -/
  | one (kind : CharClass)
  /-- Matches a text of the first pattern followed by a text of the second. -/
  | followed (first second : Pattern)
  /-- Matches any number of texts of the pattern, one after the other. -/
  | many (inner : Pattern)
  deriving DecidableEq, Repr

namespace Pattern

/-- One or more texts of the pattern. -/
def oneOrMore (inner : Pattern) : Pattern :=
  followed inner (many inner)

/-- The given patterns one after the other. -/
def sequence : List Pattern → Pattern
  | [] => empty
  | first :: rest => followed first (sequence rest)

/-- Whether the pattern matches the empty text. -/
def matchesEmpty : Pattern → Bool
  | empty => true
  | one _ => false
  | followed first second => matchesEmpty first && matchesEmpty second
  | many _ => true

/-- The patterns that may match what follows once the character has been read. -/
def after (c : Char) : Pattern → List Pattern
  | empty => []
  | one kind => if kind.contains c then [empty] else []
  | followed first second =>
    (after c first).map (followed · second) ++
      if matchesEmpty first then after c second else []
  | many inner => (after c inner).map (followed · (many inner))

/-- What may match the rest, from what may match the text before the character was read. -/
def advance (pending : List Pattern) (c : Char) : List Pattern :=
  (pending.flatMap (after c)).eraseDups

/-- Whether the pattern matches the whole text. -/
def accepts (pattern : Pattern) (text : List Char) : Bool :=
  (text.foldl advance [pattern]).any matchesEmpty

end Pattern

end Onboarding.Text
