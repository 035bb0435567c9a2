/-
This file holds the blank characters, which are those that Unicode lists with
the property White_Space, and the trimming of a text at both ends. A name made
of blanks alone counts as missing, and an address is checked without the blanks
around it.
-/

namespace Onboarding.Text

/-! ### Blank characters -/

/-- The characters with the Unicode property White_Space. -/
def isBlank (c : Char) : Bool :=
  ('\u0009' ≤ c && c ≤ '\u000d') || c == ' ' || c == '\u0085' || c == '\u00a0' ||
    c == '\u1680' || ('\u2000' ≤ c && c ≤ '\u200a') || c == '\u2028' || c == '\u2029' ||
    c == '\u202f' || c == '\u205f' || c == '\u3000'

/-! ### Trimming -/

/-- The text without the blanks at its start. -/
def trimStart (text : List Char) : List Char :=
  text.dropWhile isBlank

/-- The text without the blanks at its end. -/
def trimEnd (text : List Char) : List Char :=
  (text.reverse.dropWhile isBlank).reverse

/-- The text without the blanks at either end; blanks inside it stay. -/
def trim (text : List Char) : List Char :=
  trimEnd (trimStart text)

end Onboarding.Text
