/-
This file holds the rules that the text of a form's field can be asked to keep,
each with the message shown when it is broken, and the pattern of an email
address.
-/

import Onboarding.Text.Blank
import Onboarding.Text.Pattern

namespace Onboarding

/-! ### Email addresses -/

namespace EmailAddress

open Text

/-- The characters before the at sign. -/
def localClass : CharClass :=
  CharClass.latinLetter.union (CharClass.digit.union (CharClass.ofList ['.', '_', '%', '+', '-']))

/-- The characters of a label of the domain. -/
def labelClass : CharClass :=
  CharClass.latinLetter.union (CharClass.digit.union (CharClass.ofList ['-']))

/-- The dot between two labels. -/
def dot : Pattern := .one (.ofList ['.'])

/-- A label of the domain. -/
def label : Pattern := .oneOrMore (.one labelClass)

/-- The last label of the domain: two or more letters. -/
def topLabel : Pattern :=
  .followed (.one .latinLetter) (.oneOrMore (.one .latinLetter))

/-- A local part, an at sign, and labels between dots of which the last is a top label. -/
def pattern : Pattern :=
  .sequence [.oneOrMore (.one localClass), .one (.ofList ['@']), label,
    .many (.followed dot label), dot, topLabel]

/-- Whether the text is an address in full. -/
def accepts (text : List Char) : Bool :=
  pattern.accepts text

end EmailAddress

/-! ### Rules -/

/-- What a rule asks of a text. Any decision will do; those that the registration makes are named
below. -/
structure Check where
  accepts : String → Bool

namespace Check

/-- A character that is not blank. -/
def notBlank : Check :=
  ⟨fun text => !(Text.trim text.toList).isEmpty⟩

/-- At least one character, blank or not. -/
def notEmpty : Check :=
  ⟨fun text => !text.isEmpty⟩

/-- At least so many characters. -/
def minLength (least : Nat) : Check :=
  ⟨fun text => least ≤ text.length⟩

/-- An email address; blanks around it are left out of account. -/
def address : Check :=
  ⟨fun text => EmailAddress.accepts (Text.trim text.toList)⟩

/-- At least one of the letters a to z and A to Z. -/
def latinLetter : Check :=
  ⟨fun text => text.toList.any Text.CharClass.latinLetter.contains⟩

end Check

/-- The words about a text that breaks a rule. -/
structure Message where
  about : String → String

/-- The same words about every text. -/
instance : Coe String Message := ⟨fun words => ⟨fun _ => words⟩⟩

/-- A check together with the message for the texts that do not pass it. -/
structure Rule where
  check : Check
  message : Message

/-- The message of the rule when the text breaks it. -/
def Rule.fault? (rule : Rule) (text : String) : Option String :=
  if rule.check.accepts text then none else some (rule.message.about text)

theorem Rule.fault?_eq_none_iff {rule : Rule} {text : String} :
    rule.fault? text = none ↔ rule.check.accepts text = true := by
  rw [fault?]
  cases rule.check.accepts text <;> simp

theorem Rule.fault?_eq_some_iff {rule : Rule} {text message : String} :
    rule.fault? text = some message ↔
      rule.check.accepts text = false ∧ message = rule.message.about text := by
  rw [fault?]
  cases rule.check.accepts text <;> simp [eq_comm]

end Onboarding
