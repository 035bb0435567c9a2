/-
This file holds an input of one line: its cursor, what the keys do to its text,
and how it is drawn. The text itself lives in the form, so it can change while
the cursor stays; the cursor is brought back into the text at the next key.

The cursor counts characters and the text is changed at a byte offset. Each
offset is that of a character or the end, so every key has an outcome, and there
is always a text to be drawn.
-/

import Onboarding.Screen.Key
import Onboarding.Screen.Paragraph
import Onboarding.Text.Offset

namespace Onboarding.Screen

open Text

/-- An input of one line, for a field of the form. -/
structure LineInput where
  name : String
  label : String
  /-- Whether the text is hidden behind stars. -/
  masked : Bool
  /-- The number of characters before the cursor. -/
  cursor : Nat
  deriving DecidableEq, Repr

namespace LineInput

/-! ### Editing -/

/-- Puts the cursor behind the last character of the text. -/
def moveToEnd (input : LineInput) (text : String) : LineInput :=
  { input with cursor := text.length }

/-- What a key did to an input and its text, and whether it was a key of the input's. -/
structure Edited where
  consumed : Bool
  input : LineInput
  text : String
  deriving DecidableEq, Repr

/-- What a key does to the input and its text; none when the text would have to be changed at an
offset that is no place for it. -/
def press? (input : LineInput) (key : Key) (text : String) : Option Edited :=
  let cursor := min input.cursor text.length
  let edited (cursor : Nat) (text : String) : Edited := ⟨true, { input with cursor }, text⟩
  match key with
  | .char c => (insertAt? text (offsetOf text cursor) c).map (edited (cursor + 1))
  | .backspace =>
    if 0 < cursor then (removeAt? text (offsetOf text (cursor - 1))).map (edited (cursor - 1))
    else some (edited cursor text)
  | .delete =>
    if cursor < text.length then (removeAt? text (offsetOf text cursor)).map (edited cursor)
    else some (edited cursor text)
  | .left => some (edited (cursor - 1) text)
  | .right => some (edited (if cursor < text.length then cursor + 1 else cursor) text)
  | .home => some (edited 0 text)
  | .endOfLine => some (edited text.length text)
  | _ => some ⟨false, { input with cursor }, text⟩

theorem isSome_press? (input : LineInput) (key : Key) (text : String) :
    (input.press? key text).isSome = true := by
  have within : min input.cursor text.length ≤ text.length := Nat.min_le_right _ _
  unfold press?
  cases key with
  | char c =>
    dsimp only
    rw [insertAt?_offsetOf, Option.isSome_map, Option.isSome_some]
  | backspace =>
    dsimp only
    split
    · rw [removeAt?_offsetOf text (by omega), Option.isSome_map, Option.isSome_some]
    · rfl
  | delete =>
    dsimp only
    split
    · next inside => rw [removeAt?_offsetOf text inside, Option.isSome_map, Option.isSome_some]
    · rfl
  | _ => rfl

/-- What a key does to the input and its text. -/
def press (input : LineInput) (key : Key) (text : String) : Edited :=
  (input.press? key text).get (input.isSome_press? key text)

/-! ### Drawing -/

/-- The text in the input's box: stars for a masked text, and a bar for the cursor while the input
has the focus; none when the bar would have to stand within a character. -/
def displayed? (input : LineInput) (text : String) (focused : Bool) : Option String :=
  let shown := if input.masked then String.ofList (text.toList.map fun _ => '*') else text
  if focused then insertAt? shown (offsetOf shown (min input.cursor shown.length)) '|'
  else some shown

theorem isSome_displayed? (input : LineInput) (text : String) (focused : Bool) :
    (input.displayed? text focused).isSome = true := by
  unfold displayed?
  cases focused with
  | true =>
    dsimp only
    rw [if_pos rfl, insertAt?_offsetOf, Option.isSome_some]
  | false => rfl

/-- The text in the input's box. -/
def displayed (input : LineInput) (text : String) (focused : Bool) : String :=
  (input.displayed? text focused).get (input.isSome_displayed? text focused)

/-- The rows that an input takes: its label, its box and the message about it. -/
def height : Nat := 5

/-- Draws an input with the message about its text. -/
def draw (canvas : Canvas) (area : Area) (input : LineInput) (text : String)
    (fault : Option String) (focused : Bool) : Canvas :=
  let rows := area.rows [.fixed 1, .fixed 3, .fixed 1]
  let labelStyle := if focused then (Style.colored .cyan).makeBold else .colored .gray
  let canvas := drawLine canvas (Area.row rows 0) .left
    [⟨input.label, labelStyle⟩, ⟨" *", .colored .red⟩]
  let edge := if fault.isSome then Color.red else if focused then .cyan else .gray
  let box := Area.row rows 1
  let canvas := canvas.style box (.colored (if focused then .white else .gray))
  let canvas := drawBox canvas box (.colored edge)
  let canvas := drawText canvas (insideBox box) .left (input.displayed text focused)
  match fault with
  | some message => drawLine canvas (Area.row rows 2) .left [⟨message, .colored .red⟩]
  | none => canvas

end LineInput

end Onboarding.Screen
