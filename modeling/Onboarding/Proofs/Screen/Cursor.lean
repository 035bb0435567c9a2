/-
This file proves what any key leaves of an input: all of it but the cursor, which stands
within the text that the key leaves behind, wherever it stood before.
-/

import Onboarding.Proofs.Screen.Editing

namespace Onboarding.Screen.LineInput

variable (input : LineInput) (key : Key) (text : String)

/-- A key changes the cursor of an input and nothing else about it. -/
theorem press_input :
    (input.press key text).input =
      { input with cursor := (input.press key text).input.cursor } := by
  rw [press_eq]

theorem press_name : (input.press key text).input.name = input.name := by
  rw [press_input]

theorem press_label : (input.press key text).input.label = input.label := by
  rw [press_input]

theorem press_masked : (input.press key text).input.masked = input.masked := by
  rw [press_input]

/-- A key that is not one of the input's leaves the text alone. -/
theorem press_text_of_not_consumed (passedOn : (input.press key text).consumed = false) :
    (input.press key text).text = text := by
  rw [press_eq] at passedOn ⊢
  dsimp only at passedOn ⊢
  rw [Halves.press_of_not_consumed passedOn, Halves.text_ofText]

theorem press_cursor_le :
    (input.press key text).input.cursor ≤ (input.press key text).text.length := by
  rw [press_eq]
  dsimp only
  rw [Halves.length_text]
  exact Nat.le_add_right _ _

end Onboarding.Screen.LineInput
