/-
This file proves what the editing keys do to an input whose cursor stands at the end
of its text: a character goes to the end, the key for erasing takes the last character
away, and after either the cursor stands at the end again.
-/

import Onboarding.Proofs.Screen.Editing

namespace Onboarding.Screen.LineInput

variable (input : LineInput) (text : String) (c : Char)

theorem press_char_of_le (behind : text.length ≤ input.cursor) :
    input.press (.char c) text =
      ⟨true, { input with cursor := text.length + 1 }, text.push c⟩ := by
  have pushed : String.ofList (text.toList ++ [c]) = text.push c := by
    rw [← String.toList_inj, String.toList_ofList, String.toList_push]
  rw [press_eq, Halves.ofText_of_le _ _ behind]
  dsimp only [Halves.press]
  rw [Halves.text, List.append_nil, pushed, List.length_append, List.length_singleton,
    String.length_toList]

theorem press_endOfLine :
    input.press .endOfLine text = ⟨true, input.moveToEnd text, text⟩ := by
  have whole : (Halves.ofText text input.cursor).before ++ (Halves.ofText text input.cursor).after =
      text.toList := by
    rw [← String.ofList_inj, String.ofList_toList]
    exact Halves.text_ofText text input.cursor
  rw [press_eq, moveToEnd]
  dsimp only [Halves.press]
  rw [whole, Halves.text, List.append_nil, String.ofList_toList, String.length_toList]

theorem press_backspace_push (behind : (text.push c).length ≤ input.cursor) :
    input.press .backspace (text.push c) =
      ⟨true, { input with cursor := text.length }, text⟩ := by
  rw [press_eq, Halves.ofText_of_le _ _ behind]
  dsimp only [Halves.press]
  rw [String.toList_push, List.dropLast_concat, Halves.text, List.append_nil,
    String.ofList_toList, String.length_toList]

end Onboarding.Screen.LineInput
