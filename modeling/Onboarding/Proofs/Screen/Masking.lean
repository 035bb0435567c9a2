/-
This file proves what a masked input gives away of its text: the length and nothing
else. Texts of one length are drawn alike behind stars, and an input with either of
them takes the same keys, moves its cursor alike and leaves texts of one length again,
also when the characters that are typed differ.
-/

import Onboarding.Proofs.Screen.Cursor

namespace Onboarding.Screen

/-- Whether the key stands for a character. -/
def Key.isChar : Key → Bool
  | char _ => true
  | _ => false

namespace LineInput

variable {input : LineInput} {text other : String}

/-! ### Drawing -/

theorem displayed_of_masked (masked : input.masked = true) (length : other.length = text.length)
    (focused : Bool) : input.displayed other focused = input.displayed text focused := by
  have stars : (other.toList.map fun _ => '*') = text.toList.map fun _ => '*' := by
    rw [List.map_const', List.map_const', String.length_toList, String.length_toList, length]
  have same : input.displayed? other focused = input.displayed? text focused := by
    unfold displayed?
    rw [if_pos masked, if_pos masked, stars]
  simp only [displayed, same]

theorem draw_of_masked (masked : input.masked = true) (length : other.length = text.length)
    (canvas : Canvas) (area : Area) (fault : Option String) (focused : Bool) :
    input.draw canvas area other fault focused = input.draw canvas area text fault focused := by
  unfold draw
  rw [displayed_of_masked masked length]

/-! ### Editing -/

theorem length_stepLeft_of_length {halves others : Halves}
    (before : others.before.length = halves.before.length)
    (after : others.after.length = halves.after.length) :
    others.stepLeft.before.length = halves.stepLeft.before.length ∧
      others.stepLeft.after.length = halves.stepLeft.after.length := by
  obtain ⟨start, rest⟩ := halves
  obtain ⟨otherStart, otherRest⟩ := others
  dsimp only at before after
  rcases List.eq_nil_or_concat start with rfl | ⟨start, c, rfl⟩
  · rw [List.length_eq_zero_iff.mp before]
    exact ⟨rfl, after⟩
  · rcases List.eq_nil_or_concat otherStart with rfl | ⟨otherStart, d, rfl⟩
    · rw [List.length_concat] at before
      cases before
    · rw [List.length_concat, List.length_concat] at before
      rw [List.concat_eq_append, List.concat_eq_append, Halves.stepLeft_concat,
        Halves.stepLeft_concat]
      exact ⟨Nat.succ_inj.mp before, congrArg Nat.succ after⟩

theorem length_stepRight_of_length {halves others : Halves}
    (before : others.before.length = halves.before.length)
    (after : others.after.length = halves.after.length) :
    others.stepRight.before.length = halves.stepRight.before.length ∧
      others.stepRight.after.length = halves.stepRight.after.length := by
  obtain ⟨start, rest⟩ := halves
  obtain ⟨otherStart, otherRest⟩ := others
  dsimp only at before after
  cases rest with
  | nil =>
    rw [List.length_eq_zero_iff.mp after]
    exact ⟨before, rfl⟩
  | cons c rest =>
    cases otherRest with
    | nil => cases after
    | cons d otherRest =>
      rw [Halves.stepRight, Halves.stepRight, List.length_append, List.length_append, before]
      exact ⟨rfl, Nat.succ_inj.mp after⟩

/-- One key, or two that stand for characters, do the same to parted texts of the same lengths, as
far as the lengths tell. -/
theorem press_halves_of_length {halves others : Halves} {key otherKey : Key}
    (alike : key = otherKey ∨ key.isChar = true ∧ otherKey.isChar = true)
    (before : others.before.length = halves.before.length)
    (after : others.after.length = halves.after.length) :
    (others.press otherKey).1 = (halves.press key).1 ∧
      (others.press otherKey).2.before.length = (halves.press key).2.before.length ∧
      (others.press otherKey).2.after.length = (halves.press key).2.after.length := by
  rcases alike with rfl | ⟨typed, typedOther⟩
  · cases key with
    | left => exact ⟨rfl, length_stepLeft_of_length before after⟩
    | right => exact ⟨rfl, length_stepRight_of_length before after⟩
    | _ =>
      dsimp only [Halves.press]
      simp [before, after]
  · cases key with
    | char c =>
      cases otherKey with
      | char d =>
        dsimp only [Halves.press]
        simp [before, after]
      | _ => cases typedOther
    | _ => cases typed

/-- One key, or two that stand for characters, do the same to texts of one length, as far as the
length tells. -/
theorem press_of_length (input : LineInput) {key otherKey : Key}
    (alike : key = otherKey ∨ key.isChar = true ∧ otherKey.isChar = true)
    (length : other.length = text.length) :
    (input.press otherKey other).consumed = (input.press key text).consumed ∧
      (input.press otherKey other).input = (input.press key text).input ∧
      (input.press otherKey other).text.length = (input.press key text).text.length := by
  have before : (Halves.ofText other input.cursor).before.length =
      (Halves.ofText text input.cursor).before.length := by
    rw [Halves.length_before_ofText, Halves.length_before_ofText, length]
  have after : (Halves.ofText other input.cursor).after.length =
      (Halves.ofText text input.cursor).after.length := by
    rw [Halves.length_after_ofText, Halves.length_after_ofText, length]
  obtain ⟨consumed, sameBefore, sameAfter⟩ := press_halves_of_length alike before after
  rw [press_eq, press_eq]
  dsimp only
  rw [Halves.length_text, Halves.length_text, consumed, sameBefore, sameAfter]
  exact ⟨rfl, rfl, rfl⟩

end LineInput

end Onboarding.Screen
