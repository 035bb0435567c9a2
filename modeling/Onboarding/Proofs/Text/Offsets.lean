/-
This file proves that a text can be changed at just those byte offsets at which a
character starts or the text ends, in the sense that the encoding of the text gives to
this: the bytes before such an offset are again those of a text.
-/

import Onboarding.Text.Offset

namespace Onboarding.Text

theorem byteCount_eq (text : List Char) : byteCount text = (String.ofList text).utf8ByteSize := by
  induction text with
  | nil => rfl
  | cons c rest inductionHypothesis =>
    rw [byteCount, inductionHypothesis, String.ofList_cons, String.utf8ByteSize_append,
      String.utf8ByteSize_singleton]

theorem byteCount_append (before after : List Char) :
    byteCount (before ++ after) = byteCount before + byteCount after := by
  rw [byteCount_eq, byteCount_eq, byteCount_eq, String.ofList_append, String.utf8ByteSize_append]

theorem byteCount_pos {text : List Char} (some : text ≠ []) : 0 < byteCount text := by
  cases text with
  | nil => exact absurd rfl some
  | cons c rest => exact Nat.add_pos_left c.utf8Size_pos _

/-- A split at an offset loses no character, and what is before it reaches to the offset. -/
theorem of_splitAt?_eq_some {text before after : List Char} {offset : Nat}
    (split : splitAt? text offset = some (before, after)) :
    text = before ++ after ∧ offset = byteCount before := by
  fun_induction splitAt? text offset generalizing before after with
  | case1 text =>
    cases split
    exact ⟨rfl, rfl⟩
  | case2 | case3 => cases split
  | case4 c rest offset reached inductionHypothesis =>
    obtain ⟨⟨start, others⟩, found, same⟩ := Option.map_eq_some_iff.mp split
    obtain ⟨rfl, rfl⟩ := Prod.mk.inj same
    obtain ⟨rfl, counted⟩ := inductionHypothesis found
    refine ⟨rfl, ?_⟩
    rw [byteCount, ← counted]
    omega

theorem isSome_splitAt?_iff (text : String) (offset : String.Pos.Raw) :
    (splitAt? text.toList offset.byteIdx).isSome = true ↔ offset.IsValid text := by
  rw [Option.isSome_iff_exists, String.Pos.Raw.isValid_iff_exists_take_toList]
  simp only [← byteCount_eq]
  constructor
  · rintro ⟨⟨before, after⟩, split⟩
    obtain ⟨whole, counted⟩ := of_splitAt?_eq_some split
    exact ⟨before.length, by rw [whole, List.take_left, counted]⟩
  · rintro ⟨number, counted⟩
    refine ⟨(text.toList.take number, text.toList.drop number), ?_⟩
    rw [counted, ← splitAt?_byteCount, List.take_append_drop]

/-- A character can be taken away at the boundaries of characters before the end and nowhere
else. -/
theorem isSome_removeAt?_iff (text : String) (offset : String.Pos.Raw) :
    (removeAt? text offset).isSome = true ↔ offset.IsValid text ∧ offset < text.rawEndPos := by
  rw [← isSome_splitAt?_iff, removeAt?]
  cases split : splitAt? text.toList offset.byteIdx with
  | none => simp
  | some parts =>
    obtain ⟨before, after⟩ := parts
    obtain ⟨whole, counted⟩ := of_splitAt?_eq_some split
    have ends : text.rawEndPos.byteIdx = byteCount before + byteCount after := by
      rw [← byteCount_append, ← whole, byteCount_eq, String.ofList_toList]
      rfl
    rw [String.Pos.Raw.lt_iff, ends, counted]
    cases after with
    | nil => simp [byteCount]
    | cons c after => simp [byteCount_pos (List.cons_ne_nil c after)]

end Onboarding.Text
