/-
This file proves what trimming leaves of a text: the one part of it that has blanks alone
on either side and no blank at its own ends. Of a text of blanks this is the empty part.
What counts as blank differs from one kind of text to another and is left open at first.
-/

import Mathlib.Data.List.DropRight
import Onboarding.Text.Blank

namespace Onboarding.Text

/-- A part of a text without the blanks around it: what lies beside the part is blank, and neither
its first nor its last character is. -/
structure IsTrimmed (text core : List Char) : Prop where
  around : ∃ before after, text = before ++ (core ++ after) ∧
    (∀ c ∈ before, isBlank c = true) ∧ ∀ c ∈ after, isBlank c = true
  first : ∀ c ∈ core.head?, isBlank c = false
  last : ∀ c ∈ core.getLast?, isBlank c = false

/-- The same for any kind of characters that are dropped at the ends. -/
structure IsStripped (dropped : Char → Bool) (text core : List Char) : Prop where
  around : ∃ before after, text = before ++ (core ++ after) ∧
    (∀ c ∈ before, dropped c = true) ∧ ∀ c ∈ after, dropped c = true
  first : ∀ c ∈ core.head?, dropped c = false
  last : ∀ c ∈ core.getLast?, dropped c = false

variable {dropped : Char → Bool} {text before core after : List Char}

/-! ### Characters that are not blank -/

theorem isBlank_of_visible {c : Char} (low : 0x20 < c.toNat) (high : c.toNat < 0x80) :
    isBlank c = false := by
  refine Bool.eq_false_iff.mpr fun blank => ?_
  simp only [isBlank, Bool.or_eq_true, Bool.and_eq_true, decide_eq_true_eq, beq_iff_eq,
    Char.le_def, UInt32.le_iff_toNat_le, Char.ext_iff, ← UInt32.toNat_inj] at blank
  simp at blank
  omega

theorem isBlank_of_isAlphanum {c : Char} (alphanum : c.isAlphanum = true) : isBlank c = false := by
  have letter : c.isAlpha = (c.isUpper || c.isLower) := rfl
  have upper : c.isUpper = decide (65 ≤ c.toNat ∧ c.toNat ≤ 90) := rfl
  have lower : c.isLower = (decide (97 ≤ c.toNat) && decide (c.toNat ≤ 122)) := rfl
  have digit : c.isDigit = (decide (48 ≤ c.toNat) && decide (c.toNat ≤ 57)) := rfl
  have bounds : 48 ≤ c.toNat ∧ c.toNat ≤ 122 := by
    simp only [Char.isAlphanum, letter, upper, lower, digit, Bool.or_eq_true, Bool.and_eq_true,
      decide_eq_true_eq] at alphanum
    omega
  exact isBlank_of_visible (by omega) (by omega)

/-! ### At the start -/

theorem exists_append_dropWhile (dropped : Char → Bool) (text : List Char) :
    ∃ before, text = before ++ text.dropWhile dropped ∧ ∀ c ∈ before, dropped c = true :=
  ⟨text.takeWhile dropped, List.takeWhile_append_dropWhile.symm,
    List.all_eq_true.mp List.all_takeWhile⟩

theorem of_mem_head?_dropWhile {c : Char} (first : c ∈ (text.dropWhile dropped).head?) :
    dropped c = false := by
  have left := List.head?_dropWhile_not dropped text
  rw [show (text.dropWhile dropped).head? = some c from first] at left
  exact left

theorem dropWhile_of_all (all : ∀ c ∈ text, dropped c = true) : text.dropWhile dropped = [] := by
  rw [← List.append_nil text, List.dropWhile_append_of_pos all]
  rfl

theorem dropWhile_of_head? (first : ∀ c ∈ text.head?, dropped c = false) :
    text.dropWhile dropped = text := by
  cases text with
  | nil => rfl
  | cons c rest => exact List.dropWhile_cons_of_neg (Bool.eq_false_iff.mp (first c rfl))

/-! ### At the end, which is the start read backwards -/

theorem exists_rdropWhile_append (dropped : Char → Bool) (text : List Char) :
    ∃ after, text = text.rdropWhile dropped ++ after ∧ ∀ c ∈ after, dropped c = true :=
  ⟨text.rtakeWhile dropped, List.rdropWhile_append_rtakeWhile.symm,
    fun _ => List.mem_rtakeWhile_imp⟩

theorem rdropWhile_append (all : ∀ c ∈ after, dropped c = true)
    (last : ∀ c ∈ text.getLast?, dropped c = false) :
    (text ++ after).rdropWhile dropped = text := by
  rw [List.rdropWhile, List.reverse_append,
    List.dropWhile_append_of_pos fun c member => all c (List.mem_reverse.mp member),
    dropWhile_of_head? (by rwa [List.head?_reverse]), List.reverse_reverse]

/-! ### At both ends -/

theorem isStripped_rdropWhile (dropped : Char → Bool) (text : List Char) :
    IsStripped dropped text ((text.dropWhile dropped).rdropWhile dropped) := by
  obtain ⟨before, split, allBefore⟩ := exists_append_dropWhile dropped text
  obtain ⟨after, splitEnd, allAfter⟩ := exists_rdropWhile_append dropped (text.dropWhile dropped)
  refine ⟨⟨before, after, ?_, allBefore, allAfter⟩, fun c first => ?_, fun c last => ?_⟩
  · rw [← splitEnd, ← split]
  · have found : c ∈ (text.dropWhile dropped).head? := by
      rw [splitEnd, List.head?_append,
        show ((text.dropWhile dropped).rdropWhile dropped).head? = some c from first]
      rfl
    exact of_mem_head?_dropWhile found
  · have found : c ∈ ((text.dropWhile dropped).reverse.dropWhile dropped).head? := by
      rwa [← List.getLast?_reverse]
    exact of_mem_head?_dropWhile found

theorem rdropWhile_dropWhile_eq_iff :
    (text.dropWhile dropped).rdropWhile dropped = core ↔ IsStripped dropped text core := by
  constructor
  · rintro rfl
    exact isStripped_rdropWhile dropped text
  · rintro ⟨⟨before, after, rfl, allBefore, allAfter⟩, first, last⟩
    rw [List.dropWhile_append_of_pos allBefore]
    cases core with
    | nil =>
      rw [List.nil_append, dropWhile_of_all allAfter]
      rfl
    | cons c rest =>
      have kept : (c :: rest ++ after).dropWhile dropped = c :: rest ++ after :=
        dropWhile_of_head? first
      rw [kept, rdropWhile_append allAfter last]

theorem trim_eq_iff : trim text = core ↔ IsTrimmed text core := by
  have stripped : trim text = core ↔ IsStripped isBlank text core :=
    rdropWhile_dropWhile_eq_iff
  rw [stripped]
  exact ⟨fun is => ⟨is.around, is.first, is.last⟩, fun is => ⟨is.around, is.first, is.last⟩⟩

end Onboarding.Text
