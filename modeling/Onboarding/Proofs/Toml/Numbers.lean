/-
This file proves that a number that is written in digits is read as that number, when it
stands before the end of a line. It is no date or time, for want of the marks between the
digits, and no number to another base.
-/

import Onboarding.Proofs.Json.Numbers
import Onboarding.Toml.Document

namespace Onboarding.Toml

open Json Numeric

variable {digits rest : List Char}

/-! ### Digits -/

theorem moreDigits_of_areDigits (all : ∀ c ∈ digits, c.isDigit = true) (rest : List Char) :
    moreDigits Char.isDigit (digits ++ '\n' :: rest) = (digits, '\n' :: rest) := by
  induction digits with
  | nil => cases rest <;> rfl
  | cons front digits inductionHypothesis =>
    obtain ⟨digit, others⟩ := List.forall_mem_cons.mp all
    obtain ⟨next, after, shape⟩ : ∃ next after, digits ++ '\n' :: rest = next :: after := by
      cases digits <;> exact ⟨_, _, rfl⟩
    have later := inductionHypothesis others
    rw [List.cons_append, shape] at *
    rw [moreDigits, if_pos digit, later]

/-- A mark does not stand behind any of the digits. -/
theorem mark?_of_areDigits {mark : Char} (noDigit : mark.isDigit = false) (noLineFeed : mark ≠ '\n')
    (all : ∀ c ∈ digits, c.isDigit = true) (rest : List Char) :
    mark? mark (digits ++ '\n' :: rest) = none := by
  cases digits with
  | nil => exact if_neg fun same => noLineFeed (eq_of_beq same).symm
  | cons front digits =>
    have digit := all front List.mem_cons_self
    refine if_neg fun same => ?_
    rw [eq_of_beq same, noDigit] at digit
    cases digit

/-- What is left behind so many digits are fewer of them. -/
theorem fixed?_of_areDigits {count low high value : Nat} {after : List Char}
    (all : ∀ c ∈ digits, c.isDigit = true)
    (read : fixed? count low high (digits ++ '\n' :: rest) = some (value, after)) :
    ∃ fewer, (∀ c ∈ fewer, c.isDigit = true) ∧ after = fewer ++ '\n' :: rest := by
  unfold fixed? at read
  dsimp only at read
  split at read
  · next fits =>
    cases read
    have allTaken : ((digits ++ '\n' :: rest).take count).all Char.isDigit = true := by
      simp only [Bool.and_eq_true] at fits
      exact fits.1.1.2
    have enough : count ≤ digits.length := by
      by_contra few
      obtain ⟨more, distance⟩ : ∃ more, count - digits.length = more + 1 :=
        ⟨count - digits.length - 1, by omega⟩
      have lineFeed : '\n' ∈ (digits ++ '\n' :: rest).take count := by
        rw [List.take_append, distance, List.take_succ_cons]
        exact List.mem_append_right _ List.mem_cons_self
      exact absurd (List.all_eq_true.mp allTaken _ lineFeed) (by decide)
    refine ⟨digits.drop count, fun c member => all c (List.mem_of_mem_drop member), ?_⟩
    rw [List.drop_append_of_le_length enough]
  · cases read

/-! ### No date and no time -/

theorem date?_of_areDigits (all : ∀ c ∈ digits, c.isDigit = true) (rest : List Char) :
    date? (digits ++ '\n' :: rest) = none := by
  unfold date?
  cases year : fixed? 4 0 9999 (digits ++ '\n' :: rest) with
  | none => rfl
  | some read =>
    obtain ⟨fewer, others, behind⟩ := fixed?_of_areDigits all year
    show (mark? '-' read.2).bind _ = none
    rw [behind, mark?_of_areDigits (by decide) (by decide) others, Option.bind_none]

theorem time?_of_areDigits (limits : ClockLimits) (all : ∀ c ∈ digits, c.isDigit = true)
    (rest : List Char) : time? limits (digits ++ '\n' :: rest) = none := by
  unfold time?
  cases hour : fixed? 2 0 limits.hour (digits ++ '\n' :: rest) with
  | none => rfl
  | some read =>
    obtain ⟨fewer, others, behind⟩ := fixed?_of_areDigits all hour
    show (mark? ':' read.2).bind _ = none
    rw [behind, mark?_of_areDigits (by decide) (by decide) others, Option.bind_none]

theorem clock?_of_areDigits (limits : ClockLimits) (all : ∀ c ∈ digits, c.isDigit = true)
    (rest : List Char) : clock? limits (digits ++ '\n' :: rest) = none := by
  unfold clock?
  rw [date?_of_areDigits all]
  exact time?_of_areDigits limits all rest

/-! ### The number -/

variable {number : Nat}

theorem decimal?_toDigits (held : number < signedCount) (rest : List Char) :
    decimal? false (Nat.toDigits 10 number ++ '\n' :: rest) =
      some (.integer number, '\n' :: rest) := by
  have areDigits := areDigits_toDigits number
  have first : digits? Char.isDigit (Nat.toDigits 10 number ++ '\n' :: rest) =
      some (Nat.toDigits 10 number, '\n' :: rest) := by
    have whole := moreDigits_of_areDigits areDigits.all rest
    obtain ⟨front, others, shape⟩ := List.exists_cons_of_ne_nil areDigits.some
    have digit := areDigits.all front (shape ▸ List.mem_cons_self)
    rw [shape] at whole ⊢
    unfold digits?
    dsimp only [List.cons_append] at whole ⊢
    rw [if_pos digit, whole]
  have noZero : ((Nat.toDigits 10 number).length != 1 &&
      (Nat.toDigits 10 number).head? == some '0') = false := by
    cases number with
    | zero => rfl
    | succ number =>
      rw [beq_false_of_ne (head?_toDigits_ne (Nat.succ_pos number)), Bool.and_false]
  have integer : integer? false (digitsValue (Nat.toDigits 10 number)) =
      some (.integer number) := by
    rw [digitsValue_toDigits, integer?, Numeric.signed?, if_neg Bool.false_ne_true, if_pos held,
      Option.map_some]
  unfold decimal?
  dsimp only [bind, Option.bind, pure]
  rw [first]
  dsimp only
  rw [noZero]
  show (integer? false (digitsValue (Nat.toDigits 10 number))).bind _ = _
  rw [integer]
  rfl

/-- Digits begin with no other character. -/
theorem ne_of_areDigits {mark : Char} (noDigit : mark.isDigit = false) (noLineFeed : mark ≠ '\n')
    (all : ∀ c ∈ digits, c.isDigit = true) (rest after : List Char) :
    digits ++ '\n' :: rest ≠ mark :: after := by
  intro same
  have none := mark?_of_areDigits noDigit noLineFeed all rest
  rw [same, mark?, if_pos (beq_self_eq_true mark)] at none
  cases none

theorem number?_toDigits (held : number < signedCount) (rest : List Char) :
    number? (Nat.toDigits 10 number ++ '\n' :: rest) = some (.integer number, '\n' :: rest) := by
  have areDigits := areDigits_toDigits number
  obtain ⟨front, others, shape⟩ := List.exists_cons_of_ne_nil areDigits.some
  have decimal := decimal?_toDigits held rest
  have all := areDigits.all
  rw [shape] at all decimal ⊢
  have noMark (mark : Char) (noDigit : mark.isDigit = false) (noLineFeed : mark ≠ '\n')
      (after : List Char) : front :: others ++ '\n' :: rest ≠ mark :: after :=
    ne_of_areDigits noDigit noLineFeed all rest after
  have noBase (mark : Char) (noDigit : mark.isDigit = false) (noLineFeed : mark ≠ '\n')
      (zero : Char) (after : List Char) :
      front :: others ++ '\n' :: rest ≠ zero :: mark :: after := fun same =>
    ne_of_areDigits noDigit noLineFeed (List.forall_mem_cons.mp all).2 rest after
      (List.cons.inj same).2
  unfold number?
  split
  · next same => exact absurd same (noBase 'x' rfl (by decide) _ _)
  · next same => exact absurd same (noBase 'o' rfl (by decide) _ _)
  · next same => exact absurd same (noBase 'b' rfl (by decide) _ _)
  · next same => exact absurd same (noMark '-' rfl (by decide) _)
  · next same => exact absurd same (noMark '+' rfl (by decide) _)
  · unfold Toml.signed?
    split
    · next same => exact absurd same (noMark 'i' rfl (by decide) _)
    · next same => exact absurd same (noMark 'n' rfl (by decide) _)
    · exact decimal

/-- A value that begins with a digit is a number. -/
theorem value?_toDigits (held : number < signedCount) (levels : Nat) (rest : List Char) :
    value? levels (Nat.toDigits 10 number ++ '\n' :: rest) =
      some (.integer number, '\n' :: rest) := by
  have areDigits := areDigits_toDigits number
  have noClock := clock?_of_areDigits .strict areDigits.all rest
  have read := number?_toDigits held rest
  obtain ⟨front, others, shape⟩ := List.exists_cons_of_ne_nil areDigits.some
  have all := areDigits.all
  rw [shape] at all noClock read ⊢
  have noMark (mark : Char) (noDigit : mark.isDigit = false) (noLineFeed : mark ≠ '\n')
      (after : List Char) : front :: others ++ '\n' :: rest ≠ mark :: after :=
    ne_of_areDigits noDigit noLineFeed all rest after
  have scalar : scalar? (front :: others ++ '\n' :: rest) =
      some (.integer number, '\n' :: rest) := by
    unfold scalar?
    split
    · next same => exact absurd same (noMark 't' rfl (by decide) _)
    · next same => exact absurd same (noMark 'f' rfl (by decide) _)
    · next first after _ _ same =>
      have noQuote : (first == '"' || first == '\'') = false := by
        have noDouble : first ≠ '"' := by
          rintro rfl
          exact absurd same (noMark '"' rfl (by decide) _)
        have noSingle : first ≠ '\'' := by
          rintro rfl
          exact absurd same (noMark '\'' rfl (by decide) _)
        rw [beq_false_of_ne noDouble, beq_false_of_ne noSingle]
        rfl
      rw [noQuote, noClock]
      exact read
    · next same => cases same
  cases levels with
  | zero => exact scalar
  | succ levels =>
    unfold value?
    split
    · next same => exact absurd same (noMark '[' rfl (by decide) _)
    · next same => exact absurd same (noMark '\x7b' rfl (by decide) _)
    · exact scalar

end Onboarding.Toml
