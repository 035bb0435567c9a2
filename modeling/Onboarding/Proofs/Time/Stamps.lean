/-
This file proves that a moment is read back from its text. The reading is more lenient
than the writing: blanks may stand between the parts, zeros in front may be missing, and
the fraction of the second may have any number of digits. So it must be shown of each
part that its reading takes the digits that were written for it and no more, which
either their number or the character behind them decides.
-/

import Onboarding.Proofs.Numeric.Digits
import Onboarding.Proofs.Text.Trimming
import Onboarding.Time.Stamp

namespace Onboarding

open Numeric Text

namespace Moment

/-! ### Digits -/

theorem toList_padded (width number : Nat) :
    (padded width number).toList =
      List.replicate (width - (Nat.toDigits 10 number).length) '0' ++ Nat.toDigits 10 number := by
  rw [padded, String.toList_ofList]

theorem digitsValue_padded (width number : Nat) :
    digitsValue (padded width number).toList = number := by
  rw [toList_padded, digitsValue_zeros_append, digitsValue_toDigits]

theorem isDigit_of_mem_padded {width number : Nat} {c : Char}
    (member : c ∈ (padded width number).toList) : c.isDigit = true := by
  rw [toList_padded, List.mem_append] at member
  rcases member with zero | digit
  · rw [List.eq_of_mem_replicate zero]
    rfl
  · exact Nat.isDigit_of_mem_toDigits (by decide) (by decide) digit

theorem length_padded {width number : Nat} (some : 0 < width) (bound : number < Nat.pow 10 width) :
    (padded width number).toList.length = width := by
  have fits := (Nat.length_toDigits_le_iff (by decide) some).mpr bound
  rw [toList_padded, List.length_append, List.length_replicate]
  omega

theorem padded_ne_nil (width number : Nat) : (padded width number).toList ≠ [] := by
  rw [toList_padded]
  exact List.append_ne_nil_of_right_ne_nil _ Nat.toDigits_ne_nil

theorem isBlank_of_isDigit {c : Char} (digit : c.isDigit = true) : isBlank c = false :=
  isBlank_of_isAlphanum (by rw [Char.isAlphanum, digit, Bool.or_true])

theorem trimStart_append {digits : List Char} (some : digits ≠ [])
    (all : ∀ c ∈ digits, c.isDigit = true) (rest : List Char) :
    trimStart (digits ++ rest) = digits ++ rest := by
  obtain ⟨first, others, rfl⟩ := List.exists_cons_of_ne_nil some
  exact List.dropWhile_cons_of_neg
    (Bool.not_eq_true _ ▸ isBlank_of_isDigit (all first List.mem_cons_self))

/-- Digits are read to their end, which their number or the character behind them marks. -/
theorem readNumber?_append {digits rest : List Char} {most : Nat} (some : digits ≠ [])
    (all : ∀ c ∈ digits, c.isDigit = true)
    (ends : digits.length = most ∨
      digits.length ≤ most ∧ ∀ c ∈ rest.head?, c.isDigit = false) :
    readNumber? most (digits ++ rest) = .some (digitsValue digits, rest) := by
  have stops : ∀ c ∈ (rest.take (most - digits.length)).head?, c.isDigit = false := by
    rcases ends with rfl | ⟨_, next⟩
    · rw [Nat.sub_self, List.take_zero]
      exact fun _ first => nomatch first
    · intro c first
      rw [List.head?_take] at first
      split at first
      · cases first
      · exact next c first
  have bound : digits.length ≤ most := by omega
  have taken : ((digits ++ rest).take most).takeWhile Char.isDigit = digits := by
    rw [List.take_append, List.take_of_length_le bound, takeWhile_isDigit_append all stops]
  rw [readNumber?, trimStart_append some all, taken]
  simp [some]

/-! ### The parts of a date -/

theorem readWithin?_padded {low high number : Nat} (least : low ≤ number) (most : number ≤ high)
    (short : number < 100) (rest : List Char) :
    readWithin? low high ((padded 2 number).toList ++ rest) = some (number, rest) := by
  have read : readNumber? 2 ((padded 2 number).toList ++ rest) = _ :=
    readNumber?_append (padded_ne_nil 2 number) (fun _ => isDigit_of_mem_padded)
      (.inl (length_padded (by decide) short))
  rw [readWithin?, read, digitsValue_padded]
  simp [least, most]

/-- A year of four digits. -/
theorem readYear?_append {digits : List Char} (all : ∀ c ∈ digits, c.isDigit = true)
    (four : digits.length = 4) (rest : List Char) :
    readYear? (digits ++ rest) = some ((digitsValue digits : Int), rest) := by
  have some : digits ≠ [] := fun none => by simp [none] at four
  have unsigned {sign : Char} {others : List Char} (noDigit : sign.isDigit = false) :
      digits ++ rest ≠ sign :: others := by
    intro equal
    obtain ⟨first, more, rfl⟩ := List.exists_cons_of_ne_nil some
    have digit := all first List.mem_cons_self
    rw [(List.cons.inj equal).1, noDigit] at digit
    cases digit
  unfold readYear?
  rw [trimStart_append some all]
  split
  · next minus => exact absurd minus (unsigned rfl)
  · next plus => exact absurd plus (unsigned rfl)
  · rw [readNumber?_append some all (.inl four)]
    rfl

/-- A year behind its sign. -/
theorem readYear?_signed {digits rest : List Char} (some : digits ≠ [])
    (all : ∀ c ∈ digits, c.isDigit = true) (next : ∀ c ∈ rest.head?, c.isDigit = false) :
    readYear? ('-' :: (digits ++ rest)) = .some (-(digitsValue digits : Int), rest) ∧
      readYear? ('+' :: (digits ++ rest)) = .some ((digitsValue digits : Int), rest) := by
  have digit : (digits ++ rest).head?.any Char.isDigit = true := by
    obtain ⟨first, others, rfl⟩ := List.exists_cons_of_ne_nil some
    exact all first List.mem_cons_self
  have bound : digits.length ≤ (digits ++ rest).length := by
    rw [List.length_append]
    exact Nat.le_add_right _ _
  have read := readNumber?_append some all (.inr ⟨bound, next⟩)
  have behind (value : Nat → Int) :
      (if (digits ++ rest).head?.any Char.isDigit then
        (readNumber? (digits ++ rest).length (digits ++ rest)).map
          fun found => (value found.1, found.2)
      else none) = .some (value (digitsValue digits), rest) := by
    rw [if_pos digit, read]
    rfl
  exact ⟨behind fun number => -(number : Int), behind fun number => (number : Int)⟩

theorem readYear?_yearText (year : Int) (rest : List Char) :
    readYear? ((yearText year).toList ++ '-' :: rest) = some (year, '-' :: rest) := by
  rw [yearText]
  split
  · next short =>
    simp only [Bool.and_eq_true, decide_eq_true_eq] at short
    have bound : year.toNat < Nat.pow 10 4 := by
      show year.toNat < 10000
      omega
    rw [readYear?_append (fun _ => isDigit_of_mem_padded) (length_padded (by decide) bound),
      digitsValue_padded, Int.toNat_of_nonneg short.1]
  · -- Behind a sign there is no limit, and the mark behind the year ends its digits.
    have signed : readYear? ('-' :: _) = _ ∧ readYear? ('+' :: _) = _ :=
      readYear?_signed (padded_ne_nil 4 year.natAbs) (fun _ => isDigit_of_mem_padded)
        fun c (next : c ∈ ('-' :: rest).head?) => Option.some.inj next ▸ rfl
    rw [digitsValue_padded] at signed
    rw [String.toList_append]
    split
    · next negative =>
      rw [show year = -(year.natAbs : Int) by omega, Int.natAbs_neg]
      exact signed.1
    · next positive =>
      rw [show year = (year.natAbs : Int) by omega, Int.natAbs_natCast]
      exact signed.2

theorem readDate?_text {date : Date} (valid : date.isValid = true) (rest : List Char) :
    readDate? ((yearText date.year).toList ++ '-' :: ((padded 2 date.month).toList ++
      '-' :: ((padded 2 date.day).toList ++ rest))) = some (date, rest) := by
  obtain ⟨year, month, day⟩ := date
  have bounds : 1 ≤ month ∧ month ≤ 12 ∧ 1 ≤ day ∧ day ≤ 31 := by
    have most : Date.daysInMonth year month ≤ 31 := by
      unfold Date.daysInMonth
      split
      · split <;> omega
      · split <;> omega
    simp only [Date.isValid, Bool.and_eq_true, decide_eq_true_eq] at valid
    omega
  have mark (rest : List Char) : readMark? '-' ('-' :: rest) = some rest := rfl
  rw [readDate?, readYear?_yearText]
  simp only [Option.bind_eq_bind, Option.bind_some, mark]
  rw [readWithin?_padded bounds.1 bounds.2.1 (by omega)]
  simp only [Option.bind_some, mark]
  rw [readWithin?_padded bounds.2.2.1 bounds.2.2.2 (by omega)]
  exact if_pos valid

/-! ### The parts of a time -/

/-- A fraction of three, six or nine digits behind which no digit follows. -/
theorem readFraction?_padded {width number : Nat} (some : 0 < width) (nine : width ≤ 9)
    (bound : number < Nat.pow 10 width) {rest : List Char}
    (next : ∀ c ∈ rest.head?, c.isDigit = false) :
    readFraction? ('.' :: ((padded width number).toList ++ rest)) =
      .some (number * Nat.pow 10 (9 - width), rest) := by
  have count := length_padded some bound
  have taken : ((padded width number).toList ++ rest).takeWhile Char.isDigit =
      (padded width number).toList :=
    takeWhile_isDigit_append (fun _ => isDigit_of_mem_padded) next
  have dropped : ((padded width number).toList ++ rest).drop width = rest :=
    List.drop_left' count
  simp only [readFraction?, taken]
  rw [List.isEmpty_eq_false_iff.mpr (padded_ne_nil width number), if_neg Bool.false_ne_true,
    List.take_of_length_le (Nat.le_trans (Nat.le_of_eq count) nine), count,
    digitsValue_append_zeros, digitsValue_padded, dropped]

theorem readFraction?_fractionText {nanosecond : Nat} (bound : nanosecond < 1000000000) :
    readFraction? ((fractionText nanosecond).toList ++ ['Z']) = some (nanosecond, ['Z']) := by
  have part {width : Nat} (some : 0 < width) (nine : width ≤ 9)
      (whole : nanosecond % Nat.pow 10 (9 - width) = 0) :
      readFraction? (("." ++ padded width (nanosecond / Nat.pow 10 (9 - width))).toList ++ ['Z']) =
        .some (nanosecond, ['Z']) := by
    have product : Nat.pow 10 (9 - width) * Nat.pow 10 width = Nat.pow 10 9 := by
      have sum := Nat.pow_add 10 (9 - width) width
      rw [Nat.sub_add_cancel nine] at sum
      exact sum.symm
    have short : nanosecond / Nat.pow 10 (9 - width) < Nat.pow 10 width := by
      refine Nat.div_lt_of_lt_mul ?_
      rw [product]
      exact bound
    have read : readFraction? ('.' :: (_ ++ ['Z'])) = _ :=
      readFraction?_padded some nine short fun c (next : c ∈ ['Z'].head?) =>
        Option.some.inj next ▸ rfl
    rw [Nat.div_mul_cancel (Nat.dvd_of_mod_eq_zero whole)] at read
    rw [String.toList_append]
    exact read
  rw [fractionText]
  split
  · next zero =>
    rw [zero]
    rfl
  · split
    · next milli => exact part (by decide) (by decide) milli
    · split
      · next micro => exact part (by decide) (by decide) micro
      · have nano := part (by decide : 0 < 9) (by decide) (Nat.mod_one nanosecond)
        rwa [show Nat.pow 10 (9 - 9) = 1 from rfl, Nat.div_one] at nano

/-! ### Moments -/

/-- A moment that a clock can show; the second may be the sixtieth. -/
structure IsValid (moment : Moment) : Prop where
  date : moment.date.isValid = true
  hour : moment.hour < 24
  minute : moment.minute < 60
  second : moment.second ≤ 60
  nanosecond : moment.nanosecond < 1000000000

/-- Without a distance of the clocks the moment is that of the text. -/
theorem shift_zero {moment : Moment} (valid : moment.IsValid) : moment.shift (-0) = moment := by
  obtain ⟨date, hour, minute, second, nanosecond⟩ := moment
  obtain ⟨-, hours, minutes, -, -⟩ := valid
  dsimp only at hours minutes
  have within : 60 * hour + minute < 1440 := by omega
  have total : (((60 * hour + minute : Nat) : Int) + -0) = ((60 * hour + minute : Nat) : Int) := by
    omega
  have sameDay :
      ((60 * hour + minute : Nat) : Int) % 1440 = ((60 * hour + minute : Nat) : Int) := by omega
  simp only [shift, total, sameDay, Int.toNat_natCast]
  rw [if_neg (by omega), if_neg (by omega), show (60 * hour + minute) / 60 = hour by omega,
    show (60 * hour + minute) % 60 = minute by omega]

/-- A moment is read back from its text. -/
theorem read?_text {moment : Moment} (valid : moment.IsValid) :
    read? moment.text.toList = some moment := by
  have parts : moment.text.toList = (yearText moment.date.year).toList ++ '-' ::
      ((padded 2 moment.date.month).toList ++ '-' :: ((padded 2 moment.date.day).toList ++ 'T' ::
        ((padded 2 moment.hour).toList ++ ':' :: ((padded 2 moment.minute).toList ++ ':' ::
          ((padded 2 moment.second).toList ++
            ((fractionText moment.nanosecond).toList ++ ['Z'])))))) := by
    simp [text, String.toList_append]
  have mark : ('T' == 't' || 'T' == 'T' || 'T' == ' ') = true := rfl
  have colon (rest : List Char) : readMark? ':' (':' :: rest) = some rest := rfl
  have distance : readDistance? (trimStart ['Z']) = some (0, []) := rfl
  have hours := valid.hour
  have minutes := valid.minute
  have seconds := valid.second
  rw [parts, read?, readDate?_text valid.date]
  simp only [Option.bind_eq_bind, Option.bind_some]
  rw [if_pos mark, readWithin?_padded (Nat.zero_le _) (Nat.le_of_lt_succ hours) (by omega)]
  simp only [Option.bind_some, colon]
  rw [readWithin?_padded (Nat.zero_le _) (Nat.le_of_lt_succ minutes) (by omega)]
  simp only [Option.bind_some, colon]
  rw [readWithin?_padded (Nat.zero_le _) seconds (by omega)]
  simp only [Option.bind_some]
  rw [readFraction?_fractionText valid.nanosecond]
  simp only [Option.bind_some, distance]
  show (if ([].all isBlank && (moment.shift (-0)).date.isValid) = true then
    some (moment.shift (-0)) else none) = some moment
  rw [shift_zero valid, valid.date]
  rfl

end Moment

end Onboarding
