/-
This file proves that a decimal is read as the finite number it rounds to. What rounds
to a number of 64 bits is an interval around it, which reaches half way to each of its
neighbours; below a power of two the lower neighbour is nearer. The ends belong to the
interval when the significand is even.

The reader finds the exponent first and then rounds the significand. Only in one place
the two do not fit at once: what lies just below a power of two is given the smaller
exponent, and is rounded up to the power only afterwards.
-/

import Mathlib.Algebra.Order.Field.Power
import Mathlib.Tactic.Linarith
import Mathlib.Tactic.Positivity
import Onboarding.Numeric.Binary64

namespace Onboarding.Numeric

/-- The value of a decimal, its sign left out. -/
def Decimal.value (decimal : Decimal) : ℚ :=
  decimal.digits * 10 ^ decimal.scale

theorem Decimal.length_digitList_pos (decimal : Decimal) : 0 < decimal.digitList.length :=
  List.length_pos_of_ne_nil Nat.toDigits_ne_nil

namespace Binary64

/-! ### Powers and fractions -/

theorem power_pos {base : Nat} (positive : 0 < base) (exponent : Int) : 0 < power base exponent :=
  Nat.pow_pos positive

/-- The powers with opposite exponents make up the power as a fraction. -/
theorem power_div_power {base : Nat} (positive : 0 < base) (exponent : Int) :
    (power base exponent : ℚ) / power base (-exponent) = (base : ℚ) ^ exponent := by
  have nonzero : (base : ℚ) ≠ 0 := by exact_mod_cast positive.ne'
  unfold power
  push_cast [Nat.pow_eq]
  rw [← zpow_natCast, ← zpow_natCast, ← zpow_sub₀ nonzero]
  congr 1
  omega

theorem scaled_snd_pos {numerator denominator : Nat} (positive : 0 < denominator)
    (exponent : Int) : 0 < (scaled numerator denominator exponent).2 :=
  Nat.mul_pos positive (power_pos Nat.two_pos _)

theorem scaled_div (numerator denominator : Nat) (exponent : Int) :
    ((scaled numerator denominator exponent).1 : ℚ) / (scaled numerator denominator exponent).2 =
      numerator / denominator * 2 ^ exponent := by
  have power := power_div_power Nat.two_pos exponent
  simp only [scaled, Nat.cast_mul]
  rw [mul_div_mul_comm, power, Nat.cast_ofNat]

/-! ### The numbers that round to a number -/

/-- A finite number of 64 bits as it is kept: the exponent is the least one, or the significand has
all its bits. -/
structure IsFinite (significand : Nat) (exponent : Int) : Prop where
  below : significand < 2 * leastSignificand
  least : leastExponent ≤ exponent
  greatest : exponent ≤ greatestExponent
  full : leastSignificand ≤ significand ∨ exponent = leastExponent

/-- What rounds to the number `significand * 2 ^ exponent`. -/
def RoundsTo (significand : Nat) (exponent : Int) (value : ℚ) : Prop :=
  let (low, high, closed) := roundingInterval significand exponent
  let fourths := 4 * value / 2 ^ exponent
  if closed then low ≤ fourths ∧ fourths ≤ high else low < fourths ∧ fourths < high

/-- A fraction is near a whole number: at most half of one away, and less than that when the number
is odd. -/
structure Near (number : Nat) (value : ℚ) : Prop where
  low : (number : ℚ) - 1 / 2 ≤ value
  high : value ≤ number + 1 / 2
  odd : number % 2 = 1 → (number : ℚ) - 1 / 2 < value ∧ value < number + 1 / 2

variable {significand : Nat} {exponent : Int} {value : ℚ}

theorem two_zpow_pos (exponent : Int) : (0 : ℚ) < 2 ^ exponent :=
  zpow_pos (by norm_num) exponent

/-- The interval reaches half a unit up and at most as far down. -/
theorem exists_roundingInterval (significand : Nat) (exponent : Int) :
    ∃ low : Nat, 4 * significand - 2 ≤ low ∧ low ≤ 4 * significand ∧
      roundingInterval significand exponent =
        (low, 4 * significand + 2, decide (significand % 2 = 0)) := by
  unfold roundingInterval
  split
  · exact ⟨4 * significand - 1, by omega, by omega, rfl⟩
  · exact ⟨4 * significand - 2, by omega, by omega, rfl⟩

/-- What rounds to a number is near its significand, when the exponent is taken away. -/
theorem RoundsTo.near (rounds : RoundsTo significand exponent value) (positive : 0 < significand) :
    Near significand (value / 2 ^ exponent) := by
  obtain ⟨low, least, _, interval⟩ := exists_roundingInterval significand exponent
  have below : 4 * (significand : ℚ) - 2 ≤ low := by
    have cast : 4 * significand ≤ low + 2 := by omega
    have cast : (4 * (significand : ℚ)) ≤ low + 2 := by exact_mod_cast cast
    linarith
  unfold RoundsTo at rounds
  rw [interval] at rounds
  simp only [decide_eq_true_eq, mul_div_assoc] at rounds
  push_cast at rounds
  split at rounds
  · next even =>
    obtain ⟨atLeast, atMost⟩ := rounds
    exact ⟨by linarith, by linarith, fun odd => by omega⟩
  · obtain ⟨atLeast, atMost⟩ := rounds
    exact ⟨by linarith, by linarith, fun _ => ⟨by linarith, by linarith⟩⟩

/-- What is above a number by less than half its unit rounds to it. -/
theorem roundsTo_of_above (above : significand * (2 : ℚ) ^ exponent < value)
    (under : value < (significand + 1 / 2) * 2 ^ exponent) :
    RoundsTo significand exponent value := by
  obtain ⟨low, _, most, interval⟩ := exists_roundingInterval significand exponent
  have unit := two_zpow_pos exponent
  rw [← lt_div_iff₀ unit] at above
  rw [← div_lt_iff₀ unit] at under
  have cast : (low : ℚ) ≤ 4 * significand := by exact_mod_cast most
  unfold RoundsTo
  rw [interval]
  simp only [mul_div_assoc]
  push_cast
  split
  · exact ⟨by linarith, by linarith⟩
  · exact ⟨by linarith, by linarith⟩

/-- Below a power of two the interval reaches less far. -/
theorem RoundsTo.near_below (rounds : RoundsTo leastSignificand exponent value)
    (least : leastExponent < exponent) :
    (leastSignificand : ℚ) - 1 / 4 ≤ value / 2 ^ exponent := by
  have interval : roundingInterval leastSignificand exponent =
      (4 * leastSignificand - 1, 4 * leastSignificand + 2, true) := by
    simp [roundingInterval, least, leastSignificand]
  unfold RoundsTo at rounds
  rw [interval] at rounds
  simp only [if_true, mul_div_assoc, leastSignificand] at rounds
  have low := rounds.1
  norm_num [leastSignificand] at low ⊢
  linarith

/-! ### Rounding a quotient -/

/-- The bounds of a fraction near a number, in whole numbers. -/
theorem Near.bounds {numerator denominator number : Nat} (positive : 0 < denominator)
    (near : Near number (numerator / denominator)) :
    2 * number * denominator ≤ 2 * numerator + denominator ∧
      2 * numerator ≤ 2 * number * denominator + denominator ∧
      (number % 2 = 1 → 2 * number * denominator < 2 * numerator + denominator ∧
        2 * numerator < 2 * number * denominator + denominator) := by
  have cast : (0 : ℚ) < denominator := by exact_mod_cast positive
  obtain ⟨low, high, odd⟩ := near
  rw [le_div_iff₀ cast] at low
  rw [div_le_iff₀ cast] at high
  rw [lt_div_iff₀ cast, div_lt_iff₀ cast] at odd
  refine ⟨?_, ?_, fun isOdd => ⟨?_, ?_⟩⟩
  · have scaled : 2 * (number : ℚ) * denominator ≤ 2 * numerator + denominator := by linarith
    exact_mod_cast scaled
  · have scaled : 2 * (numerator : ℚ) ≤ 2 * number * denominator + denominator := by linarith
    exact_mod_cast scaled
  · have strict := (odd isOdd).1
    have scaled : 2 * (number : ℚ) * denominator < 2 * numerator + denominator := by linarith
    exact_mod_cast scaled
  · have strict := (odd isOdd).2
    have scaled : 2 * (numerator : ℚ) < 2 * number * denominator + denominator := by linarith
    exact_mod_cast scaled

/-- The quotient is rounded to the number that it is near. -/
theorem roundedQuotient_eq {numerator denominator number : Nat} (positive : 0 < denominator)
    (near : Near number (numerator / denominator)) :
    roundedQuotient numerator denominator = number := by
  obtain ⟨low, high, odd⟩ := near.bounds positive
  have bound : numerator % denominator < denominator := Nat.mod_lt _ positive
  have parts : denominator * (numerator / denominator) + numerator % denominator = numerator :=
    Nat.div_add_mod numerator denominator
  unfold roundedQuotient
  dsimp only
  generalize numerator / denominator = quotient at parts ⊢
  generalize numerator % denominator = rest at parts bound ⊢
  subst parts
  -- The number is the quotient or the next one.
  have either : number = quotient ∨ number = quotient + 1 := by
    rcases lt_trichotomy number quotient with less | same | greater
    · have apart := Nat.mul_le_mul_right denominator less
      rw [Nat.succ_mul] at apart
      nlinarith
    · exact .inl same
    · rcases Nat.lt_or_ge (quotient + 1) number with more | next
      · have apart := Nat.mul_le_mul_right denominator more
        rw [Nat.succ_mul, Nat.add_mul] at apart
        nlinarith
      · exact .inr (Nat.le_antisymm next greater)
  rcases either with rfl | rfl
  · have half : 2 * rest ≤ denominator := by nlinarith
    have less : number % 2 = 1 → 2 * rest < denominator := fun isOdd => by
      have strict := (odd isOdd).2
      nlinarith
    split
    · rfl
    · rw [if_neg (by omega), if_pos (by omega)]
  · have half : denominator ≤ 2 * rest := by nlinarith
    have more : (quotient + 1) % 2 = 1 → denominator < 2 * rest := fun isOdd => by
      have strict := (odd isOdd).1
      nlinarith
    rw [if_neg (by omega)]
    split
    · rfl
    · rw [if_neg (by omega)]

/-! ### Finding the exponent -/

/-- The exponent with which a value has a significand of 53 bits. -/
structure HasExponent (value : ℚ) (exponent : Int) : Prop where
  low : leastSignificand * (2 : ℚ) ^ exponent ≤ value
  high : value < 2 * leastSignificand * (2 : ℚ) ^ exponent

theorem leastSignificand_eq : (leastSignificand : ℚ) = 2 ^ (52 : Int) := by
  norm_num [leastSignificand]

theorem leastSignificand_mul (exponent : Int) :
    leastSignificand * (2 : ℚ) ^ exponent = 2 ^ (exponent + 52) := by
  rw [leastSignificand_eq, ← zpow_add₀ two_ne_zero, Int.add_comm]

theorem two_mul_leastSignificand_mul (exponent : Int) :
    2 * leastSignificand * (2 : ℚ) ^ exponent = 2 ^ (exponent + 53) := by
  rw [mul_assoc, leastSignificand_mul, ← zpow_one_add₀ two_ne_zero]
  congr 1
  omega

theorem HasExponent.lt_of_lt {other : Int} (has : HasExponent value exponent)
    (less : value < leastSignificand * (2 : ℚ) ^ other) : exponent < other := by
  have chain := has.low.trans_lt less
  rw [leastSignificand_mul, leastSignificand_mul,
    zpow_lt_zpow_iff_right₀ one_lt_two] at chain
  omega

/-- A value has no two such exponents. -/
theorem HasExponent.unique {other : Int} (has : HasExponent value exponent)
    (hasOther : HasExponent value other) : exponent = other := by
  have low := has.low.trans_lt hasOther.high
  have high := hasOther.low.trans_lt has.high
  rw [leastSignificand_mul, two_mul_leastSignificand_mul,
    zpow_lt_zpow_iff_right₀ one_lt_two] at low high
  omega

/-- The bits of a number tell it up to a factor of two. -/
theorem log2_bounds {number : Nat} (positive : 0 < number) :
    (2 : ℚ) ^ (number.log2 : Int) ≤ number ∧ (number : ℚ) < 2 ^ ((number.log2 : Int) + 1) := by
  constructor
  · exact_mod_cast Nat.log2_self_le positive.ne'
  · have above : number < 2 ^ (number.log2 + 1) := Nat.lt_log2_self
    exact_mod_cast above

/-- The bits of the parts tell a fraction up to a factor of four. -/
theorem div_bounds {numerator denominator : Nat} (positive : 0 < numerator)
    (nonzero : 0 < denominator) :
    (2 : ℚ) ^ ((numerator.log2 : Int) - denominator.log2 - 1) ≤ numerator / denominator ∧
      (numerator / denominator : ℚ) < 2 ^ ((numerator.log2 : Int) - denominator.log2 + 1) := by
  have top := log2_bounds positive
  have bottom := log2_bounds nonzero
  have cast : (0 : ℚ) < denominator := by exact_mod_cast nonzero
  constructor
  · rw [le_div_iff₀ cast]
    calc (2 : ℚ) ^ ((numerator.log2 : Int) - denominator.log2 - 1) * denominator
        ≤ 2 ^ ((numerator.log2 : Int) - denominator.log2 - 1) *
            2 ^ ((denominator.log2 : Int) + 1) :=
          mul_le_mul_of_nonneg_left bottom.2.le (two_zpow_pos _).le
      _ = 2 ^ (numerator.log2 : Int) := by
          rw [← zpow_add₀ two_ne_zero]
          congr 1
          omega
      _ ≤ numerator := top.1
  · rw [div_lt_iff₀ cast]
    calc (numerator : ℚ) < 2 ^ ((numerator.log2 : Int) + 1) := top.2
      _ = 2 ^ ((numerator.log2 : Int) - denominator.log2 + 1) * 2 ^ (denominator.log2 : Int) := by
          rw [← zpow_add₀ two_ne_zero]
          congr 1
          omega
      _ ≤ 2 ^ ((numerator.log2 : Int) - denominator.log2 + 1) * denominator :=
          mul_le_mul_of_nonneg_left bottom.1 (two_zpow_pos _).le

/-- The exponent that is found is the one with a significand of 53 bits, or the least. -/
theorem exists_exponentFor {numerator denominator : Nat} (positive : 0 < numerator)
    (nonzero : 0 < denominator) :
    ∃ exact, HasExponent (numerator / denominator) exact ∧
      exponentFor numerator denominator = max exact leastExponent := by
  obtain ⟨low, high⟩ := div_bounds positive nonzero
  unfold exponentFor
  dsimp only
  generalize guessed : (numerator.log2 : Int) - denominator.log2 - 52 = guess
  have bottom : 0 < (scaled numerator denominator (-guess)).2 := scaled_snd_pos nonzero _
  have compared : (scaled numerator denominator (-guess)).1 <
      (scaled numerator denominator (-guess)).2 * leastSignificand ↔
        (numerator / denominator : ℚ) < leastSignificand * 2 ^ guess := by
    rw [← @Nat.cast_lt ℚ, Nat.cast_mul, mul_comm, ← div_lt_iff₀ (by exact_mod_cast bottom),
      scaled_div, zpow_neg, ← div_eq_mul_inv, div_lt_iff₀ (two_zpow_pos guess)]
  split
  · next less =>
    refine ⟨guess - 1, ⟨?_, ?_⟩, rfl⟩
    · rw [leastSignificand_mul]
      convert low using 2
      omega
    · rw [two_mul_leastSignificand_mul]
      have bound := compared.mp less
      rw [leastSignificand_mul] at bound
      convert bound using 2
      omega
  · next more =>
    refine ⟨guess, ⟨?_, ?_⟩, rfl⟩
    · exact not_lt.mp fun less => more (compared.mpr less)
    · rw [two_mul_leastSignificand_mul]
      convert high using 2
      omega

/-- The exponent is found from the bounds of the value. -/
theorem exponentFor_eq {numerator denominator : Nat} (positive : 0 < numerator)
    (nonzero : 0 < denominator) (least : leastExponent ≤ exponent)
    (low : leastSignificand * (2 : ℚ) ^ exponent ≤ numerator / denominator ∨
      exponent = leastExponent)
    (high : (numerator / denominator : ℚ) < 2 * leastSignificand * 2 ^ exponent) :
    exponentFor numerator denominator = exponent := by
  obtain ⟨exact, has, found⟩ := exists_exponentFor positive nonzero
  rw [found]
  rcases le_or_gt (leastSignificand * (2 : ℚ) ^ exponent) (numerator / denominator) with
    full | small
  · rw [has.unique ⟨full, high⟩]
    exact max_eq_left least
  · have isLeast := low.resolve_left (not_le.mpr small)
    have less := has.lt_of_lt small
    rw [isLeast] at less ⊢
    exact max_eq_right less.le

/-! ### Reading a number -/

variable {numerator denominator : Nat}

/-- The significand of a fraction at an exponent is the number that it is near. -/
theorem roundedQuotient_scaled {number : Nat} (nonzero : 0 < denominator)
    (near : Near number (numerator / denominator / 2 ^ exponent)) :
    roundedQuotient (scaled numerator denominator (-exponent)).1
      (scaled numerator denominator (-exponent)).2 = number := by
  refine roundedQuotient_eq (scaled_snd_pos nonzero _) ?_
  rwa [scaled_div, zpow_neg, ← div_eq_mul_inv]

/-- What rounds to a number does not reach the next power of two. -/
theorem RoundsTo.lt (rounds : RoundsTo significand exponent value) (positive : 0 < significand)
    (below : significand < 2 * leastSignificand) :
    value < 2 * leastSignificand * 2 ^ exponent := by
  have bound : (significand : ℚ) + 1 ≤ 2 * leastSignificand := by exact_mod_cast below
  have high := (rounds.near positive).high
  have unit := two_zpow_pos exponent
  rw [div_le_iff₀ unit] at high
  nlinarith

/-- What rounds to a number but lies below the power of two that its exponent begins with, rounds to
that power, and is near the power in the unit below. -/
theorem RoundsTo.of_lt (rounds : RoundsTo significand exponent value)
    (finite : IsFinite significand exponent) (notLeast : exponent ≠ leastExponent)
    (small : value < leastSignificand * 2 ^ exponent) :
    significand = leastSignificand ∧
      leastSignificand * (2 : ℚ) ^ (exponent - 1) ≤ value ∧
      value < 2 * leastSignificand * 2 ^ (exponent - 1) ∧
      Near (2 * leastSignificand) (value / 2 ^ (exponent - 1)) := by
  have aboveLeast : leastExponent < exponent := lt_of_le_of_ne finite.least (Ne.symm notLeast)
  have full : leastSignificand ≤ significand := finite.full.resolve_right notLeast
  have large : (1 : ℚ) ≤ leastSignificand := by norm_num [leastSignificand]
  have positive : 0 < significand := lt_of_lt_of_le (by decide) full
  have isPower : significand = leastSignificand := by
    refine le_antisymm (not_lt.mp fun more => ?_) full
    have bound : (leastSignificand : ℚ) + 1 ≤ significand := by
      exact_mod_cast Nat.succ_le_of_lt more
    have low := (rounds.near positive).low
    have unit := two_zpow_pos exponent
    rw [le_div_iff₀ unit] at low
    nlinarith
  rw [isPower] at rounds
  have halved : (2 : ℚ) ^ exponent = 2 * 2 ^ (exponent - 1) := by
    rw [← zpow_one_add₀ two_ne_zero]
    congr 1
    omega
  have unit := two_zpow_pos (exponent - 1)
  have low := rounds.near_below aboveLeast
  rw [halved, le_div_iff₀ (by positivity)] at low
  rw [halved] at small
  refine ⟨isPower, by nlinarith, by linarith, ?_, ?_, fun odd => ?_⟩
  · rw [le_div_iff₀ unit]
    push_cast
    linarith
  · rw [div_le_iff₀ unit]
    push_cast
    linarith
  · rw [Nat.mul_mod_right] at odd
    cases odd

/-- A fraction is read with the exponent that is found and the number that it is near in its
unit. -/
theorem nearest_eq_ofRounded {number : Nat} (negative : Bool) (nonzero : 0 < denominator)
    (found : exponentFor numerator denominator = exponent)
    (near : Near number (numerator / denominator / 2 ^ exponent)) :
    nearest negative numerator denominator = ofRounded negative number exponent := by
  unfold nearest
  dsimp only
  rw [found, roundedQuotient_scaled nonzero near]

/-- A fraction that rounds to a number is read as it. -/
theorem nearest_eq (negative : Bool) (positive : 0 < numerator) (nonzero : 0 < denominator)
    (finite : IsFinite significand exponent) (some : 0 < significand)
    (rounds : RoundsTo significand exponent (numerator / denominator)) :
    nearest negative numerator denominator = .finite negative significand exponent := by
  have small : ¬ greatestExponent < exponent := not_lt.mpr finite.greatest
  by_cases full : leastSignificand * (2 : ℚ) ^ exponent ≤ numerator / denominator ∨
      exponent = leastExponent
  · have found := exponentFor_eq positive nonzero finite.least full (rounds.lt some finite.below)
    rw [nearest_eq_ofRounded negative nonzero found (rounds.near some), ofRounded,
      if_neg (ne_of_lt finite.below), bounded, if_neg small]
  · obtain ⟨less, notLeast⟩ := not_or.mp full
    obtain ⟨power, low, high, near⟩ := rounds.of_lt finite notLeast (not_le.mp less)
    have least : leastExponent ≤ exponent - 1 :=
      Int.le_sub_one_of_lt (lt_of_le_of_ne finite.least (Ne.symm notLeast))
    have found := exponentFor_eq positive nonzero least (.inl low) high
    rw [nearest_eq_ofRounded negative nonzero found near, ofRounded, if_pos rfl,
      Int.sub_add_cancel, bounded, if_neg small, power]

/-! ### Reading a decimal -/

/-- A decimal lies between two powers of ten that follow from how many digits it has. -/
theorem value_bounds {decimal : Decimal} (positive : 0 < decimal.digits) :
    (10 : ℚ) ^ ((decimal.digitList.length : Int) + decimal.scale - 1) ≤ decimal.value ∧
      decimal.value < 10 ^ ((decimal.digitList.length : Int) + decimal.scale) := by
  obtain ⟨count, counted⟩ := Nat.exists_eq_add_one_of_ne_zero decimal.length_digitList_pos.ne'
  have above : decimal.digits < 10 ^ (count + 1) :=
    (Nat.length_toDigits_le_iff (by decide) count.succ_pos).mp counted.le
  have below : 10 ^ count ≤ decimal.digits := by
    refine not_lt.mp fun less => ?_
    rcases count.eq_zero_or_pos with rfl | more
    · omega
    · have short := (Nat.length_toDigits_le_iff (by decide) more).mpr less
      rw [Decimal.digitList] at counted
      omega
  have unit : (0 : ℚ) < 10 ^ decimal.scale := zpow_pos (by norm_num) _
  have ten : (10 : ℚ) ≠ 0 := by norm_num
  rw [counted, Decimal.value]
  push_cast
  constructor
  · calc (10 : ℚ) ^ ((count : Int) + 1 + decimal.scale - 1)
        = 10 ^ count * 10 ^ decimal.scale := by
          rw [← zpow_natCast, ← zpow_add₀ ten]
          congr 1
          omega
      _ ≤ decimal.digits * 10 ^ decimal.scale :=
          mul_le_mul_of_nonneg_right (by exact_mod_cast below) unit.le
  · calc (decimal.digits : ℚ) * 10 ^ decimal.scale
        < 10 ^ (count + 1) * 10 ^ decimal.scale :=
          mul_lt_mul_of_pos_right (by exact_mod_cast above) unit
      _ = 10 ^ ((count : Int) + 1 + decimal.scale) := by
          rw [← zpow_natCast, ← zpow_add₀ ten]
          push_cast
          rfl

/-- Three bits hold less than a decimal digit. -/
theorem two_zpow_le_ten_zpow (count : Nat) : (2 : ℚ) ^ (3 * count : Int) ≤ 10 ^ (count : Int) := by
  rw [zpow_mul, zpow_natCast]
  exact pow_le_pow_left₀ (by norm_num) (by norm_num) count

/-- What rounds to a finite number is within bounds that do not depend on the number. -/
theorem RoundsTo.bounds (rounds : RoundsTo significand exponent value)
    (finite : IsFinite significand exponent) (positive : 0 < significand) :
    (2 : ℚ) ^ (-1200 : Int) ≤ value ∧ value < 2 ^ (1200 : Int) := by
  constructor
  · have low := (rounds.near positive).low
    have one : (1 : ℚ) ≤ significand := by exact_mod_cast positive
    have unit := two_zpow_pos exponent
    rw [le_div_iff₀ unit] at low
    have least : leastExponent ≤ exponent := finite.least
    calc (2 : ℚ) ^ (-1200 : Int) ≤ 2 ^ (exponent - 1) := by
          refine zpow_le_zpow_right₀ one_le_two ?_
          rw [leastExponent] at least
          omega
      _ = 1 / 2 * 2 ^ exponent := by
          rw [zpow_sub_one₀ two_ne_zero, one_div, mul_comm]
      _ ≤ (significand - 1 / 2) * 2 ^ exponent :=
          mul_le_mul_of_nonneg_right (by linarith) unit.le
      _ ≤ value := low
  · have greatest : exponent ≤ greatestExponent := finite.greatest
    refine (rounds.lt positive finite.below).trans_le ?_
    rw [two_mul_leastSignificand_mul]
    refine zpow_le_zpow_right₀ one_le_two ?_
    rw [greatestExponent] at greatest
    omega

/-- A decimal that rounds to a finite number is read as it. -/
theorem ofDecimal_eq {decimal : Decimal} (digits : 0 < decimal.digits)
    (finite : IsFinite significand exponent) (positive : 0 < significand)
    (rounds : RoundsTo significand exponent decimal.value) :
    ofDecimal decimal = .finite decimal.negative significand exponent := by
  obtain ⟨low, high⟩ := value_bounds digits
  obtain ⟨least, greatest⟩ := rounds.bounds finite positive
  have power : (2 : ℚ) ^ (1200 : Int) ≤ 10 ^ (400 : Int) := two_zpow_le_ten_zpow 400
  have ten : (1 : ℚ) ≤ 10 := by norm_num
  -- The two guards against decimals that are far too great or too small do not apply.
  have notGreat : ¬ 400 < (decimal.digitList.length : Int) + decimal.scale := fun more => by
    have chain := zpow_le_zpow_right₀ ten (Int.le_sub_one_of_lt more)
    exact absurd (power.trans (chain.trans low)) (not_le.mpr greatest)
  have notSmall : ¬ (decimal.digitList.length : Int) + decimal.scale < -400 := fun less => by
    have chain := zpow_le_zpow_right₀ ten less.le
    have inverse : (10 : ℚ) ^ (-400 : Int) ≤ 2 ^ (-1200 : Int) := by
      rw [zpow_neg, zpow_neg]
      exact inv_anti₀ (two_zpow_pos 1200) power
    exact absurd (high.trans_le (chain.trans inverse)) (not_lt.mpr least)
  unfold ofDecimal
  rw [if_neg digits.ne', ← Decimal.digitList, if_neg notGreat, if_neg notSmall]
  have fraction : ((decimal.digits * Binary64.power 10 decimal.scale : Nat) : ℚ) /
      Binary64.power 10 (-decimal.scale) = decimal.value := by
    rw [Nat.cast_mul, mul_div_assoc, power_div_power (by decide), Nat.cast_ofNat, Decimal.value]
  refine nearest_eq decimal.negative (Nat.mul_pos digits (power_pos (by decide) _))
    (power_pos (by decide) _) finite positive ?_
  rwa [fraction]

end Binary64

end Onboarding.Numeric
