/-
This file proves that the shortest decimal of a number reads back as the number. Every
decimal that is taken from a grid rounds to the number, and the search comes to a grid
so fine that the first decimal above the number rounds to it. That the zeros at the end
are dropped does not change the value.
-/

import Mathlib.Tactic.Ring
import Onboarding.Proofs.Numeric.Rounding

namespace Onboarding.Numeric.Binary64

variable {tie : Tie} {significand : Nat} {exponent scale : Int}

/-! ### Decimals on a grid -/

/-- The whole numbers that a binary and a decimal number are compared by are both their multiples by
one number. -/
theorem exists_multiplier (exponent scale : Int) :
    ∃ multiplier : ℚ, 0 < multiplier ∧
      (∀ binary : Nat, ((binary * power 2 exponent * power 10 (-scale) : Nat) : ℚ) =
        binary * 2 ^ exponent * multiplier) ∧
      ∀ decimal : Nat, ((decimal * power 10 scale * power 2 (-exponent) : Nat) : ℚ) =
        decimal * 10 ^ scale * multiplier := by
  have two : (0 : ℚ) < power 2 (-exponent) := by exact_mod_cast power_pos Nat.two_pos _
  have ten : (0 : ℚ) < power 10 (-scale) := by exact_mod_cast power_pos (by decide) _
  have twos := power_div_power Nat.two_pos exponent
  have tens := power_div_power (show 0 < 10 by decide) scale
  push_cast at twos tens
  rw [div_eq_iff two.ne'] at twos
  rw [div_eq_iff ten.ne'] at tens
  refine ⟨power 2 (-exponent) * power 10 (-scale), mul_pos two ten, fun binary => ?_,
    fun decimal => ?_⟩
  · push_cast
    rw [twos]
    ring
  · push_cast
    rw [tens]
    ring

/-- The test of a decimal on the grid is whether it rounds to the number. -/
theorem roundsTo_iff {digits : Nat} :
    roundsTo significand exponent digits scale = true ↔
      RoundsTo significand exponent (digits * 10 ^ scale) := by
  obtain ⟨multiplier, positive, binary, decimal⟩ := exists_multiplier (exponent - 2) scale
  have unit : (0 : ℚ) < 2 ^ (exponent - 2) := two_zpow_pos _
  have fourths : 4 * (digits * (10 : ℚ) ^ scale) / 2 ^ exponent =
      digits * 10 ^ scale / 2 ^ (exponent - 2) := by
    have quarter : (2 : ℚ) ^ exponent = 4 * 2 ^ (exponent - 2) := by
      rw [zpow_sub₀ two_ne_zero]
      ring
    rw [quarter, mul_div_mul_left _ _ four_ne_zero]
  unfold roundsTo RoundsTo
  obtain ⟨low, high, closed⟩ := roundingInterval significand exponent
  dsimp only
  rw [fourths, le_div_iff₀ unit, div_le_iff₀ unit, lt_div_iff₀ unit, div_lt_iff₀ unit]
  cases closed
  · simp only [Bool.false_eq_true, if_false, Bool.and_eq_true, decide_eq_true_eq]
    rw [← @Nat.cast_lt ℚ, ← @Nat.cast_lt ℚ, binary, binary, decimal,
      mul_lt_mul_iff_left₀ positive, mul_lt_mul_iff_left₀ positive]
  · simp only [if_true, Bool.and_eq_true, decide_eq_true_eq]
    rw [← @Nat.cast_le ℚ, ← @Nat.cast_le ℚ, binary, binary, decimal,
      mul_le_mul_iff_left₀ positive, mul_le_mul_iff_left₀ positive]

/-- What is taken from a grid is not zero and rounds to the number. -/
theorem rounds_of_onGrid? {digits : Nat}
    (found : onGrid? tie significand exponent scale = some digits) :
    0 < digits ∧ RoundsTo significand exponent (digits * 10 ^ scale) := by
  unfold onGrid? at found
  dsimp only at found
  split at found
  · next lower =>
    cases found
    simp only [Bool.and_eq_true, decide_eq_true_eq] at lower
    exact ⟨lower.1.1, roundsTo_iff.mp lower.1.2⟩
  · split at found
    · next upper =>
      cases found
      exact ⟨Nat.succ_pos _, roundsTo_iff.mp upper⟩
    · cases found

/-- A grid finer than half the unit of a number has a decimal that rounds to it: the first that lies
above the number. -/
theorem onGrid?_ne_none (tie : Tie) (significand : Nat)
    (fine : 2 * (10 : ℚ) ^ scale < 2 ^ exponent) :
    onGrid? tie significand exponent scale ≠ none := by
  obtain ⟨multiplier, positive, binary, decimal⟩ := exists_multiplier exponent scale
  unfold onGrid?
  dsimp only
  generalize split : significand * power 2 exponent * power 10 (-scale) /
    (power 10 scale * power 2 (-exponent)) = lower
  have nonzero : 0 < power 10 scale * power 2 (-exponent) :=
    Nat.mul_pos (power_pos (by decide) _) (power_pos (by decide) _)
  have atMost : (lower : ℚ) * 10 ^ scale ≤ significand * 2 ^ exponent := by
    have whole : lower * power 10 scale * power 2 (-exponent) ≤
        significand * power 2 exponent * power 10 (-scale) := by
      rw [← split, Nat.mul_assoc]
      exact Nat.div_mul_le_self _ _
    rwa [← @Nat.cast_le ℚ, binary, decimal, mul_le_mul_iff_left₀ positive] at whole
  have above : significand * (2 : ℚ) ^ exponent < (lower + 1 : Nat) * 10 ^ scale := by
    have whole : significand * power 2 exponent * power 10 (-scale) <
        (lower + 1) * power 10 scale * power 2 (-exponent) := by
      rw [← split, Nat.mul_assoc (_ + 1)]
      exact Nat.lt_mul_of_div_lt (Nat.lt_succ_self _) nonzero
    rwa [← @Nat.cast_lt ℚ, binary, decimal, mul_lt_mul_iff_left₀ positive] at whole
  have upper : roundsTo significand exponent (lower + 1) scale = true := by
    refine roundsTo_iff.mpr (roundsTo_of_above above ?_)
    push_cast
    linarith
  rw [upper, if_pos rfl]
  split <;> exact Option.some_ne_none _

/-! ### The search -/

/-- When one of the grids of the search has a decimal, the search ends with what is taken from some
grid. -/
theorem shortestFrom_onGrid (count step : Nat) (within : step < count)
    (some : onGrid? tie significand exponent (scale - step) ≠ none) :
    onGrid? tie significand exponent (shortestFrom tie significand exponent count scale).2 =
      .some (shortestFrom tie significand exponent count scale).1 := by
  induction count generalizing step scale with
  | zero => exact absurd within step.not_lt_zero
  | succ count inductionHypothesis =>
    rw [shortestFrom]
    cases first : onGrid? tie significand exponent scale with
    | some digits => exact first
    | none =>
      cases step with
      | zero =>
        rw [Nat.cast_zero, Int.sub_zero, first] at some
        exact absurd rfl some
      | succ step =>
        refine inductionHypothesis step (Nat.lt_of_succ_lt_succ within) ?_
        rwa [Nat.cast_succ, Int.add_comm, ← Int.sub_sub] at some

/-- A power of ten is compared with a power of two: ten lies between `2 ^ (93 / 28)` and
`2 ^ (94 / 28)`. -/
theorem ten_zpow_le_two_zpow (scale : Int) :
    (10 : ℚ) ^ (scale * 28) ≤ 2 ^ max (93 * scale) (94 * scale) := by
  rcases Int.le_total 0 scale with positive | negative
  · obtain ⟨count, rfl⟩ := Int.eq_ofNat_of_zero_le positive
    rw [max_eq_right (by omega), Int.mul_comm, zpow_mul, zpow_mul, zpow_natCast, zpow_natCast]
    exact pow_le_pow_left₀ (by norm_num) (by norm_num) count
  · obtain ⟨count, rfl⟩ := Int.exists_eq_neg_ofNat negative
    rw [max_eq_left (by omega), Int.mul_comm, zpow_mul, zpow_mul, zpow_neg, zpow_neg, zpow_natCast,
      zpow_natCast]
    exact inv_anti₀ (by positivity) (pow_le_pow_left₀ (by norm_num) (by norm_num) count)

/-- The last grid of the search is fine enough. -/
theorem two_mul_ten_zpow_lt (finite : IsFinite significand exponent) (positive : 0 < significand) :
    2 * (10 : ℚ) ^ (scaleAbove significand exponent - 23) < 2 ^ exponent := by
  have bits : significand.log2 < 53 := by
    have below := finite.below
    rw [Nat.log2_lt positive.ne']
    norm_num [leastSignificand] at below ⊢
    exact below
  have least : -1074 ≤ exponent := finite.least
  have greatest : exponent ≤ 971 := finite.greatest
  unfold scaleAbove
  generalize scaled : ((significand.log2 : Int) + exponent) * 30103 / 100000 + 2 - 23 = scale
  have fine : 28 + max (93 * scale) (94 * scale) < exponent * 28 := by omega
  refine lt_of_pow_lt_pow_left₀ 28 (two_zpow_pos exponent).le ?_
  calc (2 * (10 : ℚ) ^ scale) ^ 28 = 2 ^ (28 : Int) * 10 ^ (scale * 28) := by
        rw [mul_pow, zpow_mul]
        rfl
    _ ≤ 2 ^ (28 : Int) * 2 ^ max (93 * scale) (94 * scale) :=
        mul_le_mul_of_nonneg_left (ten_zpow_le_two_zpow scale) (two_zpow_pos 28).le
    _ = 2 ^ (28 + max (93 * scale) (94 * scale)) := (zpow_add₀ two_ne_zero _ _).symm
    _ < 2 ^ (exponent * 28) := zpow_lt_zpow_right₀ one_lt_two fine
    _ = (2 ^ exponent) ^ 28 := zpow_mul 2 exponent 28

/-! ### The shortest decimal -/

/-- Dropping the zeros at the end of the digits changes neither the value nor whether it is zero. -/
theorem dropZeros_spec (fuel digits : Nat) (scale : Int) :
    (0 < digits → 0 < (dropZeros fuel digits scale).1) ∧
      ((dropZeros fuel digits scale).1 : ℚ) * 10 ^ (dropZeros fuel digits scale).2 =
        digits * 10 ^ scale := by
  induction fuel generalizing digits scale with
  | zero => exact ⟨id, rfl⟩
  | succ fuel inductionHypothesis =>
    rw [dropZeros]
    split
    · next ends =>
      simp only [Bool.and_eq_true, decide_eq_true_eq, bne_iff_ne] at ends
      obtain ⟨shorter, rfl⟩ : ∃ shorter, digits = 10 * shorter :=
        Nat.dvd_of_mod_eq_zero ends.1
      obtain ⟨nonzero, value⟩ := inductionHypothesis (10 * shorter / 10) (scale + 1)
      rw [Nat.mul_div_cancel_left shorter (by decide)] at nonzero value ⊢
      refine ⟨fun _ => nonzero (by omega), ?_⟩
      rw [value, zpow_add_one₀ (by norm_num)]
      push_cast
      ring
    · exact ⟨id, rfl⟩

/-- The shortest decimal of a number other than zero is not zero and rounds to the number. -/
theorem shortest_rounds (tie : Tie) (negative : Bool) (finite : IsFinite significand exponent)
    (positive : 0 < significand) :
    0 < (shortest tie negative significand exponent).digits ∧
      RoundsTo significand exponent (shortest tie negative significand exponent).value := by
  have fine := onGrid?_ne_none tie significand (two_mul_ten_zpow_lt finite positive)
  have found := shortestFrom_onGrid 24 23 (by decide) fine
  obtain ⟨nonzero, rounds⟩ := rounds_of_onGrid? found
  obtain ⟨same, value⟩ := dropZeros_spec 24
    (shortestFrom tie significand exponent 24 (scaleAbove significand exponent)).1
    (shortestFrom tie significand exponent 24 (scaleAbove significand exponent)).2
  unfold shortest
  rw [if_neg positive.ne']
  dsimp only [Decimal.value]
  exact ⟨same nonzero, value ▸ rounds⟩

/-- The shortest decimal keeps the sign of the number. -/
theorem shortest_negative (tie : Tie) (negative : Bool) (significand : Nat) (exponent : Int) :
    (shortest tie negative significand exponent).negative = negative := by
  unfold shortest
  split <;> rfl

theorem value_eq_zero_iff {decimal : Decimal} : decimal.value = 0 ↔ decimal.digits = 0 := by
  have unit : (10 : ℚ) ^ decimal.scale ≠ 0 := zpow_ne_zero _ (by norm_num)
  rw [Decimal.value, mul_eq_zero, Nat.cast_eq_zero, or_iff_left unit]

/-- A decimal with the value of the shortest one is read as the number, as is the shortest one
itself. -/
theorem ofDecimal_of_value_eq {decimal : Decimal} {negative : Bool}
    (finite : IsFinite significand exponent)
    (same : decimal.value = (shortest tie negative significand exponent).value) :
    ofDecimal decimal = .finite decimal.negative significand exponent := by
  rcases significand.eq_zero_or_pos with rfl | positive
  · have least : exponent = leastExponent :=
      finite.full.resolve_left (not_le.mpr (by decide))
    have none : decimal.digits = 0 := by
      rw [← value_eq_zero_iff, same, value_eq_zero_iff, shortest, if_pos rfl]
    rw [ofDecimal, if_pos none, least]
  · obtain ⟨nonzero, rounds⟩ := shortest_rounds tie negative finite positive
    have digits : 0 < decimal.digits := by
      refine Nat.pos_of_ne_zero fun none => nonzero.ne' ?_
      rwa [← value_eq_zero_iff, ← same, value_eq_zero_iff]
    exact ofDecimal_eq digits finite positive (same ▸ rounds)

end Onboarding.Numeric.Binary64
