/-
This file proves which texts of a variable read as numbers. An integer is made of digits; a
floating-point number may have a point before, among or behind its digits and an exponent
behind them, or is a word for what is infinite or no number. Each may have a sign in front.
-/

import Onboarding.Proofs.Json.Spelling
import Onboarding.Proofs.Numeric.Digits
import Onboarding.Settings.Environment

namespace Onboarding.Settings

open Json Numeric

/-! ### Signs -/

theorem exists_signWritten (text : List Char) :
    ∃ sign, SignWritten (signOf text).1 sign ∧ text = sign ++ (signOf text).2 := by
  unfold signOf
  split
  · exact ⟨['-'], .minus, rfl⟩
  · exact ⟨['+'], .plus, rfl⟩
  · exact ⟨[], .none, rfl⟩

theorem signOf_append {negative : Bool} {sign rest : List Char}
    (written : SignWritten negative sign) (unsigned : ∀ c ∈ rest.head?, c ≠ '-' ∧ c ≠ '+') :
    signOf (sign ++ rest) = (negative, rest) := by
  cases written with
  | plus | minus => rfl
  | none =>
    show signOf rest = _
    unfold signOf
    split
    · exact absurd rfl (unsigned '-' rfl).1
    · exact absurd rfl (unsigned '+' rfl).2
    · rfl

/-- The number with the magnitude and the sign. -/
def signed (negative : Bool) (magnitude : Nat) : Int :=
  if negative then -magnitude else magnitude

/-! ### Digits -/

theorem areDigits_iff {digits : List Char} :
    AreDigits digits ↔ digits.isEmpty = false ∧ digits.all Char.isDigit = true := by
  rw [List.isEmpty_eq_false_iff, List.all_eq_true]
  exact ⟨fun are => ⟨are.some, are.all⟩, fun both => ⟨both.1, both.2⟩⟩

theorem unsigned_of_areDigits {digits : List Char} (areDigits : AreDigits digits) :
    ∀ c ∈ digits.head?, c ≠ '-' ∧ c ≠ '+' := by
  intro c first
  have digit := areDigits.all c (List.mem_of_mem_head? first)
  constructor <;> rintro rfl <;> cases digit

/-! ### Integers -/

/-- The text consists of digits, perhaps behind a sign, and they denote the number. -/
inductive SpellsInteger : List Char → Int → Prop
  | digits {negative : Bool} {sign digits : List Char} :
      SignWritten negative sign → AreDigits digits →
      SpellsInteger (sign ++ digits) (signed negative (digitsValue digits))

/-- 64 bits with a sign hold the number. -/
def IsHeld (value : Int) : Prop := -signedCount ≤ value ∧ value < signedCount

theorem signed?_eq_some_iff {negative : Bool} {magnitude : Nat} {value : Int} :
    signed? negative magnitude = some value ↔ signed negative magnitude = value ∧ IsHeld value := by
  have some : 0 < signedCount := by decide
  unfold signed? signed IsHeld
  cases negative with
  | true =>
    rw [if_pos rfl, if_pos rfl, Option.ite_none_right_eq_some, Option.some.injEq]
    omega
  | false =>
    rw [if_neg Bool.false_ne_true, if_neg Bool.false_ne_true, Option.ite_none_right_eq_some,
      Option.some.injEq]
    omega

theorem signedOfText?_eq_some_iff {text : List Char} {value : Int} :
    signedOfText? text = some value ↔ SpellsInteger text value ∧ IsHeld value := by
  constructor
  · intro read
    rw [signedOfText?, Option.ite_none_right_eq_some, Bool.and_eq_true, Bool.not_eq_true',
      ← areDigits_iff, signed?_eq_some_iff] at read
    obtain ⟨areDigits, rfl, held⟩ := read
    obtain ⟨sign, written, shape⟩ := exists_signWritten text
    have spells := SpellsInteger.digits written areDigits
    rw [← shape] at spells
    exact ⟨spells, held⟩
  · rintro ⟨⟨written, areDigits⟩, held⟩
    have both := areDigits_iff.mp areDigits
    rw [signedOfText?, signOf_append written (unsigned_of_areDigits areDigits)]
    dsimp only
    rw [both.1, both.2]
    exact signed?_eq_some_iff.mpr ⟨rfl, held⟩

theorem signedOfText?_eq_none_iff {text : List Char} :
    signedOfText? text = none ↔ ∀ value, SpellsInteger text value → ¬ IsHeld value := by
  rw [Option.eq_none_iff_forall_ne_some]
  refine forall_congr' fun value => ?_
  rw [Ne, signedOfText?_eq_some_iff, not_and]

/-! ### Exponents -/

/-- The power of ten that an exponent stands for. -/
def exponentValue : Option (Bool × List Char) → Int
  | none => 0
  | some (negative, digits) => signed negative (digitsValue digits)

theorem exponent?_eq_some_iff {text : List Char} {value : Int} :
    Environment.exponent? text = some value ↔
      ∃ exponent, ExponentWritten exponent text ∧ exponentValue exponent = value := by
  constructor
  · intro read
    cases text with
    | nil => exact ⟨none, .none, Option.some.inj read⟩
    | cons mark rest =>
      rw [Environment.exponent?, Option.ite_none_right_eq_some, Option.ite_none_left_eq_some,
        Bool.not_eq_true, Bool.or_eq_false_iff, Bool.not_eq_false', ← areDigits_iff,
        Option.some.injEq] at read
      obtain ⟨marked, areDigits, rfl⟩ := read
      obtain ⟨sign, written, shape⟩ := exists_signWritten rest
      have whole := ExponentWritten.digits marked written areDigits
      rw [← shape] at whole
      exact ⟨_, whole, rfl⟩
  · rintro ⟨exponent, written, rfl⟩
    cases written with
    | none => rfl
    | @digits _ mark _ _ marked signWritten areDigits =>
      have isMark : (mark == 'e' || mark == 'E') = true := marked
      have both := areDigits_iff.mp areDigits
      rw [Environment.exponent?, if_pos isMark,
        signOf_append signWritten (unsigned_of_areDigits areDigits)]
      dsimp only
      rw [both.1, both.2]
      rfl

theorem mark_of_exponentWritten {exponent : Option (Bool × List Char)} {tail : List Char}
    (written : ExponentWritten exponent tail) : ∀ c ∈ tail.head?, c = 'e' ∨ c = 'E' := by
  cases written with
  | none => exact fun _ first => nomatch first
  | @digits _ mark _ _ marked =>
    intro c first
    obtain rfl := Option.some.inj first
    simpa [Lexer.isMark] using marked

/-! ### Decimals -/

/-- How the digits behind a point are written; without digits the point may be left out. -/
inductive FractionWritten : List Char → List Char → Prop
  | none : FractionWritten [] []
  | point {digits : List Char} : FractionWritten digits ('.' :: digits)

/-- The text consists of digits with a point before, among or behind them, perhaps with an exponent,
and they denote the decimal with this sign. -/
inductive SpellsDecimal (negative : Bool) : List Char → Decimal → Prop
  | digits {whole fraction pointed tail : List Char} {exponent : Option (Bool × List Char)} :
      FractionWritten fraction pointed → AreDigits (whole ++ fraction) →
      ExponentWritten exponent tail →
      SpellsDecimal negative (whole ++ (pointed ++ tail))
        ⟨negative, digitsValue (whole ++ fraction), exponentValue exponent - fraction.length⟩

theorem drop_length_takeWhile (text : List Char) :
    text.drop (text.takeWhile Char.isDigit).length = text.dropWhile Char.isDigit := by
  have dropped : (text.takeWhile Char.isDigit ++ text.dropWhile Char.isDigit).drop
      (text.takeWhile Char.isDigit).length = text.dropWhile Char.isDigit := List.drop_left
  rwa [List.takeWhile_append_dropWhile] at dropped

theorem exists_fractionWritten (text : List Char) :
    ∃ pointed, FractionWritten (Environment.fractionOf text).1 pointed ∧
      text = pointed ++ (Environment.fractionOf text).2 ∧
        ∀ c ∈ (Environment.fractionOf text).1, c.isDigit = true := by
  unfold Environment.fractionOf
  split
  · next rest =>
    refine ⟨_, .point, ?_, List.all_eq_true.mp List.all_takeWhile⟩
    dsimp only
    rw [drop_length_takeWhile, List.cons_append, List.takeWhile_append_dropWhile]
  · exact ⟨[], .none, rfl, fun _ member => nomatch member⟩

theorem fractionOf_append {fraction pointed tail : List Char}
    (written : FractionWritten fraction pointed) (digits : ∀ c ∈ fraction, c.isDigit = true)
    (marked : ∀ c ∈ tail.head?, c = 'e' ∨ c = 'E') :
    Environment.fractionOf (pointed ++ tail) = (fraction, tail) := by
  cases written with
  | none =>
    show Environment.fractionOf tail = _
    unfold Environment.fractionOf
    split
    · exact absurd (marked '.' rfl) (by decide)
    · rfl
  | point =>
    have taken : (fraction ++ tail).takeWhile Char.isDigit = fraction :=
      takeWhile_isDigit_append digits fun c first => by
        rcases marked c first with rfl | rfl <;> rfl
    show ((fraction ++ tail).takeWhile Char.isDigit,
      (fraction ++ tail).drop ((fraction ++ tail).takeWhile Char.isDigit).length) = _
    rw [taken, List.drop_left]

theorem FractionWritten.no_digit {fraction pointed tail : List Char}
    (written : FractionWritten fraction pointed) (marked : ∀ c ∈ tail.head?, c = 'e' ∨ c = 'E') :
    ∀ c ∈ (pointed ++ tail).head?, c.isDigit = false := by
  intro c first
  cases written with
  | none => rcases marked c first with rfl | rfl <;> rfl
  | point => exact Option.some.inj first ▸ rfl

theorem decimal?_eq_some_iff {negative : Bool} {text : List Char} {decimal : Decimal} :
    Environment.decimal? negative text = some decimal ↔ SpellsDecimal negative text decimal := by
  constructor
  · intro read
    obtain ⟨pointed, written, shape, digits⟩ :=
      exists_fractionWritten (text.dropWhile Char.isDigit)
    rw [Environment.decimal?, drop_length_takeWhile, Option.ite_none_left_eq_some,
      Option.map_eq_some_iff] at read
    obtain ⟨some, value, readExponent, rfl⟩ := read
    obtain ⟨exponent, exponentWritten, rfl⟩ := exponent?_eq_some_iff.mp readExponent
    have areDigits : AreDigits (text.takeWhile Char.isDigit ++
        (Environment.fractionOf (text.dropWhile Char.isDigit)).1) := by
      refine ⟨?_, fun c member => ?_⟩
      · simpa [List.isEmpty_iff] using some
      · exact (List.mem_append.mp member).elim
          (fun inWhole => List.all_eq_true.mp List.all_takeWhile c inWhole) (digits c)
    have spells : SpellsDecimal negative _ _ := .digits written areDigits exponentWritten
    rwa [← shape, List.takeWhile_append_dropWhile] at spells
  · intro spells
    cases spells with
    | @digits whole fraction pointed tail exponent written areDigits exponentWritten =>
      have inWhole (c : Char) (member : c ∈ whole) : c.isDigit = true :=
        areDigits.all c (List.mem_append_left _ member)
      have inFraction (c : Char) (member : c ∈ fraction) : c.isDigit = true :=
        areDigits.all c (List.mem_append_right _ member)
      have marked := mark_of_exponentWritten exponentWritten
      have taken : (whole ++ (pointed ++ tail)).takeWhile Char.isDigit = whole :=
        takeWhile_isDigit_append inWhole (written.no_digit marked)
      have some : ¬ (whole.isEmpty && fraction.isEmpty) = true := by
        simpa [List.isEmpty_iff] using areDigits.some
      rw [Environment.decimal?, taken, List.drop_left,
        fractionOf_append written inFraction marked]
      dsimp only
      rw [if_neg some, exponent?_eq_some_iff.mpr ⟨exponent, exponentWritten, rfl⟩, Option.map_some]

/-! ### Floating-point numbers -/

/-- The text without the difference between small and capital letters. -/
def small (text : List Char) : String := String.ofList (text.map Char.toLower)

/-- The text denotes the number: it is a decimal, which stands for the number nearest to it, or one
of the words, behind a sign or none. -/
inductive SpellsFloat : List Char → Binary64 → Prop
  | infinite {negative : Bool} {sign word : List Char} :
      SignWritten negative sign → small word = "inf" ∨ small word = "infinity" →
      SpellsFloat (sign ++ word) (.infinite negative)
  | notANumber {negative : Bool} {sign word : List Char} :
      SignWritten negative sign → small word = "nan" → SpellsFloat (sign ++ word) .notANumber
  | decimal {negative : Bool} {sign text : List Char} {decimal : Decimal} :
      SignWritten negative sign → SpellsDecimal negative text decimal →
      SpellsFloat (sign ++ text) (.ofDecimal decimal)

theorem toLower_of_isDigit {c : Char} (digit : c.isDigit = true) : c.toLower = c := by
  have low : c.val.toNat ≤ 57 := of_decide_eq_true (Bool.and_eq_true_iff.mp digit).2
  refine dif_neg fun upper => ?_
  have high : 65 ≤ c.val.toNat := upper.1
  omega

theorem toLower_of_small {word others : List Char} {first : Char}
    (same : small word = String.ofList (first :: others)) :
    ∀ c ∈ word.head?, c.toLower = first := by
  intro c found
  cases word with
  | nil => cases found
  | cons start rest =>
    rw [small, List.map_cons, String.ofList_inj] at same
    exact Option.some.inj found ▸ (List.cons.inj same).1

/-- There is no sign at the start of a word. -/
theorem unsigned_of_small {word others : List Char} {first : Char}
    (same : small word = String.ofList (first :: others)) (letter : first ≠ '-' ∧ first ≠ '+') :
    ∀ c ∈ word.head?, c ≠ '-' ∧ c ≠ '+' := by
  intro c found
  have lower := toLower_of_small same c found
  constructor <;> rintro rfl
  · exact letter.1 lower.symm
  · exact letter.2 lower.symm

/-- A decimal begins with a digit or the point. -/
theorem SpellsDecimal.exists_cons {negative : Bool} {text : List Char} {decimal : Decimal}
    (spells : SpellsDecimal negative text decimal) :
    ∃ c rest, text = c :: rest ∧ (c.isDigit = true ∨ c = '.') := by
  cases spells with
  | @digits whole fraction pointed tail exponent written areDigits =>
    cases whole with
    | cons c rest => exact ⟨c, _, rfl, .inl (areDigits.all c List.mem_cons_self)⟩
    | nil =>
      cases written with
      | none => exact absurd rfl areDigits.some
      | point => exact ⟨'.', _, rfl, .inr rfl⟩

theorem SpellsDecimal.unsigned {negative : Bool} {text : List Char} {decimal : Decimal}
    (spells : SpellsDecimal negative text decimal) : ∀ c ∈ text.head?, c ≠ '-' ∧ c ≠ '+' := by
  obtain ⟨c, rest, rfl, digit | rfl⟩ := spells.exists_cons
  · exact fun d first => unsigned_of_areDigits (AreDigits.single digit) d first
  · rintro _ ⟨⟩
    decide

theorem SpellsDecimal.small_ne {negative : Bool} {text : List Char} {decimal : Decimal}
    (spells : SpellsDecimal negative text decimal) {first : Char}
    (letter : first.isDigit = false ∧ first ≠ '.') (others : List Char) :
    small text ≠ String.ofList (first :: others) := by
  intro same
  obtain ⟨c, rest, rfl, digit | rfl⟩ := spells.exists_cons
  · have lower := toLower_of_small same c rfl
    rw [toLower_of_isDigit digit] at lower
    rw [← lower, digit] at letter
    cases letter.1
  · exact letter.2 (toLower_of_small same '.' rfl).symm

theorem float?_append {negative : Bool} {sign rest : List Char}
    (written : SignWritten negative sign) (unsigned : ∀ c ∈ rest.head?, c ≠ '-' ∧ c ≠ '+') :
    Environment.float? (sign ++ rest) =
      if small rest = "inf" || small rest = "infinity" then some (.infinite negative)
      else if small rest = "nan" then some .notANumber
      else (Environment.decimal? negative rest).map .ofDecimal := by
  rw [Environment.float?, signOf_append written unsigned]
  rfl

theorem float?_eq_some_iff {text : List Char} {value : Binary64} :
    Environment.float? text = some value ↔ SpellsFloat text value := by
  have words (word : List Char) : (small word = "inf" || small word = "infinity") = true ↔
      small word = "inf" ∨ small word = "infinity" := by
    rw [Bool.or_eq_true, decide_eq_true_eq, decide_eq_true_eq]
  constructor
  · intro read
    obtain ⟨sign, written, shape⟩ := exists_signWritten text
    rw [shape]
    unfold Environment.float? at read
    dsimp only at read
    split at read
    · next word => exact Option.some.inj read ▸ .infinite written ((words _).mp word)
    · split at read
      · next word => exact Option.some.inj read ▸ .notANumber written word
      · obtain ⟨decimal, spelled, rfl⟩ := Option.map_eq_some_iff.mp read
        exact .decimal written (decimal?_eq_some_iff.mp spelled)
  · intro spells
    cases spells with
    | @infinite negative sign word written isWord =>
      have unsigned : ∀ c ∈ word.head?, c ≠ '-' ∧ c ≠ '+' := by
        rcases isWord with isWord | isWord
        · exact unsigned_of_small isWord (by decide)
        · exact unsigned_of_small isWord (by decide)
      rw [float?_append written unsigned, if_pos ((words word).mpr isWord)]
    | notANumber written isWord =>
      rw [float?_append written (unsigned_of_small isWord (by decide)), isWord]
      rfl
    | @decimal negative sign digits decimal written spelled =>
      have noInfinity : ¬ (small digits = "inf" || small digits = "infinity") = true := by
        rw [words]
        rintro (word | word)
        · exact spelled.small_ne (by decide) _ word
        · exact spelled.small_ne (by decide) _ word
      have noNan : ¬ small digits = "nan" := fun word => spelled.small_ne (by decide) _ word
      rw [float?_append written spelled.unsigned, if_neg noInfinity, if_neg noNan,
        decimal?_eq_some_iff.mpr spelled, Option.map_some]

theorem float?_eq_none_iff {text : List Char} :
    Environment.float? text = none ↔ ∀ value, ¬ SpellsFloat text value := by
  rw [Option.eq_none_iff_forall_ne_some]
  refine forall_congr' fun value => ?_
  rw [Ne, float?_eq_some_iff]

/-! ### Numbers without a sign -/

/-- The text consists of digits, perhaps behind a plus sign, and they denote the number. -/
def SpellsCount (text : List Char) (count : Nat) : Prop :=
  ∃ digits, (text = digits ∨ text = '+' :: digits) ∧ AreDigits digits ∧ digitsValue digits = count

theorem map_toLower_of_areDigits {digits : List Char} (areDigits : AreDigits digits) :
    digits.map Char.toLower = digits :=
  (List.map_congr_left fun c member => toLower_of_isDigit (areDigits.all c member)).trans
    (List.map_id digits)

theorem toLower_eq (text : String) :
    text.toLower = String.ofList (text.toList.map Char.toLower) := by
  rw [← String.toList_inj, String.toList_ofList]
  exact String.toList_map

namespace SpellsCount

variable {text : List Char} {count : Nat} (spells : SpellsCount text count)

include spells

theorem exists_signWritten : ∃ sign digits, SignWritten false sign ∧ text = sign ++ digits ∧
    AreDigits digits ∧ digitsValue digits = count := by
  obtain ⟨digits, bare | plus, areDigits, value⟩ := spells
  · exact ⟨[], digits, .none, bare, areDigits, value⟩
  · exact ⟨['+'], digits, .plus, plus, areDigits, value⟩

theorem signedOfText? : signedOfText? text = signed? false count := by
  obtain ⟨sign, digits, written, rfl, areDigits, rfl⟩ := spells.exists_signWritten
  have both := areDigits_iff.mp areDigits
  rw [Numeric.signedOfText?, signOf_append written (unsigned_of_areDigits areDigits)]
  dsimp only
  rw [both.1, both.2]
  rfl

/-- A word with a letter is not spelled by digits. -/
theorem toLower_ne {word : String} (letter : Char) (member : letter ∈ word.toList)
    (noDigit : letter.isDigit = false) (noPlus : letter ≠ '+') :
    String.ofList (text.map Char.toLower) ≠ word := by
  obtain ⟨digits, spelled, areDigits, _⟩ := spells
  rintro rfl
  rw [String.toList_ofList] at member
  have among : letter ∈ digits := by
    rcases spelled with rfl | rfl
    · rwa [map_toLower_of_areDigits areDigits] at member
    · rw [List.map_cons, map_toLower_of_areDigits areDigits] at member
      exact (List.mem_cons.mp member).resolve_left noPlus
  rw [areDigits.all letter among] at noDigit
  cases noDigit

theorem float? : Environment.float? text = some (.ofDecimal ⟨false, count, 0⟩) := by
  obtain ⟨sign, digits, written, rfl, areDigits, rfl⟩ := spells.exists_signWritten
  have spelled : SpellsDecimal false (digits ++ ([] ++ [])) _ :=
    .digits .none (by rwa [List.append_nil]) .none
  rw [List.append_nil, List.append_nil] at spelled
  exact float?_eq_some_iff.mpr (.decimal written spelled)

end SpellsCount

end Onboarding.Settings
