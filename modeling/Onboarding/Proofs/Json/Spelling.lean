/-
This file holds the rules by which JSON tokens are written, and proves that a text
which is read into tokens is written by them. The rules do not mention the reader:
a token may be written in several ways, a string in a great many, and blanks may
stand anywhere between two tokens.

The reader takes one character after the other. What it stands behind at any time is
a text of whole tokens followed by the beginning of the next one, and its mode tells
how that one began.
-/

import Onboarding.Json.Lexeme

namespace Onboarding.Json

/-! ### Strings -/

/-- The number that digits to the base sixteen denote. -/
def hexValue? (digits : List Char) : Option Nat :=
  digits.foldlM (fun value c => (Lexer.hexDigit? c).map (16 * value + ·)) 0

/-- How a piece of a string is written: as the character itself, as a short escape, or as the digits
of sixteen bits. -/
inductive StringPiece.Written : StringPiece → List Char → Prop
  | plain {c : Char} : c ≠ '"' → c ≠ '\\' → ¬ c.toNat < 0x20 → Written (.char c) [c]
  | short {mark meant : Char} :
      Lexer.shortEscape? mark = some meant → Written (.char meant) ['\\', mark]
  | code {digits : List Char} {value : Nat} :
      digits.length = 4 → hexValue? digits = some value →
      Written (.unit value) ('\\' :: 'u' :: digits)

/-- Pieces of a string, written one after the other. -/
inductive PiecesWritten : List StringPiece → List Char → Prop
  | nil : PiecesWritten [] []
  | cons {piece : StringPiece} {pieces : List StringPiece} {start rest : List Char} :
      piece.Written start → PiecesWritten pieces rest →
      PiecesWritten (piece :: pieces) (start ++ rest)

/-! ### Numbers -/

/-- Digits, at least one of them. -/
structure AreDigits (digits : List Char) : Prop where
  some : digits ≠ []
  all : ∀ c ∈ digits, c.isDigit = true

/-- How the sign of an exponent is written; plus may be left out. -/
inductive SignWritten : Bool → List Char → Prop
  | none : SignWritten false []
  | plus : SignWritten false ['+']
  | minus : SignWritten true ['-']

/-- How the exponent of a number is written. -/
inductive ExponentWritten : Option (Bool × List Char) → List Char → Prop
  | none : ExponentWritten none []
  | digits {negative : Bool} {mark : Char} {sign digits : List Char} :
      Lexer.isMark mark = true → SignWritten negative sign → AreDigits digits →
      ExponentWritten (some (negative, digits)) (mark :: (sign ++ digits))

namespace Numeral

/-- The sign of a number, which is left out when it is plus. -/
def signText (numeral : Numeral) : List Char :=
  if numeral.negative then ['-'] else []

/-- The point and the digits behind it, if there are any. -/
def fractionText (numeral : Numeral) : List Char :=
  match numeral.fraction with
  | some digits => '.' :: digits
  | none => []

/-- The number up to its exponent. -/
def mantissa (numeral : Numeral) : List Char :=
  numeral.signText ++ numeral.whole ++ numeral.fractionText

/-- How a number is written. No zero stands in front of other digits. -/
structure Written (numeral : Numeral) (text : List Char) : Prop where
  whole : AreDigits numeral.whole
  zero : numeral.whole.head? = some '0' → numeral.whole = ['0']
  fraction : ∀ digits, numeral.fraction = some digits → AreDigits digits
  exponent : ∃ tail, ExponentWritten numeral.exponent tail ∧ text = numeral.mantissa ++ tail

end Numeral

/-! ### Tokens -/

namespace Token

/-- Whether the token is one of the six marks that hold a document together. -/
def isPunctuation : Token → Bool
  | openArray | closeArray | openObject | closeObject | colon | comma => true
  | _ => false

/-- How a token is written. -/
inductive Written : Token → List Char → Prop
  | openArray : Written openArray ['[']
  | closeArray : Written closeArray [']']
  | openObject : Written openObject ['{']
  | closeObject : Written closeObject ['}']
  | colon : Written colon [':']
  | comma : Written comma [',']
  | null : Written null ['n', 'u', 'l', 'l']
  | true : Written (bool true) ['t', 'r', 'u', 'e']
  | false : Written (bool false) ['f', 'a', 'l', 's', 'e']
  | number {numeral : Numeral} {text : List Char} :
      numeral.Written text → Written (number numeral) text
  | string {pieces : List StringPiece} {text : List Char} :
      PiecesWritten pieces text → Written (string pieces) ('"' :: (text ++ ['"']))

end Token

/-- Tokens, written one after the other with any blanks before, between and behind them. -/
inductive TokensWritten : List Token → List Char → Prop
  | nil : TokensWritten [] []
  | blank {tokens : List Token} {c : Char} {text : List Char} :
      Lexer.isSpace c = true → TokensWritten tokens text → TokensWritten tokens (c :: text)
  | cons {token : Token} {tokens : List Token} {start rest : List Char} :
      token.Written start → TokensWritten tokens rest →
      TokensWritten (token :: tokens) (start ++ rest)

theorem TokensWritten.append {tokens others : List Token} {text rest : List Char}
    (written : TokensWritten tokens text) (otherWritten : TokensWritten others rest) :
    TokensWritten (tokens ++ others) (text ++ rest) := by
  induction written with
  | nil => exact otherWritten
  | blank space _ inductionHypothesis => exact .blank space inductionHypothesis
  | cons first _ inductionHypothesis =>
    rw [List.append_assoc]
    exact .cons first inductionHypothesis

theorem Token.Written.single {token : Token} {text : List Char} (written : token.Written text) :
    TokensWritten [token] text := by
  have appended := TokensWritten.cons written .nil
  rwa [List.append_nil] at appended

/-- Tokens that were read, the last of them first, with one more of them. -/
theorem TokensWritten.snoc {tokens : List Token} {token : Token} {text start : List Char}
    (written : TokensWritten tokens.reverse text) (last : token.Written start) :
    TokensWritten (token :: tokens).reverse (text ++ start) := by
  rw [List.reverse_cons]
  exact written.append last.single

theorem PiecesWritten.append {pieces others : List StringPiece} {text rest : List Char}
    (written : PiecesWritten pieces text) (otherWritten : PiecesWritten others rest) :
    PiecesWritten (pieces ++ others) (text ++ rest) := by
  induction written with
  | nil => exact otherWritten
  | cons first _ inductionHypothesis =>
    rw [List.append_assoc]
    exact .cons first inductionHypothesis

theorem PiecesWritten.snoc {pieces : List StringPiece} {piece : StringPiece}
    {text start : List Char} (written : PiecesWritten pieces.reverse text)
    (last : piece.Written start) : PiecesWritten (piece :: pieces).reverse (text ++ start) := by
  have single := PiecesWritten.cons last .nil
  rw [List.append_nil] at single
  rw [List.reverse_cons]
  exact written.append single

/-! ### Digit after digit -/

theorem AreDigits.single {c : Char} (digit : c.isDigit = true) : AreDigits [c] :=
  ⟨List.cons_ne_nil _ _, fun _ member => List.mem_singleton.mp member ▸ digit⟩

theorem AreDigits.snoc {digits : List Char} {c : Char} (before : AreDigits digits)
    (digit : c.isDigit = true) : AreDigits (digits ++ [c]) where
  some := List.append_ne_nil_of_left_ne_nil before.some _
  all := by
    intro other member
    rcases List.mem_append.mp member with earlier | last
    · exact before.all other earlier
    · exact List.mem_singleton.mp last ▸ digit

namespace Numeral.Written

variable {numeral : Numeral} {text : List Char} {c : Char}

theorem single (negative : Bool) (digit : c.isDigit = true) :
    Written ⟨negative, [c], none, none⟩ ((if negative then ['-'] else []) ++ [c]) where
  whole := .single digit
  zero first := by rw [Option.some.inj first]
  fraction _ found := nomatch found
  exponent := ⟨[], .none, by simp [mantissa, signText, fractionText]⟩

/-- A number without an exponent is its mantissa. -/
theorem eq_mantissa (written : numeral.Written text) (plain : numeral.exponent = none) :
    text = numeral.mantissa := by
  obtain ⟨tail, exponent, rfl⟩ := written.exponent
  rw [plain] at exponent
  cases exponent
  exact List.append_nil _

theorem snoc_whole (written : numeral.Written text) (whole : numeral.fraction = none)
    (plain : numeral.exponent = none) (nonzero : numeral.whole ≠ ['0'])
    (digit : c.isDigit = true) :
    Written { numeral with whole := numeral.whole ++ [c] } (text ++ [c]) where
  whole := written.whole.snoc digit
  zero first := by
    obtain ⟨front, digits, shape⟩ := List.exists_cons_of_ne_nil written.whole.some
    have head : numeral.whole.head? = some '0' := by
      rw [← first, shape]
      rfl
    exact absurd (written.zero head) nonzero
  fraction := written.fraction
  exponent := by
    refine ⟨[], plain ▸ .none, ?_⟩
    rw [written.eq_mantissa plain]
    simp [mantissa, signText, fractionText, whole]

theorem start_fraction (written : numeral.Written text) (whole : numeral.fraction = none)
    (plain : numeral.exponent = none) (digit : c.isDigit = true) :
    Written { numeral with fraction := some [c] } (text ++ ['.', c]) where
  whole := written.whole
  zero := written.zero
  fraction digits found := Option.some.inj found ▸ .single digit
  exponent := by
    refine ⟨[], plain ▸ .none, ?_⟩
    rw [written.eq_mantissa plain]
    simp [mantissa, signText, fractionText, whole]

theorem snoc_fraction {digits : List Char}
    (written : Written { numeral with fraction := some digits } text)
    (plain : numeral.exponent = none) (digit : c.isDigit = true) :
    Written { numeral with fraction := some (digits ++ [c]) } (text ++ [c]) where
  whole := written.whole
  zero := written.zero
  fraction others found := Option.some.inj found ▸ (written.fraction digits rfl).snoc digit
  exponent := by
    refine ⟨[], plain ▸ .none, ?_⟩
    rw [written.eq_mantissa plain]
    simp [mantissa, signText, fractionText]

theorem start_exponent {mark : Char} {negative : Bool} {sign : List Char}
    (written : numeral.Written text) (plain : numeral.exponent = none)
    (marked : Lexer.isMark mark = true) (signed : SignWritten negative sign)
    (digit : c.isDigit = true) :
    Written { numeral with exponent := some (negative, [c]) }
      (text ++ mark :: (sign ++ [c])) where
  whole := written.whole
  zero := written.zero
  fraction := written.fraction
  exponent :=
    ⟨_, .digits marked signed (.single digit), by rw [written.eq_mantissa plain]; rfl⟩

theorem snoc_exponent {negative : Bool} {digits : List Char}
    (written : Written { numeral with exponent := some (negative, digits) } text)
    (digit : c.isDigit = true) :
    Written { numeral with exponent := some (negative, digits ++ [c]) } (text ++ [c]) where
  whole := written.whole
  zero := written.zero
  fraction := written.fraction
  exponent := by
    obtain ⟨tail, exponent, rfl⟩ := written.exponent
    cases exponent with
    | digits marked signed before =>
      refine ⟨_, .digits marked signed (before.snoc digit), ?_⟩
      simp [mantissa, signText, fractionText]

end Numeral.Written

/-! ### The beginning of a token -/

/-- What has been read of a token when the reading stands in a mode. -/
def Mode.Begun : Mode → List Char → Prop
  | .between, part => part = []
  | .word left token, part => token.Written (part ++ left)
  | .minus, part => part = ['-']
  | .whole numeral, part =>
    numeral.fraction = none ∧ numeral.exponent = none ∧ numeral.Written part
  | .point numeral, part =>
    numeral.fraction = none ∧ numeral.exponent = none ∧
      ∃ front, numeral.Written front ∧ part = front ++ ['.']
  | .fraction numeral digits, part =>
    numeral.exponent = none ∧ Numeral.Written { numeral with fraction := some digits.reverse } part
  | .mark numeral, part =>
    numeral.exponent = none ∧
      ∃ front mark, numeral.Written front ∧ Lexer.isMark mark = true ∧ part = front ++ [mark]
  | .sign numeral negative, part =>
    numeral.exponent = none ∧
      ∃ front mark sign, numeral.Written front ∧ Lexer.isMark mark = true ∧
        SignWritten negative sign ∧ part = front ++ mark :: sign
  | .exponent numeral negative digits, part =>
    Numeral.Written { numeral with exponent := some (negative, digits.reverse) } part
  | .string pieces, part =>
    ∃ body, PiecesWritten pieces.reverse body ∧ part = '"' :: body
  | .escape pieces, part =>
    ∃ body, PiecesWritten pieces.reverse body ∧ part = '"' :: (body ++ ['\\'])
  | .code pieces left value, part =>
    ∃ body digits, PiecesWritten pieces.reverse body ∧ digits.length + left = 3 ∧
      hexValue? digits = some value ∧ part = '"' :: (body ++ '\\' :: 'u' :: digits)

namespace Lexer

variable {lexer next : Lexer} {tokens : List Token} {text part : List Char} {c : Char}

/-- A text has been read: it consists of whole tokens and the beginning of the next one. -/
def Stands (lexer : Lexer) (text : List Char) : Prop :=
  ∃ before part, TokensWritten lexer.tokens.reverse before ∧ lexer.mode.Begun part ∧
    text = before ++ part

/-- Between tokens any token may begin, or a blank stand. -/
theorem stands_stepBetween (written : TokensWritten tokens.reverse text)
    (stepped : stepBetween tokens c = some next) : next.Stands (text ++ [c]) := by
  unfold stepBetween at stepped
  split at stepped
  · next space =>
    cases stepped
    refine ⟨text ++ [c], [], ?_, rfl, (List.append_nil _).symm⟩
    have blank := written.append (.blank space .nil)
    rwa [List.append_nil] at blank
  · have punctuation {token : Token} (last : token.Written [c]) :
        (emit tokens token).Stands (text ++ [c]) :=
      ⟨text ++ [c], [], written.snoc last, rfl, (List.append_nil _).symm⟩
    have begun {mode : Mode} (begins : mode.Begun [c]) :
        Stands ⟨mode, tokens⟩ (text ++ [c]) :=
      ⟨text, [c], written, begins, rfl⟩
    split at stepped
    · exact Option.some.inj stepped ▸ punctuation .openArray
    · exact Option.some.inj stepped ▸ punctuation .closeArray
    · exact Option.some.inj stepped ▸ punctuation .openObject
    · exact Option.some.inj stepped ▸ punctuation .closeObject
    · exact Option.some.inj stepped ▸ punctuation .colon
    · exact Option.some.inj stepped ▸ punctuation .comma
    · exact Option.some.inj stepped ▸ begun ⟨[], .nil, rfl⟩
    · exact Option.some.inj stepped ▸ begun Token.Written.null
    · exact Option.some.inj stepped ▸ begun Token.Written.true
    · exact Option.some.inj stepped ▸ begun Token.Written.false
    · exact Option.some.inj stepped ▸ begun rfl
    · split at stepped
      · next digit =>
        exact Option.some.inj stepped ▸ begun ⟨rfl, rfl, Numeral.Written.single false digit⟩
      · cases stepped

/-- Behind a whole token the next character is read as between tokens. -/
theorem stands_stepBehind {token : Token} (written : TokensWritten tokens.reverse text)
    (last : token.Written part) (stepped : stepBetween (token :: tokens) c = some next) :
    next.Stands (text ++ part ++ [c]) :=
  stands_stepBetween (written.snoc last) stepped

/-- The token that has begun goes on. -/
theorem stands_within {mode : Mode} (written : TokensWritten tokens.reverse text)
    (begins : mode.Begun (part ++ [c])) : Stands ⟨mode, tokens⟩ (text ++ part ++ [c]) :=
  ⟨text, part ++ [c], written, begins, List.append_assoc ..⟩

theorem stands_step_word {left : List Char} {token : Token}
    (written : TokensWritten tokens.reverse text) (begun : Mode.Begun (.word left token) part)
    (stepped : step ⟨.word left token, tokens⟩ c = some next) :
    next.Stands (text ++ part ++ [c]) := by
  cases left with
  | nil =>
    have last : token.Written part := by
      have whole : token.Written (part ++ []) := begun
      rwa [List.append_nil] at whole
    exact stands_stepBehind written last stepped
  | cons letter left =>
    simp only [step] at stepped
    split at stepped
    · next same =>
      refine Option.some.inj stepped ▸ stands_within written ?_
      show token.Written (part ++ [c] ++ left)
      rw [List.append_assoc, eq_of_beq same]
      exact begun
    · cases stepped

theorem stands_step_whole {numeral : Numeral} (written : TokensWritten tokens.reverse text)
    (begun : Mode.Begun (.whole numeral) part)
    (stepped : step ⟨.whole numeral, tokens⟩ c = some next) :
    next.Stands (text ++ part ++ [c]) := by
  obtain ⟨noFraction, noExponent, number⟩ := begun
  simp only [step] at stepped
  split at stepped
  · next digit =>
    split at stepped
    · cases stepped
    · next nonzero =>
      exact Option.some.inj stepped ▸ stands_within written ⟨noFraction, noExponent,
        number.snoc_whole noFraction noExponent nonzero digit⟩
  · split at stepped
    · next point =>
      refine Option.some.inj stepped ▸
        stands_within written ⟨noFraction, noExponent, part, number, ?_⟩
      rw [eq_of_beq point]
    · split at stepped
      · next mark =>
        exact Option.some.inj stepped ▸
          stands_within written ⟨noExponent, part, c, number, mark, rfl⟩
      · exact stands_stepBehind written (.number number) stepped

theorem stands_step_fraction {numeral : Numeral} {digits : List Char}
    (written : TokensWritten tokens.reverse text)
    (begun : Mode.Begun (.fraction numeral digits) part)
    (stepped : step ⟨.fraction numeral digits, tokens⟩ c = some next) :
    next.Stands (text ++ part ++ [c]) := by
  obtain ⟨noExponent, number⟩ := begun
  simp only [step] at stepped
  split at stepped
  · next digit =>
    refine Option.some.inj stepped ▸ stands_within written ⟨noExponent, ?_⟩
    rw [List.reverse_cons]
    exact number.snoc_fraction noExponent digit
  · split at stepped
    · next mark =>
      exact Option.some.inj stepped ▸
        stands_within written ⟨noExponent, part, c, number, mark, rfl⟩
    · exact stands_stepBehind written (.number number) stepped

/-- Behind the mark of an exponent comes its sign, or the first of its digits. -/
theorem stands_step_mark {numeral : Numeral} (written : TokensWritten tokens.reverse text)
    (begun : Mode.Begun (.mark numeral) part)
    (stepped : step ⟨.mark numeral, tokens⟩ c = some next) :
    next.Stands (text ++ part ++ [c]) := by
  obtain ⟨noExponent, front, mark, number, marked, rfl⟩ := begun
  have signed {sign : Char} {negative : Bool} (same : (c == sign) = true)
      (writes : SignWritten negative [sign]) :
      Stands ⟨.sign numeral negative, tokens⟩ (text ++ (front ++ [mark]) ++ [c]) := by
    refine stands_within written ⟨noExponent, front, mark, [sign], number, marked, writes, ?_⟩
    rw [eq_of_beq same, List.append_assoc]
    rfl
  simp only [step] at stepped
  split at stepped
  · next plus => exact Option.some.inj stepped ▸ signed plus .plus
  · split at stepped
    · next minus => exact Option.some.inj stepped ▸ signed minus .minus
    · split at stepped
      · next digit =>
        refine Option.some.inj stepped ▸ stands_within written ?_
        rw [List.append_assoc]
        exact number.start_exponent noExponent marked .none digit
      · cases stepped

theorem stands_step_exponent {numeral : Numeral} {negative : Bool} {digits : List Char}
    (written : TokensWritten tokens.reverse text)
    (begun : Mode.Begun (.exponent numeral negative digits) part)
    (stepped : step ⟨.exponent numeral negative digits, tokens⟩ c = some next) :
    next.Stands (text ++ part ++ [c]) := by
  simp only [step] at stepped
  split at stepped
  · next digit =>
    refine Option.some.inj stepped ▸ stands_within written ?_
    show Numeral.Written
      { numeral with exponent := some (negative, (c :: digits).reverse) } (part ++ [c])
    rw [List.reverse_cons]
    exact Numeral.Written.snoc_exponent begun digit
  · exact stands_stepBehind written (.number begun) stepped

theorem stands_step_string {pieces : List StringPiece}
    (written : TokensWritten tokens.reverse text) (begun : Mode.Begun (.string pieces) part)
    (stepped : step ⟨.string pieces, tokens⟩ c = some next) :
    next.Stands (text ++ part ++ [c]) := by
  obtain ⟨body, spelled, rfl⟩ := begun
  simp only [step] at stepped
  split at stepped
  · next quote =>
    refine Option.some.inj stepped ▸
      ⟨text ++ '"' :: (body ++ ['"']), [], written.snoc (.string spelled), rfl, ?_⟩
    rw [eq_of_beq quote, List.append_nil, List.append_assoc, List.cons_append]
  · next noQuote =>
    split at stepped
    · next backslash =>
      refine Option.some.inj stepped ▸ stands_within written ⟨body, spelled, ?_⟩
      rw [eq_of_beq backslash, List.cons_append]
    · next noBackslash =>
      split at stepped
      · cases stepped
      · next printable =>
        have plain : StringPiece.Written (.char c) [c] :=
          .plain (fun same => noQuote (beq_iff_eq.mpr same))
            (fun same => noBackslash (beq_iff_eq.mpr same)) printable
        exact Option.some.inj stepped ▸
          stands_within written ⟨body ++ [c], spelled.snoc plain, rfl⟩

theorem stands_step_escape {pieces : List StringPiece}
    (written : TokensWritten tokens.reverse text) (begun : Mode.Begun (.escape pieces) part)
    (stepped : step ⟨.escape pieces, tokens⟩ c = some next) :
    next.Stands (text ++ part ++ [c]) := by
  obtain ⟨body, spelled, rfl⟩ := begun
  simp only [step] at stepped
  split at stepped
  · next letter =>
    refine Option.some.inj stepped ▸ stands_within written ⟨body, [], spelled, rfl, rfl, ?_⟩
    rw [eq_of_beq letter, List.cons_append, List.append_assoc]
    rfl
  · obtain ⟨meant, means, rfl⟩ := Option.map_eq_some_iff.mp stepped
    refine stands_within written ⟨body ++ ['\\', c], spelled.snoc (.short means), ?_⟩
    rw [List.cons_append, List.append_assoc]
    rfl

theorem stands_step_code {pieces : List StringPiece} {left value : Nat}
    (written : TokensWritten tokens.reverse text)
    (begun : Mode.Begun (.code pieces left value) part)
    (stepped : step ⟨.code pieces left value, tokens⟩ c = some next) :
    next.Stands (text ++ part ++ [c]) := by
  obtain ⟨body, digits, spelled, count, sum, rfl⟩ := begun
  obtain ⟨digit, hex, rfl⟩ := Option.map_eq_some_iff.mp stepped
  have longer : hexValue? (digits ++ [c]) = some (16 * value + digit) := by
    rw [hexValue?, List.foldlM_append]
    show (hexValue? digits).bind _ = _
    simp [sum, hex]
  dsimp only
  split
  · next last =>
    -- The fourth digit ends the piece, and the string goes on.
    have four : (digits ++ [c]).length = 4 := by
      rw [List.length_append, List.length_singleton]
      omega
    have piece : StringPiece.Written (.unit (16 * value + digit))
        ('\\' :: 'u' :: (digits ++ [c])) := .code four longer
    refine stands_within written
      ⟨body ++ '\\' :: 'u' :: (digits ++ [c]), spelled.snoc piece, ?_⟩
    rw [List.cons_append, List.append_assoc]
    rfl
  · next more =>
    refine stands_within written ⟨body, digits ++ [c], spelled, ?_, longer, ?_⟩
    · rw [List.length_append, List.length_singleton]
      omega
    · rw [List.cons_append, List.append_assoc]
      rfl

/-- One more character is read. -/
theorem Stands.step (stands : lexer.Stands text) (stepped : lexer.step c = some next) :
    next.Stands (text ++ [c]) := by
  obtain ⟨mode, tokens⟩ := lexer
  obtain ⟨before, part, written, begun, rfl⟩ := stands
  cases mode with
  | between =>
    rw [show part = [] from begun, List.append_nil]
    exact stands_stepBetween written stepped
  | word => exact stands_step_word written begun stepped
  | minus =>
    simp only [Lexer.step] at stepped
    split at stepped
    · next digit =>
      refine Option.some.inj stepped ▸ stands_within written ⟨rfl, rfl, ?_⟩
      rw [show part = ['-'] from begun]
      exact Numeral.Written.single true digit
    · cases stepped
  | whole => exact stands_step_whole written begun stepped
  | point numeral =>
    obtain ⟨noFraction, noExponent, front, number, rfl⟩ := begun
    simp only [Lexer.step] at stepped
    split at stepped
    · next digit =>
      refine Option.some.inj stepped ▸ stands_within written ⟨noExponent, ?_⟩
      rw [List.append_assoc]
      exact number.start_fraction noFraction noExponent digit
    · cases stepped
  | fraction => exact stands_step_fraction written begun stepped
  | mark => exact stands_step_mark written begun stepped
  | sign numeral negative =>
    obtain ⟨noExponent, front, mark, sign, number, marked, signed, rfl⟩ := begun
    simp only [Lexer.step] at stepped
    split at stepped
    · next digit =>
      refine Option.some.inj stepped ▸ stands_within written ?_
      rw [List.append_assoc]
      exact number.start_exponent noExponent marked signed digit
    · cases stepped
  | exponent => exact stands_step_exponent written begun stepped
  | string => exact stands_step_string written begun stepped
  | escape => exact stands_step_escape written begun stepped
  | code => exact stands_step_code written begun stepped

theorem Stands.run {more : List Char} (stands : lexer.Stands text)
    (ran : lexer.run more = some next) : next.Stands (text ++ more) := by
  induction more generalizing lexer text with
  | nil =>
    rw [List.append_nil]
    exact Option.some.inj ran ▸ stands
  | cons c rest inductionHypothesis =>
    obtain ⟨stepped, step, ran⟩ := Option.bind_eq_some_iff.mp ran
    have read := inductionHypothesis (stands.step step) ran
    rwa [List.append_assoc] at read

/-- At the end of a text no token is left unfinished. -/
theorem Stands.finish {all : List Token} (stands : lexer.Stands text)
    (finished : lexer.finish = some all) : TokensWritten all text := by
  obtain ⟨mode, tokens⟩ := lexer
  obtain ⟨before, part, written, begun, rfl⟩ := stands
  have behind {token : Token} (last : token.Written part)
      (equal : some (token :: tokens).reverse = some all) : TokensWritten all (before ++ part) :=
    Option.some.inj equal ▸ written.snoc last
  cases mode with
  | between =>
    rw [show part = [] from begun, List.append_nil]
    exact Option.some.inj finished ▸ written
  | word left token =>
    cases left with
    | nil =>
      have whole : token.Written (part ++ []) := begun
      rw [List.append_nil] at whole
      exact behind whole finished
    | cons => cases finished
  | whole => exact behind (.number begun.2.2) finished
  | fraction => exact behind (.number begun.2) finished
  | exponent => exact behind (.number begun) finished
  | _ => cases finished

end Lexer

/-- A text that is read into tokens is written by the rules. -/
theorem written_of_tokens? {text : List Char} {tokens : List Token}
    (read : tokens? text = some tokens) : TokensWritten tokens text := by
  obtain ⟨last, ran, finished⟩ := Option.bind_eq_some_iff.mp read
  have start : Lexer.start.Stands [] := ⟨[], [], .nil, rfl, rfl⟩
  exact (start.run ran).finish finished

end Onboarding.Json
