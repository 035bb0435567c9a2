/-
This file proves that every text that is written by the rules of JSON is read into
its tokens, so that the reading of characters is exact. Two tokens may only stand
side by side where one of them is punctuation, as in every document; otherwise the
digits of two numbers would run together.

The end of a number or of a word shows only in the character behind it. A reader at
the end of a token is therefore described by what it would find if the text ended
there, and it reads punctuation and blanks as if it stood between tokens.
-/

import Onboarding.Proofs.Json.Spelling

namespace Onboarding.Json

namespace Lexer

theorem run_cons (lexer : Lexer) (c : Char) (text : List Char) :
    lexer.run (c :: text) = (lexer.step c).bind fun next => next.run text := rfl

theorem run_append (lexer : Lexer) (text rest : List Char) :
    lexer.run (text ++ rest) = (lexer.run text).bind fun next => next.run rest :=
  List.foldlM_append

variable {tokens : List Token}

/-! ### The parts of tokens -/

/-- Further digits before the point; none may follow a zero at the front. -/
theorem run_whole {numeral : Numeral} {digits : List Char}
    (all : ∀ c ∈ digits, c.isDigit = true) (some : numeral.whole ≠ [])
    (zero : numeral.whole = ['0'] → digits = []) :
    run ⟨.whole numeral, tokens⟩ digits =
      .some ⟨.whole { numeral with whole := numeral.whole ++ digits }, tokens⟩ := by
  induction digits generalizing numeral with
  | nil =>
    rw [List.append_nil]
    rfl
  | cons c digits inductionHypothesis =>
    have nonzero : numeral.whole ≠ ['0'] := fun alone => List.cons_ne_nil _ _ (zero alone)
    have two : numeral.whole ++ [c] ≠ ['0'] := by
      obtain ⟨front, others, shape⟩ := List.exists_cons_of_ne_nil some
      simp [shape]
    have stepped : step ⟨.whole numeral, tokens⟩ c =
        .some ⟨.whole { numeral with whole := numeral.whole ++ [c] }, tokens⟩ := by
      simp [step, all c List.mem_cons_self, nonzero]
    rw [run_cons, stepped, Option.bind_some,
      inductionHypothesis (fun other member => all other (List.mem_cons_of_mem c member))
        (by simp) (fun alone => absurd alone two),
      List.append_assoc]
    rfl

/-- Characters that a mode collects, the last of them first. -/
theorem run_collecting (mode : List Char → Mode) {text : List Char}
    (collects : ∀ before, ∀ c ∈ text,
      step ⟨mode before, tokens⟩ c = some ⟨mode (c :: before), tokens⟩) (before : List Char) :
    run ⟨mode before, tokens⟩ text = some ⟨mode (text.reverse ++ before), tokens⟩ := by
  induction text generalizing before with
  | nil => rfl
  | cons c text inductionHypothesis =>
    rw [run_cons, collects before c List.mem_cons_self, Option.bind_some,
      inductionHypothesis fun other rest member => collects other rest
        (List.mem_cons_of_mem c member),
      List.reverse_cons, List.append_assoc]
    rfl

theorem run_fraction {numeral : Numeral} {digits : List Char} (before : List Char)
    (all : ∀ c ∈ digits, c.isDigit = true) :
    run ⟨.fraction numeral before, tokens⟩ digits =
      some ⟨.fraction numeral (digits.reverse ++ before), tokens⟩ :=
  run_collecting (.fraction numeral) (fun before c member => by simp [step, all c member]) before

theorem run_exponent {numeral : Numeral} {negative : Bool} {digits : List Char}
    (before : List Char) (all : ∀ c ∈ digits, c.isDigit = true) :
    run ⟨.exponent numeral negative before, tokens⟩ digits =
      some ⟨.exponent numeral negative (digits.reverse ++ before), tokens⟩ :=
  run_collecting (.exponent numeral negative) (fun before c member => by simp [step, all c member])
    before

theorem run_code {pieces : List StringPiece} {digits : List Char} {left start value : Nat}
    (count : digits.length = left + 1)
    (sum : digits.foldlM (fun value c => (hexDigit? c).map (16 * value + ·)) start = some value) :
    run ⟨.code pieces left start, tokens⟩ digits =
      some ⟨.string (.unit value :: pieces), tokens⟩ := by
  induction digits generalizing left start with
  | nil => cases count
  | cons c digits inductionHypothesis =>
    obtain ⟨next, first, rest⟩ := Option.bind_eq_some_iff.mp sum
    obtain ⟨digit, hex, rfl⟩ := Option.map_eq_some_iff.mp first
    rw [List.length_cons] at count
    rw [run_cons]
    cases left with
    | zero =>
      have last : digits = [] := List.length_eq_zero_iff.mp (Nat.succ.inj count)
      subst last
      rw [show step ⟨.code pieces 0 start, tokens⟩ c =
        some ⟨.string (.unit (16 * start + digit) :: pieces), tokens⟩ by simp [step, hex]]
      rw [show 16 * start + digit = value from Option.some.inj rest]
      rfl
    | succ left =>
      rw [show step ⟨.code pieces (left + 1) start, tokens⟩ c =
        some ⟨.code pieces left (16 * start + digit), tokens⟩ by simp [step, hex]]
      exact inductionHypothesis (Nat.succ.inj count) rest

theorem run_piece {piece : StringPiece} {text : List Char} (written : piece.Written text)
    (pieces : List StringPiece) :
    run ⟨.string pieces, tokens⟩ text = some ⟨.string (piece :: pieces), tokens⟩ := by
  cases written with
  | plain noQuote noBackslash printable =>
    simp only [run_cons, step, beq_iff_eq, noQuote, noBackslash, printable, if_false]
    rfl
  | @short mark meant means =>
    have noCode : mark ≠ 'u' := by
      rintro rfl
      cases means
    simp [run_cons, step, noCode, means]
    rfl
  | code count sum =>
    simp only [run_cons, step]
    exact run_code count sum

theorem run_pieces {pieces : List StringPiece} {text : List Char}
    (written : PiecesWritten pieces text) (before : List StringPiece) :
    run ⟨.string before, tokens⟩ text = some ⟨.string (pieces.reverse ++ before), tokens⟩ := by
  induction written generalizing before with
  | nil => rfl
  | cons first _ inductionHypothesis =>
    rw [run_append, run_piece first, Option.bind_some, inductionHypothesis, List.reverse_cons,
      List.append_assoc]
    rfl

/-! ### Numbers -/

theorem stepBetween_digit {c : Char} (digit : c.isDigit = true) :
    stepBetween tokens c = some ⟨.whole ⟨false, [c], none, none⟩, tokens⟩ := by
  have noSpace : isSpace c = false := by
    refine Bool.eq_false_iff.mpr fun space => ?_
    simp only [isSpace, Bool.or_eq_true, beq_iff_eq] at space
    rcases space with ((rfl | rfl) | rfl) | rfl <;> cases digit
  unfold stepBetween
  rw [noSpace, if_neg Bool.false_ne_true]
  split <;> first
    | cases digit
    | exact if_pos digit

/-- The mode behind a number up to its exponent. -/
def behindMantissa (numeral : Numeral) : Mode :=
  match numeral.fraction with
  | none => .whole { numeral with exponent := none }
  | some digits => .fraction { numeral with fraction := none, exponent := none } digits.reverse

/-- The sign of a number and the first of its digits. -/
theorem run_signed (negative : Bool) {front : Char} (digit : front.isDigit = true) :
    run ⟨.between, tokens⟩ ((if negative then ['-'] else []) ++ [front]) =
      some ⟨.whole ⟨negative, [front], none, none⟩, tokens⟩ := by
  cases negative with
  | false =>
    show (stepBetween tokens front).bind _ = _
    rw [stepBetween_digit digit]
    rfl
  | true => simp [run, step, stepBetween, isSpace, digit]

/-- The digits behind the point, if there are any. -/
theorem run_fractionText {numeral : Numeral}
    (areDigits : ∀ digits, numeral.fraction = some digits → AreDigits digits) :
    run ⟨.whole { numeral with fraction := none, exponent := none }, tokens⟩
        numeral.fractionText = some ⟨behindMantissa numeral, tokens⟩ := by
  obtain ⟨negative, whole, fraction, exponent⟩ := numeral
  cases fraction with
  | none => rfl
  | some digits =>
    have behind := areDigits digits rfl
    obtain ⟨first, others, rfl⟩ := List.exists_cons_of_ne_nil behind.some
    have rest : run ⟨.fraction ⟨negative, whole, none, none⟩ [first], tokens⟩ others =
        some ⟨.fraction ⟨negative, whole, none, none⟩ (others.reverse ++ [first]), tokens⟩ :=
      run_fraction [first] fun c member => behind.all c (List.mem_cons_of_mem first member)
    simp only [Numeral.fractionText, run_cons, behindMantissa, List.reverse_cons]
    simp [step, behind.all first List.mem_cons_self, rest]

theorem run_mantissa {numeral : Numeral} {text : List Char} (written : numeral.Written text) :
    run ⟨.between, tokens⟩ numeral.mantissa = some ⟨behindMantissa numeral, tokens⟩ := by
  obtain ⟨negative, whole, fraction, exponent⟩ := numeral
  obtain ⟨front, digits, rfl⟩ := List.exists_cons_of_ne_nil written.whole.some
  have digit : front.isDigit = true := written.whole.all front List.mem_cons_self
  have more : ∀ c ∈ digits, c.isDigit = true := fun c member =>
    written.whole.all c (List.mem_cons_of_mem front member)
  have zero : [front] = ['0'] → digits = [] := fun alone => by
    have first : front = '0' := (List.cons.inj alone).1
    exact (List.cons.inj (written.zero (congrArg some first))).2
  rw [Numeral.mantissa, Numeral.signText, ← List.singleton_append, ← List.append_assoc,
    run_append, run_append, run_signed negative digit, Option.bind_some,
    run_whole more (List.cons_ne_nil _ _) zero, Option.bind_some]
  exact run_fractionText written.fraction

theorem not_digit_of_isMark {mark : Char} (marked : isMark mark = true) :
    mark.isDigit = false ∧ mark ≠ '.' := by
  simp only [isMark, Bool.or_eq_true, beq_iff_eq] at marked
  rcases marked with rfl | rfl <;> decide

theorem step_mark {numeral : Numeral} {mark : Char} (marked : isMark mark = true) :
    step ⟨behindMantissa numeral, tokens⟩ mark =
      some ⟨.mark { numeral with exponent := none }, tokens⟩ := by
  obtain ⟨negative, whole, fraction, exponent⟩ := numeral
  obtain ⟨noDigit, noPoint⟩ := not_digit_of_isMark marked
  cases fraction <;> simp [behindMantissa, step, noDigit, noPoint, marked]

theorem run_sign {numeral : Numeral} {negative : Bool} {sign : List Char} {c : Char}
    (signed : SignWritten negative sign) (digit : c.isDigit = true) :
    run ⟨.mark numeral, tokens⟩ (sign ++ [c]) = some ⟨.exponent numeral negative [c], tokens⟩ := by
  cases signed with
  | none =>
    have noSign : c ≠ '+' ∧ c ≠ '-' := by
      constructor <;> rintro rfl <;> cases digit
    simp [run, step, noSign, digit]
  | plus | minus => simp [run, step, digit]

/-- A number is known at its end. -/
theorem run_number {numeral : Numeral} {text : List Char} (written : numeral.Written text) :
    ∃ next, run ⟨.between, tokens⟩ text = some next ∧
      next.finish = some (.number numeral :: tokens).reverse := by
  obtain ⟨tail, exponent, rfl⟩ := written.exponent
  rw [run_append, run_mantissa written, Option.bind_some]
  obtain ⟨negative, whole, fraction, power⟩ := numeral
  cases exponent with
  | none =>
    refine ⟨_, rfl, ?_⟩
    cases fraction <;> simp [behindMantissa, finish]
  | @digits negated mark sign digits marked signed areDigits =>
    obtain ⟨first, others, rfl⟩ := List.exists_cons_of_ne_nil areDigits.some
    have all : ∀ c ∈ others, c.isDigit = true := fun c member =>
      areDigits.all c (List.mem_cons_of_mem first member)
    rw [run_cons, step_mark marked, Option.bind_some, ← List.singleton_append,
      ← List.append_assoc, run_append, run_sign signed (areDigits.all first List.mem_cons_self),
      Option.bind_some, run_exponent [first] all]
    exact ⟨_, rfl, by simp [finish]⟩

/-! ### Tokens -/

/-- A token is known at its end; behind punctuation the reader stands between tokens. -/
theorem run_token {token : Token} {text : List Char} (written : token.Written text) :
    ∃ next, run ⟨.between, tokens⟩ text = some next ∧
      next.finish = some (token :: tokens).reverse := by
  cases written with
  | number number => exact run_number number
  | string pieces =>
    refine ⟨emit tokens _, ?_, rfl⟩
    rw [run_cons, show step ⟨.between, tokens⟩ '"' = some ⟨.string [], tokens⟩ from rfl,
      Option.bind_some, run_append, run_pieces pieces, List.append_nil]
    simp [run, step]
  | null | true | false => exact ⟨_, rfl, rfl⟩
  | _ => exact ⟨_, rfl, rfl⟩

theorem stepBetween_space {c : Char} (space : isSpace c = true) :
    stepBetween tokens c = some ⟨.between, tokens⟩ := by
  unfold stepBetween
  exact if_pos space

/-- At the end of a token the reader takes a blank or punctuation as it does between tokens. -/
theorem step_of_finish {lexer : Lexer} (finished : lexer.finish = some tokens.reverse) {c : Char}
    (apart : isSpace c = true ∨ c ∈ ['[', ']', '{', '}', ':', ',']) :
    lexer.step c = stepBetween tokens c := by
  -- None of these characters could make a token longer.
  have none_else : c.isDigit = false ∧ c ≠ '.' ∧ isMark c = false := by
    simp only [isSpace, Bool.or_eq_true, beq_iff_eq, List.mem_cons, List.not_mem_nil,
      or_false] at apart
    rcases apart with (((rfl | rfl) | rfl) | rfl) | rfl | rfl | rfl | rfl | rfl | rfl <;> decide
  obtain ⟨noDigit, noPoint, noMark⟩ := none_else
  obtain ⟨mode, before⟩ := lexer
  cases mode with
  | between =>
    have same : before = tokens := List.reverse_inj.mp (Option.some.inj finished)
    rw [← same]
    rfl
  | word left token =>
    cases left with
    | nil =>
      have same : token :: before = tokens := List.reverse_inj.mp (Option.some.inj finished)
      rw [← same]
      rfl
    | cons => cases finished
  | whole numeral =>
    have same : .number numeral :: before = tokens :=
      List.reverse_inj.mp (Option.some.inj finished)
    simp [step, endNumber, noDigit, noPoint, noMark, ← same]
  | fraction numeral digits =>
    have same := List.reverse_inj.mp (Option.some.inj finished)
    simp [step, endNumber, noDigit, noMark, ← same]
  | exponent numeral negative digits =>
    have same := List.reverse_inj.mp (Option.some.inj finished)
    simp [step, endNumber, noDigit, ← same]
  | _ => cases finished

end Lexer

/-! ### Texts -/

/-- No two tokens stand side by side unless one of them is punctuation. -/
def Apart : List Token → Prop
  | [] => True
  | token :: rest =>
    (token.isPunctuation = true ∨ ∀ next ∈ rest.head?, next.isPunctuation = true) ∧ Apart rest

namespace Lexer

theorem punctuation_written {token : Token} {text : List Char} (written : token.Written text)
    (punctuation : token.isPunctuation = true) :
    ∃ c ∈ ['[', ']', '{', '}', ':', ','], text = [c] ∧
      ∀ tokens, stepBetween tokens c = some (emit tokens token) := by
  cases written with
  | openArray | closeArray | openObject | closeObject | colon | comma =>
    exact ⟨_, by simp, rfl, fun _ => rfl⟩
  | _ => cases punctuation

/-- From the end of a token the next one is read to its end, if it may stand there. Punctuation
leaves the reader between tokens; behind any other token only punctuation may come. -/
theorem exists_run_token {token : Token} {tokens before : List Token} {start : List Char}
    {lexer : Lexer} (written : token.Written start) (apart : Apart (token :: tokens))
    (behind : lexer.finish = some before.reverse)
    (follows : lexer.mode = .between ∨ token.isPunctuation = true) :
    ∃ next, lexer.run start = some next ∧ next.finish = some (token :: before).reverse ∧
      (next.mode = .between ∨ ∀ next ∈ tokens.head?, next.isPunctuation = true) := by
  cases punctuation : token.isPunctuation with
  | true =>
    obtain ⟨c, member, rfl, emitted⟩ := punctuation_written written punctuation
    refine ⟨emit before token, ?_, rfl, .inl rfl⟩
    rw [run_cons, step_of_finish behind (.inr member), emitted]
    rfl
  | false =>
    rw [punctuation] at follows
    have between : lexer = ⟨.between, before⟩ := by
      obtain ⟨mode, earlier⟩ := lexer
      rcases follows with rfl | impossible
      · have same : earlier = before := List.reverse_inj.mp (Option.some.inj behind)
        rw [same]
      · cases impossible
    have alone : ∀ next ∈ tokens.head?, next.isPunctuation = true := by
      rcases apart.1 with punctuated | alone
      · cases punctuation.symm.trans punctuated
      · exact alone
    obtain ⟨next, ran, finished⟩ : ∃ next, run ⟨.between, before⟩ start = some next ∧
        next.finish = some (token :: before).reverse := run_token written
    exact ⟨next, between ▸ ran, finished, .inr alone⟩

/-- Tokens that are written are read from the end of any token on, if the first of them may stand
there. -/
theorem run_of_written {tokens before : List Token} {text : List Char} {lexer : Lexer}
    (written : TokensWritten tokens text) (apart : Apart tokens)
    (behind : lexer.finish = some before.reverse)
    (follows : lexer.mode = .between ∨ ∀ next ∈ tokens.head?, next.isPunctuation = true) :
    (lexer.run text).bind finish = some (before.reverse ++ tokens) := by
  induction written generalizing lexer before with
  | nil =>
    rw [List.append_nil]
    exact behind
  | blank space _ inductionHypothesis =>
    -- The blank ends the token before it, so that the reader stands between tokens.
    rw [run_cons, step_of_finish behind (.inl space), stepBetween_space space]
    exact inductionHypothesis apart rfl (.inl rfl)
  | cons first _ inductionHypothesis =>
    obtain ⟨next, ran, finished, free⟩ :=
      exists_run_token first apart behind (follows.imp_right fun punctuated => punctuated _ rfl)
    rw [run_append, ran, Option.bind_some, inductionHypothesis apart.2 finished free,
      List.reverse_cons, List.append_assoc]
    rfl

end Lexer

/-- The reading of characters is exact. -/
theorem tokens?_eq_some_iff {text : List Char} {tokens : List Token} (apart : Apart tokens) :
    tokens? text = some tokens ↔ TokensWritten tokens text := by
  refine ⟨written_of_tokens?, fun written => ?_⟩
  have start : Lexer.start.finish = some [].reverse := rfl
  exact Lexer.run_of_written written apart start (.inl rfl)

end Onboarding.Json
