/-
This file proves that a quoted text is read back as the text that was quoted. Each of the
four quotings needs something of the text, and the one that is chosen for a text suits it:
with escapes every text can be quoted, without them only one in which no mark, or no three
marks in a row, would end it early.

Reading is followed from one character of the text to the next. On several lines marks may
stand in the text as themselves, so it matters how many of them have just been read.
-/

import Mathlib.Data.List.Basic
import Onboarding.Toml.Quoted

namespace Onboarding.Toml

variable {quoting : Quoting} {text read rest : List Char} {c next : Char}

/-! ### Steps -/

theorem readFrom_goOn {mode into : Mode} {after : List Char}
    (turns : turn quoting mode read c = .goOn into after) :
    readFrom quoting mode read (c :: rest) = readFrom quoting into after rest := by
  rw [readFrom, turns]

theorem readFrom_ended {mode : Mode} {after : List Char}
    (turns : turn quoting mode read c = .ended after) :
    readFrom quoting mode read (c :: rest) = some (after.reverse, rest) := by
  rw [readFrom, turns]

theorem readFrom_endedBefore {mode : Mode} {after : List Char}
    (turns : turn quoting mode read c = .endedBefore after) :
    readFrom quoting mode read (c :: rest) = some (after.reverse, c :: rest) := by
  rw [readFrom, turns]

theorem ne_of_isTextChar (printable : isTextChar c = true) : c ≠ '\n' ∧ c ≠ '\r' := by
  constructor <;> rintro rfl <;> cases printable

/-- A character that stands for itself. -/
theorem readFrom_of_isTextChar (noMark : c ≠ quoting.mark)
    (noEscape : quoting.escapes = true → c ≠ '\\') (printable : isTextChar c = true) :
    readFrom quoting .plain read (c :: rest) = readFrom quoting .plain (c :: read) rest := by
  obtain ⟨noLineFeed, noCarriage⟩ := ne_of_isTextChar printable
  have unescaped : (quoting.escapes && c == '\\') = false := by
    cases escapes : quoting.escapes with
    | false => rfl
    | true => exact beq_false_of_ne (noEscape escapes)
  refine readFrom_goOn ?_
  show turnPlain quoting read c = _
  unfold turnPlain
  rw [beq_false_of_ne noMark, unescaped, beq_false_of_ne noLineFeed, beq_false_of_ne noCarriage,
    Bool.and_false, printable]
  rfl

theorem readFrom_lineFeed (lines : quoting.lines = true) (noMark : '\n' ≠ quoting.mark) :
    readFrom quoting .plain read ('\n' :: rest) = readFrom quoting .plain ('\n' :: read) rest := by
  refine readFrom_goOn ?_
  show turnPlain quoting read '\n' = _
  unfold turnPlain
  rw [beq_false_of_ne noMark, lines]
  cases quoting.escapes <;> rfl

/-! ### Escapes -/

section Escapes

variable (mark : quoting.mark = '"') (escapes : quoting.escapes = true)

include mark escapes

theorem readFrom_backslash (text : List Char) :
    readFrom quoting .plain read ('\\' :: text) = readFrom quoting .escape read text := by
  refine readFrom_goOn ?_
  show turnPlain quoting read '\\' = _
  rw [turnPlain, mark, escapes]
  rfl

theorem readFrom_shortEscape {meant : Char} (short : shortEscape? c = some meant) :
    readFrom quoting .plain read ('\\' :: c :: rest) =
      readFrom quoting .plain (meant :: read) rest := by
  rw [readFrom_backslash mark escapes]
  refine readFrom_goOn ?_
  show turnEscape quoting read c = _
  rw [turnEscape, short]

end Escapes

/-- The digits that are written have the values that they are written for. -/
theorem hexDigit?_digitChar : ∀ digit < 16,
    Json.Lexer.hexDigit? (Nat.digitChar digit).toUpper = some digit := by
  decide

theorem readFrom_digit {digit : Nat} (small : digit < 16) (left value : Nat) :
    readFrom quoting (.code (left + 1) value) read ((Nat.digitChar digit).toUpper :: rest) =
      readFrom quoting (.code left (16 * value + digit)) read rest := by
  refine readFrom_goOn ?_
  show turnCode read (left + 1) value _ = _
  rw [turnCode, hexDigit?_digitChar digit small]
  rfl

theorem readFrom_lastDigit {digit value : Nat} (small : digit < 16)
    (code : 16 * value + digit = c.toNat) :
    readFrom quoting (.code 0 value) read ((Nat.digitChar digit).toUpper :: rest) =
      readFrom quoting .plain (c :: read) rest := by
  refine readFrom_goOn ?_
  show turnCode read 0 value _ = _
  rw [turnCode, hexDigit?_digitChar digit small]
  have valid : c.toNat.isValidChar := c.valid
  show (if (16 * value + digit).isValidChar then
    Turn.goOn .plain (Char.ofNat (16 * value + digit) :: read) else .failed) = _
  rw [code, if_pos valid, Char.ofNat_toNat]

theorem readFrom_fourHexDigits (small : c.toNat < 65536) :
    readFrom quoting (.code 3 0) read (fourHexDigits c.toNat ++ rest) =
      readFrom quoting .plain (c :: read) rest := by
  have below (number : Nat) : number % 16 < 16 := Nat.mod_lt _ (by decide)
  show readFrom quoting (.code 3 0) read ((Nat.digitChar (c.toNat / 4096 % 16)).toUpper ::
    (Nat.digitChar (c.toNat / 256 % 16)).toUpper :: (Nat.digitChar (c.toNat / 16 % 16)).toUpper ::
    (Nat.digitChar (c.toNat % 16)).toUpper :: rest) = _
  rw [readFrom_digit (below _), readFrom_digit (below _), readFrom_digit (below _),
    readFrom_lastDigit (below _)]
  omega

theorem isTextChar_of_not (plain : ¬ (c.toNat < 0x20 || c == '\u007f') = true) :
    isTextChar c = true := by
  rw [Bool.or_eq_true, not_or, decide_eq_true_eq, Nat.not_lt] at plain
  rw [isTextChar, Bool.or_eq_true, Bool.and_eq_true, decide_eq_true_eq]
  exact .inr ⟨plain.1, bne_iff_ne.mpr fun same => plain.2 (beq_iff_eq.mpr same)⟩

/-- A character other than the mark is read back, whether it is escaped or not. -/
theorem readFrom_writtenChar (mark : quoting.mark = '"') (escapes : quoting.escapes = true)
    (noMark : c ≠ '"') :
    readFrom quoting .plain read (writtenChar quoting.lines c ++ rest) =
      readFrom quoting .plain (c :: read) rest := by
  have short {letter meant : Char} (same : (c == meant) = true)
      (escape : shortEscape? letter = some meant) :
      readFrom quoting .plain read ('\\' :: letter :: rest) =
        readFrom quoting .plain (c :: read) rest := by
    rw [eq_of_beq same]
    exact readFrom_shortEscape mark escapes escape
  unfold writtenChar
  split
  · next same => exact short same rfl
  split
  · next same => exact short same rfl
  split
  · next same =>
    split
    · next lines =>
      rw [eq_of_beq same]
      exact readFrom_lineFeed lines (by rw [mark]; decide)
    · exact short same rfl
  split
  · next same => exact short same rfl
  split
  · next same => exact short same rfl
  split
  · next same => exact short same rfl
  · next noBackslash =>
    split
    · next control =>
      have small : c.toNat < 65536 := by
        rcases Bool.or_eq_true_iff.mp control with low | same
        · exact Nat.lt_trans (of_decide_eq_true low) (by decide)
        · rw [eq_of_beq same]
          decide
      show readFrom quoting .plain read ('\\' :: 'u' :: (fourHexDigits c.toNat ++ rest)) = _
      rw [readFrom_backslash mark escapes, readFrom_goOn rfl, readFrom_fourHexDigits small]
    · next plain =>
      exact readFrom_of_isTextChar (mark ▸ noMark)
        (fun _ same => noBackslash (beq_iff_eq.mpr same)) (isTextChar_of_not plain)

/-! ### One line -/

theorem readFrom_writtenEscaped_line (text read rest : List Char) (run : Nat) :
    readFrom .basic .plain read (writtenEscaped false run text ++ '"' :: rest) =
      some (read.reverse ++ text, rest) := by
  induction text generalizing read run with
  | nil =>
    rw [List.append_nil]
    exact readFrom_ended rfl
  | cons c text inductionHypothesis =>
    unfold writtenEscaped
    split
    · next same =>
      rw [eq_of_beq same]
      show readFrom .basic .plain read ('\\' :: '"' :: (writtenEscaped false 0 text ++ _)) = _
      rw [readFrom_shortEscape rfl rfl rfl, inductionHypothesis, List.reverse_cons,
        List.append_assoc]
      rfl
    · next other =>
      rw [List.append_assoc]
      have plain : c ≠ '"' := fun same => other (beq_iff_eq.mpr same)
      rw [show writtenChar false c = writtenChar Quoting.basic.lines c from rfl,
        readFrom_writtenChar rfl rfl plain, inductionHypothesis, List.reverse_cons,
        List.append_assoc]
      rfl

theorem readFrom_literal (text read rest : List Char) (noMark : '\'' ∉ text)
    (printable : ∀ c ∈ text, isTextChar c = true) :
    readFrom .literal .plain read (text ++ '\'' :: rest) = some (read.reverse ++ text, rest) := by
  induction text generalizing read with
  | nil =>
    rw [List.append_nil]
    exact readFrom_ended rfl
  | cons c text inductionHypothesis =>
    obtain ⟨first, others⟩ := List.forall_mem_cons.mp printable
    obtain ⟨differs, without⟩ := not_or.mp fun either => noMark (List.mem_cons.mpr either)
    rw [List.cons_append, readFrom_of_isTextChar (Ne.symm differs)
      (fun escapes => absurd escapes (by decide)) first, inductionHypothesis _ without others,
      List.reverse_cons, List.append_assoc]
    rfl

/-! ### Several lines -/

/-- Where reading stands behind marks that may belong to the text. -/
def behind (run : Nat) : Mode :=
  if run = 0 then .plain else .marks run

/-- One more mark. -/
theorem readFrom_behind_mark (lines : quoting.lines = true) {run : Nat} (few : run < 4) :
    readFrom quoting (behind run) read (quoting.mark :: rest) =
      readFrom quoting (behind (run + 1)) read rest := by
  refine readFrom_goOn ?_
  cases run with
  | zero =>
    show turnPlain quoting read quoting.mark = _
    rw [turnPlain, if_pos (beq_self_eq_true _), if_pos lines]
    rfl
  | succ count =>
    show turn quoting (.marks (count + 1)) read quoting.mark = _
    have notLast : count + 1 ≠ 4 := Nat.ne_of_lt few
    simp only [turn, beq_self_eq_true, if_true, if_neg notLast]
    rfl

/-- Behind fewer than three marks any other character shows that they belong to the text. -/
theorem readFrom_behind_other {run : Nat} (few : run < 3) (noMark : c ≠ quoting.mark) :
    readFrom quoting (behind run) read (c :: rest) =
      readFrom quoting .plain (List.replicate run quoting.mark ++ read) (c :: rest) := by
  cases run with
  | zero => rfl
  | succ count =>
    have turns : turn quoting (.marks (count + 1)) read c =
        turn quoting .plain (List.replicate (count + 1) quoting.mark ++ read) c := by
      simp only [turn, beq_false_of_ne noMark, Bool.false_eq_true, if_false, if_pos few]
    show readFrom quoting (.marks (count + 1)) read (c :: rest) = _
    rw [readFrom, readFrom, turns]

/-- Three more marks end the text, and those before them belong to it. -/
theorem readFrom_behind_end (lines : quoting.lines = true) {run : Nat} (few : run < 3)
    (noMark : next ≠ quoting.mark) :
    readFrom quoting (behind run) read
        (quoting.mark :: quoting.mark :: quoting.mark :: next :: rest) =
      some (read.reverse ++ List.replicate run quoting.mark, next :: rest) := by
  rw [readFrom_behind_mark lines (by omega), readFrom_behind_mark lines (by omega)]
  by_cases two : run = 2
  · subst two
    have turns : turn quoting (.marks 4) read quoting.mark =
        .ended (quoting.mark :: quoting.mark :: read) := by
      simp only [turn, beq_self_eq_true, if_true]
    show readFrom quoting (.marks 4) read _ = _
    rw [readFrom_ended turns, List.reverse_cons, List.reverse_cons, List.append_assoc]
    rfl
  · have turns : turn quoting (.marks (run + 3)) read next =
        .endedBefore (List.replicate run quoting.mark ++ read) := by
      have full : ¬ run + 3 < 3 := by omega
      simp only [turn, beq_false_of_ne noMark, Bool.false_eq_true, if_false, if_neg full,
        Nat.add_sub_cancel]
    rw [readFrom_behind_mark lines (by omega)]
    show readFrom quoting (.marks (run + 3)) read _ = _
    rw [readFrom_endedBefore turns, List.reverse_append, List.reverse_replicate]

/-- What is written for a character other than the mark begins with no mark, and with a line end
only for a line feed. -/
theorem exists_writtenChar (lines : Bool) (noMark : c ≠ '"') :
    ∃ first others, writtenChar lines c = first :: others ∧ first ≠ '"' ∧ first ≠ '\r' ∧
      (first = '\n' → c = '\n') := by
  have escaped (c mark : Char) : ∃ first others, ['\\', mark] = first :: others ∧ first ≠ '"' ∧
      first ≠ '\r' ∧ (first = '\n' → c = '\n') :=
    ⟨_, _, rfl, by decide, by decide, fun same => absurd same (by decide)⟩
  unfold writtenChar
  split
  · exact escaped c _
  split
  · exact escaped c _
  split
  · next same =>
    split
    · exact ⟨_, _, rfl, by decide, by decide, fun _ => eq_of_beq same⟩
    · exact escaped c _
  split
  · exact escaped c _
  split
  · exact escaped c _
  next noCarriage =>
    split
    · exact escaped c _
    split
    · exact ⟨'\\', _, rfl, by decide, by decide, fun same => absurd same (by decide)⟩
    · exact ⟨c, [], rfl, noMark, fun same => noCarriage (beq_iff_eq.mpr same), id⟩

theorem readFrom_writtenEscaped_lines {run : Nat} (few : run < 3) (text read : List Char)
    (noMark : next ≠ '"') (rest : List Char) :
    readFrom .basicLines (behind run) read
        (writtenEscaped true run text ++ '"' :: '"' :: '"' :: next :: rest) =
      some (read.reverse ++ List.replicate run '"' ++ text, next :: rest) := by
  induction text generalizing run read with
  | nil =>
    rw [List.append_nil]
    exact readFrom_behind_end rfl few noMark
  | cons c text inductionHypothesis =>
    have onward (read : List Char) : readFrom .basicLines .plain read
        (writtenEscaped true 0 text ++ '"' :: '"' :: '"' :: next :: rest) =
          some (read.reverse ++ text, next :: rest) := by
      have noRun := inductionHypothesis (by decide : 0 < 3) read
      rwa [List.replicate_zero, List.append_nil] at noRun
    unfold writtenEscaped
    split
    · next same =>
      rw [eq_of_beq same]
      split
      · next unescaped =>
        have fewer : run < 2 := of_decide_eq_true unescaped
        refine (readFrom_behind_mark rfl (by omega)).trans
          ((inductionHypothesis (by omega) read).trans ?_)
        rw [List.replicate_succ', List.append_assoc, List.append_assoc, List.append_assoc]
        rfl
      · refine (readFrom_behind_other few (by decide)).trans ?_
        refine (readFrom_shortEscape rfl rfl rfl).trans ?_
        refine (onward _).trans ?_
        rw [List.reverse_cons, List.reverse_append, List.reverse_replicate, List.append_assoc]
        rfl
    · next other =>
      have plain : c ≠ '"' := fun same => other (beq_iff_eq.mpr same)
      obtain ⟨first, others, shape, noQuote, _⟩ := exists_writtenChar true plain
      have entered (rest : List Char) :
          readFrom .basicLines (behind run) read (writtenChar true c ++ rest) =
            readFrom .basicLines .plain (List.replicate run '"' ++ read)
              (writtenChar true c ++ rest) := by
        rw [shape]
        exact readFrom_behind_other few noQuote
      rw [List.append_assoc]
      refine (entered _).trans ((readFrom_writtenChar rfl rfl plain).trans ((onward _).trans ?_))
      rw [List.reverse_cons, List.reverse_append, List.reverse_replicate, List.append_assoc]
      rfl

theorem le_longestRun (mark : Char) (run : Nat) (text : List Char) :
    run ≤ longestRun mark run text := by
  induction text generalizing run with
  | nil => exact Nat.le_refl run
  | cons c text inductionHypothesis =>
    unfold longestRun
    split
    · exact Nat.le_trans (Nat.le_succ run) (inductionHypothesis (run + 1))
    · exact Nat.le_max_left _ _

theorem readFrom_literalLines {run : Nat} (text read : List Char)
    (few : longestRun '\'' run text < 3)
    (printable : ∀ c ∈ text, isTextChar c = true ∨ c = '\n') (noMark : next ≠ '\'')
    (rest : List Char) :
    readFrom .literalLines (behind run) read
        (text ++ '\'' :: '\'' :: '\'' :: next :: rest) =
      some (read.reverse ++ List.replicate run '\'' ++ text, next :: rest) := by
  induction text generalizing run read with
  | nil =>
    rw [List.append_nil]
    exact readFrom_behind_end rfl few noMark
  | cons c text inductionHypothesis =>
    obtain ⟨first, others⟩ := List.forall_mem_cons.mp printable
    have fewNow : run < 3 := Nat.lt_of_le_of_lt (le_longestRun _ _ _) few
    unfold longestRun at few
    split at few
    · next same =>
      rw [eq_of_beq same]
      have fewer : run + 1 < 3 := Nat.lt_of_le_of_lt (le_longestRun _ _ _) few
      refine (readFrom_behind_mark rfl (by omega)).trans
        ((inductionHypothesis read few others).trans ?_)
      rw [List.replicate_succ', List.append_assoc, List.append_assoc, List.append_assoc]
      rfl
    · next other =>
      have plain : c ≠ '\'' := fun same => other (beq_iff_eq.mpr same)
      have fewLater : longestRun '\'' 0 text < 3 := Nat.lt_of_le_of_lt (Nat.le_max_right _ _) few
      have passed (read rest : List Char) : readFrom .literalLines .plain read (c :: rest) =
          readFrom .literalLines .plain (c :: read) rest := by
        rcases first with printable | rfl
        · exact readFrom_of_isTextChar plain (fun escapes => absurd escapes (by decide)) printable
        · exact readFrom_lineFeed rfl (by decide)
      have onward := inductionHypothesis (c :: (List.replicate run '\'' ++ read)) fewLater others
      refine (readFrom_behind_other fewNow plain).trans ((passed _ _).trans (onward.trans ?_))
      rw [List.reverse_cons, List.reverse_append, List.reverse_replicate, List.replicate_zero,
        List.append_nil, List.append_assoc]
      rfl

/-! ### The quoting for a text -/

/-- What a quoting without escapes needs of a text: nothing that would have to be escaped, and no
marks that would end it. -/
inductive Suits : Quoting → List Char → Prop where
  | basic {text : List Char} : Suits .basic text
  | literal {text : List Char} (printable : ∀ c ∈ text, isTextChar c = true)
    (noMark : '\'' ∉ text) : Suits .literal text
  | basicLines {text : List Char} : Suits .basicLines text
  | literalLines {text : List Char} (printable : ∀ c ∈ text, isTextChar c = true ∨ c = '\n')
    (few : longestRun '\'' 0 text < 3) : Suits .literalLines text

theorem notMem_of_longestRun {mark : Char} {run : Nat} (none : longestRun mark run text = 0) :
    mark ∉ text := by
  induction text generalizing run with
  | nil => exact List.not_mem_nil
  | cons c text inductionHypothesis =>
    unfold longestRun at none
    split at none
    · exact absurd (le_longestRun mark (run + 1) text) (by omega)
    · next differs =>
      have later : longestRun mark 0 text = 0 := (Nat.max_eq_zero_iff.mp none).2
      rintro (_ | ⟨_, member⟩)
      · exact differs (beq_self_eq_true mark)
      · exact inductionHypothesis later member

theorem isTextChar_or_of_not_isControl (noControl : isControl c = false) :
    isTextChar c = true ∨ c = '\n' := by
  by_cases lineFeed : c = '\n'
  · exact .inr lineFeed
  by_cases tab : c = '\t'
  · exact .inl (by rw [tab]; rfl)
  · left
    refine isTextChar_of_not fun control => ?_
    rw [isControl, control, bne_iff_ne.mpr tab, bne_iff_ne.mpr lineFeed] at noControl
    cases noControl

theorem suits_quotingFor (text : List Char) : Suits (quotingFor text) text := by
  have passes (noControls : text.any isControl = false) (c : Char) (member : c ∈ text) :
      isTextChar c = true ∨ c = '\n' :=
    isTextChar_or_of_not_isControl
      (Bool.eq_false_iff.mpr (List.any_eq_false.mp noControls c member))
  unfold quotingFor
  dsimp only
  split
  · exact .basic
  split
  · next plain =>
    simp only [Bool.and_eq_true, Bool.not_eq_true', decide_eq_true_eq] at plain
    obtain ⟨⟨noControls, noMarks⟩, noLineFeed⟩ := plain
    refine .literal (fun c member => ?_) (notMem_of_longestRun noMarks)
    refine (passes noControls c member).resolve_right fun lineFeed => ?_
    rw [lineFeed] at member
    rw [List.contains_iff_mem.mpr member] at noLineFeed
    cases noLineFeed
  split
  · exact .basicLines
  split
  · next plain =>
    simp only [Bool.and_eq_true, Bool.not_eq_true', decide_eq_true_eq] at plain
    obtain ⟨noControls, few⟩ := plain
    exact .literalLines (passes noControls) (Nat.lt_succ_of_le few)
  split
  · exact .basicLines
  · exact .basic

/-! ### Reading a quoted text -/

theorem dropLineEnd_of_ne (noLineFeed : c ≠ '\n') (noCarriage : c ≠ '\r') :
    dropLineEnd (c :: rest) = c :: rest := by
  unfold dropLineEnd
  split
  · next same => exact absurd (List.cons.inj same).1 noLineFeed
  · next same => exact absurd (List.cons.inj same).1 noCarriage
  · rfl

/-- The line end that is written in front is the one that is dropped. -/
theorem dropLineEnd_opening (inside : List Char)
    (begins : '\n' ∉ text → ∃ first others, inside = first :: others ∧ first ≠ '\n' ∧
      first ≠ '\r') :
    dropLineEnd ((if text.contains '\n' then ['\n'] else []) ++ inside) = inside := by
  split
  · rfl
  · next noLineFeed =>
    obtain ⟨first, others, rfl, noLineFeed, noCarriage⟩ :=
      begins fun member => noLineFeed (List.contains_iff_mem.mpr member)
    exact dropLineEnd_of_ne noLineFeed noCarriage

/-- A text that does not begin with three marks is read as one on one line. -/
theorem quotedText?_of_line {mark : Char} (single : ∀ others, rest ≠ mark :: mark :: others) :
    quotedText? (mark :: rest) = lineText? (mark :: rest) := by
  unfold quotedText?
  split
  · next same =>
    obtain ⟨rfl, rfl⟩ := List.cons.inj same
    exact absurd rfl (single _)
  · next same =>
    obtain ⟨rfl, rfl⟩ := List.cons.inj same
    exact absurd rfl (single _)
  · rfl

theorem exists_writtenEscaped (lines : Bool) (run : Nat) (c : Char) (text : List Char) :
    ∃ first others, writtenEscaped lines run (c :: text) = first :: others ∧
      (lines = false → first ≠ '"') ∧ first ≠ '\r' ∧ (first = '\n' → c = '\n') := by
  unfold writtenEscaped
  split
  · split
    · next unescaped =>
      have several : lines = true := (Bool.and_eq_true_iff.mp unescaped).1
      exact ⟨_, _, rfl, fun one => absurd (several.symm.trans one) (by decide), by decide,
        fun same => absurd same (by decide)⟩
    · exact ⟨_, _, rfl, fun _ => by decide, by decide, fun same => absurd same (by decide)⟩
  · next other =>
    obtain ⟨first, others, shape, noQuote, noCarriage, noLineFeed⟩ :=
      exists_writtenChar lines fun same => other (beq_iff_eq.mpr same)
    rw [shape]
    exact ⟨_, _, rfl, fun _ => noQuote, noCarriage, noLineFeed⟩

theorem quotedText?_writtenIn (suits : Suits quoting text) (noDouble : next ≠ '"')
    (noSingle : next ≠ '\'') (rest : List Char) :
    quotedText? (writtenIn quoting text ++ next :: rest) = some (text, next :: rest) := by
  cases suits with
  | basic =>
    have shape : writtenIn .basic text ++ next :: rest =
        '"' :: (writtenEscaped false 0 text ++ '"' :: next :: rest) := by
      simp [writtenIn, Quoting.basic]
    rw [shape, quotedText?_of_line]
    · exact readFrom_writtenEscaped_line text [] (next :: rest) 0
    · intro others same
      cases text with
      | nil => exact noDouble (List.cons.inj (List.cons.inj same).2).1
      | cons c text =>
        obtain ⟨first, after, begins, noQuote, _⟩ := exists_writtenEscaped false 0 c text
        rw [begins] at same
        exact noQuote rfl (List.cons.inj same).1
  | literal printable noMark =>
    have shape : writtenIn .literal text ++ next :: rest =
        '\'' :: (text ++ '\'' :: next :: rest) := by
      simp [writtenIn, Quoting.literal]
    rw [shape, quotedText?_of_line]
    · exact readFrom_literal text [] (next :: rest) noMark printable
    · intro others same
      cases text with
      | nil => exact noSingle (List.cons.inj (List.cons.inj same).2).1
      | cons c text =>
        exact noMark ((List.cons.inj same).1 ▸ List.mem_cons_self)
  | basicLines =>
    have shape : writtenIn .basicLines text ++ next :: rest =
        '"' :: '"' :: '"' :: ((if text.contains '\n' then ['\n'] else []) ++
          (writtenEscaped true 0 text ++ '"' :: '"' :: '"' :: next :: rest)) := by
      simp [writtenIn, Quoting.basicLines]
    rw [shape]
    show readFrom .basicLines .plain [] (dropLineEnd _) = _
    rw [dropLineEnd_opening]
    · exact readFrom_writtenEscaped_lines (by decide : 0 < 3) text [] noDouble rest
    · intro noLineFeed
      cases text with
      | nil => exact ⟨'"', _, rfl, by decide, by decide⟩
      | cons c text =>
        obtain ⟨first, after, begins, _, noCarriage, onlyLineFeed⟩ :=
          exists_writtenEscaped true 0 c text
        rw [begins]
        refine ⟨first, _, rfl, fun same => ?_, noCarriage⟩
        exact noLineFeed (onlyLineFeed same ▸ List.mem_cons_self)
  | literalLines printable few =>
    have shape : writtenIn .literalLines text ++ next :: rest =
        '\'' :: '\'' :: '\'' :: ((if text.contains '\n' then ['\n'] else []) ++
          (text ++ '\'' :: '\'' :: '\'' :: next :: rest)) := by
      simp [writtenIn, Quoting.literalLines]
    rw [shape]
    show readFrom .literalLines .plain [] (dropLineEnd _) = _
    rw [dropLineEnd_opening]
    · exact readFrom_literalLines text [] few printable noSingle rest
    · intro noLineFeed
      cases text with
      | nil => exact ⟨'\'', _, rfl, by decide, by decide⟩
      | cons c text =>
        have first := (printable c List.mem_cons_self).resolve_right fun same =>
          noLineFeed (same ▸ List.mem_cons_self)
        exact ⟨c, _, rfl, ne_of_isTextChar first⟩

/-- What is written begins with a mark. -/
theorem exists_writtenText (text : List Char) :
    ∃ mark others, writtenText text = mark :: others ∧ (mark = '"' ∨ mark = '\'') := by
  unfold writtenText
  have suits := suits_quotingFor text
  generalize quotingFor text = quoting at suits
  cases suits with
  | basic | basicLines => exact ⟨_, _, rfl, .inl rfl⟩
  | literal | literalLines => exact ⟨_, _, rfl, .inr rfl⟩

/-- The quoted text is read back, and what follows it is left. -/
theorem quotedText?_writtenText (noDouble : next ≠ '"') (noSingle : next ≠ '\'')
    (text rest : List Char) :
    quotedText? (writtenText text ++ next :: rest) = some (text, next :: rest) :=
  quotedText?_writtenIn (suits_quotingFor text) noDouble noSingle rest

end Onboarding.Toml
