/-
This file proves that a part of a JSON document is no document. Where an array or an
object ends, nothing but blanks can follow, so a text that is cut off inside of one
cannot be read at all.

The reader of characters never looks at the tokens that it has read, so behind the end
of a token it goes on as from the start; and a document that is complete takes no
further token.
-/

import Onboarding.Proofs.Json.Printing

namespace Onboarding.Json

namespace Lexer

/-! ### Tokens read before -/

/-- The reader with tokens that were read before. -/
def above (before : List Token) (lexer : Lexer) : Lexer :=
  ⟨lexer.mode, lexer.tokens ++ before⟩

theorem stepBetween_above (before tokens : List Token) (c : Char) :
    stepBetween (tokens ++ before) c = (stepBetween tokens c).map (above before) := by
  unfold stepBetween
  split
  · rfl
  · split <;> first | rfl | (split <;> rfl)

/-- What was read before makes no difference to a step. -/
theorem step_above (before : List Token) (lexer : Lexer) (c : Char) :
    (above before lexer).step c = (lexer.step c).map (above before) := by
  obtain ⟨mode, tokens⟩ := lexer
  cases mode with
  | between => exact stepBetween_above before tokens c
  | word left token =>
    cases left with
    | nil => exact stepBetween_above before (token :: tokens) c
    | cons next left =>
      simp only [above, step]
      split <;> rfl
  | whole numeral =>
    have ends := stepBetween_above before (.number numeral :: tokens) c
    simp only [above, step, endNumber]
    split
    · split <;> rfl
    split
    · rfl
    split
    · rfl
    · exact ends
  | fraction numeral digits =>
    have ends := stepBetween_above before
      (.number { numeral with fraction := some digits.reverse } :: tokens) c
    simp only [above, step, endNumber]
    split
    · rfl
    split
    · rfl
    · exact ends
  | exponent numeral negative digits =>
    have ends := stepBetween_above before
      (.number { numeral with exponent := some (negative, digits.reverse) } :: tokens) c
    simp only [above, step, endNumber]
    split
    · rfl
    · exact ends
  | minus | point | sign =>
    simp only [above, step]
    split <;> rfl
  | mark | string =>
    simp only [above, step]
    split
    · rfl
    split
    · rfl
    split <;> rfl
  | escape pieces =>
    simp only [above, step]
    split
    · rfl
    · cases shortEscape? c <;> rfl
  | code pieces left value =>
    simp only [above, step]
    cases hexDigit? c with
    | none => rfl
    | some digit =>
      simp only [Option.map_some]
      split <;> rfl

theorem run_above (before : List Token) (lexer : Lexer) (text : List Char) :
    (above before lexer).run text = (lexer.run text).map (above before) := by
  induction text generalizing lexer with
  | nil => rfl
  | cons c rest inductionHypothesis =>
    rw [run_cons, run_cons, step_above]
    cases lexer.step c with
    | none => rfl
    | some next => exact inductionHypothesis next

theorem finish_above (before : List Token) (lexer : Lexer) :
    (above before lexer).finish = lexer.finish.map (before.reverse ++ ·) := by
  obtain ⟨mode, tokens⟩ := lexer
  cases mode with
  | word left => cases left <;> simp [above, finish]
  | _ => simp [above, finish]

/-- Behind a token that is no number a character is read as between tokens. -/
theorem step_behind {lexer : Lexer} {tokens : List Token} (finished : lexer.finish = some tokens)
    (closed : ∀ numeral, tokens.getLast? ≠ some (.number numeral)) (c : Char) :
    lexer.step c = stepBetween tokens.reverse c := by
  obtain ⟨mode, before⟩ := lexer
  cases mode with
  | between =>
    rw [← Option.some.inj finished, List.reverse_reverse]
    rfl
  | word left token =>
    cases left with
    | nil =>
      rw [← Option.some.inj finished, List.reverse_reverse]
      rfl
    | cons => cases finished
  | whole | fraction | exponent =>
    obtain ⟨numeral, ends⟩ : ∃ numeral, tokens.getLast? = some (.number numeral) := by
      rw [← Option.some.inj finished, List.reverse_cons, List.getLast?_concat]
      exact ⟨_, rfl⟩
    exact absurd ends (closed numeral)
  | _ => cases finished

/-- Behind the end of such a token, what follows is read as if nothing stood before it. -/
theorem exists_tokens?_behind {lexer : Lexer} {tokens all : List Token} {rest : List Char}
    (finished : lexer.finish = some tokens)
    (closed : ∀ numeral, tokens.getLast? ≠ some (.number numeral))
    (read : (lexer.run rest).bind finish = some all) :
    ∃ more, tokens? rest = some more ∧ all = tokens ++ more := by
  cases rest with
  | nil => exact ⟨[], rfl, by rw [List.append_nil, ← Option.some.inj (finished.symm.trans read)]⟩
  | cons c rest =>
    have between : lexer.run (c :: rest) = (above tokens.reverse start).run (c :: rest) := by
      rw [run_cons, run_cons, step_behind finished closed]
      rfl
    rw [between, run_above] at read
    obtain ⟨last, ran, ends⟩ := Option.bind_eq_some_iff.mp read
    obtain ⟨final, ranAlone, rfl⟩ := Option.map_eq_some_iff.mp ran
    rw [finish_above, List.reverse_reverse] at ends
    obtain ⟨more, endsAlone, same⟩ := Option.map_eq_some_iff.mp ends
    refine ⟨more, ?_, same.symm⟩
    rw [tokens?, ranAlone, Option.bind_some, endsAlone]

end Lexer

/-! ### Documents cut off -/

namespace Tree

/-- The document is an array or an object. -/
def IsContainer : Tree → Prop
  | .array _ | .object _ => True
  | _ => False

theorem IsContainer.getLast?_tokens_ne {tree : Tree} (container : tree.IsContainer)
    (numeral : Numeral) : tree.tokens.getLast? ≠ some (.number numeral) := by
  cases tree with
  | array items =>
    rw [tokens_array, ← List.cons_append, List.getLast?_concat]
    exact nofun
  | object members =>
    rw [tokens_object, ← List.cons_append, List.getLast?_concat]
    exact nofun
  | null | bool | number | string => exact container.elim

/-- Behind its own tokens a document takes no other. -/
theorem eq_nil_of_tokens_append {tree other : Tree} {more : List Token}
    (same : other.tokens = tree.tokens ++ more) : more = [] := by
  have made : ofTokens? (tree.tokens ++ more) = some other :=
    ofTokens?_eq_some_iff.mpr same.symm
  obtain ⟨last, ran, -⟩ := Option.bind_eq_some_iff.mp made
  rw [← Assembly.run, Assembly.run_append, Assembly.run_tokens] at ran
  cases more with
  | nil => rfl
  | cons => cases ran

theorem isSpace_of_written_nil {text : List Char} (written : TokensWritten [] text) :
    ∀ c ∈ text, Lexer.isSpace c = true := by
  generalize empty : ([] : List Token) = tokens at written
  induction written with
  | nil => exact fun _ member => nomatch member
  | blank space _ inductionHypothesis =>
    exact List.forall_mem_cons.mpr ⟨space, inductionHypothesis empty⟩
  | cons => cases empty

/-- Behind an array or an object nothing but blanks can follow in a document. -/
theorem isSpace_behind {tree other : Tree} {text rest : List Char} (container : tree.IsContainer)
    (written : tree.Written text) (longer : other.Written (text ++ rest)) :
    ∀ c ∈ rest, Lexer.isSpace c = true := by
  have read := (tokens?_eq_some_iff tree.apart).mpr written
  have readAll := (tokens?_eq_some_iff other.apart).mpr longer
  obtain ⟨lexer, ran, finished⟩ := Option.bind_eq_some_iff.mp read
  rw [tokens?, Lexer.run_append, ran, Option.bind_some] at readAll
  obtain ⟨more, behind, same⟩ :=
    Lexer.exists_tokens?_behind finished container.getLast?_tokens_ne readAll
  rw [eq_nil_of_tokens_append same] at behind
  exact isSpace_of_written_nil (written_of_tokens? behind)

end Tree

end Onboarding.Json
