/-
This file says which texts a pattern matches, by rules that know nothing of reading, and
proves that a pattern accepts just these. A pattern reads a text from left to right and
keeps every pattern that may still match the rest, so it never has to go back where a
repetition could have ended earlier.

The content is in one fact: a pattern matches a text with a first character exactly when
one of those left after this character matches the rest. For a repetition this holds
because rounds that match nothing can be left out.
-/

import Onboarding.Text.Pattern

namespace Onboarding.Text.Pattern

/-- The texts that a pattern matches. -/
inductive Matches : Pattern → List Char → Prop
  | empty : Matches empty []
  | one {kind : CharClass} {c : Char} : kind.contains c = true → Matches (one kind) [c]
  | followed {first second : Pattern} {start rest : List Char} :
      Matches first start → Matches second rest → Matches (followed first second) (start ++ rest)
  | noMore {inner : Pattern} : Matches (many inner) []
  | again {inner : Pattern} {start rest : List Char} :
      Matches inner start → Matches (many inner) rest → Matches (many inner) (start ++ rest)

variable {first second inner : Pattern} {kind : CharClass} {c : Char} {text : List Char}

/-! ### The rules read backwards -/

theorem matches_empty_iff : Matches empty text ↔ text = [] := by
  constructor
  · intro found
    cases found
    rfl
  · rintro rfl
    exact .empty

theorem matches_one_iff :
    Matches (one kind) text ↔ ∃ c, kind.contains c = true ∧ text = [c] := by
  constructor
  · intro found
    cases found with
    | one member => exact ⟨_, member, rfl⟩
  · rintro ⟨c, member, rfl⟩
    exact .one member

theorem matches_followed_iff :
    Matches (followed first second) text ↔
      ∃ start rest, text = start ++ rest ∧ Matches first start ∧ Matches second rest := by
  constructor
  · intro found
    cases found with
    | followed before after => exact ⟨_, _, rfl, before, after⟩
  · rintro ⟨start, rest, rfl, before, after⟩
    exact .followed before after

/-- A repetition matches any number of rounds. -/
theorem matches_many_iff :
    Matches (many inner) text ↔
      ∃ rounds : List (List Char),
        text = rounds.flatten ∧ ∀ round ∈ rounds, Matches inner round := by
  constructor
  · intro found
    generalize isMany : many inner = repeated at found
    induction found with
    | empty | one | followed => cases isMany
    | noMore => exact ⟨[], rfl, fun _ member => nomatch member⟩
    | @again _ start rest round _ _ inductionHypothesis =>
      cases isMany
      obtain ⟨rounds, rfl, each⟩ := inductionHypothesis rfl
      exact ⟨start :: rounds, rfl, List.forall_mem_cons.mpr ⟨round, each⟩⟩
  · rintro ⟨rounds, rfl, each⟩
    induction rounds with
    | nil => exact .noMore
    | cons start rounds inductionHypothesis =>
      obtain ⟨round, others⟩ := List.forall_mem_cons.mp each
      exact .again round (inductionHypothesis others)

/-- A text with a first character has a first round that matches something. -/
theorem matches_many_cons_iff {rest : List Char} :
    Matches (many inner) (c :: rest) ↔
      ∃ start others, rest = start ++ others ∧ Matches inner (c :: start) ∧
        Matches (many inner) others := by
  constructor
  · intro found
    obtain ⟨rounds, split, each⟩ := matches_many_iff.mp found
    induction rounds with
    | nil => cases split
    | cons start rounds inductionHypothesis =>
      obtain ⟨round, others⟩ := List.forall_mem_cons.mp each
      cases start with
      | nil => exact inductionHypothesis split others
      | cons head start =>
        obtain ⟨rfl, rfl⟩ := List.cons.inj split
        exact ⟨start, rounds.flatten, rfl, round, matches_many_iff.mpr ⟨rounds, rfl, others⟩⟩
  · rintro ⟨start, others, rfl, round, later⟩
    exact .again round later

/-! ### Reading -/

theorem matchesEmpty_iff {pattern : Pattern} :
    pattern.matchesEmpty = true ↔ pattern.Matches [] := by
  induction pattern with
  | empty => exact iff_of_true rfl .empty
  | one kind => exact iff_of_false Bool.false_ne_true fun found => nomatch found
  | followed first second ofFirst ofSecond =>
    rw [matchesEmpty, Bool.and_eq_true, ofFirst, ofSecond, matches_followed_iff]
    constructor
    · rintro ⟨before, after⟩
      exact ⟨[], [], rfl, before, after⟩
    · rintro ⟨start, rest, nothing, before, after⟩
      obtain ⟨rfl, rfl⟩ := List.append_eq_nil_iff.mp nothing.symm
      exact ⟨before, after⟩
  | many inner => exact iff_of_true rfl .noMore

/-- One of several patterns followed by the same one matches a text that begins with what one of
them matches. -/
theorem exists_mem_map_followed_iff {pending : List Pattern} :
    (∃ left ∈ pending.map (followed · second), left.Matches text) ↔
      ∃ start others, text = start ++ others ∧ (∃ left ∈ pending, left.Matches start) ∧
        second.Matches others := by
  constructor
  · rintro ⟨_, member, found⟩
    obtain ⟨left, pended, rfl⟩ := List.mem_map.mp member
    obtain ⟨start, others, split, before, later⟩ := matches_followed_iff.mp found
    exact ⟨start, others, split, ⟨left, pended, before⟩, later⟩
  · rintro ⟨start, others, rfl, ⟨left, pended, before⟩, later⟩
    exact ⟨followed left second, List.mem_map_of_mem pended, .followed before later⟩

/-- What a pattern matches from a character on is what one of the patterns left after the character
matches. -/
theorem exists_mem_after_iff {pattern : Pattern} :
    (∃ left ∈ after c pattern, left.Matches text) ↔ pattern.Matches (c :: text) := by
  induction pattern generalizing text with
  | empty => exact iff_of_false (fun ⟨_, member, _⟩ => nomatch member) fun found => nomatch found
  | one kind =>
    rw [matches_one_iff, after]
    by_cases member : kind.contains c = true
    · rw [if_pos member]
      simp only [List.mem_singleton, exists_eq_left, matches_empty_iff, List.cons.injEq]
      exact ⟨fun ended => ⟨c, member, rfl, ended⟩, fun ⟨_, _, _, ended⟩ => ended⟩
    · rw [if_neg member]
      refine iff_of_false (fun ⟨_, impossible, _⟩ => nomatch impossible) ?_
      rintro ⟨other, inside, same⟩
      exact member ((List.cons.inj same).1 ▸ inside)
  | followed first second ofFirst ofSecond =>
    -- The character is read by the first pattern, or by the second if the first matches nothing.
    have passedOver :
        (∃ left ∈ if matchesEmpty first then after c second else [], left.Matches text) ↔
          first.Matches [] ∧ second.Matches (c :: text) := by
      rw [← matchesEmpty_iff, ← ofSecond]
      by_cases nothing : first.matchesEmpty = true
      · rw [if_pos nothing]
        exact (and_iff_right nothing).symm
      · rw [if_neg nothing]
        exact iff_of_false (fun ⟨_, impossible, _⟩ => nomatch impossible) fun both => nothing both.1
    rw [after, matches_followed_iff]
    simp only [List.mem_append, or_and_right, exists_or, exists_mem_map_followed_iff, ofFirst,
      passedOver]
    constructor
    · rintro (⟨start, others, rfl, before, later⟩ | ⟨before, later⟩)
      · exact ⟨c :: start, others, rfl, before, later⟩
      · exact ⟨[], c :: text, rfl, before, later⟩
    · rintro ⟨start, others, split, before, later⟩
      cases start with
      | nil => exact .inr ⟨before, split ▸ later⟩
      | cons head start =>
        obtain ⟨rfl, rfl⟩ := List.cons.inj split
        exact .inl ⟨start, others, rfl, before, later⟩
  | many inner ofInner =>
    rw [matches_many_cons_iff, after, exists_mem_map_followed_iff]
    simp only [ofInner]

/-- One of the patterns left at the end of a text matches nothing exactly when one of the patterns
at its start matches the text. -/
theorem any_foldl_advance_iff {pending : List Pattern} :
    (text.foldl advance pending).any matchesEmpty = true ↔
      ∃ pattern ∈ pending, pattern.Matches text := by
  induction text generalizing pending with
  | nil =>
    rw [List.foldl_nil, List.any_eq_true]
    simp only [matchesEmpty_iff]
  | cons c rest inductionHypothesis =>
    rw [List.foldl_cons, inductionHypothesis]
    simp only [advance, List.mem_eraseDups, List.mem_flatMap, ← exists_mem_after_iff]
    constructor
    · rintro ⟨left, ⟨pattern, pended, member⟩, found⟩
      exact ⟨pattern, pended, left, member, found⟩
    · rintro ⟨pattern, pended, left, member, found⟩
      exact ⟨left, ⟨pattern, pended, member⟩, found⟩

/-- A pattern accepts the texts that it matches. -/
theorem accepts_iff (pattern : Pattern) (text : List Char) :
    pattern.accepts text = true ↔ pattern.Matches text := by
  rw [accepts, any_foldl_advance_iff]
  simp only [List.mem_singleton, exists_eq_left]

/-! ### Runs of characters -/

theorem matches_many_one_iff :
    Matches (many (one kind)) text ↔ ∀ c ∈ text, kind.contains c = true := by
  induction text with
  | nil => exact iff_of_true .noMore fun _ member => nomatch member
  | cons c rest inductionHypothesis =>
    rw [matches_many_cons_iff, List.forall_mem_cons, ← inductionHypothesis]
    constructor
    · rintro ⟨start, others, rfl, round, later⟩
      obtain ⟨_, member, same⟩ := matches_one_iff.mp round
      obtain ⟨rfl, rfl⟩ := List.cons.inj same
      exact ⟨member, later⟩
    · rintro ⟨member, later⟩
      exact ⟨[], rest, rfl, .one member, later⟩

theorem matches_oneOrMore_one_iff :
    Matches (oneOrMore (one kind)) text ↔
      text ≠ [] ∧ ∀ c ∈ text, kind.contains c = true := by
  rw [oneOrMore, matches_followed_iff]
  constructor
  · rintro ⟨start, rest, rfl, before, later⟩
    obtain ⟨c, member, rfl⟩ := matches_one_iff.mp before
    exact ⟨List.cons_ne_nil c rest,
      List.forall_mem_cons.mpr ⟨member, matches_many_one_iff.mp later⟩⟩
  · rintro ⟨some, all⟩
    cases text with
    | nil => exact absurd rfl some
    | cons c rest =>
      obtain ⟨member, later⟩ := List.forall_mem_cons.mp all
      exact ⟨[c], rest, rfl, .one member, matches_many_one_iff.mpr later⟩

end Onboarding.Text.Pattern
