/-
This file says what an email address is, by its parts, and proves that the rule for
addresses asks for just this, apart from blanks around the address. An address is a local
part, an at sign and a domain, and the domain is labels between dots, of which the last
is made of letters.

The pattern of an address does not mention labels between dots: it repeats a dot with a
label, and then asks for a dot with a top label, which such a repetition could have taken
as well. That it comes to the same is shown on the pieces between the dots.
-/

import Onboarding.Form.Rule
import Onboarding.Proofs.Text.Matching
import Onboarding.Proofs.Text.Trimming
import Onboarding.Text.Split

namespace Onboarding

/-! ### Pieces between marks -/

namespace Text

variable {mark : Char}

theorem pieces_append_of_notMem {piece : List Char} (free : mark ∉ piece) (rest : List Char) :
    pieces mark (piece ++ mark :: rest) = piece :: pieces mark rest := by
  induction piece with
  | nil => exact if_pos (beq_self_eq_true mark)
  | cons c piece inductionHypothesis =>
    rw [List.mem_cons, not_or] at free
    rw [List.cons_append, pieces, if_neg (by simpa using Ne.symm free.1),
      inductionHypothesis free.2]

theorem pieces_of_notMem {piece : List Char} (free : mark ∉ piece) :
    pieces mark piece = [piece] := by
  induction piece with
  | nil => rfl
  | cons c piece inductionHypothesis =>
    rw [List.mem_cons, not_or] at free
    rw [pieces, if_neg (by simpa using Ne.symm free.1), inductionHypothesis free.2]

/-- The pieces of a text are those that it is made of, if the mark stands in none of them. -/
theorem pieces_flatMap {first : List Char} {others : List (List Char)} (free : mark ∉ first)
    (freeOthers : ∀ piece ∈ others, mark ∉ piece) :
    pieces mark (first ++ others.flatMap (mark :: ·)) = first :: others := by
  induction others generalizing first with
  | nil => rw [List.flatMap_nil, List.append_nil, pieces_of_notMem free]
  | cons next others inductionHypothesis =>
    obtain ⟨freeNext, freeLater⟩ := List.forall_mem_cons.mp freeOthers
    rw [List.flatMap_cons, List.cons_append, pieces_append_of_notMem free,
      inductionHypothesis freeNext freeLater]

theorem joinPieces_cons (first : List Char) (others : List (List Char)) :
    joinPieces mark (first :: others) = first ++ others.flatMap (mark :: ·) := by
  induction others generalizing first with
  | nil => exact (List.append_nil first).symm
  | cons next others inductionHypothesis =>
    rw [joinPieces, inductionHypothesis, List.flatMap_cons, List.cons_append]
    exact List.cons_ne_nil next others

end Text

namespace EmailAddress

open Text

/-! ### What an address is -/

/-- A label of a domain: one or more letters, digits and hyphens. -/
def IsLabel (label : List Char) : Prop :=
  label ≠ [] ∧ ∀ c ∈ label, c.isAlphanum = true ∨ c = '-'

/-- A last label of a domain: two or more letters. -/
def IsTopLabel (label : List Char) : Prop :=
  2 ≤ label.length ∧ ∀ c ∈ label, c.isAlpha = true

/-- The labels of a domain: two or more, of which the last is a top label. -/
structure AreLabels (labels : List (List Char)) : Prop where
  several : 2 ≤ labels.length
  each : ∀ label ∈ labels, IsLabel label
  last : ∀ label ∈ labels.getLast?, IsTopLabel label

/-- A text that is an address: a local part of letters, digits and a few marks, an at sign, and a
domain. -/
inductive IsAddress : List Char → Prop
  | address {localPart domain : List Char} :
      localPart ≠ [] →
      (∀ c ∈ localPart, c.isAlphanum = true ∨ c ∈ ['.', '_', '%', '+', '-']) →
      AreLabels (pieces '.' domain) → IsAddress (localPart ++ '@' :: domain)

/-! ### Characters -/

theorem latinLetter_contains (c : Char) :
    CharClass.latinLetter.contains c = true ↔ c.isAlpha = true := by
  have parts : c.isAlpha = (c.isUpper || c.isLower) := rfl
  have upper : c.isUpper = decide ('A' ≤ c ∧ c ≤ 'Z') := rfl
  have lower : c.isLower = (decide ('a' ≤ c) && decide (c ≤ 'z')) := rfl
  simp [CharClass.contains, CharClass.latinLetter, parts, upper, lower, or_comm]

theorem contains_union (first second : CharClass) (c : Char) :
    (first.union second).contains c = (first.contains c || second.contains c) :=
  List.any_append

theorem digit_contains (c : Char) : CharClass.digit.contains c = c.isDigit := by
  simp [CharClass.contains, CharClass.digit, Char.isDigit, Char.le_def]

theorem contains_ofList (members : List Char) (c : Char) :
    (CharClass.ofList members).contains c = true ↔ c ∈ members := by
  simp only [CharClass.contains, CharClass.ofList, List.any_map, List.any_eq_true,
    Function.comp_apply, Bool.and_eq_true, decide_eq_true_eq]
  constructor
  · rintro ⟨other, member, low, high⟩
    exact Char.le_antisymm low high ▸ member
  · exact fun member => ⟨c, member, Char.le_refl c, Char.le_refl c⟩

theorem isAlphanum_iff (c : Char) :
    c.isAlphanum = true ↔
      CharClass.latinLetter.contains c = true ∨ CharClass.digit.contains c = true := by
  rw [Char.isAlphanum, Bool.or_eq_true, latinLetter_contains, digit_contains]

theorem localClass_contains (c : Char) :
    localClass.contains c = true ↔
      c.isAlphanum = true ∨ c ∈ ['.', '_', '%', '+', '-'] := by
  rw [localClass, contains_union, contains_union, Bool.or_eq_true, Bool.or_eq_true,
    contains_ofList, isAlphanum_iff, or_assoc]

theorem labelClass_contains (c : Char) :
    labelClass.contains c = true ↔ c.isAlphanum = true ∨ c = '-' := by
  rw [labelClass, contains_union, contains_union, Bool.or_eq_true, Bool.or_eq_true,
    contains_ofList, isAlphanum_iff, or_assoc, List.mem_singleton]

/-! ### Labels -/

theorem matches_label_iff {text : List Char} : label.Matches text ↔ IsLabel text := by
  rw [label, Pattern.matches_oneOrMore_one_iff, IsLabel]
  simp only [labelClass_contains]

theorem matches_topLabel_iff {text : List Char} : topLabel.Matches text ↔ IsTopLabel text := by
  rw [topLabel, Pattern.matches_followed_iff]
  simp only [Pattern.matches_one_iff, Pattern.matches_oneOrMore_one_iff, latinLetter_contains]
  constructor
  · rintro ⟨_, rest, rfl, ⟨c, letter, rfl⟩, some, letters⟩
    refine ⟨?_, List.forall_mem_cons.mpr ⟨letter, letters⟩⟩
    exact Nat.succ_le_succ (List.length_pos_iff.mpr some)
  · rintro ⟨long, letters⟩
    match text with
    | c :: next :: rest =>
      obtain ⟨letter, others⟩ := List.forall_mem_cons.mp letters
      exact ⟨[c], next :: rest, rfl, ⟨c, letter, rfl⟩, List.cons_ne_nil next rest, others⟩

theorem IsTopLabel.isLabel {label : List Char} (top : IsTopLabel label) : IsLabel label := by
  refine ⟨fun empty => ?_, fun c member => .inl ?_⟩
  · obtain ⟨long, _⟩ := top
    rw [empty] at long
    cases long
  · rw [Char.isAlphanum, top.2 c member, Bool.true_or]

theorem IsLabel.dot_notMem {label : List Char} (isLabel : IsLabel label) : '.' ∉ label :=
  fun member => absurd (isLabel.2 '.' member) (by decide)

/-! ### Domains -/

theorem matches_dot_iff {text : List Char} : dot.Matches text ↔ text = ['.'] := by
  rw [dot, Pattern.matches_one_iff]
  simp only [contains_ofList, List.mem_singleton, exists_eq_left]

/-- A repetition of a dot with a label matches labels with a dot before each. -/
theorem matches_dottedLabels_iff {text : List Char} :
    Pattern.Matches (.many (.followed dot label)) text ↔
      ∃ labels : List (List Char), text = labels.flatMap ('.' :: ·) ∧
        ∀ label ∈ labels, IsLabel label := by
  rw [Pattern.matches_many_iff]
  constructor
  · rintro ⟨rounds, rfl, each⟩
    induction rounds with
    | nil => exact ⟨[], rfl, fun _ member => nomatch member⟩
    | cons round rounds inductionHypothesis =>
      obtain ⟨first, others⟩ := List.forall_mem_cons.mp each
      obtain ⟨mark, label, rfl, dotted, isLabel⟩ := Pattern.matches_followed_iff.mp first
      obtain ⟨labels, same, areLabels⟩ := inductionHypothesis others
      refine ⟨label :: labels, ?_,
        List.forall_mem_cons.mpr ⟨matches_label_iff.mp isLabel, areLabels⟩⟩
      rw [List.flatten_cons, same, matches_dot_iff.mp dotted]
      rfl
  · rintro ⟨labels, rfl, each⟩
    refine ⟨labels.map ('.' :: ·), List.flatMap_def, fun round member => ?_⟩
    obtain ⟨label, listed, rfl⟩ := List.mem_map.mp member
    exact .followed (matches_dot_iff.mpr rfl) (matches_label_iff.mpr (each label listed))

/-- What the pattern asks of a domain, in one list of labels. -/
theorem matches_domain_iff {domain : List Char} :
    Pattern.Matches (.sequence [label, .many (.followed dot label), dot, topLabel]) domain ↔
      ∃ first middle top, domain = first ++ (middle ++ [top]).flatMap ('.' :: ·) ∧
        IsLabel first ∧ (∀ label ∈ middle, IsLabel label) ∧ IsTopLabel top := by
  simp only [Pattern.sequence, Pattern.matches_followed_iff, Pattern.matches_empty_iff,
    matches_label_iff, matches_dottedLabels_iff, matches_dot_iff, matches_topLabel_iff]
  constructor
  · rintro ⟨first, _, rfl, isFirst, _, _, rfl, ⟨middle, rfl, each⟩, _, _, rfl, rfl, top, _, rfl,
      isTop, rfl⟩
    refine ⟨first, middle, top, ?_, isFirst, each, isTop⟩
    simp only [List.flatMap_append, List.flatMap_singleton, List.append_nil, List.singleton_append]
  · rintro ⟨first, middle, top, rfl, isFirst, each, isTop⟩
    refine ⟨first, _, rfl, isFirst, _, ['.'] ++ top, ?_, ⟨middle, rfl, each⟩, ['.'], top, rfl, rfl,
      top, [], (List.append_nil top).symm, isTop, rfl⟩
    simp only [List.flatMap_append, List.flatMap_singleton, List.singleton_append]

/-- Labels of a domain are a first one, those between, and the top label. -/
theorem areLabels_iff {labels : List (List Char)} :
    AreLabels labels ↔
      ∃ first middle top, labels = first :: (middle ++ [top]) ∧
        IsLabel first ∧ (∀ label ∈ middle, IsLabel label) ∧ IsTopLabel top := by
  constructor
  · rintro ⟨several, each, last⟩
    match labels with
    | first :: next :: others =>
      obtain ⟨isFirst, rest⟩ := List.forall_mem_cons.mp each
      have found := List.getLast?_eq_some_getLast (List.cons_ne_nil next others)
      obtain ⟨middle, split⟩ := List.getLast?_eq_some_iff.mp found
      refine ⟨first, middle, _, congrArg (first :: ·) split, isFirst, fun label member => ?_, ?_⟩
      · exact rest label (split ▸ List.mem_append_left _ member)
      · exact last _ found
  · rintro ⟨first, middle, top, rfl, isFirst, each, isTop⟩
    refine ⟨by simp, ?_, ?_⟩
    · simp only [List.mem_cons, List.mem_append, List.mem_nil_iff, or_false]
      rintro label (rfl | member | rfl)
      · exact isFirst
      · exact each label member
      · exact isTop.isLabel
    · rw [← List.cons_append, List.getLast?_concat]
      rintro label ⟨⟩
      exact isTop

theorem matches_domain_iff_areLabels {domain : List Char} :
    Pattern.Matches (.sequence [label, .many (.followed dot label), dot, topLabel]) domain ↔
      AreLabels (pieces '.' domain) := by
  rw [matches_domain_iff, areLabels_iff]
  constructor
  · rintro ⟨first, middle, top, rfl, isFirst, each, isTop⟩
    refine ⟨first, middle, top, pieces_flatMap isFirst.dot_notMem ?_, isFirst, each, isTop⟩
    simp only [List.mem_append, List.mem_singleton]
    rintro label (member | rfl)
    · exact (each label member).dot_notMem
    · exact isTop.isLabel.dot_notMem
  · rintro ⟨first, middle, top, split, rest⟩
    refine ⟨first, middle, top, ?_, rest⟩
    rw [← joinPieces_cons, ← split, joinPieces_pieces]

/-! ### Addresses -/

theorem accepts_iff (text : List Char) : accepts text = true ↔ IsAddress text := by
  rw [accepts, Pattern.accepts_iff, pattern, Pattern.sequence, Pattern.matches_followed_iff]
  constructor
  · rintro ⟨localPart, _, rfl, isLocal, rest⟩
    obtain ⟨_, domain, rfl, separator, isDomain⟩ := Pattern.matches_followed_iff.mp rest
    obtain ⟨some, each⟩ := Pattern.matches_oneOrMore_one_iff.mp isLocal
    obtain ⟨c, isAt, rfl⟩ := Pattern.matches_one_iff.mp separator
    rw [contains_ofList, List.mem_singleton] at isAt
    rw [isAt]
    exact .address some (fun c member => (localClass_contains c).mp (each c member))
      (matches_domain_iff_areLabels.mp isDomain)
  · rintro ⟨some, each, areLabels⟩
    have separator : (Pattern.one (.ofList ['@'])).Matches ['@'] := .one (by decide)
    refine ⟨_, _, rfl, ?_, .followed separator (matches_domain_iff_areLabels.mpr areLabels)⟩
    exact Pattern.matches_oneOrMore_one_iff.mpr
      ⟨some, fun c member => (localClass_contains c).mpr (each c member)⟩

/-- The rule for addresses, with whatever message, finds no fault with a text exactly when the text
is an address with blanks around it, or none. -/
theorem fault?_address_eq_none_iff (message : Message) (text : String) :
    Rule.fault? ⟨.address, message⟩ text = none ↔
      ∃ core, IsTrimmed text.toList core ∧ IsAddress core := by
  simp only [← trim_eq_iff, exists_eq_left', ← accepts_iff]
  show (if accepts (trim text.toList) then none else some (message.about text)) = none ↔ _
  by_cases passes : accepts (trim text.toList) = true
  · exact iff_of_true (if_pos passes) passes
  · rw [if_neg passes]
    exact iff_of_false (Option.some_ne_none _) passes

end EmailAddress

end Onboarding
