/-
This file holds the splitting of a text at the places where one character
stands. Joining the pieces again gives the text back.
-/

namespace Onboarding.Text

/-- The pieces of a text between the places where the mark stands; there is always one piece. -/
def pieces (mark : Char) : List Char → List (List Char)
  | [] => [[]]
  | c :: rest =>
    if c == mark then [] :: pieces mark rest
    else
      match pieces mark rest with
      | piece :: others => (c :: piece) :: others
      | [] => [[c]]

/-- The pieces one after the other, with the mark between them. -/
def joinPieces (mark : Char) : List (List Char) → List Char
  | [] => []
  | [piece] => piece
  | piece :: others => piece ++ mark :: joinPieces mark others

theorem pieces_ne_nil (mark : Char) (text : List Char) : pieces mark text ≠ [] := by
  cases text with
  | nil => simp [pieces]
  | cons c rest =>
    unfold pieces
    split
    · simp
    · split <;> simp

theorem joinPieces_pieces (mark : Char) (text : List Char) :
    joinPieces mark (pieces mark text) = text := by
  induction text with
  | nil => rfl
  | cons c rest inductionHypothesis =>
    unfold pieces
    cases found : pieces mark rest with
    | nil => exact absurd found (pieces_ne_nil mark rest)
    | cons piece others =>
      rw [found] at inductionHypothesis
      by_cases same : (c == mark) = true
      · rw [if_pos same, joinPieces, inductionHypothesis]
        · simp [beq_iff_eq.mp same]
        · simp
      · rw [if_neg same]
        cases others with
        | nil =>
          simp only [joinPieces] at inductionHypothesis ⊢
          rw [inductionHypothesis]
        | cons next further =>
          simp only [joinPieces] at inductionHypothesis ⊢
          rw [← inductionHypothesis, List.cons_append]

end Onboarding.Text
