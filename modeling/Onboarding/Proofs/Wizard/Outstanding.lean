/-
This file proves that a form behind a wizard hands over one submission at a time. The
form itself has no guard: asked to hand in it does so, and a fresh start makes it
forget that values are on their way. What keeps the submissions apart is that going on
and going back do nothing as long as values are on their way. This holds for any plan,
also one without steps, for any rules, and wherever the history is sent meanwhile.

That a submission is outstanding is said here of the moves alone: one of them handed
values over, and none since then reported the end. The mark that the form keeps of it
only appears in the proofs.
-/

import Onboarding.Proofs.Wizard.Moves

namespace Onboarding.Visit

variable {υ : Type} (plan : Plan υ)

/-! ### Moves -/

/-- What can be done with a visit. -/
inductive Move where
  | advance
  | retreat
  | push (place : Location)
  | replace (place : Location)
  | back
  | set (name text : String)
  | touch (name : String)
  /-- What was handed over came to its end. -/
  | finish

/-- A form with rules and a history as the surroundings of navigation. -/
abbrev around : Surroundings (Visit Form) := Form.operations.surroundings

/-- The visit after a move. -/
def make (visit : Visit Form) : Move → Visit Form
  | .advance => (plan.advance around visit).2
  | .retreat => (plan.retreat around visit).2
  | .push place => { visit with history := visit.history.push place }
  | .replace place => { visit with history := visit.history.replace place }
  | .back => { visit with history := visit.history.back }
  | .set name text => { visit with form := visit.form.set name text }
  | .touch name => { visit with form := visit.form.visit name }
  | .finish => { visit with form := visit.form.finish }

/-- The visit after moves, one after the other. -/
def makeAll (visit : Visit Form) (moves : List Move) : Visit Form :=
  moves.foldl (make plan) visit

theorem makeAll_append (visit : Visit Form) (moves others : List Move) :
    visit.makeAll plan (moves ++ others) = (visit.makeAll plan moves).makeAll plan others :=
  List.foldl_append

theorem makeAll_cons (visit : Visit Form) (move : Move) (moves : List Move) :
    visit.makeAll plan (move :: moves) = (visit.make plan move).makeAll plan moves := rfl

/-- The values that a move hands over. -/
def handedOverBy (visit : Visit Form) (move : Move) : List Entries :=
  (visit.make plan move).form.handedOver.drop visit.form.handedOver.length

/-- After the moves a submission is outstanding: one of them handed values over, and none of those
behind it reported the end. -/
def Outstanding (visit : Visit Form) (moves : List Move) : Prop :=
  ∃ before move after, moves = before ++ move :: after ∧
    (visit.makeAll plan before).handedOverBy plan move ≠ [] ∧ Move.finish ∉ after

/-! ### What a move does about the values on their way -/

/-- What a move does to the form, as far as values are handed over and on their way. -/
inductive Effect (before after : Form) : Prop where
  /-- Nothing is handed over, and what was on its way still is. -/
  | kept (handedOver : after.handedOver = before.handedOver)
    (submitting : before.submitting = true → after.submitting = true)
  /-- The values of the form are handed over. -/
  | handedOver (idle : before.submitting = false) (handsOver : before.HandsOver after)

variable (visit : Visit Form)

/-- Asking the form to hand in, after a check. -/
theorem effect_submit (idle : visit.form.submitting = false) :
    Effect visit.form visit.form.validate.submit := by
  have checked := visit.form.keeps_validate
  cases passes : (visit.form.validate.schema.faults visit.form.validate.values).isEmpty with
  | true => exact .handedOver idle (checked.handsOver (Form.handsOver_submit_of_passes _ passes))
  | false =>
    have refused := checked.trans (Form.keeps_submit_of_fails _ passes)
    exact .kept refused.handedOver refused.submitting.trans

theorem effect_advance : Effect visit.form (plan.advance around visit).2.form := by
  rcases plan.advance_cases around visit with
    ⟨_, outcome⟩ | ⟨idle, _, outcome⟩ | ⟨idle, _, next, _, outcome⟩ | ⟨idle, _, _, outcome⟩
  · rw [outcome]
    exact .kept rfl id
  · rw [outcome]
    exact effect_submit visit idle
  · rw [outcome]
    exact .kept rfl fun submitting => nomatch submitting.symm.trans idle
  · rw [outcome]
    exact effect_submit visit idle

/-- Going back leaves the form alone. -/
theorem form_retreat : (plan.retreat around visit).2.form = visit.form := by
  rcases plan.retreat_cases around visit with ⟨_, outcome⟩ | ⟨_, _, outcome⟩ | ⟨_, _, outcome⟩ <;>
    rw [outcome] <;> rfl

/-- Every move but the report of the end keeps values on their way, or hands values over. -/
theorem effect_make {move : Move} (more : move ≠ .finish) :
    Effect visit.form (visit.make plan move).form := by
  cases move with
  | advance => exact effect_advance plan visit
  | retreat =>
    rw [make, form_retreat]
    exact .kept rfl id
  | push | replace | back => exact .kept rfl id
  | set name text =>
    have submitting : (visit.form.set name text).submitting = visit.form.submitting :=
      Form.recheck_submitting _ name
    exact .kept (Form.recheck_handedOver _ name) submitting.trans
  | touch name =>
    have keeps := visit.form.keeps_visit name
    exact .kept keeps.handedOver keeps.submitting.trans
  | finish => exact absurd rfl more

variable {plan visit}

/-- A move that hands values over is made while nothing is on its way. It hands over the values of
the form, which are on their way from then on. -/
theorem handsOver_of_handedOverBy {move : Move}
    (some : visit.handedOverBy plan move ≠ []) :
    visit.form.submitting = false ∧ visit.form.HandsOver (visit.make plan move).form := by
  have changed : (visit.make plan move).form.handedOver ≠ visit.form.handedOver := by
    intro same
    rw [handedOverBy, same, List.drop_length] at some
    exact some rfl
  have more : move ≠ .finish := by
    rintro rfl
    exact changed rfl
  cases effect_make plan visit more with
  | kept handedOver => exact absurd handedOver changed
  | handedOver idle handsOver => exact ⟨idle, handsOver⟩

/-- Each move hands over the values of the form once, or nothing. -/
theorem handedOverBy_eq (plan : Plan υ) (visit : Visit Form) (move : Move) :
    visit.handedOverBy plan move = [] ∨ visit.handedOverBy plan move = [visit.form.values] := by
  refine Classical.or_iff_not_imp_left.mpr fun some => ?_
  obtain ⟨_, handsOver⟩ := handsOver_of_handedOverBy some
  rw [handedOverBy, handsOver.handedOver, List.drop_left]

/-- Values stay on their way through any moves that do not report the end. -/
theorem submitting_makeAll (submitting : visit.form.submitting = true) {moves : List Move}
    (more : Move.finish ∉ moves) : (visit.makeAll plan moves).form.submitting = true := by
  induction moves generalizing visit with
  | nil => exact submitting
  | cons move rest inductionHypothesis =>
    refine inductionHypothesis ?_ (List.not_mem_of_not_mem_cons more)
    cases effect_make plan visit (Ne.symm (List.ne_of_not_mem_cons more)) with
    | kept _ still => exact still submitting
    | handedOver _ handsOver => exact handsOver.submitting

/-- While a submission is outstanding, the form keeps the mark that values are on their way. -/
theorem Outstanding.submitting {moves : List Move} (outstanding : Outstanding plan visit moves) :
    (visit.makeAll plan moves).form.submitting = true := by
  obtain ⟨before, move, after, rfl, some, more⟩ := outstanding
  rw [makeAll_append, makeAll_cons]
  exact submitting_makeAll (handsOver_of_handedOverBy some).2.submitting more

/-! ### One submission at a time -/

/-- For any plan and any visit, whatever the moves: between two moves that hand values over there is
a report of the end; each move hands values over at most once; and while a submission is
outstanding, going on and going back are ignored and leave all of the visit as it is. -/
theorem one_outstanding (plan : Plan υ) (visit : Visit Form) :
    (∀ before first between second,
      (visit.makeAll plan before).handedOverBy plan first ≠ [] →
      (visit.makeAll plan (before ++ first :: between)).handedOverBy plan second ≠ [] →
      Move.finish ∈ between) ∧
    (∀ moves move, ((visit.makeAll plan moves).handedOverBy plan move).length ≤ 1) ∧
    ∀ moves, Outstanding plan visit moves →
      plan.advance around (visit.makeAll plan moves) = (.ignored, visit.makeAll plan moves) ∧
      plan.retreat around (visit.makeAll plan moves) = (.ignored, visit.makeAll plan moves) := by
  refine ⟨fun before first between second some again => ?_, fun moves move => ?_,
    fun moves outstanding => ?_⟩
  · refine Classical.byContradiction fun more => ?_
    have outstanding : Outstanding plan visit (before ++ first :: between) :=
      ⟨before, first, between, rfl, some, more⟩
    exact nomatch outstanding.submitting.symm.trans (handsOver_of_handedOverBy again).1
  · rcases handedOverBy_eq plan (visit.makeAll plan moves) move with none | one
    · rw [none]
      exact Nat.zero_le 1
    · rw [one]
      exact Nat.le_refl 1
  · have submitting := outstanding.submitting
    exact ⟨if_pos submitting, if_pos submitting⟩

/-- Without any steps a form hands over at once, and again only after the report of the end; in
between going on is ignored. -/
theorem one_outstanding_without_steps :
    let plan : Plan Unit := ⟨[], List.nodup_nil⟩
    let visit : Visit Form := ⟨.blank ⟨[]⟩ ["x"], .empty, 0⟩
    let between : List Move := [.push ⟨"/a"⟩, .set "x" "1", .finish]
    let waiting := visit.makeAll plan [.advance]
    visit.handedOverBy plan .advance ≠ [] ∧
      (visit.makeAll plan (.advance :: between)).handedOverBy plan .advance ≠ [] ∧
      .finish ∈ between ∧ Outstanding plan visit [.advance] ∧
      plan.advance around waiting = (.ignored, waiting) := by
  intro plan visit between waiting
  have first : visit.handedOverBy plan .advance ≠ [] := by decide
  have second : (visit.makeAll plan (.advance :: between)).handedOverBy plan .advance ≠ [] := by
    decide
  have outstanding : Outstanding plan visit [.advance] :=
    ⟨[], .advance, [], rfl, first, List.not_mem_nil⟩
  obtain ⟨finished, _, ignored⟩ := one_outstanding plan visit
  exact ⟨first, second, finished [] .advance between .advance first second, outstanding,
    (ignored [.advance] outstanding).1⟩

end Onboarding.Visit
