/-
This file proves that the answers to going on and going back tell exactly what was asked of
the form, of the history and of the way out. Each answer stands for certain calls in a
certain order, whatever the surroundings answer: the form may say that nothing is on its
way although it was just asked to hand in, and find other faults at every check. So the
calls of any number of moves can be counted from the answers alone.

A move puts no question twice. Each move meets surroundings of its own here, so that every
single question may be answered in any way; what changes them between two moves is part of
those that the second one meets.
-/

import Onboarding.Proofs.Wizard.Moves

namespace Onboarding

variable {υ ω : Type}

namespace Surroundings

/-! ### Calls -/

/-- What surroundings are called for, beside looks at them. -/
inductive Call where
  | validate
  | submit
  /-- The form is given values as a fresh start, and held these or others before. -/
  | reset (held given : Entries)
  | push (place : Location)
  | back
  | leave
  deriving DecidableEq, Repr

namespace Call

/-- Whether the form is given values. -/
def isReset : Call → Bool
  | reset _ _ => true
  | _ => false

/-- The place that the history goes on to. -/
def pushed? : Call → Option Location
  | push place => some place
  | _ => none

end Call

/-- The surroundings with a record of the calls. -/
def logged (around : Surroundings ω) : Surroundings (ω × List Call) where
  values world := around.values world.1
  submitting world := around.submitting world.1
  validate world :=
    let (faults, next) := around.validate world.1
    (faults, next, world.2 ++ [.validate])
  submit world := (around.submit world.1, world.2 ++ [.submit])
  reset values world :=
    (around.reset values world.1, world.2 ++ [.reset (around.values world.1) values])
  location? world := around.location? world.1
  push place world := (around.push place world.1, world.2 ++ [.push place])
  back world := (around.back world.1, world.2 ++ [.back])
  leave world := (around.leave world.1, world.2 ++ [.leave])

/-! ### Moves and their answers -/

/-- A move, with the surroundings that it meets. -/
inductive Move (ω : Type) where
  | advance (around : Surroundings ω)
  | retreat (around : Surroundings ω)

/-- The move with a record of the calls that it makes. -/
def Move.logged : Move ω → Move (ω × List Call)
  | advance around => advance around.logged
  | retreat around => retreat around.logged

/-- What a move is answered with. -/
inductive MoveAnswer where
  | advanced (outcome : Advance)
  | retreated (outcome : Retreat)
  deriving DecidableEq, Repr

namespace MoveAnswer

/-- Nothing was done. -/
def isIgnored : MoveAnswer → Bool
  | advanced .ignored | retreated .ignored => true
  | _ => false

/-- The wizard was asked to go on, and that was not ignored. -/
def isChecked : MoveAnswer → Bool
  | advanced .ignored => false
  | advanced _ => true
  | retreated _ => false

/-- The wizard was asked to go on, and a field was at fault or no step followed. -/
def isHandedIn : MoveAnswer → Bool
  | advanced (.blocked _) | advanced .submitted => true
  | _ => false

/-- The place that the wizard moved on to. -/
def movedTo? : MoveAnswer → Option Location
  | advanced (.moved place) => some place
  | _ => none

/-- The wizard was left. -/
def isExited : MoveAnswer → Bool
  | retreated .exited => true
  | _ => false

/-- The wizard was asked to go back, and that was not ignored. -/
def isBack : MoveAnswer → Bool
  | retreated .exited | retreated .back => true
  | _ => false

/-- The calls that an answer stands for, one after the other, where the form held the values. -/
def calls (held : Entries) : MoveAnswer → List Call
  | advanced .ignored | retreated .ignored => []
  | advanced (.blocked _) | advanced .submitted => [.validate, .submit]
  | advanced (.moved place) => [.validate, .reset held held, .push place]
  | retreated .exited => [.leave, .back]
  | retreated .back => [.back]

end MoveAnswer

end Surroundings

open Surroundings

namespace Plan

variable (plan : Plan υ)

/-- The answer to a move and the world after it. -/
def make (world : ω) : Move ω → MoveAnswer × ω
  | .advance around =>
    let (outcome, after) := plan.advance around world
    (.advanced outcome, after)
  | .retreat around =>
    let (outcome, after) := plan.retreat around world
    (.retreated outcome, after)

/-- The answers to moves that are made one after the other, and the world after them. -/
def makeAll (world : ω) : List (Move ω) → List MoveAnswer × ω
  | [] => ([], world)
  | move :: rest =>
    let (answer, next) := plan.make world move
    let (answers, after) := makeAll next rest
    (answer :: answers, after)

/-! ### One move -/

section

variable (around : Surroundings ω) (world : ω) (before : List Call)

/-- Going on calls for what its outcome stands for, with the values that the form holds after the
check; and the record of the calls does not change what comes of it. -/
theorem advance_logged :
    plan.advance around.logged (world, before) =
      ((plan.advance around world).1, (plan.advance around world).2,
        before ++ (MoveAnswer.advanced (plan.advance around world).1).calls
          (around.values (around.validate world).2)) := by
  cases submitting : around.submitting world with
  | true =>
    have busy : around.logged.submitting (world, before) = true := submitting
    rw [plan.advance_of_submitting submitting, plan.advance_of_submitting busy]
    simp [MoveAnswer.calls]
  | false =>
    have idle : around.logged.submitting (world, before) = false := submitting
    by_cases faultless : plan.fieldsAtFault (plan.current? around (around.validate world).2)
        (around.validate world).1 = []
    · cases following : plan.following? around (around.validate world).2 with
      | some next =>
        rw [plan.advance_of_following submitting faultless following,
          plan.advance_of_following idle faultless following]
        simp [logged, MoveAnswer.calls]
      | none =>
        rw [plan.advance_of_last submitting faultless following,
          plan.advance_of_last idle faultless following]
        simp [logged, MoveAnswer.calls]
    · rw [plan.advance_of_faulty submitting faultless, plan.advance_of_faulty idle faultless]
      show (Advance.blocked _, around.submit _, (before ++ [.validate]) ++ [.submit]) = _
      rw [List.append_assoc]
      rfl

theorem retreat_logged :
    plan.retreat around.logged (world, before) =
      ((plan.retreat around world).1, (plan.retreat around world).2,
        before ++ (MoveAnswer.retreated (plan.retreat around world).1).calls .empty) := by
  cases submitting : around.submitting world with
  | true =>
    have busy : around.logged.submitting (world, before) = true := submitting
    rw [plan.retreat_of_submitting submitting, plan.retreat_of_submitting busy]
    simp [MoveAnswer.calls]
  | false =>
    have idle : around.logged.submitting (world, before) = false := submitting
    rw [plan.retreat_of_idle submitting, plan.retreat_of_idle idle]
    show (if ((plan.current? around world).map plan.isFirst).getD false then _ else _) = _
    split <;> simp [logged, MoveAnswer.calls]

end

/-- A move calls for what its answer stands for, and the record of the calls does not change what
comes of it. -/
theorem exists_make_logged (world : ω) (before : List Call) (move : Move ω) :
    ∃ held, plan.make (world, before) move.logged =
      ((plan.make world move).1, (plan.make world move).2,
        before ++ (plan.make world move).1.calls held) := by
  cases move with
  | advance around => exact ⟨_, by rw [Move.logged, make, advance_logged]; rfl⟩
  | retreat around => exact ⟨_, by rw [Move.logged, make, retreat_logged]; rfl⟩

/-- A move that is ignored leaves the world as it was. -/
theorem make_of_isIgnored {world : ω} {move : Move ω}
    (ignored : (plan.make world move).1.isIgnored = true) : (plan.make world move).2 = world := by
  cases move with
  | advance around =>
    rw [make] at ignored ⊢
    rcases plan.advance_cases around world with
      ⟨_, outcome⟩ | ⟨_, _, outcome⟩ | ⟨_, _, _, _, outcome⟩ | ⟨_, _, _, outcome⟩ <;>
      rw [outcome] at ignored ⊢
    all_goals cases ignored
  | retreat around =>
    rw [make] at ignored ⊢
    rcases plan.retreat_cases around world with ⟨_, outcome⟩ | ⟨_, _, outcome⟩ | ⟨_, _, outcome⟩ <;>
      rw [outcome] at ignored ⊢
    all_goals cases ignored

end Plan

/-! ### Any number of moves -/

namespace Surroundings

/-- The calls are those that the answers stand for, one answer after the other. -/
inductive StandFor : List MoveAnswer → List Call → Prop
  | nil : StandFor [] []
  | cons (answer : MoveAnswer) (held : Entries) {answers : List MoveAnswer} {calls : List Call}
    (others : StandFor answers calls) : StandFor (answer :: answers) (answer.calls held ++ calls)

namespace StandFor

variable {answers : List MoveAnswer} {calls : List Call} (standFor : StandFor answers calls)

include standFor

/-- Where one kind of call is made once for one kind of answer and never for another, there are as
many of the one as of the other. -/
theorem countP_eq {isCall : Call → Bool} {isAnswer : MoveAnswer → Bool}
    (once : ∀ (answer : MoveAnswer) held,
      (answer.calls held).countP isCall = if isAnswer answer then 1 else 0) :
    calls.countP isCall = answers.countP isAnswer := by
  induction standFor with
  | nil => rfl
  | cons answer held others inductionHypothesis =>
    rw [List.countP_append, List.countP_cons, once, inductionHypothesis, Nat.add_comm]

theorem pushed : calls.filterMap Call.pushed? = answers.filterMap MoveAnswer.movedTo? := by
  induction standFor with
  | nil => rfl
  | cons answer held others inductionHypothesis =>
    rw [List.filterMap_append, inductionHypothesis, List.filterMap_cons]
    rcases answer with (_ | _ | _ | _) | _ | _ | _ <;> rfl

/-- The form is given no values but those that it holds. -/
theorem given_eq {held given : Entries} (member : .reset held given ∈ calls) : given = held := by
  induction standFor with
  | nil => cases member
  | cons answer values others inductionHypothesis =>
    refine (List.mem_append.mp member).elim (fun here => ?_) inductionHypothesis
    rcases answer with (_ | _ | _ | _) | _ | _ | _ <;> simp [MoveAnswer.calls] at here
    exact here.2.trans here.1.symm

end StandFor

end Surroundings

namespace Plan

theorem exists_standFor (plan : Plan υ) (world : ω) (before : List Call) (moves : List (Move ω)) :
    ∃ calls, StandFor (plan.makeAll world moves).1 calls ∧
      plan.makeAll (world, before) (moves.map Move.logged) =
        ((plan.makeAll world moves).1, (plan.makeAll world moves).2, before ++ calls) := by
  induction moves generalizing world before with
  | nil => exact ⟨[], .nil, by rw [List.append_nil]; rfl⟩
  | cons move rest inductionHypothesis =>
    obtain ⟨held, made⟩ := plan.exists_make_logged world before move
    obtain ⟨calls, standFor, madeAll⟩ := inductionHypothesis (plan.make world move).2
      (before ++ (plan.make world move).1.calls held)
    refine ⟨_, .cons _ held standFor, ?_⟩
    rw [List.map_cons, makeAll, made]
    dsimp only
    rw [madeAll, List.append_assoc]
    rfl

/-- For any plan and any moves, each with surroundings of its own: the record of the calls does not
change what comes of the moves, and the answers tell how often each call was made. The form was
checked once for each request to go on that was not ignored, asked to hand in once for each that was
blocked or submitted, and given values once for each that moved on, the very values that it held;
the history was sent on to the places that the answers name, in order; the wizard was left once for
each answer that says so, and the history sent back once for each of these and for each answer that
it went back. A move that is ignored calls for nothing. -/
theorem makeAll_calls (plan : Plan υ) (world : ω) (moves : List (Move ω)) :
    let run := plan.makeAll (world, []) (moves.map Move.logged)
    let answers := run.1
    let after := run.2.1
    let calls := run.2.2
    plan.makeAll world moves = (answers, after) ∧
      calls.count .validate = answers.countP MoveAnswer.isChecked ∧
      calls.count .submit = answers.countP MoveAnswer.isHandedIn ∧
      calls.countP Call.isReset = answers.countP (·.movedTo?.isSome) ∧
      (∀ held given, .reset held given ∈ calls → given = held) ∧
      calls.filterMap Call.pushed? = answers.filterMap MoveAnswer.movedTo? ∧
      calls.count .leave = answers.countP MoveAnswer.isExited ∧
      calls.count .back = answers.countP MoveAnswer.isBack ∧
      ∀ move : Move ω, (plan.make (after, calls) move.logged).1.isIgnored = true →
        (plan.make (after, calls) move.logged).2 = (after, calls) := by
  intro run
  obtain ⟨calls, standFor, whole⟩ := plan.exists_standFor world [] moves
  have whole : run = _ := whole
  rw [whole, List.nil_append]
  refine ⟨rfl, ?_, ?_, ?_, fun _ _ => standFor.given_eq, standFor.pushed, ?_, ?_,
    fun _ => plan.make_of_isIgnored⟩
  -- Each kind of call is held against every answer.
  all_goals
    refine standFor.countP_eq ?_
    rintro ((_ | _ | _ | _) | _ | _ | _) held <;> rfl

end Plan

end Onboarding
