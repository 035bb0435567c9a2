/-
This file proves that a history is a stack of places. What is stored says more: going
back only moves an index, and the places behind it stay until something is pushed over
them. All the same the present place is always the top of a plain stack on which pushing
adds a place, replacing changes the top, and going back removes it as long as another
one is left below.

The places up to the present one are the stack, read from below. The places behind it are
never seen again, since cutting them off changes nothing that is seen later.
-/

import Onboarding.Proofs.Wizard.Trail

namespace Onboarding.History

/-! ### Requests to a history and to a stack -/

/-- A history that starts at a place, or without any. -/
def opened : Option Location → History
  | some place => startingAt place
  | none => empty

/-- What can be asked of a history. -/
inductive Request where
  | push (place : Location)
  | replace (place : Location)
  | back

/-- The history after a request. -/
def obey (history : History) : Request → History
  | .push place => history.push place
  | .replace place => history.replace place
  | .back => history.back

/-- The history after requests that are made one after the other. -/
def obeyAll (history : History) (requests : List Request) : History :=
  requests.foldl obey history

/-- The stack after a request, its top in front. The last place is not removed. -/
def Request.onStack (stack : List Location) : Request → List Location
  | push place => place :: stack
  | replace place => place :: stack.tail
  | back => if stack.length ≤ 1 then stack else stack.tail

/-- The history without the places that were gone back over. -/
def cut (history : History) : History :=
  { history with places := history.trail }

/-! ### The stack that a history stands for -/

/-- The places up to the present one are those of the stack, and the index is at its top. -/
structure IsStack (history : History) (stack : List Location) : Prop where
  trail : history.trail = stack.reverse
  index : history.index = stack.length - 1

theorem isStack_opened (initial : Option Location) : (opened initial).IsStack initial.toList := by
  cases initial <;> exact ⟨rfl, rfl⟩

namespace IsStack

variable {history : History} {stack : List Location} (isStack : history.IsStack stack)

include isStack

theorem location?_eq : history.location? = stack.head? := by
  rw [History.location?_eq, isStack.trail, isStack.index, ← List.length_reverse,
    ← List.getLast?_eq_getElem?, List.getLast?_reverse]

/-- Where the stack is not empty, the index is that of a place. -/
theorem index_lt (some : stack ≠ []) : history.index < history.places.length := by
  have length := congrArg List.length isStack.trail
  have positive := List.length_pos_iff.mpr some
  rw [History.trail, List.length_take, List.length_reverse, isStack.index] at length
  rw [isStack.index]
  omega

theorem places_eq_nil (none : stack = []) : history.places = [] := by
  have empty := isStack.trail
  rw [none, List.reverse_nil, History.trail, List.take_eq_nil_iff] at empty
  exact empty.resolve_left (Nat.succ_ne_zero _)

theorem push (place : Location) : (history.push place).IsStack (place :: stack) where
  trail := by rw [trail_push, isStack.trail, List.reverse_cons]
  index := by
    rw [index_push, isStack.trail, List.length_reverse, List.length_cons, Nat.add_sub_cancel]

theorem replace (place : Location) : (history.replace place).IsStack (place :: stack.tail) := by
  cases stack with
  | nil =>
    have none := isStack.places_eq_nil rfl
    have first := isStack.index
    rw [History.replace, if_neg (by rw [none]; exact Nat.not_lt_zero _), none]
    exact ⟨by rw [History.trail, first]; rfl, first⟩
  | cons top below =>
    have atTop : history.index = below.reverse.length := by
      rw [isStack.index, List.length_reverse]
      rfl
    rw [History.replace, if_pos (isStack.index_lt (List.cons_ne_nil _ _))]
    refine ⟨?_, isStack.index⟩
    show (history.places.set history.index place).take (history.index + 1) = _
    rw [List.take_set, ← History.trail, isStack.trail, atTop, List.reverse_cons,
      List.set_append_right _ _ (Nat.le_refl _), Nat.sub_self, List.set_cons_zero,
      List.tail_cons, List.reverse_cons]

theorem back : history.back.IsStack (Request.back.onStack stack) := by
  rw [Request.onStack]
  split
  · next few =>
    have first : history.index = 0 := by
      rw [isStack.index]
      exact Nat.sub_eq_zero_of_le few
    rwa [back_of_index_eq_zero history first]
  · next more =>
    have later : 0 < history.index := by
      rw [isStack.index]
      omega
    constructor
    · rw [trail_back history later, isStack.trail, isStack.index, ← List.dropLast_reverse,
        List.dropLast_eq_take, List.length_reverse]
    · rw [History.back, isStack.index, List.length_tail]

theorem obey (request : Request) : (history.obey request).IsStack (request.onStack stack) := by
  cases request with
  | push place => exact isStack.push place
  | replace place => exact isStack.replace place
  | back => exact isStack.back

theorem obeyAll (requests : List Request) :
    (history.obeyAll requests).IsStack (requests.foldl Request.onStack stack) := by
  induction requests generalizing history stack with
  | nil => exact isStack
  | cons request rest inductionHypothesis => exact inductionHypothesis (isStack.obey request)

theorem cut : history.cut.IsStack stack where
  trail := by
    rw [← isStack.trail, History.cut, History.trail, History.trail, List.take_take, Nat.min_self]
  index := isStack.index

end IsStack

/-! ### After any requests -/

/-- After any requests the present place is the top of the stack after the same requests, and the
index is that of a place unless there is none. The places that were gone back over make no
difference to what is seen after any later requests. -/
theorem location?_obeyAll (initial : Option Location) (requests : List Request) :
    let history := (opened initial).obeyAll requests
    let stack := requests.foldl Request.onStack initial.toList
    history.location? = stack.head? ∧
      (history.places ≠ [] → history.index < history.places.length) ∧
      ∀ later, (history.cut.obeyAll later).location? = (history.obeyAll later).location? := by
  intro history stack
  have isStack : history.IsStack stack := (isStack_opened initial).obeyAll requests
  refine ⟨isStack.location?_eq, fun some => ?_, fun later => ?_⟩
  · exact isStack.index_lt fun none => some (isStack.places_eq_nil none)
  · rw [(isStack.obeyAll later).location?_eq, (isStack.cut.obeyAll later).location?_eq]

/-- Replacing a place in the middle, and going on from there. -/
example :
    let history := (opened none).obeyAll
      [.push ⟨"/a"⟩, .push ⟨"/b"⟩, .push ⟨"/c"⟩, .back, .replace ⟨"/d"⟩, .push ⟨"/e"⟩, .back, .back]
    history = ⟨[⟨"/a"⟩, ⟨"/d"⟩, ⟨"/e"⟩], 0⟩ := by decide

end Onboarding.History
