/-
This file says in full what going on does to a visit whose form has rules, while no
values are on their way. What decides is which fields of the step on display have a
message that is not empty, and whether a step follows. Any plan will do, also one
without steps, and so will any rules, any history and any state of the form: a step
may name a field twice or one that has no rules, two steps may share a field, a rule may
have an empty message, and a field without a message on this step may break a rule on
another one.

The form is checked twice. The first check tells what is at fault on the step; the
second, when the form is asked to hand in, looks at all fields and can refuse where the
first had nothing to say.
-/

import Onboarding.Proofs.Wizard.Outstanding
import Onboarding.Proofs.Wizard.Trail

namespace Onboarding

/-! ### What the rules say -/

/-- A field without a message has the empty text as its message. -/
theorem Schema.getText_faults_ne (schema : Schema) (values : Entries) (name : String) :
    ((schema.faults values).getText name != "") = (schema.fault? name values).any (· != "") := by
  rw [getText_faults]
  cases schema.fault? name values <;> rfl

/-- Where a field has a message, the values do not pass. -/
theorem Schema.isEmpty_faults_of_some {schema : Schema} {values : Entries} {name message : String}
    (found : schema.fault? name values = some message) :
    (schema.faults values).isEmpty = false := by
  refine Bool.eq_false_iff.mpr fun empty => ?_
  have absent := (Entries.isEmpty_iff _).mp empty name
  rw [get?_faults, found] at absent
  cases absent

/-- After going on to a place, that place is the present one. -/
theorem History.location?_push (history : History) (place : Location) :
    (history.push place).location? = some place := by
  rw [location?_eq, trail_push, index_push, List.getElem?_concat_length]

/-- Being asked to hand in shows the message about each field that has one. -/
theorem Form.shownFault?_submit {form : Form} {name message : String}
    (found : form.schema.fault? name form.values = some message) :
    form.submit.shownFault? name = some message := by
  rw [submit_of_fails form (Schema.isEmpty_faults_of_some found)]
  have known : name ∈ form.schema.fieldNames := by
    refine Decidable.byContradiction fun unknown => ?_
    rw [form.schema.fault?_of_notMem form.values unknown] at found
    cases found
  refine (if_pos ?_).trans ((Schema.get?_faults _ _ _).trans found)
  exact (isVisited_iff _ name).mpr ((mem_visitAll _ _ name).mpr (.inr known))

namespace Visit

variable {υ : Type} (plan : Plan υ)

/-! ### What decides -/

/-- The fields of the step on display about which the rules have a message that is not empty, in
the order of the step. -/
def broken (visit : Visit Form) : List String :=
  ((plan.current? around visit).map plan.fieldsAt |>.getD []).filter fun field =>
    (visit.form.schema.fault? field visit.form.values).any (· != "")

theorem fieldsAtFault_eq_broken (visit : Visit Form) :
    plan.fieldsAtFault (plan.current? around visit)
      (visit.form.schema.faults visit.form.values) = visit.broken plan := by
  rw [Plan.fieldsAtFault, broken]
  exact List.filter_congr fun field _ => Schema.getText_faults_ne _ _ field

theorem exists_message_of_mem_broken {visit : Visit Form} {field : String}
    (member : field ∈ visit.broken plan) :
    ∃ message, message ≠ "" ∧
      visit.form.schema.fault? field visit.form.values = some message := by
  obtain ⟨message, found, some⟩ := (Option.any_eq_true _ _).mp (List.mem_filter.mp member).2
  exact ⟨message, by simpa using some, found⟩

/-! ### What comes of it -/

/-- Nothing but messages and visits of fields: the fields named show what is wrong with them. -/
structure Refused (before after : Visit Form) (fields : List String) : Prop where
  keeps : before.form.Keeps after.form
  history : after.history = before.history
  exits : after.exits = before.exits
  shown : ∀ field ∈ fields, ∃ message, message ≠ "" ∧
    before.form.schema.fault? field before.form.values = some message ∧
      after.form.shownFault? field = some message

/-- The place is the present one, and the form starts afresh with its values. -/
structure MovedTo (before after : Visit Form) (place : Location) : Prop where
  keeps : before.form.Keeps after.form
  location : after.history.location? = some place
  exits : after.exits = before.exits
  faults : after.form.faults = .empty
  silent : ∀ field, after.form.shownFault? field = none

/-- The form was asked to hand in. It hands its values over, once and as they are, if all of them
pass, and nothing otherwise. -/
structure HandedIn (before after : Visit Form) : Prop where
  history : after.history = before.history
  exits : after.exits = before.exits
  values : after.form.values = before.form.values
  accepted : (before.form.schema.faults before.form.values).isEmpty = true →
    before.form.HandsOver after.form
  declined : (before.form.schema.faults before.form.values).isEmpty = false →
    before.form.Keeps after.form

variable {visit : Visit Form}

theorem refused_submit (broken : visit.broken plan ≠ []) :
    visit.Refused { visit with form := visit.form.validate.submit } (visit.broken plan) := by
  have shown : ∀ field ∈ visit.broken plan, ∃ message, message ≠ "" ∧
      visit.form.schema.fault? field visit.form.values = some message ∧
        visit.form.validate.submit.shownFault? field = some message := by
    intro field member
    obtain ⟨message, notEmpty, found⟩ := exists_message_of_mem_broken plan member
    exact ⟨message, notEmpty, found, Form.shownFault?_submit found⟩
  obtain ⟨field, member⟩ := List.exists_mem_of_ne_nil _ broken
  obtain ⟨message, _, found⟩ := exists_message_of_mem_broken plan member
  have fails := visit.form.validate.keeps_submit_of_fails (Schema.isEmpty_faults_of_some found)
  exact ⟨visit.form.keeps_validate.trans fails, rfl, rfl, shown⟩

theorem movedTo_push (idle : visit.form.submitting = false) (place : Location) :
    visit.MovedTo { visit with
      form := visit.form.validate.reset visit.form.validate.values
      history := visit.history.push place } place where
  keeps := ⟨rfl, rfl, idle.symm, rfl⟩
  location := visit.history.location?_push place
  exits := rfl
  faults := rfl
  silent _ := rfl

theorem handedIn_submit (visit : Visit Form) :
    visit.HandedIn { visit with form := visit.form.validate.submit } where
  history := rfl
  exits := rfl
  values := visit.form.validate.submit_values
  accepted passes :=
    visit.form.keeps_validate.handsOver (visit.form.validate.handsOver_submit_of_passes passes)
  declined fails :=
    visit.form.keeps_validate.trans (visit.form.validate.keeps_submit_of_fails fails)

/-! ### Going on -/

/-- Whatever the plan, the rules, the history and the form, going on while no values are on their
way: names the fields of the step that break a rule and shows what is wrong with them; or, when
there are none, moves to the step that follows; or, when none follows, asks the form to hand in.
The control for going on announces which of the last two it would be. -/
theorem advance_of_idle (plan : Plan υ) (visit : Visit Form)
    (idle : visit.form.submitting = false) :
    let outcome := (plan.advance around visit).1
    let after := (plan.advance around visit).2
    let following := plan.following? around visit
    (visit.broken plan ≠ [] →
      outcome = .blocked (visit.broken plan) ∧ visit.Refused after (visit.broken plan)) ∧
    (visit.broken plan = [] → ∀ next, following = some next →
      outcome = .moved next ∧ visit.MovedTo after next) ∧
    (visit.broken plan = [] → following = none →
      outcome = .submitted ∧ visit.HandedIn after) ∧
    plan.forwardLabel around visit = (if following.isSome then .goOn else .finish) := by
  intro outcome after following
  have decides := fieldsAtFault_eq_broken plan visit
  refine ⟨fun broken => ?_, fun faultless next found => ?_, fun faultless last => ?_, ?_⟩
  · have result : plan.advance around visit =
        (.blocked (visit.broken plan), { visit with form := visit.form.validate.submit }) := by
      have faulty := broken
      rw [← decides] at faulty ⊢
      exact plan.advance_of_faulty idle faulty
    show (plan.advance around visit).1 = _ ∧ visit.Refused (plan.advance around visit).2 _
    rw [result]
    exact ⟨rfl, refused_submit plan broken⟩
  · have result : plan.advance around visit =
        (.moved next, { visit with
          form := visit.form.validate.reset visit.form.validate.values
          history := visit.history.push next }) :=
      plan.advance_of_following idle (decides.trans faultless) found
    show (plan.advance around visit).1 = _ ∧ visit.MovedTo (plan.advance around visit).2 _
    rw [result]
    exact ⟨rfl, movedTo_push idle next⟩
  · have result : plan.advance around visit =
        (.submitted, { visit with form := visit.form.validate.submit }) :=
      plan.advance_of_last idle (decides.trans faultless) last
    show (plan.advance around visit).1 = _ ∧ visit.HandedIn (plan.advance around visit).2
    rw [result]
    exact ⟨rfl, handedIn_submit visit⟩
  · have free : around.submitting visit ≠ true := Bool.eq_false_iff.mp idle
    exact if_neg free

/-- A step that names a field twice and one without rules, entered from a place that is no step's;
and a last step with an empty message about its field, which does not hold the wizard back but the
form. -/
theorem advance_of_empty_message :
    let rules : Schema :=
      ⟨[("name", [⟨.notEmpty, "Missing"⟩]), ("name", []), ("hint", [⟨.notEmpty, ""⟩])]⟩
    let plan : Plan Unit :=
      ⟨[⟨⟨"/a"⟩, (), ["hint", "name", "other", "name"]⟩, ⟨⟨"/b"⟩, (), ["hint"]⟩], by decide⟩
    let visit : Visit Form := ⟨.blank rules ["name"], .startingAt ⟨"/elsewhere"⟩, 0⟩
    let filled : Visit Form := { visit with form := visit.form.set "name" "Ada" }
    let last := (plan.advance around filled).2
    visit.form.submitting = false ∧ filled.form.submitting = false ∧
      last.form.submitting = false ∧
      (plan.advance around visit).1 = .blocked ["name", "name"] ∧
      (plan.advance around filled).1 = .moved ⟨"/b"⟩ ∧ filled.MovedTo last ⟨"/b"⟩ ∧
      (plan.advance around last).1 = .submitted ∧
      last.form.Keeps (plan.advance around last).2.form ∧
      plan.forwardLabel around last = .finish := by
  intro rules plan visit filled last
  have idleLast : last.form.submitting = false := by decide
  obtain ⟨blocked, _⟩ := advance_of_idle plan visit rfl
  obtain ⟨_, moves, _⟩ := advance_of_idle plan filled rfl
  obtain ⟨_, _, handsIn, label⟩ := advance_of_idle plan last idleLast
  have moved := moves (by decide) ⟨"/b"⟩ (by decide)
  have handedIn := handsIn (by decide) (by decide)
  refine ⟨rfl, rfl, idleLast, ?_, moved.1, moved.2, handedIn.1, handedIn.2.declined (by decide), ?_⟩
  · exact (blocked (by decide)).1
  · exact label

end Visit

end Onboarding
