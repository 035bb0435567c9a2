/-
This file proves that the messages of a form are never out of date. A form keeps
the messages found last and checks again only what a request may have changed: one
field, all of them, or none. Whatever it is asked to do, in whatever order, each
message it keeps is what checking that field now gives, and for a visited field the
absence of a message is up to date as well.

The content is in two facts. Checking the whole form finds for each name what
checking that name alone finds, also when the schema lists a name twice. And the
message about a name depends on the value under that name only, so a change of
one value cannot make the message about another field wrong.
-/

import Onboarding.Form.State

namespace Onboarding

/-! ### What a list of entries holds -/

namespace Entries

theorem mem_toList_iff (entries : Entries) (name text : String) :
    (name, text) ∈ entries.toList ↔ entries.get? name = some text := by
  obtain ⟨pairs, distinct⟩ := entries
  simp only [get?]
  induction pairs with
  | nil => simp
  | cons pair rest inductionHypothesis =>
    rw [List.map_cons, List.nodup_cons] at distinct
    rw [List.mem_cons, inductionHypothesis distinct.2, lookup_cons]
    by_cases same : name = pair.1
    · have absent : rest.lookup name ≠ some text := by
        intro found
        have member := (inductionHypothesis distinct.2).mpr found
        exact distinct.1 (same ▸ List.mem_map_of_mem member)
      rw [if_pos same]
      constructor
      · rintro (equal | found)
        · rw [← equal]
        · exact absurd found absent
      · intro equal
        exact Or.inl (Prod.ext same (Option.some.inj equal).symm)
    · rw [if_neg same]
      constructor
      · rintro (equal | found)
        · exact absurd (congrArg Prod.fst equal) same
        · exact found
      · exact Or.inr

/-- There is no entry exactly when nothing is found under any name. -/
theorem isEmpty_iff (entries : Entries) :
    entries.isEmpty = true ↔ ∀ name, entries.get? name = none := by
  rw [isEmpty, List.isEmpty_iff]
  constructor
  · intro empty name
    rw [get?, empty, List.lookup_nil]
  · intro absent
    refine List.eq_nil_iff_forall_not_mem.mpr fun pair member => ?_
    have found := (mem_toList_iff entries pair.1 pair.2).mp member
    rw [absent pair.1] at found
    cases found

/-- A text under a name that has one already adds no name. -/
theorem names_set_of_mem (entries : Entries) {name : String} (text : String)
    (known : name ∈ entries.names) : (entries.set name text).names = entries.names := by
  obtain ⟨pairs, distinct⟩ := entries
  have kept : (put name text pairs).map Prod.fst = pairs.map Prod.fst := by
    have member : name ∈ pairs.map Prod.fst := known
    clear known distinct
    induction pairs with
    | nil => cases member
    | cons pair rest inductionHypothesis =>
      by_cases same : pair.1 = name
      · rw [put, if_pos same, List.map_cons, List.map_cons, same]
      · have later : name ∈ rest.map Prod.fst := by
          rcases List.mem_cons.mp member with equal | later
          · exact absurd equal.symm same
          · exact later
        rw [put, if_neg same, List.map_cons, List.map_cons, inductionHypothesis later]
  exact kept

theorem get?_foldl_set (pairs : List (String × String)) (entries : Entries) (name : String) :
    (pairs.foldl (fun entries pair => entries.set pair.1 pair.2) entries).get? name =
      (pairs.reverse.lookup name).or (entries.get? name) := by
  induction pairs generalizing entries with
  | nil => rfl
  | cons pair rest inductionHypothesis =>
    rw [List.foldl_cons, inductionHypothesis, get?_set, List.reverse_cons, List.lookup_append,
      lookup_cons]
    cases rest.reverse.lookup name with
    | some text => rfl
    | none =>
      simp only [Option.none_or, List.lookup_nil]
      split <;> rfl

/-- Of the texts that a list gives under one name, the last is kept. -/
theorem get?_ofList (pairs : List (String × String)) (name : String) :
    (ofList pairs).get? name = pairs.reverse.lookup name := by
  rw [ofList, get?_foldl_set, get?_empty, Option.or_none]

end Entries

/-! ### Checking one field and checking all -/

namespace Schema

/-- Pairs that are read off one function are found again by that function. -/
theorem lookup_filterMap (message : String → Option String) (names : List String)
    (name : String) :
    (names.filterMap fun other => (message other).map fun text => (other, text)).lookup name =
      if name ∈ names then message name else none := by
  induction names with
  | nil => rfl
  | cons other rest inductionHypothesis =>
    cases found : message other with
    | none =>
      rw [List.filterMap_cons_none (by rw [found, Option.map_none]), inductionHypothesis]
      by_cases same : name = other
      · rw [same, found, ite_self, ite_self]
      · simp only [List.mem_cons, same, false_or]
    | some text =>
      rw [List.filterMap_cons_some (by rw [found, Option.map_some]), Entries.lookup_cons,
        inductionHypothesis]
      by_cases same : name = other
      · rw [if_pos same, if_pos (same ▸ List.mem_cons_self), same, found]
      · rw [if_neg same]
        simp only [List.mem_cons, same, false_or]

theorem lookup_eq_none_iff {schema : Schema} {name : String} :
    schema.fields.lookup name = none ↔ name ∉ schema.fieldNames := by
  rw [List.lookup_eq_none_iff, fieldNames, List.mem_map, not_exists]
  refine forall_congr' fun entry => ?_
  rw [bne_iff_ne, not_and, ne_comm]

/-- A field that the schema does not list has no message. -/
theorem fault?_of_notMem (schema : Schema) {name : String} (values : Entries)
    (unknown : name ∉ schema.fieldNames) : schema.fault? name values = none := by
  rw [fault?, lookup_eq_none_iff.mpr unknown, Option.bind_none]

/-- Checking all fields finds for each name what checking that name alone finds. -/
theorem get?_faults (schema : Schema) (values : Entries) (name : String) :
    (schema.faults values).get? name = schema.fault? name values := by
  rw [faults, Entries.get?_ofList, ← List.filterMap_reverse, lookup_filterMap]
  by_cases known : name ∈ schema.fieldNames
  · rw [if_pos (List.mem_reverse.mpr known)]
  · rw [if_neg (fun member => known (List.mem_reverse.mp member)),
      fault?_of_notMem schema values known]

/-- The message about a field depends on the value of that field only. -/
theorem fault?_congr (schema : Schema) {name : String} {values others : Entries}
    (same : values.get? name = others.get? name) :
    schema.fault? name values = schema.fault? name others := by
  rw [fault?, fault?, Entries.getText, Entries.getText, same]

/-- A message is that of a rule of the schema. -/
theorem exists_rule_of_fault? {schema : Schema} {name message : String} {values : Entries}
    (found : schema.fault? name values = some message) :
    ∃ entry ∈ schema.fields, ∃ rule ∈ entry.2,
      message = rule.message.about (values.getText name) := by
  obtain ⟨listed, known, broken⟩ := Option.bind_eq_some_iff.mp found
  obtain ⟨before, after, split, _⟩ := List.lookup_eq_some_iff.mp known
  obtain ⟨earlier, rule, later, rfl, ⟨_, about⟩, _⟩ := firstFault?_eq_some_iff.mp broken
  have member : (name, earlier ++ rule :: later) ∈ schema.fields :=
    split ▸ List.mem_append_right before List.mem_cons_self
  exact ⟨_, member, rule, List.mem_append_right earlier List.mem_cons_self, about⟩

theorem getText_faults (schema : Schema) (values : Entries) (name : String) :
    (schema.faults values).getText name = (schema.fault? name values).getD "" := by
  rw [Entries.getText, get?_faults]

/-- No message of the schema is empty. -/
def Speaks (schema : Schema) : Prop :=
  ∀ name values, schema.fault? name values ≠ some ""

theorem fault?_set_of_ne (schema : Schema) (values : Entries) {name other : String}
    (text : String) (differs : other ≠ name) :
    schema.fault? other (values.set name text) = schema.fault? other values :=
  schema.fault?_congr (Entries.get?_set_of_ne values text differs)

end Schema

/-! ### Requests to a form -/

namespace Form

/-- What a form can be asked to do. -/
inductive Request where
  | set (name text : String)
  | visit (name : String)
  | validate
  | submit
  | reset (values : Entries)
  | finish

/-- Does what is asked. -/
def obey (form : Form) : Request → Form
  | .set name text => form.set name text
  | .visit name => form.visit name
  | .validate => form.validate
  | .submit => form.submit
  | .reset values => form.reset values
  | .finish => form.finish

/-- Does what is asked, one request after the other. -/
def obeyAll (form : Form) (requests : List Request) : Form :=
  requests.foldl obey form

/-! ### What a request leaves alone -/

@[simp] theorem recheck_schema (form : Form) (name : String) :
    (form.recheck name).schema = form.schema := by
  unfold recheck
  split <;> rfl

@[simp] theorem recheck_values (form : Form) (name : String) :
    (form.recheck name).values = form.values := by
  unfold recheck
  split <;> rfl

@[simp] theorem recheck_visited (form : Form) (name : String) :
    (form.recheck name).visited = form.visited := by
  unfold recheck
  split <;> rfl

@[simp] theorem recheck_submitting (form : Form) (name : String) :
    (form.recheck name).submitting = form.submitting := by
  unfold recheck
  split <;> rfl

@[simp] theorem recheck_handedOver (form : Form) (name : String) :
    (form.recheck name).handedOver = form.handedOver := by
  unfold recheck
  split <;> rfl

/-- Checking a field again puts its message in order and keeps the messages about the others. -/
theorem get?_recheck (form : Form) (name other : String) :
    (form.recheck name).faults.get? other =
      if other = name then form.schema.fault? name form.values else form.faults.get? other := by
  unfold recheck
  cases found : form.schema.fault? name form.values with
  | some message => exact Entries.get?_set form.faults name message other
  | none => exact Entries.get?_erase form.faults name other

/-- What a form holds for its user stays as it is: at most the messages and the fields visited
differ. -/
structure Keeps (before after : Form) : Prop where
  schema : after.schema = before.schema
  values : after.values = before.values
  submitting : after.submitting = before.submitting
  handedOver : after.handedOver = before.handedOver

theorem Keeps.refl (form : Form) : form.Keeps form :=
  ⟨rfl, rfl, rfl, rfl⟩

theorem Keeps.trans {first second third : Form} (before : first.Keeps second)
    (after : second.Keeps third) : first.Keeps third :=
  ⟨after.schema.trans before.schema, after.values.trans before.values,
    after.submitting.trans before.submitting, after.handedOver.trans before.handedOver⟩

theorem keeps_visit (form : Form) (name : String) : form.Keeps (form.visit name) :=
  ⟨recheck_schema _ name, recheck_values _ name, recheck_submitting _ name,
    recheck_handedOver _ name⟩

theorem keeps_validate (form : Form) : form.Keeps form.validate :=
  ⟨rfl, rfl, rfl, rfl⟩

theorem isVisited_iff (form : Form) (name : String) :
    form.isVisited name = true ↔ name ∈ form.visited :=
  List.contains_iff_mem

theorem mem_visitAll (visited names : List String) (name : String) :
    name ∈ visitAll visited names ↔ name ∈ visited ∨ name ∈ names := by
  induction names generalizing visited with
  | nil => simp [visitAll]
  | cons first rest inductionHypothesis =>
    have unfolded : visitAll visited (first :: rest) =
        visitAll (if visited.contains first then visited else visited ++ [first]) rest := rfl
    rw [unfolded, inductionHypothesis, List.mem_cons]
    by_cases known : first ∈ visited
    · rw [if_pos (List.contains_iff_mem.mpr known)]
      constructor
      · exact fun member => member.imp id Or.inr
      · rintro (member | rfl | member)
        · exact Or.inl member
        · exact Or.inl known
        · exact Or.inr member
    · rw [if_neg (fun found => known (List.contains_iff_mem.mp found)), List.mem_append,
        List.mem_singleton, or_assoc]

/-! ### Handing in -/

/-- A form whose values pass all rules is handed in as it is. -/
theorem submit_of_passes (form : Form) (passes : (form.schema.faults form.values).isEmpty = true) :
    form.submit =
      { form with
        visited := visitAll form.visited form.schema.fieldNames
        faults := form.schema.faults form.values
        submitting := true
        handedOver := form.handedOver ++ [form.values] } := by
  unfold submit
  exact if_pos passes

/-- A form with a value that breaks a rule is not handed in; all its messages are shown. -/
theorem submit_of_fails (form : Form) (fails : (form.schema.faults form.values).isEmpty = false) :
    form.submit =
      { form with
        visited := visitAll form.visited form.schema.fieldNames
        faults := form.schema.faults form.values } := by
  unfold submit
  exact if_neg (by rw [validate, fails]; exact Bool.false_ne_true)

theorem keeps_submit_of_fails (form : Form)
    (fails : (form.schema.faults form.values).isEmpty = false) : form.Keeps form.submit := by
  rw [submit_of_fails form fails]
  exact ⟨rfl, rfl, rfl, rfl⟩

/-- The values of a form go out as they are, and are on their way from then on. -/
structure HandsOver (before after : Form) : Prop where
  schema : after.schema = before.schema
  values : after.values = before.values
  submitting : after.submitting = true
  handedOver : after.handedOver = before.handedOver ++ [before.values]

theorem handsOver_submit_of_passes (form : Form)
    (passes : (form.schema.faults form.values).isEmpty = true) :
    form.HandsOver form.submit := by
  rw [submit_of_passes form passes]
  exact ⟨rfl, rfl, rfl, rfl⟩

/-- Handing over does not depend on the messages and the fields visited. -/
theorem Keeps.handsOver {before checked after : Form} (keeps : before.Keeps checked)
    (handsOver : checked.HandsOver after) : before.HandsOver after where
  schema := handsOver.schema.trans keeps.schema
  values := handsOver.values.trans keeps.values
  submitting := handsOver.submitting
  handedOver := by rw [handsOver.handedOver, keeps.handedOver, keeps.values]

@[simp] theorem submit_schema (form : Form) : form.submit.schema = form.schema := by
  cases passes : (form.schema.faults form.values).isEmpty with
  | true => rw [submit_of_passes form passes]
  | false => rw [submit_of_fails form passes]

@[simp] theorem submit_values (form : Form) : form.submit.values = form.values := by
  cases passes : (form.schema.faults form.values).isEmpty with
  | true => rw [submit_of_passes form passes]
  | false => rw [submit_of_fails form passes]

theorem submit_faults (form : Form) :
    form.submit.faults = form.schema.faults form.values := by
  cases passes : (form.schema.faults form.values).isEmpty with
  | true => rw [submit_of_passes form passes]
  | false => rw [submit_of_fails form passes]

/-! ### Messages that are up to date -/

/-- The messages of a form are up to date: each is what checking its field gives, and a visited
field without a message has none to be shown. -/
structure UpToDate (form : Form) : Prop where
  sound : ∀ name message,
    form.faults.get? name = some message → form.schema.fault? name form.values = some message
  complete : ∀ name ∈ form.visited,
    form.faults.get? name = form.schema.fault? name form.values

theorem upToDate_blank (schema : Schema) (fields : List String) :
    (blank schema fields).UpToDate where
  sound _ _ found := by cases found
  complete _ member := by cases member

/-- Messages that were found by checking all fields are up to date whatever was visited. -/
theorem upToDate_of_faults (form : Form)
    (checked : form.faults = form.schema.faults form.values) : form.UpToDate where
  sound name message found := by rwa [checked, Schema.get?_faults] at found
  complete name _ := by rw [checked, Schema.get?_faults]

/-- Checking one field again is enough when the other fields were up to date. -/
theorem upToDate_recheck (form : Form) (name : String)
    (sound : ∀ other message, other ≠ name → form.faults.get? other = some message →
      form.schema.fault? other form.values = some message)
    (complete : ∀ other ∈ form.visited, other ≠ name →
      form.faults.get? other = form.schema.fault? other form.values) :
    (form.recheck name).UpToDate where
  sound other message found := by
    rw [get?_recheck] at found
    rw [recheck_schema, recheck_values]
    by_cases same : other = name
    · rw [if_pos same] at found
      rw [same, found]
    · rw [if_neg same] at found
      exact sound other message same found
  complete other member := by
    rw [recheck_visited] at member
    rw [get?_recheck, recheck_schema, recheck_values]
    by_cases same : other = name
    · rw [if_pos same, same]
    · rw [if_neg same]
      exact complete other member same

namespace UpToDate

variable {form : Form} (upToDate : form.UpToDate)

include upToDate

/-- A change of one value leaves the messages about the other fields right. -/
theorem set (name text : String) : (form.set name text).UpToDate := by
  refine upToDate_recheck _ name (fun other message differs found => ?_)
    (fun other member differs => ?_)
  · show form.schema.fault? other (form.values.set name text) = some message
    rw [Schema.fault?_set_of_ne form.schema form.values text differs]
    exact upToDate.sound other message found
  · show form.faults.get? other = form.schema.fault? other (form.values.set name text)
    rw [Schema.fault?_set_of_ne form.schema form.values text differs]
    exact upToDate.complete other member

theorem visit (name : String) : (form.visit name).UpToDate := by
  refine upToDate_recheck _ name (fun other message _ found => upToDate.sound other message found)
    (fun other member differs => upToDate.complete other ?_)
  rcases (mem_visitAll form.visited [name] other).mp member with visited | new
  · exact visited
  · exact absurd (List.mem_singleton.mp new) differs

theorem finish : form.finish.UpToDate :=
  ⟨upToDate.sound, upToDate.complete⟩

/-- Whatever a form is asked to do, its messages stay up to date. -/
theorem obey (request : Request) : (form.obey request).UpToDate := by
  cases request with
  | set name text => exact upToDate.set name text
  | visit name => exact upToDate.visit name
  | validate => exact upToDate_of_faults form.validate rfl
  | submit =>
    refine upToDate_of_faults form.submit ?_
    rw [submit_faults, submit_schema, submit_values]
  | reset values =>
    exact ⟨fun _ _ found => (by cases found), fun _ member => (by cases member)⟩
  | finish => exact upToDate.finish

theorem obeyAll (requests : List Request) : (form.obeyAll requests).UpToDate := by
  induction requests generalizing form with
  | nil => exact upToDate
  | cons request rest inductionHypothesis => exact inductionHypothesis (upToDate.obey request)

/-- What is shown for a field: its message, if it has been visited. -/
theorem shownFault?_eq (name : String) :
    form.shownFault? name =
      if form.isVisited name then form.schema.fault? name form.values else none := by
  unfold shownFault?
  by_cases visited : form.isVisited name = true
  · rw [if_pos visited, if_pos visited,
      upToDate.complete name ((isVisited_iff form name).mp visited)]
  · rw [if_neg visited, if_neg visited]

end UpToDate

theorem obey_schema (form : Form) (request : Request) :
    (form.obey request).schema = form.schema := by
  cases request with
  | set name text => exact recheck_schema _ name
  | visit name => exact recheck_schema _ name
  | submit => exact submit_schema form
  | validate | reset | finish => rfl

theorem obeyAll_schema (form : Form) (requests : List Request) :
    (form.obeyAll requests).schema = form.schema := by
  induction requests generalizing form with
  | nil => rfl
  | cons request rest inductionHypothesis =>
    exact (inductionHypothesis (form.obey request)).trans (obey_schema form request)

/-- After any requests to a blank form, what is shown for a field is what checking it now gives,
if the field has been visited, and each message kept is what checking its field now gives. -/
theorem shownFault?_obeyAll (schema : Schema) (fields : List String) (requests : List Request)
    (name : String) :
    let form := (blank schema fields).obeyAll requests
    form.shownFault? name =
        (if form.isVisited name then schema.fault? name form.values else none) ∧
      ∀ entry ∈ form.faults.toList, schema.fault? entry.1 form.values = some entry.2 := by
  intro form
  have upToDate : form.UpToDate := (upToDate_blank schema fields).obeyAll requests
  have sameSchema : form.schema = schema := obeyAll_schema (blank schema fields) requests
  refine ⟨?_, fun entry member => ?_⟩
  · rw [upToDate.shownFault?_eq name, sameSchema]
  · rw [← sameSchema]
    exact upToDate.sound entry.1 entry.2
      ((Entries.mem_toList_iff form.faults entry.1 entry.2).mp member)

end Form

end Onboarding
