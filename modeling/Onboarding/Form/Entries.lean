/-
This file holds entries: texts kept under names, at most one under each name.
The values of a form and the messages about its fields are entries. Main
statements: what `get?` finds after `set` and after `erase`.
-/

namespace Onboarding

/-- Texts under names, in the order in which the names came; no name occurs twice. -/
structure Entries where
  toList : List (String × String)
  distinct : (toList.map Prod.fst).Nodup
  deriving DecidableEq, Repr

namespace Entries

/-! ### Reading -/

/-- No entry at all. -/
def empty : Entries := ⟨[], List.nodup_nil⟩

instance : Inhabited Entries := ⟨empty⟩

/-- The names that have an entry. -/
def names (entries : Entries) : List String :=
  entries.toList.map Prod.fst

/-- Whether there is no entry. -/
def isEmpty (entries : Entries) : Bool :=
  entries.toList.isEmpty

/-- The text under a name. -/
def get? (entries : Entries) (name : String) : Option String :=
  entries.toList.lookup name

/-- The text under a name, empty where there is none. -/
def getText (entries : Entries) (name : String) : String :=
  (entries.get? name).getD ""

/-! ### Changing -/

/-- The pairs with the text under the name replaced, or added at the end. -/
def put (name text : String) : List (String × String) → List (String × String)
  | [] => [(name, text)]
  | (other, old) :: rest =>
    if other = name then (name, text) :: rest else (other, old) :: put name text rest

theorem mem_names_put {name text other : String} {pairs : List (String × String)} :
    other ∈ (put name text pairs).map Prod.fst ↔ other = name ∨ other ∈ pairs.map Prod.fst := by
  induction pairs with
  | nil => simp [put]
  | cons pair rest inductionHypothesis =>
    by_cases same : pair.1 = name
    · simp [put, same]
    · simp only [put, if_neg same, List.map_cons, List.mem_cons, inductionHypothesis]
      exact or_left_comm

theorem nodup_put (name text : String) {pairs : List (String × String)}
    (distinct : (pairs.map Prod.fst).Nodup) : ((put name text pairs).map Prod.fst).Nodup := by
  induction pairs with
  | nil => simp [put]
  | cons pair rest inductionHypothesis =>
    rw [List.map_cons, List.nodup_cons] at distinct
    by_cases same : pair.1 = name
    · simp only [put, if_pos same, List.map_cons, List.nodup_cons]
      exact ⟨same ▸ distinct.1, distinct.2⟩
    · simp only [put, if_neg same, List.map_cons, List.nodup_cons]
      refine ⟨fun member => ?_, inductionHypothesis distinct.2⟩
      rcases mem_names_put.mp member with equal | inRest
      · exact same equal
      · exact distinct.1 inRest

/-- The entries with the text under a name set. -/
def set (entries : Entries) (name text : String) : Entries :=
  ⟨put name text entries.toList, nodup_put name text entries.distinct⟩

/-- The entries without the one under a name. -/
def erase (entries : Entries) (name : String) : Entries :=
  ⟨entries.toList.filter fun pair => pair.1 != name,
    entries.distinct.sublist (List.filter_sublist.map Prod.fst)⟩

/-- The entries that the pairs give one after the other; the last text under a name stays. -/
def ofList (pairs : List (String × String)) : Entries :=
  pairs.foldl (fun entries pair => entries.set pair.1 pair.2) empty

/-! ### What is found -/

theorem lookup_cons {α : Type} (pair : String × α) (rest : List (String × α)) (name : String) :
    (pair :: rest).lookup name = if name = pair.1 then some pair.2 else rest.lookup name := by
  rw [List.lookup_cons]
  by_cases same : name = pair.1
  · simp [same]
  · have differs : (name == pair.1) = false := by simpa using same
    simp [differs, same]

theorem lookup_put (name text other : String) (pairs : List (String × String)) :
    (put name text pairs).lookup other =
      if other = name then some text else pairs.lookup other := by
  induction pairs with
  | nil => rw [put, lookup_cons]
  | cons pair rest inductionHypothesis =>
    by_cases replaced : pair.1 = name
    · simp only [put, replaced, if_true, lookup_cons]
      by_cases same : other = name <;> simp [same]
    · simp only [put, if_neg replaced, lookup_cons, inductionHypothesis]
      by_cases found : other = pair.1
      · rw [if_pos found, if_pos found, if_neg (found ▸ replaced)]
      · rw [if_neg found, if_neg found]

@[simp] theorem get?_empty (name : String) : empty.get? name = none := rfl

theorem get?_set (entries : Entries) (name text other : String) :
    (entries.set name text).get? other =
      if other = name then some text else entries.get? other :=
  lookup_put name text other entries.toList

@[simp] theorem get?_set_self (entries : Entries) (name text : String) :
    (entries.set name text).get? name = some text := by
  simp [get?_set]

theorem get?_set_of_ne (entries : Entries) {name other : String} (text : String)
    (differs : other ≠ name) : (entries.set name text).get? other = entries.get? other := by
  simp [get?_set, differs]

theorem get?_erase (entries : Entries) (name other : String) :
    (entries.erase name).get? other = if other = name then none else entries.get? other := by
  obtain ⟨pairs, distinct⟩ := entries
  simp only [get?, erase]
  clear distinct
  induction pairs with
  | nil => simp
  | cons pair rest inductionHypothesis =>
    by_cases removed : pair.1 = name
    · simp only [List.filter_cons, removed, bne_self_eq_false, Bool.false_eq_true, if_false,
        inductionHypothesis, lookup_cons]
      split <;> rfl
    · have kept : (pair.1 != name) = true := by simpa using removed
      simp only [List.filter_cons, kept, if_true, lookup_cons, inductionHypothesis]
      by_cases found : other = pair.1
      · rw [if_pos found, if_pos found, if_neg (found ▸ removed)]
      · rw [if_neg found, if_neg found]

end Entries

end Onboarding
