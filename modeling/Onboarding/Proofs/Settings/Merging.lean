/-
This file proves what data under sections and keys becomes when a layer is put over it.
A section that comes as a table, as in a file, and a single datum that comes under a path,
as from the environment, both replace just the data that they hold: all else stays, also
what stands beside it in the same section.
-/

import Mathlib.Data.List.Basic
import Mathlib.Data.List.Nodup
import Onboarding.Form.Entries
import Onboarding.Settings.KeyPath

namespace Onboarding.Datum

variable {root datum : Datum} {name : String} {members : List (String × Datum)}

/-! ### Members -/

theorem lookup_setMember (name : String) (datum : Datum) (members : List (String × Datum))
    (other : String) :
    (setMember name datum members).lookup other =
      if other = name then some datum else members.lookup other := by
  induction members with
  | nil => rw [setMember, Entries.lookup_cons]
  | cons member rest inductionHypothesis =>
    by_cases replaced : member.1 = name
    · rw [setMember, if_pos replaced, Entries.lookup_cons, Entries.lookup_cons, replaced]
      split <;> rfl
    · rw [setMember, if_neg replaced, Entries.lookup_cons, Entries.lookup_cons,
        inductionHypothesis]
      by_cases found : other = member.1
      · rw [if_pos found, if_pos found, if_neg (found ▸ replaced)]
      · rw [if_neg found, if_neg found]

/-- Where no two members have the same name, each is found under its own. -/
theorem lookup_eq_some_iff_of_nodup (distinct : (members.map Prod.fst).Nodup) :
    members.lookup name = some datum ↔ (name, datum) ∈ members := by
  induction members with
  | nil => simp
  | cons member rest inductionHypothesis =>
    obtain ⟨new, others⟩ := List.nodup_cons.mp distinct
    rw [Entries.lookup_cons, List.mem_cons]
    split
    · next same =>
      constructor
      · rintro found
        exact .inl (Prod.ext same (Option.some.inj found).symm)
      · rintro (equal | later)
        · rw [← equal]
        · exact absurd (List.mem_map.mpr ⟨_, later, same⟩) new
    · next differ =>
      rw [inductionHypothesis others]
      exact ⟨.inr, fun listed => listed.resolve_left fun equal => differ (congrArg Prod.fst equal)⟩

theorem lookup_tail_of_nodup {member : String × Datum}
    (distinct : ((member :: members).map Prod.fst).Nodup) : members.lookup member.1 = none := by
  rw [List.lookup_eq_none_iff]
  intro later listed
  rw [bne_iff_ne]
  exact fun same => (List.nodup_cons.mp distinct).1 (List.mem_map.mpr ⟨later, listed, same.symm⟩)

/-- In which order such members stand does not matter. -/
theorem lookup_eq_of_perm {others : List (String × Datum)} (perm : others.Perm members)
    (distinct : (members.map Prod.fst).Nodup) (name : String) :
    others.lookup name = members.lookup name := by
  have otherDistinct : (others.map Prod.fst).Nodup := (perm.map Prod.fst).nodup_iff.mpr distinct
  refine Option.ext fun datum => ?_
  rw [lookup_eq_some_iff_of_nodup otherDistinct, lookup_eq_some_iff_of_nodup distinct,
    perm.mem_iff]

/-! ### Leaves -/

/-- The datum is neither a list nor a table. -/
def IsLeaf : Datum → Prop
  | array _ | table _ => False
  | _ => True

theorem put_of_isLeaf (leaf : datum.IsLeaf) (root : Datum) (name : String) :
    root.put name datum = .table (setMember name.toLower datum root.tableMembers) := by
  cases datum with
  | array | table => exact leaf.elim
  | _ => rw [put]; exact fun _ => nofun

/-- The members are neither lists nor tables, and their names are in small letters. -/
structure Leaves (members : List (String × Datum)) : Prop where
  small : ∀ member ∈ members, member.1.toLower = member.1
  leaf : ∀ member ∈ members, member.2.IsLeaf

theorem leaves_cons {member : String × Datum} :
    Leaves (member :: members) ↔
      (member.1.toLower = member.1 ∧ member.2.IsLeaf) ∧ Leaves members := by
  constructor
  · rintro ⟨small, leaf⟩
    obtain ⟨firstSmall, restSmall⟩ := List.forall_mem_cons.mp small
    obtain ⟨firstLeaf, restLeaf⟩ := List.forall_mem_cons.mp leaf
    exact ⟨⟨firstSmall, firstLeaf⟩, restSmall, restLeaf⟩
  · rintro ⟨⟨firstSmall, firstLeaf⟩, restSmall, restLeaf⟩
    exact ⟨List.forall_mem_cons.mpr ⟨firstSmall, restSmall⟩,
      List.forall_mem_cons.mpr ⟨firstLeaf, restLeaf⟩⟩

/-- Of two members under one name, the later counts. -/
theorem lookup_putAll (leaves : Leaves members) (root : Datum) (name : String) :
    (root.putAll members).tableMembers.lookup name =
      (members.reverse.lookup name).or (root.tableMembers.lookup name) := by
  induction members generalizing root with
  | nil => rw [putAll, List.reverse_nil, List.lookup_nil, Option.none_or]
  | cons member rest inductionHypothesis =>
    obtain ⟨⟨small, leaf⟩, others⟩ := leaves_cons.mp leaves
    rw [putAll, inductionHypothesis others, put_of_isLeaf leaf, tableMembers, lookup_setMember,
      small, List.reverse_cons, List.lookup_append, Entries.lookup_cons, List.lookup_nil,
      Option.or_assoc]
    split <;> rfl

theorem putAll_eq_table (isTable : ∃ inner, root = .table inner) (leaves : Leaves members) :
    ∃ inner, root.putAll members = .table inner := by
  induction members generalizing root with
  | nil => rwa [putAll]
  | cons member rest inductionHypothesis =>
    obtain ⟨⟨_, leaf⟩, others⟩ := leaves_cons.mp leaves
    rw [putAll]
    exact inductionHypothesis ⟨_, put_of_isLeaf leaf root member.1⟩ others

/-! ### Members in an order -/

variable {orders : Orders} {place : List String}

theorem lookup_arrangedMembers (orders : Orders) (place : List String)
    (members : List (String × Datum)) (name : String) :
    (arrangedMembers orders place members).lookup name =
      (members.lookup name).map (arranged orders (name :: place)) := by
  induction members with
  | nil => rfl
  | cons member rest inductionHypothesis =>
    rw [arrangedMembers, Entries.lookup_cons, Entries.lookup_cons, inductionHypothesis]
    split
    · next same =>
      rw [same]
      rfl
    · rfl

theorem arranged_of_isLeaf (leaf : datum.IsLeaf) (orders : Orders) (place : List String) :
    datum.arranged orders place = datum := by
  cases datum with
  | array | table => exact leaf.elim
  | _ => rfl

/-- Among members that are neither lists nor tables there is nothing to put in an order. -/
theorem arrangedMembers_of_isLeaf (leaves : ∀ member ∈ members, member.2.IsLeaf) :
    arrangedMembers orders place members = members := by
  induction members with
  | nil => rfl
  | cons member rest inductionHypothesis =>
    obtain ⟨first, others⟩ := List.forall_mem_cons.mp leaves
    rw [arrangedMembers, arranged_of_isLeaf first, inductionHypothesis others]

theorem map_fst_arrangedMembers (orders : Orders) (place : List String)
    (members : List (String × Datum)) :
    (arrangedMembers orders place members).map Prod.fst = members.map Prod.fst := by
  induction members with
  | nil => rfl
  | cons member rest inductionHypothesis =>
    rw [arrangedMembers, List.map_cons, List.map_cons, inductionHypothesis]

/-! ### Sections -/

/-- The datum under a key of a section. -/
def under? (root : Datum) (outer inner : String) : Option Datum :=
  (root.tableMembers.lookup outer).bind fun datum => datum.tableMembers.lookup inner

/-- The datum is a table, and so is each of its members. -/
structure IsSections (root : Datum) : Prop where
  table : ∃ members, root = .table members
  members : ∀ name datum, root.tableMembers.lookup name = some datum →
    ∃ inner, datum = .table inner

theorem isSections_empty : IsSections (.table []) where
  table := ⟨[], rfl⟩
  members _ _ found := by cases found

theorem under?_setMember (root datum : Datum) (name outer inner : String) :
    under? (.table (setMember name datum root.tableMembers)) outer inner =
      if outer = name then datum.tableMembers.lookup inner else root.under? outer inner := by
  rw [under?, tableMembers, lookup_setMember]
  split <;> rfl

theorem IsSections.setMember (sections : root.IsSections) (name : String)
    (isTable : ∃ inner, datum = .table inner) :
    IsSections (.table (Datum.setMember name datum root.tableMembers)) where
  table := ⟨_, rfl⟩
  members other found lookup := by
    rw [tableMembers, lookup_setMember] at lookup
    split at lookup
    · exact Option.some.inj lookup ▸ isTable
    · exact sections.members other found lookup

theorem putLayer_append (root : Datum) (layer above : List (String × Datum)) :
    root.putLayer (layer ++ above) = (root.putLayer layer).putLayer above :=
  List.foldl_append

/-! ### A section on a section -/

theorem putAt_section (root : Datum) (small : name.toLower = name) :
    root.putAt [.name name] (.table members) =
      .table (setMember name
        (putAll ((root.tableMembers.lookup name).getD (.table [])) members)
        root.tableMembers) := by
  show root.put name (.table members) = _
  rw [put, small]

theorem IsSections.putAt_section (sections : root.IsSections) (small : name.toLower = name)
    (leaves : Leaves members) : (root.putAt [.name name] (.table members)).IsSections := by
  rw [Datum.putAt_section root small]
  refine sections.setMember name (putAll_eq_table ?_ leaves)
  cases found : root.tableMembers.lookup name with
  | none => exact ⟨[], rfl⟩
  | some datum => exact sections.members name datum found

theorem under?_putAt_section (root : Datum) (small : name.toLower = name)
    (leaves : Leaves members) (outer inner : String) :
    (root.putAt [.name name] (.table members)).under? outer inner =
      if outer = name then (members.reverse.lookup inner).or (root.under? outer inner)
      else root.under? outer inner := by
  rw [putAt_section root small, under?_setMember]
  split
  · next same =>
    rw [lookup_putAll leaves, under?, same]
    cases root.tableMembers.lookup name <;> rfl
  · rfl

/-! ### A single datum -/

variable {key : String}

theorem putAt_leaf (root : Datum) (small : name.toLower = name) (smallKey : key.toLower = key)
    (leaf : datum.IsLeaf) :
    root.putAt [.name name, .name key] datum =
      .table (setMember name
        (.table (setMember key datum
          ((root.tableMembers.lookup name).getD .nothing).tableMembers))
        root.tableMembers) := by
  show root.alter (fun inner => put inner key datum) [.name name] = _
  rw [alter, alter, small, put_of_isLeaf leaf, smallKey]

theorem IsSections.putAt_leaf (sections : root.IsSections) (small : name.toLower = name)
    (smallKey : key.toLower = key) (leaf : datum.IsLeaf) :
    (root.putAt [.name name, .name key] datum).IsSections := by
  rw [Datum.putAt_leaf root small smallKey leaf]
  exact sections.setMember name ⟨_, rfl⟩

theorem under?_putAt_leaf (root : Datum) (small : name.toLower = name)
    (smallKey : key.toLower = key) (leaf : datum.IsLeaf) (outer inner : String) :
    (root.putAt [.name name, .name key] datum).under? outer inner =
      if outer = name ∧ inner = key then some datum else root.under? outer inner := by
  rw [putAt_leaf root small smallKey leaf, under?_setMember]
  by_cases same : outer = name
  · rw [if_pos same, tableMembers, lookup_setMember, under?, same]
    by_cases sameKey : inner = key
    · rw [if_pos sameKey, if_pos ⟨rfl, sameKey⟩]
    · rw [if_neg sameKey, if_neg fun both => sameKey both.2]
      cases root.tableMembers.lookup name <;> rfl
  · rw [if_neg same, if_neg fun both => same both.1]

/-! ### A single datum under any path -/

theorem putAt_cons (root datum : Datum) (name : String) (step : PathStep)
    (rest : List PathStep) :
    root.putAt (.name name :: step :: rest) datum =
      .table (setMember name.toLower
        (((root.tableMembers.lookup name.toLower).getD .nothing).putAt (step :: rest) datum)
        root.tableMembers) := by
  have last : (.name name :: step :: rest).getLast? = (step :: rest).getLast? :=
    List.getLast?_cons_cons
  unfold putAt
  rw [last]
  cases found : (step :: rest).getLast? with
  | none => exact absurd (List.getLast?_eq_none_iff.mp found) (List.cons_ne_nil step rest)
  | some final => cases final <;> rfl

/-- What a datum under a path becomes beneath the first name of the path depends only on what is
there. -/
theorem exists_putAt (leaf : datum.IsLeaf) (name : String) (rest : List PathStep)
    (found : Option Datum) :
    ∃ inner, ∀ root : Datum, root.tableMembers.lookup name.toLower = found →
      root.putAt (.name name :: rest) datum =
        .table (setMember name.toLower inner root.tableMembers) := by
  cases rest with
  | nil => exact ⟨datum, fun root _ => put_of_isLeaf leaf root name⟩
  | cons step rest =>
    refine ⟨(found.getD .nothing).putAt (step :: rest) datum, fun root there => ?_⟩
    rw [putAt_cons, there]

/-! ### Tables stay tables -/

theorem exists_put_eq_table (root datum : Datum) (name : String) :
    ∃ members, root.put name datum = .table members := by
  unfold put
  split
  · exact ⟨_, rfl⟩
  · exact ⟨_, rfl⟩

/-- The path that a key spells begins with a name. -/
theorem exists_ofKey (key : String) : ∃ name rest, PathStep.ofKey key = .name name :: rest := by
  have whole : Option.getD _ [.name key] = PathStep.ofKey key := rfl
  rcases Option.getD_eq_iff.mp whole with spelled | ⟨_, same⟩
  · obtain ⟨⟨step, others⟩, read, spelled⟩ := Option.bind_eq_some_iff.mp spelled
    obtain ⟨rest, _, same⟩ := Option.bind_eq_some_iff.mp spelled
    rw [PathStep.readName?, Option.ite_none_left_eq_some, Option.some.injEq] at read
    rw [← (Prod.mk.inj read.2).1] at same
    exact ⟨_, rest, (Option.some.inj same).symm⟩
  · exact ⟨key, [], same.symm⟩

theorem exists_putLayer_eq_table (layer members : List (String × Datum)) :
    ∃ inner, (Datum.table members).putLayer layer = .table inner := by
  induction layer generalizing members with
  | nil => exact ⟨members, rfl⟩
  | cons member rest inductionHypothesis =>
    have first : ∃ inner, (Datum.table members).putAt (PathStep.ofKey member.1) member.2 =
        .table inner := by
      obtain ⟨name, steps, path⟩ := exists_ofKey member.1
      rw [path]
      cases steps with
      | nil => exact exists_put_eq_table _ _ _
      | cons step steps => exact ⟨_, putAt_cons _ _ name step steps⟩
    obtain ⟨inner, shape⟩ := first
    show ∃ final, (((Datum.table members).putAt (PathStep.ofKey member.1) member.2).putLayer
      rest) = .table final
    rw [shape]
    exact inductionHypothesis inner

end Onboarding.Datum
