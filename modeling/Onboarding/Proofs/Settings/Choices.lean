/-
This file proves what settings come out of layers that each give some of them. A file
gives them by sections with keys, the environment by one path for each setting; put over one
another, the layers give what the last of them gives, setting by setting. What no layer
gives has its default. The order in which the members of a layer are taken does not matter
as long as no two of them are for the same.
-/

import Onboarding.Proofs.Settings.Values

namespace Onboarding.Settings

open Numeric

/-! ### Choices -/

/-- What is chosen for each setting, if something is. -/
abbrev Choice := (setting : Setting) → Option setting.Value

namespace Choice

/-- Nothing is chosen. -/
def empty : Choice := fun _ => none

/-- A value is chosen for one setting. -/
def only (setting : Setting) (value : setting.Value) : Choice := fun other =>
  if same : setting = other then some (same ▸ value) else none

/-- What one chooses, and what the other chooses where the one does not. -/
def onto (upper lower : Choice) : Choice := fun setting => (upper setting).or (lower setting)

/-- What is chosen when the settings are. -/
def ofSettings (settings : Settings) : Choice := fun setting => some (settings.value setting)

/-- The settings with what is chosen, and the defaults where nothing is. -/
def settings (choice : Choice) : Settings :=
  ofValues fun setting => (choice setting).getD (default.value setting)

@[simp]
theorem only_self (setting : Setting) (value : setting.Value) :
    only setting value setting = some value :=
  dif_pos rfl

theorem only_of_ne {setting other : Setting} (value : setting.Value) (differ : setting ≠ other) :
    only setting value other = none :=
  dif_neg differ

end Choice

/-! ### Data for settings -/

/-- The data, each if it is there, stand for what is chosen. -/
def StandFor (data : Setting → Option Datum) (choice : Choice) : Prop :=
  ∀ setting : Setting, Option.Rel setting.Stands (data setting) (choice setting)

theorem rel_or {α β : Type} {related : α → β → Prop} {upper lower : Option α}
    {upperOther lowerOther : Option β} (above : Option.Rel related upper upperOther)
    (below : Option.Rel related lower lowerOther) :
    Option.Rel related (upper.or lower) (upperOther.or lowerOther) := by
  cases above with
  | none => exact below
  | some holds => exact .some holds

theorem StandFor.or {data above : Setting → Option Datum} {lower upper : Choice}
    (standsLower : StandFor data lower) (standsUpper : StandFor above upper) :
    StandFor (fun setting => (above setting).or (data setting)) (upper.onto lower) :=
  fun setting => rel_or (standsUpper setting) (standsLower setting)

/-- The layer replaces: put over any sections, it puts the data that there are in the place of those
for the same settings, and leaves the rest. -/
def Replaces (layer : List (String × Datum)) (data : Setting → Option Datum) : Prop :=
  ∀ root : Datum, root.IsSections → (root.putLayer layer).IsSections ∧
    ∀ setting : Setting, setting.datum? (root.putLayer layer) =
      (data setting).or (setting.datum? root)

theorem replaces_nil : Replaces [] fun _ => none := fun _ sections => ⟨sections, fun _ => rfl⟩

theorem Replaces.append {layer above : List (String × Datum)} {lower upper : Setting → Option Datum}
    (replaces : Replaces layer lower) (replacesAbove : Replaces above upper) :
    Replaces (layer ++ above) fun setting => (upper setting).or (lower setting) := by
  intro root sections
  obtain ⟨middle, below⟩ := replaces root sections
  obtain ⟨final, found⟩ := replacesAbove _ middle
  rw [Datum.putLayer_append]
  refine ⟨final, fun setting => ?_⟩
  rw [found, below, Option.or_assoc]

/-- The layer chooses: what it puts in the place of other data stands for what is chosen. -/
def Chooses (layer : List (String × Datum)) (choice : Choice) : Prop :=
  ∃ data, Replaces layer data ∧ StandFor data choice

/-- Of two layers, the one that is put over the other counts more. -/
theorem Chooses.append {layer above : List (String × Datum)} {lower upper : Choice}
    (chooses : Chooses layer lower) (choosesAbove : Chooses above upper) :
    Chooses (layer ++ above) (upper.onto lower) := by
  obtain ⟨_, replaces, stand⟩ := chooses
  obtain ⟨_, replacesAbove, standAbove⟩ := choosesAbove
  exact ⟨_, replaces.append replacesAbove, stand.or standAbove⟩

/-! ### Members for settings -/

/-- Each of the members has the name of a setting and holds what stands for a value of it. No two of
them have the same name. -/
structure AreEntries (name : Setting → Option String) (members : List (String × Datum)) :
    Prop where
  distinct : (members.map Prod.fst).Nodup
  known : ∀ member ∈ members, ∃ (setting : Setting) (value : setting.Value),
    name setting = some member.1 ∧ setting.Stands member.2 value

namespace AreEntries

variable {name : Setting → Option String} {members : List (String × Datum)}

theorem tail {member : String × Datum} (entries : AreEntries name (member :: members)) :
    AreEntries name members where
  distinct := (List.nodup_cons.mp entries.distinct).2
  known other listed := entries.known other (List.mem_cons_of_mem member listed)

theorem isLeaf (entries : AreEntries name members) : ∀ member ∈ members, member.2.IsLeaf := by
  intro member listed
  obtain ⟨_, _, _, stands⟩ := entries.known member listed
  exact stands.isLeaf

/-- Such members stay what they are when they are put into an order. -/
theorem perm (entries : AreEntries name members) (orders : Orders) (place : List String) :
    ((orders place).arrange (Datum.arrangedMembers orders place members)).Perm members := by
  rw [Datum.arrangedMembers_of_isLeaf entries.isLeaf]
  exact (orders place).perm members

theorem of_perm {others : List (String × Datum)} (entries : AreEntries name members)
    (perm : others.Perm members) : AreEntries name others where
  distinct := (perm.map Prod.fst).nodup_iff.mpr entries.distinct
  known member listed := entries.known member (perm.mem_iff.mp listed)

end AreEntries

/-! ### Sections -/

/-- The key of a setting in the section with the name. -/
def keyIn (name : String) (setting : Setting) : Option String :=
  if setting.sectionName = name then some setting.key else none

theorem keyIn_eq_some_iff {name key : String} {setting : Setting} :
    keyIn name setting = some key ↔ setting.sectionName = name ∧ setting.key = key := by
  rw [keyIn, Option.ite_none_right_eq_some, Option.some.injEq]

/-- The members are sections that hold entries for settings, in whatever order and with whatever
sections empty or missing. -/
structure AreSections (members : List (String × Datum)) : Prop where
  distinct : (members.map Prod.fst).Nodup
  known : ∀ member ∈ members, member.1 ∈ sectionNames ∧
    ∃ inner, member.2 = .table inner ∧ AreEntries (keyIn member.1) inner

/-- The members hold sections for what is chosen. -/
structure SectionsChoose (members : List (String × Datum)) (choice : Choice) : Prop where
  sections : AreSections members
  stand : StandFor (fun setting => setting.datum? (.table members)) choice

theorem AreEntries.leaves {name : String} {members : List (String × Datum)}
    (entries : AreEntries (keyIn name) members) : Datum.Leaves members where
  small member listed := by
    obtain ⟨setting, _, key, _⟩ := entries.known member listed
    rw [← (keyIn_eq_some_iff.mp key).2, setting.toLower_key]
  leaf := entries.isLeaf

theorem ofKey_of_mem {name : String} (known : name ∈ sectionNames) :
    PathStep.ofKey name = [.name name] := by
  revert name
  decide

theorem toLower_of_mem {name : String} (known : name ∈ sectionNames) : name.toLower = name := by
  revert name
  decide +kernel

/-- One section replaces the data for what is in it. -/
theorem AreEntries.replaces {name : String} {members : List (String × Datum)}
    (entries : AreEntries (keyIn name) members) (known : name ∈ sectionNames) :
    Replaces [(name, .table members)]
      fun setting => if setting.sectionName = name then members.lookup setting.key else none := by
  intro root sections
  have small : name.toLower = name := toLower_of_mem known
  have put : root.putLayer [(name, .table members)] =
      root.putAt [.name name] (.table members) := by
    rw [← ofKey_of_mem known]
    rfl
  rw [put]
  refine ⟨sections.putAt_section small entries.leaves, fun setting => ?_⟩
  rw [Setting.datum?, Setting.datum?, Datum.under?_putAt_section root small entries.leaves,
    Datum.lookup_eq_of_perm members.reverse_perm entries.distinct]
  dsimp only
  split <;> rfl

namespace AreSections

variable {members : List (String × Datum)}

theorem tail {member : String × Datum} (sections : AreSections (member :: members)) :
    AreSections members where
  distinct := (List.nodup_cons.mp sections.distinct).2
  known other listed := sections.known other (List.mem_cons_of_mem member listed)

theorem replaces (sections : AreSections members) :
    Replaces members fun setting => setting.datum? (.table members) := by
  induction members with
  | nil => exact replaces_nil
  | cons member rest inductionHypothesis =>
    obtain ⟨name, datum⟩ := member
    obtain ⟨known, inner, rfl, entries⟩ := sections.known _ List.mem_cons_self
    have both := (entries.replaces known).append (inductionHypothesis sections.tail)
    have same (setting : Setting) : (setting.datum? (.table rest)).or
        (if setting.sectionName = name then inner.lookup setting.key else none) =
        setting.datum? (.table ((name, .table inner) :: rest)) := by
      rw [Setting.datum?, Setting.datum?, Datum.under?, Datum.under?, Datum.tableMembers,
        Datum.tableMembers, Entries.lookup_cons]
      split
      · next inside =>
        have new := Datum.lookup_tail_of_nodup sections.distinct
        rw [inside, new]
        rfl
      · rw [Option.or_none]
    exact funext same ▸ both

/-- Sections stay what they are when they, and the members of each, are put into an order. -/
theorem arranged (sections : AreSections members) (orders : Orders) (name : String) :
    AreSections (arrangedLayer orders (name, members)) ∧ ∀ setting : Setting,
      setting.datum? (.table (arrangedLayer orders (name, members))) =
        setting.datum? (.table members) := by
  have perm := (orders [name]).perm (Datum.arrangedMembers orders [name] members)
  have names := Datum.map_fst_arrangedMembers orders [name] members
  have distinct : ((Datum.arrangedMembers orders [name] members).map Prod.fst).Nodup :=
    names ▸ sections.distinct
  refine ⟨⟨(perm.map Prod.fst).nodup_iff.mpr distinct, fun member listed => ?_⟩, fun setting => ?_⟩
  · obtain ⟨name, datum⟩ := member
    have found := (Datum.lookup_eq_some_iff_of_nodup distinct).mpr (perm.mem_iff.mp listed)
    rw [Datum.lookup_arrangedMembers] at found
    obtain ⟨before, there, rfl⟩ := Option.map_eq_some_iff.mp found
    obtain ⟨known, inner, rfl, entries⟩ := sections.known _
      ((Datum.lookup_eq_some_iff_of_nodup sections.distinct).mp there)
    exact ⟨known, _, rfl, entries.of_perm (entries.perm orders _)⟩
  · have outer : (arrangedLayer orders (name, members)).lookup setting.sectionName =
        (members.lookup setting.sectionName).map
          (Datum.arranged orders [setting.sectionName, name]) := by
      rw [arrangedLayer, Datum.lookup_eq_of_perm perm distinct, Datum.lookup_arrangedMembers]
    rw [Setting.datum?, Setting.datum?, Datum.under?, Datum.under?, Datum.tableMembers,
      Datum.tableMembers, outer]
    cases there : members.lookup setting.sectionName with
    | none => rfl
    | some datum =>
      obtain ⟨_, inner, rfl, entries⟩ := sections.known _
        ((Datum.lookup_eq_some_iff_of_nodup sections.distinct).mp there)
      exact Datum.lookup_eq_of_perm (entries.perm orders _) entries.distinct setting.key

end AreSections

/-- A layer of sections chooses, in whatever order its members are taken. -/
theorem SectionsChoose.chooses {members : List (String × Datum)} {choice : Choice}
    (sections : SectionsChoose members choice) (orders : Orders) (name : String) :
    Chooses (arrangedLayer orders (name, members)) choice := by
  obtain ⟨arranged, same⟩ := sections.sections.arranged orders name
  exact ⟨_, arranged.replaces, fun setting => same setting ▸ sections.stand setting⟩

/-! ### All of the settings -/

/-- Sections that hold data for all of the settings. -/
def sectionsOf (settings : Settings) : List (String × Datum) := [
  ("api", .table [("endpoint", .text settings.endpoint)]),
  ("paths", .table [("state", .text settings.state)]),
  ("credentials", .table [("persist", .bool settings.persist)]),
  ("ui", .table [("refresh_rate_ms", Setting.countDatum settings.refreshMillis)]),
  ("logging", .table [("level", .text settings.level), ("to_file", .bool settings.toFile)])]

/-- The sections give the settings, if 64 bits with a sign can hold the number. -/
theorem sectionsChoose_sectionsOf {settings : Settings}
    (held : settings.refreshMillis < signedCount) :
    SectionsChoose (sectionsOf settings) (.ofSettings settings) := by
  have stands (setting : Setting) :
      setting.Stands (setting.datum (settings.value setting)) (settings.value setting) := by
    have taken := setting.stands_datum (settings.value setting)
    rwa [setting.taken_value held] at taken
  have single (setting : Setting) : AreEntries (keyIn setting.sectionName)
      [(setting.key, setting.datum (settings.value setting))] :=
    ⟨List.nodup_singleton _, List.forall_mem_singleton.mpr
      ⟨setting, _, keyIn_eq_some_iff.mpr ⟨rfl, rfl⟩, stands setting⟩⟩
  have logging : AreEntries (keyIn "logging")
      [("level", .text settings.level), ("to_file", .bool settings.toFile)] :=
    ⟨(by decide : ["level", "to_file"].Nodup), List.forall_mem_cons.mpr
      ⟨⟨.level, settings.level, rfl, rfl⟩,
        List.forall_mem_singleton.mpr ⟨.toFile, settings.toFile, rfl, stands .toFile⟩⟩⟩
  have names : (sectionsOf settings).map Prod.fst = sectionNames := rfl
  refine ⟨⟨names ▸ (by decide), fun member listed => ⟨?_, ?_⟩⟩, fun setting => ?_⟩
  · exact names ▸ List.mem_map_of_mem listed
  · simp only [sectionsOf, List.mem_cons, List.not_mem_nil, or_false] at listed
    rcases listed with rfl | rfl | rfl | rfl | rfl
    · exact ⟨_, rfl, single .endpoint⟩
    · exact ⟨_, rfl, single .state⟩
    · exact ⟨_, rfl, single .persist⟩
    · exact ⟨_, rfl, single .refreshMillis⟩
    · exact ⟨_, rfl, logging⟩
  · have there : setting.datum? (.table (sectionsOf settings)) =
        some (setting.datum (settings.value setting)) := by
      cases setting <;> rfl
    show Option.Rel _ (setting.datum? _) _
    rw [there]
    exact .some (stands setting)

theorem sectionsOf_default : sectionsOf default = defaultLayer := by
  rw [sectionsOf, Setting.countDatum_eq, if_pos (by decide)]
  rfl

theorem merged_eq (layers : List (List (String × Datum))) :
    merged layers = Datum.putLayer (.table []) layers.flatten :=
  List.foldl_flatten.symm

/-- Layers over the defaults make the settings that they choose. -/
theorem ofDatum?_merged {layers : List (List (String × Datum))} {choice : Choice}
    (chooses : Chooses layers.flatten choice) (orders : Orders) (name : String) :
    ofDatum? (merged (arrangedLayer orders (name, defaultLayer) :: layers)) =
      some choice.settings := by
  have held : default.refreshMillis < signedCount := by decide
  have below : Chooses (arrangedLayer orders (name, defaultLayer)) (.ofSettings default) := by
    rw [← sectionsOf_default]
    exact (sectionsChoose_sectionsOf held).chooses orders name
  obtain ⟨data, replaces, stand⟩ := below.append chooses
  obtain ⟨sections, holds⟩ := replaces _ Datum.isSections_empty
  rw [← List.flatten_cons, ← merged_eq] at sections holds
  obtain ⟨members, shape⟩ := sections.table
  rw [shape]
  refine ofDatum?_eq_some_iff.mpr fun setting => ?_
  rw [← shape]
  have found := holds setting
  have stands := stand setting
  have value : (choice.onto (.ofSettings default)) setting =
      some (choice.settings.value setting) := by
    rw [Choice.onto, Choice.ofSettings, Option.or_some, Choice.settings, value_ofValues]
  rw [value] at stands
  generalize data setting = datum? at found stands
  cases stands with
  | some stands => rw [Setting.read?_of_datum? sections found, stands.convert]

end Onboarding.Settings
