/-
This file proves what the environment chooses. A variable named for a setting, in letters
of any case, stands for a truth value, a number or a text, as its text reads, and is put
under the path that its name spells; any other variable adds nothing.
-/

import Onboarding.Proofs.Settings.Choices
import Onboarding.Proofs.Settings.Numerals

namespace Onboarding.Settings

open Numeric Json

theorem datumOf_of_spellsCount {text : String} {count : Nat}
    (spells : SpellsCount text.toList count) :
    Environment.datumOf text = Setting.countDatum count := by
  have notTrue : text.toLower ≠ "true" :=
    toLower_eq text ▸ spells.toLower_ne 't' (by decide) rfl (by decide)
  have notFalse : text.toLower ≠ "false" :=
    toLower_eq text ▸ spells.toLower_ne 'f' (by decide) rfl (by decide)
  rw [Environment.datumOf, if_neg notTrue, if_neg notFalse, spells.signedOfText?, spells.float?,
    Setting.countDatum_eq]
  unfold signed?
  by_cases held : count < signedCount
  · rw [if_neg Bool.false_ne_true, if_pos held, if_pos held]
  · rw [if_neg Bool.false_ne_true, if_neg held, if_neg held]

/-! ### Variables for settings -/

namespace Setting

/-- The variable for the setting. -/
def variableName : Setting → String
  | endpoint => "SWALLOWTAIL__API__ENDPOINT"
  | state => "SWALLOWTAIL__PATHS__STATE"
  | persist => "SWALLOWTAIL__CREDENTIALS__PERSIST"
  | refreshMillis => "SWALLOWTAIL__UI__REFRESH_RATE_MS"
  | level => "SWALLOWTAIL__LOGGING__LEVEL"
  | toFile => "SWALLOWTAIL__LOGGING__TO_FILE"

/-- The path of the setting as the name of its variable spells it. -/
def path (setting : Setting) : String :=
  setting.sectionName ++ "." ++ setting.key

/-- The text stands for the value: a text for itself, if it does not read as a truth value or a
number, a word for a truth value, in letters of any case, and digits for a number. -/
def Spells : (setting : Setting) → String → setting.Value → Prop
  | endpoint, text, value | state, text, value | level, text, value =>
    (text.toLower ≠ "true" ∧ text.toLower ≠ "false" ∧ signedOfText? text.toList = none ∧
      Environment.float? text.toList = none) ∧ value = text
  | persist, text, value | toFile, text, value =>
    text.toLower = if value then "true" else "false"
  | refreshMillis, text, millis => SpellsCount text.toList millis

theorem ofKey_path (setting : Setting) :
    PathStep.ofKey setting.path = [.name setting.sectionName, .name setting.key] := by
  cases setting <;> decide +kernel

theorem keyOf?_variableName {setting : Setting} {name : String}
    (names : name.toLower = setting.variableName.toLower) :
    Environment.keyOf? name = some setting.path := by
  unfold Environment.keyOf?
  rw [names]
  show Environment.keyOf? setting.variableName = _
  cases setting <;> decide +kernel

theorem datumOf_of_plain {text : String} (plain : text.toLower ≠ "true" ∧ text.toLower ≠ "false" ∧
    signedOfText? text.toList = none ∧ Environment.float? text.toList = none) :
    Environment.datumOf text = .text text := by
  obtain ⟨notTrue, notFalse, noInteger, noFloat⟩ := plain
  rw [Environment.datumOf, if_neg notTrue, if_neg notFalse, noInteger, noFloat]

theorem datumOf_of_word {text : String} {value : Bool}
    (word : text.toLower = if value then "true" else "false") :
    Environment.datumOf text = .bool value := by
  unfold Environment.datumOf
  rw [word]
  cases value <;> rfl

theorem Spells.datumOf {setting : Setting} {text : String} {value : setting.Value}
    (spells : setting.Spells text value) :
    Environment.datumOf text = setting.datum value := by
  cases setting with
  | endpoint | state | level =>
    obtain ⟨plain, rfl⟩ := spells
    exact datumOf_of_plain plain
  | persist | toFile => exact datumOf_of_word spells
  | refreshMillis => exact datumOf_of_spellsCount spells

theorem eq_of_paths {setting other : Setting} (paths : setting.path = other.path) :
    setting = other := by
  revert paths
  cases setting <;> cases other <;> decide

/-- A datum under the path of a setting replaces the one for that setting. -/
theorem replaces_path {setting : Setting} {datum : Datum} {value : setting.Value}
    (stands : setting.Stands datum value) :
    Replaces [(setting.path, datum)] fun other => if other = setting then some datum else none := by
  intro root sections
  have put : root.putLayer [(setting.path, datum)] =
      root.putAt [.name setting.sectionName, .name setting.key] datum := by
    rw [← setting.ofKey_path]
    rfl
  rw [put]
  refine ⟨sections.putAt_leaf setting.toLower_sectionName setting.toLower_key stands.isLeaf,
    fun other => ?_⟩
  rw [Setting.datum?, Setting.datum?, Datum.under?_putAt_leaf root setting.toLower_sectionName
    setting.toLower_key stands.isLeaf]
  dsimp only
  by_cases same : other = setting
  · rw [if_pos same, same, if_pos ⟨rfl, rfl⟩]
    rfl
  · rw [if_neg same, if_neg fun both => same (eq_of_keys both.1 both.2)]
    rfl

end Setting

/-! ### The layer of variables -/

/-- Entries under the paths of settings replace the data for these. -/
theorem AreEntries.replaces_paths {members : List (String × Datum)}
    (entries : AreEntries (fun setting => some setting.path) members) :
    Replaces members fun setting => members.lookup setting.path := by
  induction members with
  | nil => exact replaces_nil
  | cons member rest inductionHypothesis =>
    obtain ⟨path, datum⟩ := member
    obtain ⟨setting, value, named, stands⟩ := entries.known _ List.mem_cons_self
    obtain rfl : setting.path = path := Option.some.inj named
    have both := (setting.replaces_path stands).append (inductionHypothesis entries.tail)
    have same (other : Setting) : (rest.lookup other.path).or
        (if other = setting then some datum else none) =
        ((setting.path, datum) :: rest).lookup other.path := by
      rw [Entries.lookup_cons]
      by_cases same : other = setting
      · have new := Datum.lookup_tail_of_nodup entries.distinct
        rw [same, new, if_pos rfl, if_pos rfl]
        rfl
      · rw [if_neg same, if_neg fun paths => same (Setting.eq_of_paths paths), Option.or_none]
    exact funext same ▸ both

/-! ### The last of each -/

theorem any_eq_isSome_lookup (members : List (String × Datum)) (name : String) :
    (members.any fun member => member.1 == name) = (members.reverse.lookup name).isSome := by
  rw [Bool.eq_iff_iff, List.any_eq_true, List.lookup_isSome_iff]
  simp only [List.mem_reverse, beq_iff_eq, eq_comm (a := name)]

theorem lookup_lastOfEach (members : List (String × Datum)) (name : String) :
    (Environment.lastOfEach members).lookup name = members.reverse.lookup name := by
  induction members with
  | nil => rfl
  | cons member rest inductionHypothesis =>
    have last : (if rest.any fun later => later.1 == member.1 then Environment.lastOfEach rest
        else member :: Environment.lastOfEach rest).lookup name =
        (rest.reverse.lookup name).or (if name = member.1 then some member.2 else none) := by
      rw [any_eq_isSome_lookup]
      by_cases same : name = member.1
      · rw [if_pos same, same]
        cases found : rest.reverse.lookup member.1 with
        | none =>
          rw [Option.isSome_none, if_neg Bool.false_ne_true, Entries.lookup_cons, if_pos rfl]
          rfl
        | some datum =>
          rw [Option.isSome_some, if_pos rfl, ← same, inductionHypothesis, same, found]
          rfl
      · rw [if_neg same, Option.or_none, ← inductionHypothesis]
        split
        · rfl
        · rw [Entries.lookup_cons, if_neg same]
    rw [Environment.lastOfEach, last, List.reverse_cons, List.lookup_append, Entries.lookup_cons,
      List.lookup_nil]

theorem sublist_lastOfEach (members : List (String × Datum)) :
    (Environment.lastOfEach members).Sublist members := by
  induction members with
  | nil => exact .slnil
  | cons member rest inductionHypothesis =>
    rw [Environment.lastOfEach]
    split
    · exact inductionHypothesis.cons member
    · exact inductionHypothesis.cons_cons member

theorem nodup_lastOfEach (members : List (String × Datum)) :
    ((Environment.lastOfEach members).map Prod.fst).Nodup := by
  induction members with
  | nil => exact List.nodup_nil
  | cons member rest inductionHypothesis =>
    rw [Environment.lastOfEach]
    split
    · exact inductionHypothesis
    · next last =>
      refine List.nodup_cons.mpr ⟨fun listed => last ?_, inductionHypothesis⟩
      obtain ⟨later, listed, same⟩ := List.mem_map.mp listed
      have among := (sublist_lastOfEach rest).subset listed
      exact List.any_eq_true.mpr ⟨later, among, beq_iff_eq.mpr same⟩

/-! ### What the variables choose -/

theorem given_cons {name : String} {setting : Setting}
    (names : name.toLower = setting.variableName.toLower) (text : String) (rest : Environment) :
    Environment.given ((name, text) :: rest) =
      (setting.path, Environment.datumOf text) :: rest.given :=
  List.filterMap_cons_some (by rw [Setting.keyOf?_variableName names, Option.map_some])

/-- The variables choose: each of those for settings has its own setting and stands for the value
that is chosen, the later one where two are for the same; the rest are for something else. -/
inductive VariablesChoose : Environment → Choice → Prop where
  | nil : VariablesChoose [] .empty
  | foreign {name text : String} {rest : Environment} {choice : Choice}
    (unnamed : Environment.keyOf? name = none) (others : VariablesChoose rest choice) :
    VariablesChoose ((name, text) :: rest) choice
  | cons (setting : Setting) (value : setting.Value) {name text : String} {rest : Environment}
    {choice : Choice} (names : name.toLower = setting.variableName.toLower)
    (spells : setting.Spells text value) (others : VariablesChoose rest choice) :
    VariablesChoose ((name, text) :: rest) (choice.onto (.only setting (setting.taken value)))

namespace VariablesChoose

variable {environment : Environment} {choice : Choice}

theorem congr {other : Choice} (chosen : VariablesChoose environment choice)
    (same : ∀ setting, choice setting = other setting) : VariablesChoose environment other :=
  (funext same : choice = other) ▸ chosen

theorem known (chosen : VariablesChoose environment choice) :
    ∀ member ∈ environment.given, ∃ (setting : Setting) (value : setting.Value),
      some setting.path = some member.1 ∧ setting.Stands member.2 value := by
  induction chosen with
  | nil => exact fun _ listed => nomatch listed
  | foreign unnamed _ known =>
    rwa [Environment.given, List.filterMap_cons_none (by rw [unnamed, Option.map_none])]
  | cons setting value names spells _ known =>
    rw [given_cons names, spells.datumOf]
    exact List.forall_mem_cons.mpr ⟨⟨setting, _, rfl, setting.stands_datum value⟩, known⟩

theorem stand (chosen : VariablesChoose environment choice) :
    StandFor (fun setting => environment.layer.lookup setting.path) choice := by
  suffices stand : StandFor (fun setting => environment.given.reverse.lookup setting.path) choice by
    intro setting
    show Option.Rel _ (environment.layer.lookup setting.path) _
    rw [Environment.layer, lookup_lastOfEach]
    exact stand setting
  induction chosen with
  | nil => exact fun _ => .none
  | foreign unnamed _ stand =>
    rwa [Environment.given, List.filterMap_cons_none (by rw [unnamed, Option.map_none])]
  | cons setting value names spells _ stand =>
    intro other
    rw [given_cons names, spells.datumOf, List.reverse_cons]
    show Option.Rel _ (List.lookup _ _) _
    rw [List.lookup_append, Entries.lookup_cons, List.lookup_nil]
    refine rel_or (stand other) ?_
    by_cases same : other = setting
    · subst same
      rw [if_pos rfl, Choice.only_self]
      exact .some (other.stands_datum value)
    · rw [if_neg fun paths => same (Setting.eq_of_paths paths),
        Choice.only_of_ne _ (Ne.symm same)]
      exact .none

theorem entries (chosen : VariablesChoose environment choice) :
    AreEntries (fun setting => some setting.path) environment.layer where
  distinct := nodup_lastOfEach environment.given
  known member listed := chosen.known member ((sublist_lastOfEach _).subset listed)

/-- The layer of the variables chooses, in whatever order its members are taken. -/
theorem chooses (chosen : VariablesChoose environment choice) (orders : Orders) (name : String) :
    Chooses (arrangedLayer orders (name, environment.layer)) choice := by
  have entries := chosen.entries
  have perm := entries.perm orders [name]
  refine ⟨_, (entries.of_perm perm).replaces_paths, fun setting => ?_⟩
  rw [Datum.lookup_eq_of_perm perm entries.distinct]
  exact chosen.stand setting

end VariablesChoose

end Onboarding.Settings
