/-
This file proves what becomes of a variable for a setting that is a text. It takes the place of
all that lower layers say about the setting, whatever they say, and touches no other setting.
So whether the settings can be loaded depends on the other settings alone.

The text need not arrive as it is given. The environment takes a text for a truth value or a
number where it reads as one, before anything asks for a text again, and such a datum is then
written out in one way only: zeros in front, signs and exponents are gone.
-/

import Onboarding.Proofs.Settings.Variables

namespace Onboarding.Settings

open Numeric

/-! ### One setting in the place of another -/

variable {setting : Setting} {root other datum : Datum}

namespace Setting

/-- The members of the section that the setting is in; what is no table has none. -/
def beside (setting : Setting) (root : Datum) : List (String × Datum) :=
  ((root.tableMembers.lookup setting.sectionName).getD .nothing).tableMembers

/-- The data with a table for the section that the setting is in. -/
def makeRoom (setting : Setting) (root : Datum) : Datum :=
  .table (Datum.setMember setting.sectionName (.table (setting.beside root)) root.tableMembers)

theorem lookup_makeRoom {another : Setting} (root : Datum)
    (inside : another.sectionName = setting.sectionName) :
    (setting.makeRoom root).tableMembers.lookup another.sectionName =
      some (.table (setting.beside root)) := by
  rw [makeRoom, Datum.tableMembers, Datum.lookup_setMember, if_pos inside]

theorem read?_makeRoom_of_ne {another : Setting} (root : Datum)
    (outside : another.sectionName ≠ setting.sectionName) :
    another.read? (setting.makeRoom root) = another.read? root := by
  rw [read?, read?, makeRoom, Datum.tableMembers, Datum.lookup_setMember, if_neg outside]

/-- The path leads to something else than the setting: to another section, or to another key in the
same one. -/
inductive IsApart (setting : Setting) : List PathStep → Prop
  | outside {name : String} {rest : List PathStep} :
      name.toLower ≠ setting.sectionName → IsApart setting (.name name :: rest)
  | beside {name key : String} {rest : List PathStep} :
      key.toLower ≠ setting.key → IsApart setting (.name name :: .name key :: rest)

end Setting

/-- The second data hold a datum for the setting, and for the rest what the first hold. -/
structure Overrides (setting : Setting) (datum root other : Datum) : Prop where
  table : ∃ members, other = .table members
  elsewhere : ∀ name, name ≠ setting.sectionName →
    other.tableMembers.lookup name = root.tableMembers.lookup name
  inSection : ∃ members,
    other.tableMembers.lookup setting.sectionName = some (.table members) ∧
      members.lookup setting.key = some datum ∧
        ∀ key, key ≠ setting.key → members.lookup key = (setting.beside root).lookup key

theorem overrides_putAt (leaf : datum.IsLeaf) (setting : Setting) (root : Datum) :
    Overrides setting datum root
      (root.putAt [.name setting.sectionName, .name setting.key] datum) := by
  rw [Datum.putAt_leaf root setting.toLower_sectionName setting.toLower_key leaf]
  constructor
  · exact ⟨_, rfl⟩
  · intro name differ
    rw [Datum.tableMembers, Datum.lookup_setMember, if_neg differ]
  · refine ⟨Datum.setMember setting.key datum (setting.beside root), ?_, ?_, fun key differ => ?_⟩
    · rw [Datum.tableMembers, Datum.lookup_setMember, if_pos rfl]
      rfl
    · rw [Datum.lookup_setMember, if_pos rfl]
    · rw [Datum.lookup_setMember, if_neg differ]

namespace Overrides

variable {added : Datum}

theorem putAt_outside (overrides : Overrides setting datum root other) (leaf : added.IsLeaf)
    {name : String} (outside : name.toLower ≠ setting.sectionName) (rest : List PathStep) :
    Overrides setting datum (root.putAt (.name name :: rest) added)
      (other.putAt (.name name :: rest) added) := by
  obtain ⟨inner, puts⟩ := Datum.exists_putAt leaf name rest
    (root.tableMembers.lookup name.toLower)
  rw [puts root rfl, puts other (overrides.elsewhere _ outside)]
  obtain ⟨members, found, holds, others⟩ := overrides.inSection
  constructor
  · exact ⟨_, rfl⟩
  · intro another differ
    rw [Datum.tableMembers, Datum.tableMembers, Datum.lookup_setMember, Datum.lookup_setMember,
      overrides.elsewhere another differ]
  · refine ⟨members, ?_, holds, fun key differ => ?_⟩
    · rw [Datum.tableMembers, Datum.lookup_setMember, if_neg outside.symm, found]
    · rw [others key differ, Setting.beside, Setting.beside, Datum.tableMembers,
        Datum.lookup_setMember, if_neg outside.symm]

theorem putAt_beside (overrides : Overrides setting datum root other) (leaf : added.IsLeaf)
    {name key : String} (inside : name.toLower = setting.sectionName)
    (differ : key.toLower ≠ setting.key) (rest : List PathStep) :
    Overrides setting datum (root.putAt (.name name :: .name key :: rest) added)
      (other.putAt (.name name :: .name key :: rest) added) := by
  obtain ⟨members, found, holds, others⟩ := overrides.inSection
  obtain ⟨inner, puts⟩ := Datum.exists_putAt leaf key rest
    ((setting.beside root).lookup key.toLower)
  have below : ((root.tableMembers.lookup setting.sectionName).getD .nothing).putAt
      (.name key :: rest) added =
        .table (Datum.setMember key.toLower inner (setting.beside root)) := puts _ rfl
  have above : (Datum.table members).putAt (.name key :: rest) added =
      .table (Datum.setMember key.toLower inner members) := puts _ (others _ differ)
  rw [Datum.putAt_cons, Datum.putAt_cons, inside, found, Option.getD_some, below, above]
  constructor
  · exact ⟨_, rfl⟩
  · intro another outside
    rw [Datum.tableMembers, Datum.tableMembers, Datum.lookup_setMember, Datum.lookup_setMember,
      if_neg outside, if_neg outside, overrides.elsewhere another outside]
  · refine ⟨Datum.setMember key.toLower inner members, ?_, ?_, fun another apart => ?_⟩
    · rw [Datum.tableMembers, Datum.lookup_setMember, if_pos rfl]
    · rw [Datum.lookup_setMember, if_neg differ.symm, holds]
    · have left : setting.beside (.table (Datum.setMember setting.sectionName
          (.table (Datum.setMember key.toLower inner (setting.beside root))) root.tableMembers)) =
          Datum.setMember key.toLower inner (setting.beside root) := by
        rw [Setting.beside, Datum.tableMembers, Datum.lookup_setMember, if_pos rfl]
        rfl
      rw [left, Datum.lookup_setMember, Datum.lookup_setMember, others another apart]

/-- Data that are put elsewhere leave the setting as it is. -/
theorem putAt (overrides : Overrides setting datum root other) (leaf : added.IsLeaf)
    {path : List PathStep} (apart : setting.IsApart path) :
    Overrides setting datum (root.putAt path added) (other.putAt path added) := by
  cases apart with
  | outside outside => exact overrides.putAt_outside leaf outside _
  | @beside name key rest differ =>
    by_cases inside : name.toLower = setting.sectionName
    · exact overrides.putAt_beside leaf inside differ rest
    · exact overrides.putAt_outside leaf inside (.name key :: rest)

theorem read?_self (overrides : Overrides setting datum root other) :
    setting.read? other = setting.convert datum := by
  obtain ⟨members, found, holds, -⟩ := overrides.inSection
  rw [Setting.read?_of_table found, holds]
  rfl

theorem read?_of_ne (overrides : Overrides setting datum root other) {another : Setting}
    (differ : another ≠ setting) : another.read? other = another.read? (setting.makeRoom root) := by
  obtain ⟨members, found, -, others⟩ := overrides.inSection
  by_cases inside : another.sectionName = setting.sectionName
  · rw [← inside] at found
    rw [Setting.read?_of_table found, Setting.read?_of_table (Setting.lookup_makeRoom root inside),
      others another.key fun keys => differ (Setting.eq_of_keys inside keys)]
  · rw [Setting.read?_makeRoom_of_ne root inside, Setting.read?, Setting.read?,
      overrides.elsewhere _ inside]

end Overrides

/-- A setting that is read is still read when there is a table for the section of another one. -/
theorem Setting.exists_read?_makeRoom (setting : Setting) {another : Setting}
    {value : another.Value} (read : another.read? root = some value) :
    ∃ value, another.read? (setting.makeRoom root) = some value := by
  by_cases inside : another.sectionName = setting.sectionName
  · rw [read?_of_table (lookup_makeRoom root inside)]
    cases found : root.tableMembers.lookup setting.sectionName with
    | none =>
      rw [beside, found]
      exact ⟨_, rfl⟩
    | some given =>
      cases given with
      | table members =>
        rw [← inside] at found
        rw [read?_of_table found] at read
        rw [beside, ← inside, found]
        exact ⟨value, read⟩
      | nothing | bool | integer | float | text | array =>
        rw [beside, found]
        exact ⟨_, rfl⟩
  · exact ⟨value, (read?_makeRoom_of_ne root inside).trans read⟩

/-! ### Texts as they arrive -/

/-- The text is a word for a truth value, in letters of any case. -/
def IsWord (text : String) (value : Bool) : Prop :=
  text.toLower = if value then "true" else "false"

/-- What a text from the environment arrives as: where it is a word for a truth value, as this word
in small letters; else where it spells an integer of 64 bits, as its digits without anything that
can be left out; else where it spells a floating-point number, as the shortest positional notation
of it; and only else as itself. -/
inductive Arrives (text : String) : String → Prop
  | word {value : Bool} : IsWord text value → Arrives text (if value then "true" else "false")
  | integer {value : Int} :
      (∀ value, ¬ IsWord text value) → SpellsInteger text.toList value → IsHeld value →
      Arrives text (toString value)
  | float {value : Binary64} :
      (∀ value, ¬ IsWord text value) →
      (∀ value, SpellsInteger text.toList value → ¬ IsHeld value) →
      SpellsFloat text.toList value → Arrives text (Datum.floatText value)
  | plain :
      (∀ value, ¬ IsWord text value) →
      (∀ value, SpellsInteger text.toList value → ¬ IsHeld value) →
      (∀ value, ¬ SpellsFloat text.toList value) → Arrives text text

theorem datumOf_of_no_word {text : String} (noWord : ∀ value, ¬ IsWord text value) :
    Environment.datumOf text =
      match signedOfText? text.toList with
      | some value => .integer value
      | none =>
        match Environment.float? text.toList with
        | some value => .float value
        | none => .text text := by
  have notTrue : text.toLower ≠ "true" := noWord true
  have notFalse : text.toLower ≠ "false" := noWord false
  exact (if_neg notTrue).trans (if_neg notFalse)

theorem toText?_datumOf_iff {text arrived : String} :
    (Environment.datumOf text).toText? = some arrived ↔ Arrives text arrived := by
  constructor
  · intro found
    by_cases word : ∃ value, IsWord text value
    · obtain ⟨value, isWord⟩ := word
      rw [Setting.datumOf_of_word isWord] at found
      exact Option.some.inj found ▸ .word isWord
    · have noWord := not_exists.mp word
      rw [datumOf_of_no_word noWord] at found
      split at found
      · next value read =>
        obtain ⟨spells, held⟩ := signedOfText?_eq_some_iff.mp read
        exact Option.some.inj found ▸ .integer noWord spells held
      · next unread =>
        have noInteger := signedOfText?_eq_none_iff.mp unread
        split at found
        · next value read =>
          exact Option.some.inj found ▸ .float noWord noInteger (float?_eq_some_iff.mp read)
        · next unread =>
          exact Option.some.inj found ▸ .plain noWord noInteger (float?_eq_none_iff.mp unread)
  · intro arrives
    cases arrives with
    | word isWord => rw [Setting.datumOf_of_word isWord]; rfl
    | integer noWord spells held =>
      rw [datumOf_of_no_word noWord, signedOfText?_eq_some_iff.mpr ⟨spells, held⟩]
      rfl
    | float noWord noInteger spells =>
      rw [datumOf_of_no_word noWord, signedOfText?_eq_none_iff.mpr noInteger,
        float?_eq_some_iff.mpr spells]
      rfl
    | plain noWord noInteger noFloat =>
      rw [datumOf_of_no_word noWord, signedOfText?_eq_none_iff.mpr noInteger,
        float?_eq_none_iff.mpr noFloat]
      rfl

theorem isLeaf_datumOf (text : String) : (Environment.datumOf text).IsLeaf := by
  unfold Environment.datumOf
  split
  · trivial
  · split
    · trivial
    · split
      · trivial
      · split <;> trivial

/-! ### A variable for a text -/

/-- The variable is for something else than the setting. -/
def Setting.IsApartFrom (setting : Setting) (name : String) : Prop :=
  ∀ key ∈ Environment.keyOf? name, setting.IsApart (PathStep.ofKey key)

/-- Data that are put elsewhere, one after the other, leave the setting as it is. -/
theorem Overrides.putLayer {layer : List (String × Datum)}
    (overrides : Overrides setting datum root other)
    (leaves : ∀ member ∈ layer, member.2.IsLeaf)
    (apart : ∀ member ∈ layer, setting.IsApart (PathStep.ofKey member.1)) :
    Overrides setting datum (root.putLayer layer) (other.putLayer layer) := by
  induction layer generalizing root other with
  | nil => exact overrides
  | cons member rest inductionHypothesis =>
    obtain ⟨leaf, otherLeaves⟩ := List.forall_mem_cons.mp leaves
    obtain ⟨first, others⟩ := List.forall_mem_cons.mp apart
    exact inductionHypothesis (overrides.putAt leaf first) otherLeaves others

/-- A datum for the setting among data that are put elsewhere. -/
theorem overrides_layer {front back : List (String × Datum)} (leaf : datum.IsLeaf)
    (leaves : ∀ member ∈ back, member.2.IsLeaf)
    (apart : ∀ member ∈ back, setting.IsApart (PathStep.ofKey member.1)) (root : Datum) :
    Overrides setting datum (root.putLayer (front ++ back))
      (root.putLayer (front ++ (setting.path, datum) :: back)) := by
  rw [Datum.putLayer_append, Datum.putLayer_append]
  refine Overrides.putLayer ?_ leaves apart
  show Overrides _ _ _ (Datum.putAt _ (PathStep.ofKey setting.path) _)
  rw [setting.ofKey_path]
  exact overrides_putAt leaf setting _

theorem exists_of_mem_given {environment : Environment} {member : String × Datum}
    (listed : member ∈ environment.given) : ∃ entry ∈ environment,
      Environment.keyOf? entry.1 = some member.1 ∧ member.2 = Environment.datumOf entry.2 := by
  obtain ⟨entry, given, made⟩ := List.mem_filterMap.mp listed
  obtain ⟨key, named, rfl⟩ := Option.map_eq_some_iff.mp made
  exact ⟨entry, given, named, rfl⟩

theorem isLeaf_of_mem_layer {environment : Environment} :
    ∀ member ∈ environment.layer, member.2.IsLeaf := by
  intro member listed
  obtain ⟨entry, -, -, value⟩ := exists_of_mem_given ((sublist_lastOfEach _).subset listed)
  rw [value]
  exact isLeaf_datumOf entry.2

/-- Whatever the order of their taking, the variables stay the same. -/
theorem perm_arrangedLayer (orders : Orders) (name : String) (environment : Environment) :
    (arrangedLayer orders (name, environment.layer)).Perm environment.layer := by
  rw [arrangedLayer, Datum.arrangedMembers_of_isLeaf isLeaf_of_mem_layer]
  exact (orders [name]).perm _

theorem given_append (before after : Environment) :
    Environment.given (before ++ after) = before.given ++ after.given :=
  List.filterMap_append

/-- The path of a setting does not lead to something else. -/
theorem Setting.ne_path_of_isApart {key : String}
    (apart : setting.IsApart (PathStep.ofKey key)) : key ≠ setting.path := by
  rintro rfl
  rw [setting.ofKey_path] at apart
  cases apart with
  | outside differ => exact differ setting.toLower_sectionName
  | beside differ => exact differ setting.toLower_key

/-- Where one member has a name of its own, the others are the last of each without it. -/
theorem perm_lastOfEach {front back : List (String × Datum)} {own : String × Datum}
    (new : ∀ member ∈ front ++ back, member.1 ≠ own.1) :
    (Environment.lastOfEach (front ++ own :: back)).Perm
      (own :: Environment.lastOfEach (front ++ back)) := by
  induction front with
  | nil =>
    have last : ¬ (back.any fun later => later.1 == own.1) = true := by
      rw [List.any_eq_true]
      rintro ⟨later, listed, same⟩
      exact new later listed (beq_iff_eq.mp same)
    rw [List.nil_append, Environment.lastOfEach, if_neg last]
    exact .refl _
  | cons member rest inductionHypothesis =>
    obtain ⟨first, others⟩ := List.forall_mem_cons.mp new
    have among : ((rest ++ own :: back).any fun later => later.1 == member.1) =
        (rest ++ back).any fun later => later.1 == member.1 := by
      rw [List.any_append, List.any_append, List.any_cons, beq_false_of_ne first.symm,
        Bool.false_or]
    rw [List.cons_append, List.cons_append, Environment.lastOfEach, Environment.lastOfEach, among]
    split
    · exact inductionHypothesis others
    · exact ((inductionHypothesis others).cons member).trans (.swap _ _ _)

/-- A variable for a setting is taken somewhere among the others. It overrides what these give over
any data. -/
theorem exists_overrides {before after : Environment} {name : String}
    (names : name.toLower = setting.variableName.toLower) (text : String)
    (apart : ∀ entry ∈ before ++ after, setting.IsApartFrom entry.1)
    (orders : Orders) :
    ∃ others, others.Perm (Environment.layer (before ++ after)) ∧ ∀ root : Datum,
      Overrides setting (Environment.datumOf text) (root.putLayer others)
        (root.putLayer (arrangedLayer orders
          ("environment", Environment.layer (before ++ (name, text) :: after)))) := by
  have apartGiven : ∀ member ∈ Environment.given (before ++ after),
      setting.IsApart (PathStep.ofKey member.1) := by
    intro member listed
    obtain ⟨entry, given, named, -⟩ := exists_of_mem_given listed
    exact apart entry given member.1 named
  have perm : (Environment.layer (before ++ (name, text) :: after)).Perm
      ((setting.path, Environment.datumOf text) :: Environment.layer (before ++ after)) := by
    rw [Environment.layer, Environment.layer, given_append, given_cons names, given_append]
    refine perm_lastOfEach fun member listed => Setting.ne_path_of_isApart (apartGiven member ?_)
    rwa [given_append]
  have arranged := (perm_arrangedLayer orders "environment" _).trans perm
  obtain ⟨front, back, split⟩ := List.append_of_mem (arranged.mem_iff.mpr List.mem_cons_self)
  rw [split] at arranged ⊢
  have others : (front ++ back).Perm (Environment.layer (before ++ after)) :=
    (List.perm_middle.symm.trans arranged).cons_inv
  have among : ∀ member ∈ back, member ∈ Environment.layer (before ++ after) :=
    fun member listed => others.mem_iff.mp (List.mem_append_right front listed)
  exact ⟨front ++ back, others, overrides_layer (isLeaf_datumOf text)
    (fun member listed => isLeaf_of_mem_layer member (among member listed))
    fun member listed =>
      apartGiven member ((sublist_lastOfEach _).subset (among member listed))⟩

/-! ### Loading -/

/-- A setting that is a text. -/
inductive TextSetting where
  | endpoint
  | state
  | level
  deriving DecidableEq, Repr

/-- The setting as one of all. -/
def TextSetting.asSetting : TextSetting → Setting
  | endpoint => .endpoint
  | state => .state
  | level => .level

/-- The text of a setting. -/
def text (settings : Settings) : TextSetting → String
  | .endpoint => settings.endpoint
  | .state => settings.state
  | .level => settings.level

/-- A text setting has a value when it is given, which is the text as it arrives. -/
theorem TextSetting.convert_iff (chosen : TextSetting) {text : String} {settings : Settings} :
    chosen.asSetting.convert (Environment.datumOf text) = some (settings.value chosen.asSetting) ↔
      Arrives text (settings.text chosen) := by
  cases chosen <;> exact toText?_datumOf_iff

/-- What the files give does not depend on a variable for a setting. -/
theorem fileLayers_of_setting {name : String} (names : name.toLower = setting.variableName.toLower)
    {sources : Sources} {text : String} {before after : Environment}
    (given : sources.environment = before ++ (name, text) :: after) :
    fileLayers sources = fileLayers { sources with environment := before ++ after } := by
  have named := Setting.keyOf?_variableName names
  have same (other : String) (foreign : Environment.keyOf? other = none) :
      sources.environment.get? other = Environment.get? (before ++ after) other := by
    have differ : other ≠ name := by
      rintro rfl
      rw [foreign] at named
      cases named
    rw [given, Environment.get?, Environment.get?, List.lookup_append, List.lookup_append,
      Entries.lookup_cons, if_neg differ]
  have userFile : userFile? sources.environment sources.home =
      userFile? (before ++ after) sources.home := by
    unfold userFile?
    rw [same "XDG_CONFIG_HOME" (by decide +kernel), same "HOME" (by decide +kernel)]
  unfold fileLayers
  dsimp only
  rw [userFile]

theorem merged_concat (lower : List (List (String × Datum))) (layer : List (String × Datum)) :
    merged (lower ++ [layer]) = (merged lower).putLayer layer := by
  rw [merged, List.foldl_append]
  rfl

theorem exists_merged_eq_table (layers : List (List (String × Datum))) :
    ∃ members, merged layers = .table members := by
  rw [merged_eq]
  exact Datum.exists_putLayer_eq_table layers.flatten []

/-- What the defaults and the layers of files make together with a layer over them. -/
def mergedUnder (sources : Sources) (files : List (String × List (String × Datum)))
    (layer : List (String × Datum)) : Datum :=
  let lower := ("defaults", defaultLayer) :: files
  merged (lower.map (arrangedLayer sources.reading.members) ++ [layer])

theorem layers_of_ok {sources : Sources} {files : List (String × List (String × Datum))}
    (found : fileLayers sources = .ok files) :
    layers sources = .ok ((("defaults", defaultLayer) :: files).map
      (arrangedLayer sources.reading.members) ++
        [arrangedLayer sources.reading.members ("environment", sources.environment.layer)]) := by
  unfold layers
  rw [found]
  dsimp only [bind, Except.bind, pure, Except.pure]
  rw [List.map_append]
  rfl

/-- Settings are loaded from what the files give, with the environment over it. -/
theorem load_iff_of_ok {sources : Sources} {files : List (String × List (String × Datum))}
    (found : fileLayers sources = .ok files) {settings : Settings} :
    load sources = .ok settings ↔
      ofDatum? (mergedUnder sources files (arrangedLayer sources.reading.members
        ("environment", sources.environment.layer))) = some settings := by
  unfold load
  rw [layers_of_ok found]
  dsimp only [bind, Except.bind]
  rw [mergedUnder]
  split
  · next read => rw [read, Except.ok.injEq, Option.some.injEq]
  · next unread => rw [unread]; exact iff_of_false nofun nofun

theorem load_of_error {sources : Sources} {failure : LoadFailure}
    (failed : fileLayers sources = .error failure) : load sources = .error failure := by
  unfold load layers
  rw [failed]
  rfl

/-- Where settings are read, each of them is still read with a table for the section of one. -/
theorem exists_read?_merged {layers : List (List (String × Datum))} {settings : Settings}
    (read : ofDatum? (merged layers) = some settings) (setting another : Setting) :
    ∃ value, another.read? (setting.makeRoom (merged layers)) = some value := by
  obtain ⟨members, shape⟩ := exists_merged_eq_table layers
  rw [shape] at read ⊢
  exact setting.exists_read?_makeRoom (ofDatum?_eq_some_iff.mp read another)

/-! ### The text that is loaded -/

theorem exists_arrives (text : String) : ∃ arrived, Arrives text arrived := by
  by_cases word : ∃ value, IsWord text value
  · exact ⟨_, .word word.choose_spec⟩
  · have noWord := not_exists.mp word
    by_cases integer : ∃ value, SpellsInteger text.toList value ∧ IsHeld value
    · exact ⟨_, .integer noWord integer.choose_spec.1 integer.choose_spec.2⟩
    · have noInteger : ∀ value, SpellsInteger text.toList value → ¬ IsHeld value :=
        fun value spells held => integer ⟨value, spells, held⟩
      by_cases float : ∃ value, SpellsFloat text.toList value
      · exact ⟨_, .float noWord noInteger float.choose_spec⟩
      · exact ⟨_, .plain noWord noInteger (not_exists.mp float)⟩

theorem Arrives.unique {text arrived other : String} (arrives : Arrives text arrived)
    (arrivesOther : Arrives text other) : arrived = other :=
  Option.some.inj ((toText?_datumOf_iff.mpr arrives).symm.trans
    (toText?_datumOf_iff.mpr arrivesOther))

section

variable {chosen : TextSetting} {text : String}

/-- From data with a text for a setting, this text is read as it arrives, and the rest from what is
there without it. -/
theorem Overrides.ofDatum?_iff {settings : Settings}
    (overrides : Overrides chosen.asSetting (Environment.datumOf text) root other) :
    ofDatum? other = some settings ↔
      Arrives text (settings.text chosen) ∧
        ∀ another, another ≠ chosen.asSetting →
          another.read? (chosen.asSetting.makeRoom root) = some (settings.value another) := by
  obtain ⟨members, shape⟩ := overrides.table
  have own : chosen.asSetting.read? other = some (settings.value chosen.asSetting) ↔
      Arrives text (settings.text chosen) := by
    rw [overrides.read?_self, chosen.convert_iff]
  have each : ofDatum? other = some settings ↔
      ∀ setting : Setting, setting.read? other = some (settings.value setting) := by
    rw [shape]
    exact ofDatum?_eq_some_iff
  rw [each, ← own]
  constructor
  · exact fun all =>
      ⟨all _, fun another differ => (overrides.read?_of_ne differ).symm.trans (all another)⟩
  · rintro ⟨self, rest⟩ setting
    by_cases same : setting = chosen.asSetting
    · exact same ▸ self
    · exact (overrides.read?_of_ne same).trans (rest setting same)

/-- Such data can be read when the rest can. -/
theorem Overrides.exists_ofDatum?
    (overrides : Overrides chosen.asSetting (Environment.datumOf text) root other)
    (rest : ∀ another, another ≠ chosen.asSetting →
      ∃ value, another.read? (chosen.asSetting.makeRoom root) = some value) :
    ∃ settings, ofDatum? other = some settings := by
  obtain ⟨arrived, arrives⟩ := exists_arrives text
  have self : ∃ value, chosen.asSetting.convert (Environment.datumOf text) = some value := by
    have found := toText?_datumOf_iff.mpr arrives
    cases chosen <;> exact ⟨arrived, found⟩
  have each (setting : Setting) : ∃ value, setting.read? other = some value := by
    by_cases same : setting = chosen.asSetting
    · rw [same, overrides.read?_self]
      exact self
    · rw [overrides.read?_of_ne same]
      exact rest setting same
  choose value read using each
  obtain ⟨members, shape⟩ := overrides.table
  refine ⟨ofValues value, ?_⟩
  rw [shape] at read ⊢
  refine ofDatum?_eq_some_iff.mpr fun setting => ?_
  rw [value_ofValues, read]

end

/-- A variable for a setting that is a text, where no other is for the same setting or in the way of
it. What the files give does not depend on it, and settings cannot be loaded when a file cannot be
read. When all can, settings are loaded exactly when all the other settings can be read from what
the files and the other variables make together, taken in some order; the setting is then the text
as it arrives, and the others are what is read. In particular settings are loaded when they can be
read without the variable, whatever its text. -/
theorem load_of_override (chosen : TextSetting) {sources : Sources} {before after : Environment}
    {name text : String} (given : sources.environment = before ++ (name, text) :: after)
    (names : name.toLower = chosen.asSetting.variableName.toLower)
    (apart : ∀ entry ∈ before ++ after, chosen.asSetting.IsApartFrom entry.1) :
    fileLayers sources = fileLayers { sources with environment := before ++ after } ∧
    (∀ failure, fileLayers sources = .error failure → load sources = .error failure) ∧
    ∀ files, fileLayers sources = .ok files → ∃ others,
      others.Perm (Environment.layer (before ++ after)) ∧
      let below := mergedUnder sources files others
      ((∃ settings, load sources = .ok settings) ↔ ∀ another, another ≠ chosen.asSetting →
        ∃ value, another.read? (chosen.asSetting.makeRoom below) = some value) ∧
      (∀ settings, load sources = .ok settings ↔
        (∀ arrived, Arrives text arrived ↔ settings.text chosen = arrived) ∧
          ∀ another, another ≠ chosen.asSetting →
            another.read? (chosen.asSetting.makeRoom below) = some (settings.value another)) ∧
      ((∃ settings, ofDatum? below = some settings) → ∃ settings, load sources = .ok settings) := by
  refine ⟨fileLayers_of_setting names given, fun _ => load_of_error, fun files found => ?_⟩
  obtain ⟨others, perm, overridesOver⟩ :=
    exists_overrides names text apart sources.reading.members
  refine ⟨others, perm, ?_⟩
  intro below
  have overrides : Overrides chosen.asSetting (Environment.datumOf text) below
      (mergedUnder sources files
        (arrangedLayer sources.reading.members ("environment", sources.environment.layer))) := by
    rw [given, mergedUnder, merged_concat]
    show Overrides _ _ (mergedUnder sources files others) _
    rw [mergedUnder, merged_concat]
    exact overridesOver _
  have succeeds (rest : ∀ another, another ≠ chosen.asSetting → ∃ value,
      another.read? (chosen.asSetting.makeRoom below) = some value) :
      ∃ settings, load sources = .ok settings := by
    obtain ⟨settings, read⟩ := overrides.exists_ofDatum? rest
    exact ⟨settings, (load_iff_of_ok found).mpr read⟩
  refine ⟨⟨fun ⟨settings, loaded⟩ another differ => ?_, succeeds⟩, fun settings => ?_,
    fun ⟨settings, read⟩ => succeeds fun another _ =>
      exists_read?_merged read chosen.asSetting another⟩
  · have read := overrides.ofDatum?_iff.mp ((load_iff_of_ok found).mp loaded)
    exact ⟨_, read.2 another differ⟩
  · rw [load_iff_of_ok found, overrides.ofDatum?_iff]
    refine and_congr_left fun _ => ⟨fun arrives arrived => ?_, fun only => (only _).mpr rfl⟩
    exact ⟨fun other => arrives.unique other, fun same => same ▸ arrives⟩

/-- A level with an exponent, over a file in which the level is no text at all. -/
theorem load_of_override_with_exponent :
    let disk := Disk.empty.addFile "/.swallowtail/config.toml" "[logging]\nlevel = [1]\n" 420
    let after : Environment := [("SWALLOWTAIL__OTHER", "x")]
    let sources : Sources :=
      ⟨"/", disk, ("SWALLOWTAIL__LOGGING__LEVEL", "1e3") :: after, none, none, .plain⟩
    load sources = .ok { default with level := "1000" } ∧ Arrives "1e3" "1000" := by
  intro disk after sources
  have loaded : load sources = .ok { default with level := "1000" } := by decide +kernel
  have other : Environment.keyOf? "SWALLOWTAIL__OTHER" = some "other" := by decide +kernel
  have apart : ∀ entry ∈ [] ++ after, Setting.level.IsApartFrom entry.1 := by
    intro entry member key named
    rw [List.mem_singleton.mp member, other] at named
    rw [← Option.some.inj named, show PathStep.ofKey "other" = [.name "other"] by decide +kernel]
    exact .outside (by decide +kernel)
  have given : sources.environment =
    [] ++ ("SWALLOWTAIL__LOGGING__LEVEL", "1e3") :: after := rfl
  obtain ⟨-, fails, succeeds⟩ := load_of_override .level given rfl apart
  cases read : fileLayers sources with
  | error failure => cases (fails failure read).symm.trans loaded
  | ok files =>
    obtain ⟨others, -, -, exactly, -⟩ := succeeds files read
    obtain ⟨arrives, -⟩ := (exactly _).mp loaded
    exact ⟨loaded, (arrives "1000").mpr rfl⟩

/-- A directory whose name reads as a number does not arrive as it is given; and a text that arrives
as it is given does not help where another setting is unsuitable. -/
theorem load_ne_of_leading_zeros :
    let named (directory : String) : Environment := [("SWALLOWTAIL__PATHS__STATE", directory)]
    let disk :=
      Disk.empty.addFile "/.swallowtail/config.toml" "[ui]\nrefresh_rate_ms = \"soon\"\n" 420
    let without (directory : String) : Sources :=
      ⟨"/", .empty, named directory, none, none, .plain⟩
    load (without "007") = .ok { default with state := "7" } ∧
      (¬ ∃ settings, load (without "007") = .ok settings ∧ settings.state = "007") ∧
      load ⟨"/", disk, named "kept", none, none, .plain⟩ = .error .unsuitable := by
  intro named disk without
  have loaded : load (without "007") = .ok { default with state := "7" } := by
    decide +kernel
  refine ⟨loaded, ?_, by decide +kernel⟩
  rintro ⟨settings, other, same⟩
  cases Except.ok.inj (loaded.symm.trans other)
  exact absurd same (by decide)

end Onboarding.Settings
