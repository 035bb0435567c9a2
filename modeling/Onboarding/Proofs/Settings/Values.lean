/-
This file holds the settings one by one: where each of them stands, what it can be, and
how it is read from data. The same value is given by different data, as formats differ in
what they can hold: one hands a number over as such, another as a text. What stands for
a value is told here without the reading, and the reading is proved to find it.
-/

import Onboarding.Proofs.Settings.Merging
import Onboarding.Proofs.Settings.Numerals
import Onboarding.Settings.Loading

namespace Onboarding.Settings

open Numeric Json

/-! ### Settings one by one -/

/-- One of the settings. -/
inductive Setting where
  | endpoint
  | state
  | persist
  | refreshMillis
  | level
  | toFile
  deriving DecidableEq, Repr

namespace Setting

/-- The name of the section that the setting is in. -/
def sectionName : Setting → String
  | endpoint => "api"
  | state => "paths"
  | persist => "credentials"
  | refreshMillis => "ui"
  | level | toFile => "logging"

/-- The key of the setting in its section. -/
def key : Setting → String
  | endpoint => "endpoint"
  | state => "state"
  | persist => "persist"
  | refreshMillis => "refresh_rate_ms"
  | level => "level"
  | toFile => "to_file"

/-- What the setting can be. -/
abbrev Value : Setting → Type
  | endpoint | state | level => String
  | persist | toFile => Bool
  | refreshMillis => Nat

end Setting

/-- The value of a setting. -/
def value (settings : Settings) : (setting : Setting) → setting.Value
  | .endpoint => settings.endpoint
  | .state => settings.state
  | .persist => settings.persist
  | .refreshMillis => settings.refreshMillis
  | .level => settings.level
  | .toFile => settings.toFile

/-- The settings with the values. -/
def ofValues (value : (setting : Setting) → setting.Value) : Settings where
  endpoint := value .endpoint
  state := value .state
  persist := value .persist
  refreshMillis := value .refreshMillis
  level := value .level
  toFile := value .toFile

@[simp]
theorem value_ofValues (values : (setting : Setting) → setting.Value) (setting : Setting) :
    (ofValues values).value setting = values setting := by
  cases setting <;> rfl

@[simp]
theorem ofValues_value (settings : Settings) : ofValues settings.value = settings := rfl

namespace Setting

theorem eq_of_keys {setting other : Setting} (sections : setting.sectionName = other.sectionName)
    (keys : setting.key = other.key) : setting = other := by
  revert sections keys
  cases setting <;> cases other <;> decide

theorem toLower_sectionName (setting : Setting) :
    setting.sectionName.toLower = setting.sectionName := by
  cases setting <;> decide +kernel

theorem toLower_key (setting : Setting) : setting.key.toLower = setting.key := by
  cases setting <;> decide +kernel

/-! ### Reading setting by setting -/

/-- The keys of the section that the setting is in, in order. -/
def keys : Setting → List String
  | endpoint => ["endpoint"]
  | state => ["state"]
  | persist => ["persist"]
  | refreshMillis => ["refresh_rate_ms"]
  | level | toFile => ["level", "to_file"]

/-- The place of the setting in its section. -/
def index : Setting → Nat
  | toFile => 1
  | _ => 0

/-- What a datum is taken for. -/
def convert : (setting : Setting) → Datum → Option setting.Value
  | endpoint | state | level => Datum.toText?
  | persist | toFile => Datum.toBool?
  | refreshMillis => Datum.toWord?

/-- The value of the setting that data holds, or the default. -/
def read? (setting : Setting) (root : Datum) : Option setting.Value :=
  datumOr? setting.keys setting.index setting.convert (default.value setting)
    (root.tableMembers.lookup setting.sectionName)

/-- The datum for the setting. -/
def datum? (setting : Setting) (root : Datum) : Option Datum :=
  root.under? setting.sectionName setting.key

theorem keys_index (setting : Setting) : setting.keys[setting.index]? = some setting.key := by
  cases setting <;> rfl

theorem read?_of_table {setting : Setting} {root : Datum} {members : List (String × Datum)}
    (found : root.tableMembers.lookup setting.sectionName = some (.table members)) :
    setting.read? root =
      (members.lookup setting.key).elim (some (default.value setting)) setting.convert := by
  have member : (setting.keys.map fun name => members.lookup name)[setting.index]?.join =
      members.lookup setting.key := by
    rw [List.getElem?_map, setting.keys_index]
    rfl
  rw [read?, found]
  unfold datumOr?
  dsimp only [Datum.members?, bind, Option.bind]
  rw [member]
  cases members.lookup setting.key <;> rfl

/-- The datum for a setting is read as what it is taken for. -/
theorem read?_of_datum? {setting : Setting} {root datum : Datum} (sections : root.IsSections)
    (found : setting.datum? root = some datum) : setting.read? root = setting.convert datum := by
  obtain ⟨given, under, there⟩ := Option.bind_eq_some_iff.mp found
  obtain ⟨members, rfl⟩ := sections.members _ given under
  have there : members.lookup setting.key = some datum := there
  rw [read?_of_table under, there]
  rfl

end Setting

/-- Settings are read from data when each of them is. -/
theorem ofDatum?_eq_some_iff {members : List (String × Datum)} {settings : Settings} :
    ofDatum? (.table members) = some settings ↔
      ∀ setting : Setting, setting.read? (.table members) = some (settings.value setting) := by
  constructor
  · intro read
    obtain ⟨endpoint, readEndpoint, read⟩ := Option.bind_eq_some_iff.mp read
    obtain ⟨state, readState, read⟩ := Option.bind_eq_some_iff.mp read
    obtain ⟨persist, readPersist, read⟩ := Option.bind_eq_some_iff.mp read
    obtain ⟨refreshMillis, readMillis, read⟩ := Option.bind_eq_some_iff.mp read
    obtain ⟨level, readLevel, read⟩ := Option.bind_eq_some_iff.mp read
    obtain ⟨toFile, readToFile, read⟩ := Option.bind_eq_some_iff.mp read
    cases Option.some.inj read
    intro setting
    cases setting <;> assumption
  · intro each
    refine Option.bind_eq_some_iff.mpr ⟨_, each .endpoint, ?_⟩
    refine Option.bind_eq_some_iff.mpr ⟨_, each .state, ?_⟩
    refine Option.bind_eq_some_iff.mpr ⟨_, each .persist, ?_⟩
    refine Option.bind_eq_some_iff.mpr ⟨_, each .refreshMillis, ?_⟩
    refine Option.bind_eq_some_iff.mpr ⟨_, each .level, ?_⟩
    exact Option.bind_eq_some_iff.mpr ⟨_, each .toFile, rfl⟩

/-! ### What stands for a value -/

/-- The words for a truth value. -/
def wordsFor : Bool → List String
  | true => ["true", "on", "yes", "1"]
  | false => ["false", "off", "no", "0"]

/-- The text is one of the words for the truth value, in letters of any case. -/
def IsWordFor (text : String) (value : Bool) : Prop :=
  text.toLower ∈ wordsFor value

/-- The datum stands for the number: it is this number, a floating-point number to which no other
word of 64 bits is nearer, or the text of its digits. -/
inductive StandsForWord : Datum → Nat → Prop
  | integer {number : Nat} : number < wordCount → StandsForWord (.integer number) number
  | float (number : Binary64) : StandsForWord (.float number) number.toWord
  | text {text : String} {number : Nat} :
      SpellsWord text.toList number → StandsForWord (.text text) number

/-- The datum stands for the truth value: it is this value, or a word for it. -/
inductive StandsForBool : Datum → Bool → Prop
  | bool (value : Bool) : StandsForBool (.bool value) value
  | text {text : String} {value : Bool} : IsWordFor text value → StandsForBool (.text text) value

/-- The datum stands for a value of the setting. For a text only this text does. -/
def Setting.Stands : (setting : Setting) → Datum → setting.Value → Prop
  | endpoint, datum, text | state, datum, text | level, datum, text => datum = .text text
  | persist, datum, value | toFile, datum, value => StandsForBool datum value
  | refreshMillis, datum, millis => StandsForWord datum millis

theorem StandsForBool.toBool? {datum : Datum} {value : Bool} (stands : StandsForBool datum value) :
    datum.toBool? = some value := by
  cases stands with
  | bool => rfl
  | @text text _ word =>
    have among (value : Bool) : ∀ word ∈ wordsFor value,
        (if word = "1" || Datum.trueWords.contains word then some true
          else if word = "0" || Datum.falseWords.contains word then some false
          else none) = some value := by
      cases value <;> decide
    exact among value text.toLower word

theorem StandsForWord.toWord? {datum : Datum} {number : Nat} (stands : StandsForWord datum number) :
    datum.toWord? = some number := by
  cases stands with
  | integer fits =>
    have held : (0 ≤ (number : Int) && (number : Int) < (wordCount : Int)) = true := by
      simp only [Bool.and_eq_true, decide_eq_true_eq]
      omega
    rw [Datum.toWord?, if_pos held, Int.toNat_natCast]
  | float => rfl
  | @text text _ spells =>
    have digits : SpellsCount text.toList number := by
      obtain ⟨-, digits, shape, some, all, value⟩ := spells
      exact ⟨digits, shape, ⟨some, all⟩, (digitsValue_eq digits).trans value⟩
    have noWord (word : String) (member : word ∈ Datum.trueWords ++ Datum.falseWords) :
        text.toLower ≠ word := by
      rw [toLower_eq text]
      have letters : (Datum.trueWords ++ Datum.falseWords).all (fun word =>
          word.toList.any fun letter => !letter.isDigit && letter != '+') = true := by decide
      obtain ⟨letter, among, other⟩ := List.any_eq_true.mp (List.all_eq_true.mp letters word member)
      rw [Bool.and_eq_true, Bool.not_eq_true', bne_iff_ne] at other
      exact digits.toLower_ne letter among other.1 other.2
    have noTrue : Datum.trueWords.contains text.toLower = false := by
      rw [List.contains_eq_mem, decide_eq_false_iff_not]
      exact fun member => noWord _ (List.mem_append_left _ member) rfl
    have noFalse : Datum.falseWords.contains text.toLower = false := by
      rw [List.contains_eq_mem, decide_eq_false_iff_not]
      exact fun member => noWord _ (List.mem_append_right _ member) rfl
    rw [Datum.toWord?, noTrue, noFalse]
    exact wordOfText?_eq_some_iff.mpr spells

namespace Setting

section

variable {setting : Setting} {datum : Datum} {value : setting.Value}

/-- What stands for a value is taken for it. -/
theorem Stands.convert (stands : setting.Stands datum value) :
    setting.convert datum = some value := by
  cases setting with
  | endpoint | state | level =>
    obtain rfl : datum = .text value := stands
    rfl
  | persist | toFile => exact StandsForBool.toBool? stands
  | refreshMillis => exact StandsForWord.toWord? stands

theorem Stands.isLeaf (stands : setting.Stands datum value) : datum.IsLeaf := by
  cases setting with
  | endpoint | state | level =>
    obtain rfl : datum = .text value := stands
    trivial
  | persist | toFile =>
    have stands : StandsForBool datum value := stands
    cases stands <;> trivial
  | refreshMillis =>
    have stands : StandsForWord datum value := stands
    cases stands <;> trivial

end

/-! ### The data that values make -/

/-- A number as data, as a JSON document has it: one that 64 bits with a sign cannot hold is a
floating-point number. -/
def countDatum (count : Nat) : Datum :=
  .ofJson (.number (.integer count))

/-- What becomes of a number as data when it is read as a word: itself, or the word nearest to its
floating-point number. -/
def takenCount (count : Nat) : Nat :=
  if count < signedCount then count else (Binary64.ofDecimal ⟨false, count, 0⟩).toWord

/-- A value of the setting as data. -/
def datum : (setting : Setting) → setting.Value → Datum
  | endpoint, text | state, text | level, text => .text text
  | persist, value | toFile, value => .bool value
  | refreshMillis, millis => countDatum millis

/-- What the setting becomes when a value is given for it. -/
def taken : (setting : Setting) → setting.Value → setting.Value
  | refreshMillis, millis => takenCount millis
  | endpoint, text | state, text | level, text => text
  | persist, value | toFile, value => value

theorem countDatum_eq (count : Nat) :
    countDatum count =
      if count < signedCount then .integer count else .float (.ofDecimal ⟨false, count, 0⟩) := by
  rw [countDatum, Datum.ofJson]
  simp only [Int.ofNat_lt, Int.toNat_natCast]

theorem standsForWord_countDatum (count : Nat) :
    StandsForWord (countDatum count) (takenCount count) := by
  rw [countDatum_eq, takenCount]
  split
  · next small =>
    have fits : signedCount ≤ wordCount := by decide
    exact .integer (Nat.lt_of_lt_of_le small fits)
  · exact .float _

/-- A value as data stands for what the setting becomes when it is given. -/
theorem stands_datum (setting : Setting) (value : setting.Value) :
    setting.Stands (setting.datum value) (setting.taken value) := by
  cases setting with
  | endpoint | state | level => rfl
  | persist | toFile => exact .bool value
  | refreshMillis => exact standsForWord_countDatum value

theorem taken_value {settings : Settings} (held : settings.refreshMillis < signedCount)
    (setting : Setting) : setting.taken (settings.value setting) = settings.value setting := by
  cases setting with
  | refreshMillis => exact if_pos held
  | _ => rfl

end Setting

end Onboarding.Settings
