/-
This file says what the strings and the records of a JSON document hold, and proves
that just this is read from them. A text may be spelled in many ways, and a record
too: as an object its members may stand in any order and among others, but none of
them may be repeated, and every name must be a text; as an array it lists its members
in order.
-/

import Onboarding.Json.Record
import Onboarding.Exchange.Answer

namespace Onboarding.Json

/-! ### Texts -/

/-- The text that the pieces of a string spell. Sixteen bits stand for the character of this number,
unless they are a surrogate; two surrogates that make a pair stand for one character. -/
inductive Spells : List StringPiece → List Char → Prop
  | nil : Spells [] []
  | char {c : Char} {pieces : List StringPiece} {text : List Char} :
      Spells pieces text → Spells (.char c :: pieces) (c :: text)
  | unit {code : Nat} {pieces : List StringPiece} {text : List Char} :
      ¬ (0xd800 ≤ code ∧ code < 0xe000) → Spells pieces text →
      Spells (.unit code :: pieces) (Char.ofNat code :: text)
  | pair {high low : Nat} {pieces : List StringPiece} {text : List Char} :
      0xd800 ≤ high → high < 0xdc00 → 0xdc00 ≤ low → low < 0xe000 → Spells pieces text →
      Spells (.unit high :: .unit low :: pieces)
        (Char.ofNat (0x10000 + (high - 0xd800) * 0x400 + (low - 0xdc00)) :: text)

theorem textOf?_unit {code : Nat} (plain : ¬ (0xd800 ≤ code ∧ code < 0xe000))
    (pieces : List StringPiece) :
    textOf? (.unit code :: pieces) = (textOf? pieces).map (Char.ofNat code :: ·) := by
  have noSurrogate : (0xd800 ≤ code && code < 0xe000) = false := by simpa using plain
  have noHigh : (0xd800 ≤ code && code < 0xdc00) = false := by
    simp only [Bool.and_eq_false_iff, decide_eq_false_iff_not] at *
    omega
  have noLow : (0xdc00 ≤ code && code < 0xe000) = false := by
    simp only [Bool.and_eq_false_iff, decide_eq_false_iff_not] at *
    omega
  rcases pieces with _ | ⟨_ | low, rest⟩
  · simp [textOf?, noSurrogate]
  · simp [textOf?, noSurrogate]
  · simp [textOf?, noHigh, noLow]

/-- Nothing but what the pieces spell is read from them. -/
theorem spells_of_textOf? {pieces : List StringPiece} {text : List Char}
    (read : textOf? pieces = some text) : Spells pieces text := by
  fun_induction textOf? pieces generalizing text with
  | case1 => exact Option.some.inj read ▸ .nil
  | case2 c rest inductionHypothesis =>
    obtain ⟨others, found, rfl⟩ := Option.map_eq_some_iff.mp read
    exact .char (inductionHypothesis found)
  | case3 high low rest isHigh isLow inductionHypothesis =>
    simp only [Bool.and_eq_true, decide_eq_true_eq] at isHigh isLow
    obtain ⟨others, found, rfl⟩ := Option.map_eq_some_iff.mp read
    exact .pair isHigh.1 isHigh.2 isLow.1 isLow.2 (inductionHypothesis found)
  -- A surrogate that is alone, or with another that makes no pair with it, is no text.
  | case4 | case5 | case7 => cases read
  | case6 code low rest noHigh noLow inductionHypothesis =>
    obtain ⟨others, found, rfl⟩ := Option.map_eq_some_iff.mp read
    simp only [Bool.and_eq_true, decide_eq_true_eq] at noHigh noLow
    exact .unit (by omega) (inductionHypothesis found)
  | case8 code rest _ plain inductionHypothesis =>
    obtain ⟨others, found, rfl⟩ := Option.map_eq_some_iff.mp read
    simp only [Bool.and_eq_true, decide_eq_true_eq] at plain
    exact .unit plain (inductionHypothesis found)

theorem textOf?_eq_some_iff {pieces : List StringPiece} {text : List Char} :
    textOf? pieces = some text ↔ Spells pieces text := by
  refine ⟨spells_of_textOf?, fun spells => ?_⟩
  induction spells with
  | nil => rfl
  | char _ inductionHypothesis =>
    rw [textOf?, inductionHypothesis]
    rfl
  | unit plain _ inductionHypothesis =>
    rw [textOf?_unit plain, inductionHypothesis]
    rfl
  | pair low₁ high₁ low₂ high₂ _ inductionHypothesis =>
    simp [textOf?, low₁, high₁, low₂, high₂, inductionHypothesis]

theorem string?_eq_some_iff {pieces : List StringPiece} {text : String} :
    string? pieces = some text ↔ Spells pieces text.toList := by
  rw [string?, Option.map_eq_some_iff, ← textOf?_eq_some_iff]
  constructor
  · rintro ⟨characters, read, rfl⟩
    rw [read, String.toList_ofList]
  · intro read
    exact ⟨text.toList, read, String.ofList_toList⟩

namespace Tree

/-- The document is a string that spells a text. -/
inductive IsText : Tree → String → Prop
  | string {pieces : List StringPiece} {text : String} :
      Spells pieces text.toList → IsText (.string pieces) text

theorem text?_eq_some_iff {tree : Tree} {text : String} :
    tree.text? = some text ↔ tree.IsText text := by
  constructor
  · intro read
    cases tree with
    | string pieces => exact .string (string?_eq_some_iff.mp read)
    | _ => cases read
  · rintro ⟨spells⟩
    exact string?_eq_some_iff.mpr spells

/-! ### Members -/

/-- What stands under a name in an object: nothing when no member has the name, else the value of
the one member that has it. -/
inductive Under (members : List (List StringPiece × Tree)) (name : String) : Option Tree → Prop
  | absent : (∀ member ∈ members, ¬ Spells member.1 name.toList) → Under members name none
  | once {before after : List (List StringPiece × Tree)} {pieces : List StringPiece} {tree : Tree} :
      members = before ++ (pieces, tree) :: after → Spells pieces name.toList →
      (∀ member ∈ before ++ after, ¬ Spells member.1 name.toList) →
      Under members name (some tree)

/-- What a record holds under its names, in their order. An array holds its items, at least the
first `required` ones. -/
inductive Holds (names : List String) (required : Nat) : Tree → List (Option Tree) → Prop
  | object {members : List (List StringPiece × Tree)} {held : String → Option Tree} :
      (∀ member ∈ members, ∃ text, Spells member.1 text) →
      (∀ name ∈ names, Under members name (held name)) →
      Holds names required (.object members) (names.map held)
  | array {items : List Tree} {missing : Nat} :
      items.length + missing = names.length → required ≤ items.length →
      Holds names required (.array items) (items.map some ++ List.replicate missing none)

def isNamed (name : String) (member : List StringPiece × Tree) : Bool :=
  string? member.1 == some name

theorem isNamed_iff {name : String} {member : List StringPiece × Tree} :
    isNamed name member = true ↔ Spells member.1 name.toList := by
  rw [isNamed, beq_iff_eq, string?_eq_some_iff]

/-- The members with a name, found by their texts or by what their pieces spell. -/
theorem filter_namedMembers {members : List (List StringPiece × Tree)}
    {named : List (String × Tree)} (read : namedMembers? members = some named) (name : String) :
    named.filter (fun member => member.1 == name) =
      (members.filter (isNamed name)).map fun member => (name, member.2) := by
  induction members generalizing named with
  | nil =>
    cases read
    rfl
  | cons member members inductionHypothesis =>
    rw [namedMembers?, List.mapM_cons] at read
    obtain ⟨first, found, rest⟩ := Option.bind_eq_some_iff.mp read
    obtain ⟨others, foundRest, equal⟩ := Option.bind_eq_some_iff.mp rest
    obtain ⟨text, spelled, rfl⟩ := Option.map_eq_some_iff.mp found
    cases equal
    by_cases same : text = name
    · simp [isNamed, spelled, same, inductionHypothesis foundRest]
    · simp [isNamed, spelled, same, inductionHypothesis foundRest]

section Names

variable {members : List (List StringPiece × Tree)} {name : String}

theorem filter_isNamed_eq_nil_iff :
    members.filter (isNamed name) = [] ↔ ∀ member ∈ members, ¬ Spells member.1 name.toList := by
  simp only [List.filter_eq_nil_iff, isNamed_iff]

/-- What stands under a name is the value of the only member that has the name, if any has. -/
theorem under_iff {found : Option Tree} :
    Under members name found ↔ (members.filter (isNamed name)).map Prod.snd = found.toList := by
  constructor
  · intro under
    cases under with
    | absent free =>
      rw [filter_isNamed_eq_nil_iff.mpr free]
      rfl
    | @once before after pieces tree split has free =>
      have alone := filter_isNamed_eq_nil_iff.mpr free
      rw [List.filter_append, List.append_eq_nil_iff] at alone
      rw [split, List.filter_append, List.filter_cons_of_pos (isNamed_iff.mpr has), alone.1,
        alone.2]
      rfl
  · intro only
    cases found with
    | none => exact .absent (filter_isNamed_eq_nil_iff.mp (List.map_eq_nil_iff.mp only))
    | some tree =>
      obtain ⟨member, shape, rfl⟩ := List.map_eq_singleton_iff.mp only
      obtain ⟨before, after, split, free, has, rest⟩ := List.filter_eq_cons_iff.mp shape
      have freeBefore : before.filter (isNamed name) = [] := List.filter_eq_nil_iff.mpr free
      have alone : (before ++ after).filter (isNamed name) = [] := by
        rw [List.filter_append, freeBefore, rest, List.append_nil]
      exact .once split (isNamed_iff.mp has) (filter_isNamed_eq_nil_iff.mp alone)

/-- The one member found among the names as texts is what stands under the name. -/
theorem onlyMember?_eq_some_iff {named : List (String × Tree)}
    (read : namedMembers? members = some named) {found : Option Tree} :
    onlyMember? named name = some found ↔ Under members name found := by
  rw [onlyMember?, filter_namedMembers read, under_iff]
  rcases members.filter (isNamed name) with _ | ⟨first, _ | ⟨second, others⟩⟩ <;>
    cases found <;> simp

/-- A member that has the name is the one that stands under it. -/
theorem Under.eq_of_spells {tree : Tree} (under : Under members name (some tree))
    {member : List StringPiece × Tree} (inside : member ∈ members)
    (has : Spells member.1 name.toList) : member.2 = tree := by
  have found : member.2 ∈ (members.filter (isNamed name)).map Prod.snd :=
    List.mem_map_of_mem (List.mem_filter.mpr ⟨inside, isNamed_iff.mpr has⟩)
  rw [under_iff.mp under] at found
  exact List.mem_singleton.mp found

/-- Two members of an object, or more, have the same name. -/
inductive Repeated (members : List (List StringPiece × Tree)) (name : String) : Prop
  | twice {before between after : List (List StringPiece × Tree)}
      {first second : List StringPiece × Tree} :
      members = before ++ first :: (between ++ second :: after) → Spells first.1 name.toList →
      Spells second.1 name.toList → Repeated members name

theorem Repeated.not_under (repeated : Repeated members name) (found : Option Tree) :
    ¬ Under members name found := by
  obtain ⟨rfl, hasFirst, hasSecond⟩ := repeated
  rw [under_iff, List.filter_append, List.filter_cons_of_pos (isNamed_iff.mpr hasFirst),
    List.filter_append, List.filter_cons_of_pos (isNamed_iff.mpr hasSecond)]
  intro only
  have length := congrArg List.length only
  cases found with
  | none => simp at length
  | some =>
    simp only [List.length_map, List.length_append, List.length_cons, Option.toList_some,
      List.length_nil] at length
    omega

/-- Either a name is repeated, or there is an answer to what stands under it. -/
theorem exists_under_or_repeated (members : List (List StringPiece × Tree)) (name : String) :
    (∃ found, Under members name found) ∨ Repeated members name := by
  cases shape : members.filter (isNamed name) with
  | nil => exact .inl ⟨none, under_iff.mpr (by rw [shape]; rfl)⟩
  | cons first others =>
    cases others with
    | nil => exact .inl ⟨some first.2, under_iff.mpr (by rw [shape]; rfl)⟩
    | cons second others =>
      obtain ⟨before, rest, split, -, has, shapeRest⟩ := List.filter_eq_cons_iff.mp shape
      obtain ⟨between, after, rfl, -, hasToo, -⟩ := List.filter_eq_cons_iff.mp shapeRest
      exact .inr (.twice split (isNamed_iff.mp has) (isNamed_iff.mp hasToo))

end Names

/-- The names of the members are texts exactly when they can be read. -/
theorem exists_namedMembers_iff {members : List (List StringPiece × Tree)} :
    (∃ named, namedMembers? members = some named) ↔
      ∀ member ∈ members, ∃ text, Spells member.1 text := by
  induction members with
  | nil => exact ⟨fun _ _ inside => (nomatch inside), fun _ => ⟨[], rfl⟩⟩
  | cons member members inductionHypothesis =>
    rw [List.forall_mem_cons, ← inductionHypothesis]
    constructor
    · rintro ⟨named, read⟩
      rw [namedMembers?, List.mapM_cons] at read
      obtain ⟨first, found, rest⟩ := Option.bind_eq_some_iff.mp read
      obtain ⟨others, foundRest, _⟩ := Option.bind_eq_some_iff.mp rest
      obtain ⟨text, spelled, _⟩ := Option.map_eq_some_iff.mp found
      exact ⟨⟨text.toList, string?_eq_some_iff.mp spelled⟩, others, foundRest⟩
    · rintro ⟨⟨text, spelled⟩, others, foundRest⟩
      refine ⟨(String.ofList text, member.2) :: others, ?_⟩
      have name : string? member.1 = some (String.ofList text) :=
        string?_eq_some_iff.mpr (by rwa [String.toList_ofList])
      rw [namedMembers?] at foundRest ⊢
      rw [List.mapM_cons, name, foundRest]
      rfl

/-- In an object whose names are texts, there is only one answer to what stands under a name. -/
theorem Under.unique {members : List (List StringPiece × Tree)} {name : String}
    {found other : Option Tree} (texts : ∀ member ∈ members, ∃ text, Spells member.1 text)
    (first : Under members name found) (second : Under members name other) : found = other := by
  obtain ⟨named, read⟩ := exists_namedMembers_iff.mpr texts
  have same := (onlyMember?_eq_some_iff read).mpr first
  rw [(onlyMember?_eq_some_iff read).mpr second] at same
  exact (Option.some.inj same).symm

/-- What is found for each of the names, when something is found for all of them. -/
theorem mapM_eq_some_iff {find : String → Option (Option Tree)} {names : List String}
    {found : List (Option Tree)} :
    names.mapM find = some found ↔
      (∀ name ∈ names, find name = some ((find name).getD none)) ∧
        found = names.map fun name => (find name).getD none := by
  induction names generalizing found with
  | nil => simp [eq_comm]
  | cons name names inductionHypothesis =>
    rw [List.mapM_cons, List.forall_mem_cons, List.map_cons]
    cases first : find name with
    | none => simp
    | some held =>
      simp only [Option.bind_eq_bind, Option.bind_some, Option.bind_eq_some_iff,
        inductionHypothesis]
      constructor
      · rintro ⟨others, ⟨each, rfl⟩, equal⟩
        exact ⟨⟨rfl, each⟩, (Option.some.inj equal).symm⟩
      · rintro ⟨⟨_, each⟩, rfl⟩
        exact ⟨_, ⟨each, rfl⟩, rfl⟩

/-- Just what a record holds is read from it. -/
theorem members?_eq_some_iff {tree : Tree} {names : List String} {required : Nat}
    {found : List (Option Tree)} :
    tree.members? names required = some found ↔ tree.Holds names required found := by
  constructor
  · intro read
    cases tree with
    | object members =>
      obtain ⟨named, readNames, each⟩ := Option.bind_eq_some_iff.mp read
      obtain ⟨all, rfl⟩ := mapM_eq_some_iff.mp each
      exact .object (exists_namedMembers_iff.mp ⟨named, readNames⟩)
        fun name inside => (onlyMember?_eq_some_iff readNames).mp (all name inside)
    | array items =>
      rw [members?] at read
      split at read
      · next bounds =>
        simp only [Bool.and_eq_true, decide_eq_true_eq] at bounds
        cases read
        exact .array (Nat.add_sub_cancel' bounds.1) bounds.2
      · cases read
    | _ => cases read
  · intro holds
    cases holds with
    | @object members held texts each =>
      obtain ⟨named, readNames⟩ := exists_namedMembers_iff.mpr texts
      have all (name : String) (inside : name ∈ names) :
          onlyMember? named name = some (held name) :=
        (onlyMember?_eq_some_iff readNames).mpr (each name inside)
      refine Option.bind_eq_some_iff.mpr ⟨named, readNames, mapM_eq_some_iff.mpr ⟨?_, ?_⟩⟩
      · intro name inside
        rw [all name inside, Option.getD_some]
      · refine List.map_congr_left fun name inside => ?_
        rw [all name inside, Option.getD_some]
    | @array items missing whole enough =>
      have bound : items.length ≤ names.length := Nat.le.intro whole
      have rest : names.length - items.length = missing := by omega
      simp [members?, bound, enough, rest]

end Tree

/-! ### Members that may be missing -/

/-- What a member that may be missing or null holds. -/
inductive Optionally {α : Type} (reads : Tree → α → Prop) : Option Tree → Option α → Prop
  | missing : Optionally reads none none
  | null : Optionally reads (some .null) none
  | value {tree : Tree} {value : α} :
      tree ≠ .null → reads tree value → Optionally reads (some tree) (some value)

theorem member?_eq_some_iff {α : Type} {read : Tree → Option α} {reads : Tree → α → Prop}
    (reading : ∀ tree value, read tree = some value ↔ reads tree value)
    {member : Option Tree} {found : Option α} :
    Answer.member? read member = some found ↔ Optionally reads member found := by
  constructor
  · intro holds
    cases member with
    | none => exact Option.some.inj holds ▸ .missing
    | some tree =>
      cases tree with
      | null => exact Option.some.inj holds ▸ .null
      | _ =>
        obtain ⟨value, found, rfl⟩ := Option.map_eq_some_iff.mp holds
        exact .value Tree.noConfusion ((reading _ _).mp found)
  · intro holds
    cases holds with
    | missing | null => rfl
    | @value tree value present holds =>
      rw [Answer.member?]
      cases tree with
      | null => exact absurd rfl present
      | _ => exact Option.map_eq_some_iff.mpr ⟨value, (reading _ _).mpr holds, rfl⟩

end Onboarding.Json
