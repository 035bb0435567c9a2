/-
This file proves which documents are read as an applicant, and that an applicant is read
back from the text that it is written to.

A document can record an applicant in two ways. As an object it holds the text of each
field once, under the name of the field; the order does not matter, and other members
may hold anything, but the reader must make out their names to pass over them, so all
names must be texts. As an array it lists the four texts in the order of the fields.
Every other document is spoilt, and it is said here what can be the matter with it.
-/

import Onboarding.Proofs.Exchange.Bodies
import Onboarding.Proofs.Registration.Fields

namespace Onboarding.Registration.Applicant

open Json Tree

variable {applicant : Applicant} {tree : Tree}

/-! ### Records of an applicant -/

/-- The members of an object hold each text of the applicant once, under the name of its field. -/
def HeldBy (applicant : Applicant) (members : List (List StringPiece × Tree)) : Prop :=
  ∀ field : Field, ∃ tree, Under members (memberName field) (some tree) ∧
    tree.IsText (applicant.text field)

/-- The document is a record of the applicant. -/
inductive RecordedIn (applicant : Applicant) : Tree → Prop
  | object {members : List (List StringPiece × Tree)} :
      (∀ member ∈ members, ∃ text, Spells member.1 text) → applicant.HeldBy members →
      RecordedIn applicant (.object members)
  | array {item : Field → Tree} :
      (∀ field, (item field).IsText (applicant.text field)) →
      RecordedIn applicant (.array (Field.all.map item))

/-- What makes a document no record of any applicant. -/
inductive Spoilt : Tree → Prop
  /-- No member has the name of this field. -/
  | missing {members : List (List StringPiece × Tree)} {field : Field} :
      (∀ member ∈ members, ¬ Spells member.1 (memberName field).toList) → Spoilt (.object members)
  /-- Two members have the name of this field, or more. -/
  | repeated {members : List (List StringPiece × Tree)} {field : Field} :
      Repeated members (memberName field) → Spoilt (.object members)
  /-- A member with the name of this field is no string, or one that spells no text. -/
  | notText {members : List (List StringPiece × Tree)} {member : List StringPiece × Tree}
      {field : Field} :
      member ∈ members → Spells member.1 (memberName field).toList →
      (∀ text, ¬ member.2.IsText text) → Spoilt (.object members)
  /-- The name of some member spells no text. -/
  | unnamed {members : List (List StringPiece × Tree)} {member : List StringPiece × Tree} :
      member ∈ members → (∀ text, ¬ Spells member.1 text) → Spoilt (.object members)
  | length {items : List Tree} : items.length ≠ Field.all.length → Spoilt (.array items)
  | itemNotText {items : List Tree} {item : Tree} :
      item ∈ items → (∀ text, ¬ item.IsText text) → Spoilt (.array items)
  | other {tree : Tree} :
      (∀ members, tree ≠ .object members) → (∀ items, tree ≠ .array items) → Spoilt tree

/-! ### What is read from a document -/

/-- One of four things, that for the field. -/
def pick {α : Type} (firstName lastName email password : α) : Field → α
  | .firstName => firstName
  | .lastName => lastName
  | .email => email
  | .password => password

/-- An applicant is read from a record of four texts. -/
theorem ofTree?_eq_some_iff_holds :
    ofTree? tree = some applicant ↔
      ∃ item : Field → Tree,
        tree.Holds (Field.all.map memberName) 4 ((Field.all.map item).map some) ∧
          ∀ field, (item field).IsText (applicant.text field) := by
  constructor
  · intro read
    obtain ⟨found, members, rest⟩ := Option.bind_eq_some_iff.mp read
    have holds := members?_eq_some_iff.mp members
    split at rest
    · next firstName lastName email password =>
      obtain ⟨first, isFirst, rest⟩ := Option.bind_eq_some_iff.mp rest
      obtain ⟨last, isLast, rest⟩ := Option.bind_eq_some_iff.mp rest
      obtain ⟨address, isAddress, rest⟩ := Option.bind_eq_some_iff.mp rest
      obtain ⟨secret, isSecret, equal⟩ := Option.bind_eq_some_iff.mp rest
      cases equal
      refine ⟨pick firstName lastName email password, holds, fun field => text?_eq_some_iff.mp ?_⟩
      cases field <;> assumption
    · cases rest
  · rintro ⟨item, holds, isText⟩
    have read (field : Field) : (item field).text? = some (applicant.text field) :=
      text?_eq_some_iff.mpr (isText field)
    rw [ofTree?, members?_eq_some_iff.mpr holds]
    simp only [Field.all, List.map_cons, List.map_nil, Option.bind_eq_bind, Option.bind_some, read]
    rfl

theorem holds_object_iff {members : List (List StringPiece × Tree)} {item : Field → Tree} :
    (Tree.object members).Holds (Field.all.map memberName) 4 ((Field.all.map item).map some) ↔
      (∀ member ∈ members, ∃ text, Spells member.1 text) ∧
        ∀ field, Under members (memberName field) (some (item field)) := by
  constructor
  · intro holds
    generalize known : (Field.all.map item).map some = found at holds
    cases holds with
    | @object _ held texts under =>
      rw [List.map_map, List.map_map] at known
      refine ⟨texts, fun field => ?_⟩
      have same : some (item field) = held (memberName field) :=
        List.map_inj_left.mp known field field.mem_all
      rw [same]
      exact under _ (List.mem_map_of_mem field.mem_all)
  · rintro ⟨texts, under⟩
    let value (name : String) : Option Tree := (Field.ofName? name).map item
    have known (field : Field) : value (memberName field) = some (item field) :=
      congrArg (Option.map item) field.ofName?_name
    have each : ∀ name ∈ Field.all.map memberName, Under members name (value name) := by
      intro name listed
      obtain ⟨field, _, rfl⟩ := List.mem_map.mp listed
      exact known field ▸ under field
    have holds : Holds (Field.all.map memberName) 4 _ _ := .object texts each
    rw [List.map_map] at holds ⊢
    simpa only [Function.comp_def, known] using holds

theorem holds_array_iff {items : List Tree} {item : Field → Tree} :
    (Tree.array items).Holds (Field.all.map memberName) 4 ((Field.all.map item).map some) ↔
      items = Field.all.map item := by
  constructor
  · intro holds
    generalize known : (Field.all.map item).map some = found at holds
    cases holds with
    | @array _ missing whole enough =>
      have none : missing = 0 := by
        rw [List.length_map] at whole
        change items.length + missing = 4 at whole
        omega
      rw [none, List.replicate_zero, List.append_nil] at known
      exact (List.map_injective_iff.mpr (Option.some_injective _) known).symm
  · rintro rfl
    have whole : (Field.all.map item).length + 0 = (Field.all.map memberName).length := rfl
    have holds : Holds (Field.all.map memberName) 4 _ _ := .array whole (Nat.le_refl 4)
    rwa [List.replicate_zero, List.append_nil] at holds

/-- An applicant is read from just the documents that record the applicant. -/
theorem ofTree?_eq_some_iff : ofTree? tree = some applicant ↔ applicant.RecordedIn tree := by
  rw [ofTree?_eq_some_iff_holds]
  constructor
  · rintro ⟨item, holds, isText⟩
    cases tree with
    | object members =>
      obtain ⟨texts, under⟩ := holds_object_iff.mp holds
      exact .object texts fun field => ⟨item field, under field, isText field⟩
    | array items => exact holds_array_iff.mp holds ▸ .array isText
    | _ => cases holds
  · intro recorded
    cases recorded with
    | object texts held =>
      choose item under isText using held
      exact ⟨item, holds_object_iff.mpr ⟨texts, under⟩, isText⟩
    | @array item isText => exact ⟨item, holds_array_iff.mpr rfl, isText⟩

/-! ### Documents from which nothing is read -/

theorem RecordedIn.not_spoilt (recorded : applicant.RecordedIn tree) : ¬ Spoilt tree := by
  intro spoilt
  cases recorded with
  | @object members texts held =>
    cases spoilt with
    | @missing _ field free =>
      obtain ⟨tree, under, -⟩ := held field
      obtain _ | ⟨split, has, -⟩ := under
      exact free _ (split ▸ List.mem_append_right _ List.mem_cons_self) has
    | @repeated _ field repeated =>
      obtain ⟨tree, under, -⟩ := held field
      exact repeated.not_under _ under
    | @notText _ member field inside has silent =>
      obtain ⟨tree, under, isText⟩ := held field
      exact silent _ (under.eq_of_spells inside has ▸ isText)
    | unnamed inside silent =>
      obtain ⟨text, spells⟩ := texts _ inside
      exact silent text spells
    | other noObject => exact noObject _ rfl
  | @array item isText =>
    cases spoilt with
    | length differs => exact differs (List.length_map _)
    | itemNotText inside silent =>
      obtain ⟨field, _, rfl⟩ := List.mem_map.mp inside
      exact silent _ (isText field)
    | other _ noArray => exact noArray _ rfl

/-- The applicant with these texts. -/
def ofTexts (text : Field → String) : Applicant :=
  ⟨text .firstName, text .lastName, text .email, text .password⟩

theorem text_ofTexts (text : Field → String) (field : Field) :
    (ofTexts text).text field = text field := by
  cases field <;> rfl

/-- Under the name of each field of an object that is not spoilt stands a text. -/
theorem exists_text_of_not_spoilt {members : List (List StringPiece × Tree)}
    (sound : ¬ Spoilt (.object members)) (field : Field) :
    ∃ text tree, Under members (memberName field) (some tree) ∧ tree.IsText text := by
  rcases exists_under_or_repeated members (memberName field) with ⟨found, under⟩ | repeated
  · cases under with
    | absent free => exact absurd (.missing free) sound
    | @once before after pieces tree split has free =>
      have inside : (pieces, tree) ∈ members :=
        split ▸ List.mem_append_right before List.mem_cons_self
      have isText : ∃ text, tree.IsText text := by
        by_contra silent
        exact sound (.notText inside has (not_exists.mp silent))
      obtain ⟨text, isText⟩ := isText
      exact ⟨text, tree, .once split has free, isText⟩
  · exact absurd (.repeated repeated) sound

/-- A document that is not spoilt is the record of an applicant. -/
theorem exists_recordedIn (sound : ¬ Spoilt tree) :
    ∃ applicant : Applicant, applicant.RecordedIn tree := by
  cases tree with
  | object members =>
    have texts : ∀ member ∈ members, ∃ text, Spells member.1 text := by
      intro member inside
      by_contra silent
      exact sound (.unnamed inside (not_exists.mp silent))
    choose text tree under isText using exists_text_of_not_spoilt sound
    refine ⟨ofTexts text, .object texts fun field => ⟨tree field, under field, ?_⟩⟩
    rw [text_ofTexts]
    exact isText field
  | array items =>
    have isText : ∀ item ∈ items, ∃ text, item.IsText text := by
      intro item inside
      by_contra silent
      exact sound (.itemNotText inside (not_exists.mp silent))
    have length : items.length = 4 := by
      by_contra differs
      exact sound (.length differs)
    match items, length with
    | [firstName, lastName, email, password], _ =>
      let item := pick firstName lastName email password
      have inside (field : Field) : item field ∈ Field.all.map item :=
        List.mem_map_of_mem field.mem_all
      choose text isText using fun field => isText (item field) (inside field)
      have recorded : (ofTexts text).RecordedIn (.array (Field.all.map item)) := by
        refine .array fun field => ?_
        rw [text_ofTexts]
        exact isText field
      exact ⟨ofTexts text, recorded⟩
  | _ => exact absurd (.other (fun _ same => by cases same) (fun _ same => by cases same)) sound

theorem ofTree?_eq_none_iff : ofTree? tree = none ↔ Spoilt tree := by
  constructor
  · intro nothing
    by_contra sound
    obtain ⟨applicant, recorded⟩ := exists_recordedIn sound
    rw [ofTree?_eq_some_iff.mpr recorded] at nothing
    cases nothing
  · intro spoilt
    refine Option.eq_none_iff_forall_ne_some.mpr fun applicant read => ?_
    exact (ofTree?_eq_some_iff.mp read).not_spoilt spoilt

/-! ### Texts -/

/-- A text is read as an applicant exactly when a record of the applicant is written in it. -/
theorem read?_eq_some_iff {text : String} :
    read? text = some applicant ↔
      ∃ tree : Tree, tree.Written text.toList ∧ applicant.RecordedIn tree := by
  simp only [read?, Option.bind_eq_some_iff, Tree.read?_eq_some_iff, ofTree?_eq_some_iff]

theorem read?_eq_none_iff {text : String} (written : tree.Written text.toList) :
    read? text = none ↔ Spoilt tree := by
  rw [read?, Tree.read?_eq_some_iff.mpr written, Option.bind_some, ofTree?_eq_none_iff]

/-- The object with the texts of an applicant records the applicant, in whatever order its members
stand. -/
theorem recordedIn_printedObject (applicant : Applicant) {fields : List Field}
    (all : ∀ field, field ∈ fields) (distinct : fields.Nodup) :
    applicant.RecordedIn
      (printedObject (fields.map fun field => (memberName field, applicant.text field))) := by
  rw [printedObject, List.map_map]
  refine .object (fun member inside => ?_) fun field => ?_
  · obtain ⟨field, _, rfl⟩ := List.mem_map.mp inside
    exact ⟨_, spells_printedPieces _⟩
  · obtain ⟨before, after, rfl⟩ := List.append_of_mem (all field)
    have free : ∀ other ∈ before ++ after,
        ¬ Spells (printedPieces (memberName other)) (memberName field).toList := by
      intro other listed spells
      have same := (string?_eq_some_iff.mpr spells).symm.trans (string?_printedPieces _)
      have equal : field = other := Field.name_injective (Option.some.inj same)
      exact (List.nodup_middle.mp distinct).notMem (equal ▸ listed)
    rw [List.map_append, List.map_cons]
    refine ⟨_, .once rfl (spells_printedPieces _) ?_, .string (spells_printedPieces _)⟩
    intro member inside
    rw [← List.map_append] at inside
    obtain ⟨other, listed, rfl⟩ := List.mem_map.mp inside
    exact free other listed

theorem write_written (applicant : Applicant) :
    (printedObject (Field.all.map fun field => (memberName field, applicant.text field))).Written
      applicant.write := by
  have written := writtenObject_written
    (Field.all.map fun field => (memberName field, applicant.text field))
  rwa [List.map_map] at written

/-- The fields in the order of their names. -/
def sortedFields : List Field :=
  [.email, .firstName, .lastName, .password]

theorem parameters_written (applicant : Applicant) :
    (printedObject (sortedFields.map fun field => (memberName field, applicant.text field))).Written
      applicant.parameters.write := by
  have printed : applicant.parameters.printed =
      printedObject (sortedFields.map fun field => (memberName field, applicant.text field)) := by
    rw [applicant.parameters_eq, Value.printed, printedMembers_eq, printedObject, List.map_map]
    rfl
  exact printed ▸ applicant.parameters_isValid.printed_written

/-- An applicant is read back from the text that it is written to, and from the variables of its
request. What is read from a text at all is the applicant of whom a record is written in it, and
nothing is read from a document exactly when it is spoilt. -/
theorem read?_records :
    (∀ applicant : Applicant, read? (String.ofList applicant.write) = some applicant ∧
      read? (String.ofList applicant.parameters.write) = some applicant) ∧
    (∀ (text : String) (applicant : Applicant),
      read? text = some applicant ↔
        ∃ tree : Tree, tree.Written text.toList ∧ applicant.RecordedIn tree) ∧
    ∀ (text : String) (tree : Tree), tree.Written text.toList →
      (read? text = none ↔ Spoilt tree) := by
  refine ⟨fun applicant => ⟨?_, ?_⟩, fun _ _ => read?_eq_some_iff, fun _ _ => read?_eq_none_iff⟩
  · rw [read?_eq_some_iff, String.toList_ofList]
    exact ⟨_, applicant.write_written, applicant.recordedIn_printedObject Field.mem_all (by decide)⟩
  · have sorted (field : Field) : field ∈ sortedFields := by cases field <;> decide
    rw [read?_eq_some_iff, String.toList_ofList]
    exact ⟨_, applicant.parameters_written, applicant.recordedIn_printedObject sorted (by decide)⟩

/-! ### Members that are passed over -/

/-- An applicant with short texts. -/
def ada : Applicant := ⟨"Ada", "L", "a@b.co", "pw"⟩

/-- The members with the texts of the applicant, the last one first. -/
def adaMembers : List (List StringPiece × Tree) :=
  [Field.password, .email, .lastName, .firstName].map fun field =>
    (printedPieces (memberName field), .string (printedPieces (ada.text field)))

/-- The same members as they are written. -/
def adaText : String :=
  "\"password\":\"pw\",\"email\":\"a@b.co\",\"lastName\":\"L\",\"firstName\":\"Ada\""

/-- Half a pair of surrogates in a member that is passed over does no harm; a name that is written
once more, with an escape in it, does. -/
theorem read?_records_of_passed_over :
    let other : List StringPiece × Tree := (printedPieces "x", .array [.string [.unit 0xd800]])
    let again : List StringPiece × Tree :=
      (.unit 0x66 :: printedPieces "irstName", .string (printedPieces "Eve"))
    let text := "\x7b\"x\":[\"\\ud800\"]," ++ adaText ++ "\x7d"
    let spoilt := "\x7b\"\\u0066irstName\":\"Eve\"," ++ adaText ++ "\x7d"
    (Tree.object (other :: adaMembers)).Written text.toList ∧ read? text = some ada ∧
      (Tree.object (again :: adaMembers)).Written spoilt.toList ∧ read? spoilt = none := by
  intro other again text spoilt
  have written : (Tree.object (other :: adaMembers)).Written text.toList :=
    (tokens?_eq_some_iff (Tree.apart _)).mp (by decide +kernel)
  have texts : ∀ member ∈ other :: adaMembers, ∃ text, Spells member.1 text :=
    exists_namedMembers_iff.mp ⟨_, rfl⟩
  have held : ada.HeldBy (other :: adaMembers) := fun field => by
    cases field <;> exact ⟨_, (onlyMember?_eq_some_iff rfl).mp rfl, text?_eq_some_iff.mp rfl⟩
  have writtenAgain : (Tree.object (again :: adaMembers)).Written spoilt.toList :=
    (tokens?_eq_some_iff (Tree.apart _)).mp (by decide +kernel)
  have twice : again :: adaMembers = [] ++ again :: (adaMembers.take 3 ++ adaMembers.drop 3) := rfl
  have repeated : Repeated (again :: adaMembers) (memberName .firstName) :=
    .twice twice (string?_eq_some_iff.mp rfl) (string?_eq_some_iff.mp rfl)
  exact ⟨written, (read?_records.2.1 text ada).mpr ⟨_, written, .object texts held⟩, writtenAgain,
    (read?_records.2.2 spoilt _ writtenAgain).mpr (.repeated repeated)⟩

/-- Half a pair of surrogates in the name of a member that would be passed over: nothing is read,
though the texts of the applicant all stand there, each once. -/
theorem unread_beside_half_surrogate :
    let text := "\x7b\"\\ud800\":0," ++ adaText ++ "\x7d"
    (∃ members, (Tree.object members).Written text.toList ∧ ada.HeldBy members) ∧
      read? text = none := by
  intro text
  let members : List (List StringPiece × Tree) :=
    ([.unit 0xd800], .number ⟨false, ['0'], none, none⟩) :: adaMembers
  have written : (Tree.object members).Written text.toList :=
    (tokens?_eq_some_iff (Tree.apart _)).mp (by decide +kernel)
  have held : ada.HeldBy members := fun field => by
    cases field <;> exact ⟨_, under_iff.mpr rfl, text?_eq_some_iff.mp rfl⟩
  exact ⟨⟨members, written, held⟩, by decide +kernel⟩

end Onboarding.Registration.Applicant
