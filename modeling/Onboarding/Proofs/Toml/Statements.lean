/-
This file proves that a document of sections is read back. It is followed statement by
statement: a header begins a table, each pair on a line of its own adds a value under it,
and an empty line changes nothing. What a value is read as is taken from the lemmas on
texts, truth values and numbers.
-/

import Onboarding.Proofs.Toml.Numbers
import Onboarding.Proofs.Toml.Quoting
import Onboarding.Settings.Written
import Onboarding.Toml.Document

namespace Onboarding.Toml

open Json Numeric

/-! ### Keys -/

/-- The name may stand as a key without quotes. -/
def IsKey (name : String) : Prop :=
  name.toList ≠ [] ∧ ∀ c ∈ name.toList, isKeyChar c = true

theorem keyPart?_of_isKey {name : String} (isKey : IsKey name) {next : Char}
    (ends : isKeyChar next = false) (rest : List Char) :
    keyPart? (name.toList ++ next :: rest) = some (name, next :: rest) := by
  obtain ⟨filled, all⟩ := isKey
  have noQuotes : lineText? (name.toList ++ next :: rest) = none := by
    obtain ⟨first, others, shape⟩ := List.exists_cons_of_ne_nil filled
    rw [shape] at all ⊢
    unfold lineText?
    split
    · next same => exact absurd (all '"' ((List.cons.inj same).1 ▸ List.mem_cons_self)) (by decide)
    · next same => exact absurd (all '\'' ((List.cons.inj same).1 ▸ List.mem_cons_self)) (by decide)
    · rfl
  have taken : (name.toList ++ next :: rest).takeWhile isKeyChar = name.toList := by
    rw [List.takeWhile_append_of_pos all, List.takeWhile_cons_of_neg (by rw [ends]; decide),
      List.append_nil]
  unfold keyPart?
  rw [noQuotes]
  dsimp only
  rw [taken, List.isEmpty_eq_false_iff.mpr filled, List.drop_left, String.ofList_toList]
  rfl

theorem dropBlanks_of_ne {first : Char} (noSpace : first ≠ ' ') (noTab : first ≠ '\t')
    (rest : List Char) : dropBlanks (first :: rest) = first :: rest := by
  have noBlank : (first == ' ' || first == '\t') = false := by
    rw [beq_false_of_ne noSpace, beq_false_of_ne noTab]
    rfl
  rw [dropBlanks, List.dropWhile_cons, noBlank]
  rfl

/-- A key is read up to the mark that follows it, over blanks. -/
theorem key?_of_isKey {name : String} (isKey : IsKey name) {next mark : Char}
    {rest after : List Char} (ends : isKeyChar next = false)
    (blanks : dropBlanks (next :: rest) = mark :: after) (noDot : mark ≠ '.') :
    key? (name.toList ++ next :: rest) = some ([name], mark :: after) := by
  have begins : dropBlanks (name.toList ++ next :: rest) = name.toList ++ next :: rest := by
    obtain ⟨first, others, shape⟩ := List.exists_cons_of_ne_nil isKey.1
    have isKeyChar : isKeyChar first = true := isKey.2 first (shape ▸ List.mem_cons_self)
    rw [shape]
    refine dropBlanks_of_ne ?_ ?_ _ <;> rintro rfl <;> cases isKeyChar
  show keyParts? (78 + 1) _ = _
  unfold keyParts?
  rw [begins, keyPart?_of_isKey isKey ends]
  dsimp only [bind, Option.bind, pure]
  rw [blanks]
  split
  · next same => exact absurd (List.cons.inj same).1 noDot
  · rfl

/-! ### Values -/

/-- What is written is read as the datum up to the end of its line. -/
structure Reads (written : List Char) (datum : Datum) : Prop where
  begins : ∃ first others, written = first :: others ∧ first ≠ ' ' ∧ first ≠ '\t'
  value : ∀ rest, value? depthLimit (written ++ '\n' :: rest) = some (datum, '\n' :: rest)

theorem reads_text (text : String) : Reads (Settings.writtenSetting text) (.text text) := by
  obtain ⟨mark, others, shape, isMark⟩ := exists_writtenText text.toList
  constructor
  · refine ⟨mark, others, shape, ?_⟩
    rcases isMark with rfl | rfl <;> decide
  · intro rest
    have read := quotedText?_writtenText (by decide : '\n' ≠ '"') (by decide) text.toList rest
    show value? depthLimit (writtenText text.toList ++ _) = _
    rw [shape] at read ⊢
    have scalar : value? depthLimit (mark :: others ++ '\n' :: rest) =
        (quotedText? (mark :: others ++ '\n' :: rest)).map
          fun read => (.text (String.ofList read.1), read.2) := by
      rcases isMark with rfl | rfl <;> rfl
    rw [scalar, read, Option.map_some, String.ofList_toList]

theorem reads_bool (value : Bool) : Reads (Settings.writtenBool value) (.bool value) := by
  constructor
  · cases value
    · exact ⟨_, _, rfl, by decide, by decide⟩
    · exact ⟨_, _, rfl, by decide, by decide⟩
  · intro rest
    cases value <;> rfl

theorem reads_toDigits {number : Nat} (held : number < signedCount) :
    Reads (Nat.toDigits 10 number) (.integer number) := by
  refine ⟨?_, value?_toDigits held depthLimit⟩
  have areDigits := areDigits_toDigits number
  obtain ⟨front, others, shape⟩ := List.exists_cons_of_ne_nil areDigits.some
  have digit : front.isDigit = true := areDigits.all front (shape ▸ List.mem_cons_self)
  refine ⟨front, others, shape, ?_⟩
  constructor <;> rintro rfl <;> cases digit

/-! ### Statements -/

section Statements

variable {fuel : Nat} {header : List String} {members : Members} {name : String}
  {written rest : List Char} {datum : Datum}

theorem pair?_of_reads (isKey : IsKey name) (reads : Reads written datum) (rest : List Char) :
    pair? (value? depthLimit) (name.toList ++ ' ' :: '=' :: ' ' :: (written ++ '\n' :: rest)) =
      some (([name], datum), '\n' :: rest) := by
  obtain ⟨first, others, rfl, noSpace, noTab⟩ := reads.begins
  have key := key?_of_isKey isKey (by decide : isKeyChar ' ' = false)
    (rfl : dropBlanks (' ' :: '=' :: ' ' :: (first :: others ++ '\n' :: rest)) = _) (by decide)
  have behind : dropBlanks (' ' :: (first :: others ++ '\n' :: rest)) =
      first :: others ++ '\n' :: rest := dropBlanks_of_ne noSpace noTab _
  unfold pair?
  rw [key]
  dsimp only [bind, Option.bind, pure, mark?]
  rw [if_pos (by decide)]
  dsimp only
  rw [behind, reads.value]

theorem exists_key (isKey : IsKey name) : ∃ first others, name.toList = first :: others ∧
    first ≠ ' ' ∧ first ≠ '\t' ∧ first ≠ '[' ∧
      (first == '#' || first == '\n' || first == '\r') = false := by
  obtain ⟨first, others, shape⟩ := List.exists_cons_of_ne_nil isKey.1
  have isKeyChar : isKeyChar first = true := isKey.2 first (shape ▸ List.mem_cons_self)
  have differs (c : Char) (noKey : Toml.isKeyChar c = false) : first ≠ c := by
    rintro rfl
    rw [isKeyChar] at noKey
    cases noKey
  refine ⟨first, others, shape, differs _ rfl, differs _ rfl, differs _ rfl, ?_⟩
  rw [beq_false_of_ne (differs '#' rfl), beq_false_of_ne (differs '\n' rfl),
    beq_false_of_ne (differs '\r' rfl)]
  rfl

/-- An empty line. -/
theorem statements?_empty : statements? (fuel + 1) header members ('\n' :: rest) =
    statements? fuel header members rest := rfl

/-- A pair on a line adds a value to the table that was begun last. -/
theorem statements?_pair (isKey : IsKey name) (reads : Reads written datum) :
    statements? (fuel + 1) header members (Settings.writtenPair (name, written) ++ rest) =
      (members.addUnder header [name] datum).bind fun members =>
        statements? fuel header members rest := by
  have shape : Settings.writtenPair (name, written) ++ rest =
      name.toList ++ ' ' :: '=' :: ' ' :: (written ++ '\n' :: rest) := by
    simp [Settings.writtenPair]
  have pair := pair?_of_reads isKey reads rest
  obtain ⟨first, others, key, noSpace, noTab, noBracket, noOther⟩ := exists_key isKey
  rw [shape]
  rw [key, List.cons_append] at pair ⊢
  rw [statements?, dropBlanks_of_ne noSpace noTab]
  split
  · next same => cases same
  · next same => exact absurd (List.cons.inj same).1 noBracket
  · next same => exact absurd (List.cons.inj same).1 noBracket
  · next c after _ _ same =>
    obtain ⟨rfl, rfl⟩ := List.cons.inj same
    rw [noOther, pair]
    rfl

/-- A header begins a table. -/
theorem statements?_header (isKey : IsKey name) :
    statements? (fuel + 1) header members ('[' :: name.toList ++ [']', '\n'] ++ rest) =
      (members.beginTable [name]).bind fun members => statements? fuel [name] members rest := by
  have shape : '[' :: name.toList ++ [']', '\n'] ++ rest =
      '[' :: (name.toList ++ ']' :: '\n' :: rest) := by
    simp
  have key := key?_of_isKey isKey (by decide : isKeyChar ']' = false)
    (rfl : dropBlanks (']' :: '\n' :: rest) = _) (by decide)
  obtain ⟨first, others, begins, _, _, noBracket, _⟩ := exists_key isKey
  rw [shape]
  rw [begins, List.cons_append] at key ⊢
  rw [statements?, dropBlanks_of_ne (by decide) (by decide)]
  split
  · next same => cases same
  · next same =>
    exact absurd (List.cons.inj (List.cons.inj same).2).1 noBracket
  · next after _ same =>
    obtain ⟨_, rfl⟩ := List.cons.inj same
    rw [key]
    rfl
  · next c after _ noTable same =>
    exact (noTable (List.cons.inj same).1.symm).elim

end Statements

/-! ### Sections -/

/-- A pair: its key, what is written for its value and what that is read as. -/
structure Pair where
  key : String
  written : List Char
  datum : Datum

/-- A section with its pairs. -/
structure Section where
  name : String
  pairs : List Pair

namespace Section

/-- The section as it is written. -/
def written (part : Section) : List Char :=
  Settings.writtenSection part.name (part.pairs.map fun pair => (pair.key, pair.written))

/-- Everything in the section is read as it is meant to be. -/
def IsRead (part : Section) : Prop :=
  IsKey part.name ∧ ∀ pair ∈ part.pairs, IsKey pair.key ∧ Reads pair.written pair.datum

/-- The tables with the one of the section, and its values in it. -/
def addTo (part : Section) (members : Members) : Option Members :=
  (members.beginTable [part.name]).bind (part.pairs.foldlM fun members pair =>
    Members.addUnder members [part.name] [pair.key] pair.datum)

end Section

variable {fuel : Nat} {header : List String} {members : Members} {rest : List Char}

theorem statements?_pairs {pairs : List Pair}
    (reads : ∀ pair ∈ pairs, IsKey pair.key ∧ Reads pair.written pair.datum) :
    statements? (fuel + pairs.length) header members
        ((pairs.map fun pair => (pair.key, pair.written)).flatMap Settings.writtenPair ++ rest) =
      (pairs.foldlM (fun members pair =>
          Members.addUnder members header [pair.key] pair.datum) members).bind
        fun members => statements? fuel header members rest := by
  induction pairs generalizing members with
  | nil => rfl
  | cons pair pairs inductionHypothesis =>
    obtain ⟨⟨isKey, read⟩, others⟩ := List.forall_mem_cons.mp reads
    rw [List.map_cons, List.flatMap_cons, List.append_assoc, List.length_cons, ← Nat.add_assoc,
      statements?_pair isKey read, List.foldlM_cons]
    cases Members.addUnder members header [pair.key] pair.datum with
    | none => rfl
    | some added => exact inductionHypothesis others

theorem statements?_section {part : Section} (isRead : part.IsRead) :
    statements? (fuel + part.pairs.length + 1) header members (part.written ++ rest) =
      (part.addTo members).bind fun members => statements? fuel [part.name] members rest := by
  have shape : part.written ++ rest = '[' :: part.name.toList ++ [']', '\n'] ++
      ((part.pairs.map fun pair => (pair.key, pair.written)).flatMap Settings.writtenPair ++
        rest) := by
    rw [Section.written, Settings.writtenSection, List.append_assoc]
  rw [shape, statements?_header isRead.1, Section.addTo]
  cases members.beginTable [part.name] with
  | none => rfl
  | some begun => exact statements?_pairs isRead.2

/-- How many statements the sections are at most. -/
def statementCount : List Section → Nat
  | [] => 0
  | part :: rest => statementCount rest + (part.pairs.length + 2)

theorem statements?_separated {sections : List Section} (isRead : ∀ part ∈ sections, part.IsRead) :
    statements? (fuel + statementCount sections + 1) header members
        (Settings.separated (sections.map Section.written)) =
      sections.foldlM (fun members part => part.addTo members) members := by
  induction sections generalizing header members fuel with
  | nil => rfl
  | cons part sections inductionHypothesis =>
    obtain ⟨first, others⟩ := List.forall_mem_cons.mp isRead
    rw [List.foldlM_cons]
    cases sections with
    | nil =>
      have count : fuel + statementCount [part] + 1 = fuel + 2 + part.pairs.length + 1 := by
        simp only [statementCount]
        omega
      show statements? _ header members part.written = _
      rw [count, ← List.append_nil part.written, statements?_section first]
      cases part.addTo members <;> rfl
    | cons next later =>
      have count : fuel + statementCount (part :: next :: later) + 1 =
          fuel + statementCount (next :: later) + 1 + 1 + part.pairs.length + 1 := by
        simp only [statementCount]
        omega
      show statements? _ header members
        (part.written ++ '\n' :: Settings.separated ((next :: later).map Section.written)) = _
      rw [count, statements?_section first]
      cases part.addTo members with
      | none => rfl
      | some added => exact statements?_empty.trans (inductionHypothesis others)

theorem length_writtenSection (part : Section) : part.pairs.length + 2 ≤ part.written.length := by
  have each : part.pairs.length ≤ ((part.pairs.map fun pair => (pair.key, pair.written)).flatMap
      Settings.writtenPair).length := by
    induction part.pairs with
    | nil => exact Nat.le_refl 0
    | cons pair pairs inductionHypothesis =>
      rw [List.map_cons, List.flatMap_cons, List.length_append, List.length_cons, Nat.add_comm]
      refine Nat.add_le_add ?_ inductionHypothesis
      rw [Settings.writtenPair, List.length_append]
      exact Nat.le_add_left _ _
  rw [Section.written, Settings.writtenSection, List.length_append, List.length_append]
  simp only [List.length_cons, List.length_nil]
  omega

theorem statementCount_le (sections : List Section) :
    statementCount sections ≤ (Settings.separated (sections.map Section.written)).length := by
  induction sections with
  | nil => exact Nat.le_refl 0
  | cons part sections inductionHypothesis =>
    have own := length_writtenSection part
    cases sections with
    | nil =>
      show 0 + (part.pairs.length + 2) ≤ part.written.length
      omega
    | cons next later =>
      show statementCount (next :: later) + (part.pairs.length + 2) ≤
        (part.written ++ '\n' :: Settings.separated ((next :: later).map Section.written)).length
      rw [List.length_append, List.length_cons]
      omega

/-- A document of sections is read as the tables that they make. -/
theorem read?_separated {sections : List Section} (isRead : ∀ part ∈ sections, part.IsRead)
    {tables : Members} (made : sections.foldlM (fun members part => part.addTo members) [] =
      some tables)
    {data : List (String × Datum)}
    (plain : unmarked? (.table (membersData tables)) = some (.table data)) :
    read? (Settings.separated (sections.map Section.written)) = some data := by
  obtain ⟨more, enough⟩ := Nat.exists_eq_add_of_le' (statementCount_le sections)
  have noMark : ∀ rest, Settings.separated (sections.map Section.written) ≠ '\ufeff' :: rest := by
    intro rest same
    cases sections with
    | nil => cases same
    | cons part sections =>
      have front : '[' = '\ufeff' := by
        cases sections <;> exact (List.cons.inj same).1
      exact absurd front (by decide)
  have members : statements? ((Settings.separated (sections.map Section.written)).length + 1) [] []
      (Settings.separated (sections.map Section.written)) = some tables := by
    rw [enough, statements?_separated isRead, made]
  unfold read?
  split
  · next same => exact absurd same (noMark _)
  · dsimp only [bind, Option.bind]
    rw [members]
    dsimp only
    rw [plain]

end Onboarding.Toml
