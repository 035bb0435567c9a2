/-
This file proves that settings that are written are loaded again. The document that they
are written as holds every one of them in its section, whatever the texts are, and reads
back as just these sections; as the only file with settings it decides them all.
-/

import Onboarding.Proofs.Settings.Layering
import Onboarding.Proofs.Toml.Statements

namespace Onboarding.Settings

open Numeric

/-! ### The document -/

/-- The sections that are written, and what their values are read as. -/
def documentOf (settings : Settings) : List Toml.Section := [
  ⟨"api", [⟨"endpoint", writtenSetting settings.endpoint, .text settings.endpoint⟩]⟩,
  ⟨"paths", [⟨"state", writtenSetting settings.state, .text settings.state⟩]⟩,
  ⟨"credentials", [⟨"persist", writtenBool settings.persist, .bool settings.persist⟩]⟩,
  ⟨"ui", [⟨"refresh_rate_ms", Nat.toDigits 10 settings.refreshMillis,
    .integer settings.refreshMillis⟩]⟩,
  ⟨"logging", [⟨"level", writtenSetting settings.level, .text settings.level⟩,
    ⟨"to_file", writtenBool settings.toFile, .bool settings.toFile⟩]⟩]

/-- The tables that the sections make. -/
def tablesOf (settings : Settings) : Toml.Members := [
  ("api", .table .header [("endpoint", .value (.text settings.endpoint))]),
  ("paths", .table .header [("state", .value (.text settings.state))]),
  ("credentials", .table .header [("persist", .value (.bool settings.persist))]),
  ("ui", .table .header [("refresh_rate_ms", .value (.integer settings.refreshMillis))]),
  ("logging", .table .header [("level", .value (.text settings.level)),
    ("to_file", .value (.bool settings.toFile))])]

variable {settings : Settings} {text : List Char}

theorem eq_separated_of_write? (written : settings.write? = some text) :
    settings.refreshMillis < signedCount ∧
      text = separated ((documentOf settings).map Toml.Section.written) := by
  unfold write? at written
  split at written
  · next held => exact ⟨held, (Option.some.inj written).symm⟩
  · cases written

theorem isKey_of_mem (name : String)
    (member : name ∈ ["api", "endpoint", "paths", "state", "credentials", "persist", "ui",
      "refresh_rate_ms", "logging", "level", "to_file"]) : Toml.IsKey name := by
  revert name
  simp [Toml.IsKey, Toml.isKeyChar]

theorem isRead_of_mem_documentOf (held : settings.refreshMillis < signedCount) :
    ∀ part ∈ documentOf settings, part.IsRead := by
  have single {name key : String} {written : List Char} {datum : Datum} (isKey : Toml.IsKey name)
      (isInnerKey : Toml.IsKey key) (reads : Toml.Reads written datum) :
      Toml.Section.IsRead ⟨name, [⟨key, written, datum⟩]⟩ :=
    ⟨isKey, List.forall_mem_singleton.mpr ⟨isInnerKey, reads⟩⟩
  have logging : Toml.Section.IsRead ⟨"logging",
      [⟨"level", writtenSetting settings.level, .text settings.level⟩,
        ⟨"to_file", writtenBool settings.toFile, .bool settings.toFile⟩]⟩ :=
    ⟨isKey_of_mem "logging" (by decide), List.forall_mem_cons.mpr
      ⟨⟨isKey_of_mem "level" (by decide), Toml.reads_text settings.level⟩,
        List.forall_mem_singleton.mpr
          ⟨isKey_of_mem "to_file" (by decide), Toml.reads_bool settings.toFile⟩⟩⟩
  intro part member
  simp only [documentOf, List.mem_cons, List.not_mem_nil, or_false] at member
  rcases member with rfl | rfl | rfl | rfl | rfl
  · exact single (isKey_of_mem _ (by decide)) (isKey_of_mem _ (by decide)) (Toml.reads_text _)
  · exact single (isKey_of_mem _ (by decide)) (isKey_of_mem _ (by decide)) (Toml.reads_text _)
  · exact single (isKey_of_mem _ (by decide)) (isKey_of_mem _ (by decide)) (Toml.reads_bool _)
  · exact single (isKey_of_mem _ (by decide)) (isKey_of_mem _ (by decide))
      (Toml.reads_toDigits held)
  · exact logging

/-- The document reads back as the sections for all of the settings. -/
theorem read?_of_write? (written : settings.write? = some text) :
    Toml.read? text = some (sectionsOf settings) := by
  obtain ⟨held, rfl⟩ := eq_separated_of_write? written
  have made : (documentOf settings).foldlM (fun members part => part.addTo members) [] =
      some (tablesOf settings) := rfl
  have plain : Toml.unmarked? (.table (Toml.membersData (tablesOf settings))) =
      some (.table (sectionsOf settings)) := by
    rw [sectionsOf, Setting.countDatum_eq, if_pos held]
    rfl
  exact Toml.read?_separated (isRead_of_mem_documentOf held) made plain

/-! ### Names of files -/

theorem exists_pieces (mark : Char) (front back : List Char) :
    ∃ first others, Text.pieces mark (front ++ mark :: back) =
      first :: (others ++ Text.pieces mark back) := by
  induction front with
  | nil =>
    refine ⟨[], [], ?_⟩
    rw [List.nil_append, Text.pieces, if_pos (beq_self_eq_true mark), List.nil_append]
  | cons c front inductionHypothesis =>
    obtain ⟨first, others, found⟩ := inductionHypothesis
    rw [List.cons_append, Text.pieces, found]
    split
    · exact ⟨[], first :: others, rfl⟩
    · exact ⟨c :: first, others, rfl⟩

/-- The name of the file alone tells the format. -/
theorem formatOf?_of_toList {path : String} {front : List Char}
    (ends : path.toList = front ++ "/config.toml".toList) : formatOf? path = some .toml := by
  obtain ⟨first, others, found⟩ := exists_pieces '/' front "config.toml".toList
  have part : (Text.pieces '/' path.toList).getLastD [] = "config.toml".toList := by
    rw [ends, show "/config.toml".toList = '/' :: "config.toml".toList from rfl, found]
    show ((first :: others) ++ ["config.toml".toList]).getLastD [] = _
    rw [List.getLastD_concat]
  unfold formatOf? Path.extension?
  rw [part]
  rfl

theorem exists_toList_join (directory : String) {path : String} {back : List Char}
    (ends : ∃ front, path.toList = front ++ back) :
    ∃ front, (Path.join directory path).toList = front ++ back := by
  obtain ⟨front, ends⟩ := ends
  unfold Path.join
  split
  · exact ⟨front, ends⟩
  split
  · exact ⟨directory.toList ++ front, by rw [String.toList_append, ends, List.append_assoc]⟩
  · exact ⟨(directory ++ "/").toList ++ front, by
      rw [String.toList_append, ends, List.append_assoc]⟩

theorem formatOf?_projectFile (directory : String) :
    formatOf? (projectFile directory) = some .toml := by
  obtain ⟨front, ends⟩ := exists_toList_join directory
    ⟨".swallowtail".toList, (rfl : ".swallowtail/config.toml".toList = _ ++ "/config.toml".toList)⟩
  exact formatOf?_of_toList ends

theorem formatOf?_userFile {environment : Environment} {home : Option String} {path : String}
    (known : userFile? environment home = some path) (directory : String) :
    formatOf? (Path.join directory path) = some .toml := by
  obtain ⟨settled, _, rfl⟩ := Option.map_eq_some_iff.mp known
  obtain ⟨front, ends⟩ := exists_toList_join directory (exists_toList_join settled
    ⟨"swallowtail".toList, (rfl : "swallowtail/config.toml".toList = _ ++ "/config.toml".toList)⟩)
  exact formatOf?_of_toList ends

/-! ### The only file -/

/-- The text is that of the only file with settings, the project's, the user's or the one that is
named. -/
inductive OnlyText (sources : Sources) (text : String) : Prop where
  | project (there : sources.disk.text? (projectFile sources.directory) = some text)
    (noUser : ∀ path, userFile? sources.environment sources.home = some path →
      sources.disk.contains (Path.join sources.directory path) = false)
    (noNamed : sources.named = none)
  | user (noProject : sources.disk.contains (projectFile sources.directory) = false)
    {path : String} (known : userFile? sources.environment sources.home = some path)
    (there : sources.disk.text? (Path.join sources.directory path) = some text)
    (noNamed : sources.named = none)
  | named (noProject : sources.disk.contains (projectFile sources.directory) = false)
    (noUser : ∀ path, userFile? sources.environment sources.home = some path →
      sources.disk.contains (Path.join sources.directory path) = false)
    {path : String} (given : sources.named = some path)
    (there : fileFor sources.reading sources.disk (Path.join sources.directory path) =
      .ok (.toml, Text.utf8Bytes text))

theorem bytes?_of_text? {disk : Disk} {path text : String} (there : disk.text? path = some text) :
    disk.bytes? path = some (Text.utf8Bytes text) := by
  obtain ⟨bytes, found, decoded⟩ := Option.bind_eq_some_iff.mp there
  rw [found, Text.ofUtf8?_eq_some_iff.mp decoded]

theorem fileFor_of_text? {reading : FileReading} {disk : Disk} {path text : String}
    (there : disk.text? path = some text) (format : formatOf? path = some .toml) :
    fileFor reading disk path = .ok (.toml, Text.utf8Bytes text) := by
  unfold fileFor
  rw [bytes?_of_text? there, format]

theorem contains_of_text? {disk : Disk} {path text : String}
    (there : disk.text? path = some text) : disk.contains path = true := by
  have bytes := bytes?_of_text? there
  unfold Disk.contains
  cases found : disk.find? path with
  | some node => rfl
  | none =>
    unfold Disk.bytes? at bytes
    rw [found] at bytes
    cases bytes

theorem layerOf?_utf8Bytes (reading : FileReading) (format : FileFormat) (text : String) :
    layerOf? reading format (Text.utf8Bytes text) = membersOf? reading format text := by
  rw [layerOf?, FileReading.text?, Text.ofUtf8?_utf8Bytes, Option.some_or, Option.bind_some]

theorem variablesChoose_empty {environment : Environment}
    (noVariables : ∀ entry ∈ environment, Environment.keyOf? entry.1 = none) :
    VariablesChoose environment .empty := by
  induction environment with
  | nil => exact .nil
  | cons entry rest inductionHypothesis =>
    obtain ⟨foreign, others⟩ := List.forall_mem_cons.mp noVariables
    exact .foreign foreign (inductionHypothesis others)

theorem settings_ofSettings (settings : Settings) :
    (Choice.ofSettings settings).settings = settings :=
  settings.ofValues_value

theorem fileGives_of_write? (written : settings.write? = some text) {reading : FileReading}
    {disk : Disk} {path : String}
    (there : fileFor reading disk path = .ok (.toml, Text.utf8Bytes (String.ofList text))) :
    FileGives reading disk path (.ofSettings settings) := by
  have held := (eq_separated_of_write? written).1
  refine ⟨.toml, _, sectionsOf settings, there, ?_, sectionsChoose_sectionsOf held⟩
  rw [layerOf?_utf8Bytes, membersOf?, String.toList_ofList, read?_of_write? written]

/-- Settings that are written are loaded again from what they are written as, when it is the only
file with settings and no variable is for one. -/
theorem load_of_written {sources : Sources} (written : settings.write? = some text)
    (only : OnlyText sources (String.ofList text))
    (noVariables : ∀ entry ∈ sources.environment, Environment.keyOf? entry.1 = none) :
    load sources = .ok settings := by
  have chosen := variablesChoose_empty noVariables
  have loaded {project user named : Choice} (gives : Gives sources project user named .empty)
      (decides : Choice.onto .empty (named.onto (user.onto project)) = .ofSettings settings) :
      load sources = .ok settings := by
    rw [gives.load_eq, decides, settings_ofSettings]
  cases only with
  | project there noUser noNamed =>
    have gives : Gives sources (.ofSettings settings) .empty .empty .empty :=
      { ofProject := (fileGives_of_write? written
          (fileFor_of_text? there (formatOf?_projectFile _))).optional (contains_of_text? there)
        ofUser := fun path known => optionalFileGives_empty (noUser path known)
        withoutUser := fun _ => rfl
        ofNamed := fun path given => nomatch noNamed.symm.trans given
        withoutNamed := fun _ => rfl
        ofEnvironment := chosen }
    exact loaded gives rfl
  | user noProject known there noNamed =>
    have gives : Gives sources .empty (.ofSettings settings) .empty .empty :=
      { ofProject := optionalFileGives_empty noProject
        ofUser := fun path other => by
          rw [← Option.some.inj (known.symm.trans other)]
          exact (fileGives_of_write? written
            (fileFor_of_text? there (formatOf?_userFile known _))).optional
              (contains_of_text? there)
        withoutUser := fun unknown => nomatch known.symm.trans unknown
        ofNamed := fun path given => nomatch noNamed.symm.trans given
        withoutNamed := fun _ => rfl
        ofEnvironment := chosen }
    exact loaded gives rfl
  | named noProject noUser given there =>
    have gives : Gives sources .empty .empty (.ofSettings settings) .empty :=
      { ofProject := optionalFileGives_empty noProject
        ofUser := fun path known => optionalFileGives_empty (noUser path known)
        withoutUser := fun _ => rfl
        ofNamed := fun path other => by
          rw [← Option.some.inj (given.symm.trans other)]
          exact fileGives_of_write? written there
        withoutNamed := fun unnamed => nomatch given.symm.trans unnamed
        ofEnvironment := chosen }
    exact loaded gives rfl

/-- Settings with marks, backslashes, a line end and a control character in their texts. -/
def markedSettings : Settings where
  endpoint := "it's \"so\""
  state := "C:\\new"
  persist := false
  refreshMillis := 9223372036854775807
  level := "'''\n\u0007\"\"\"\"\\"
  toFile := true

/-- What they are written as, in three quotings. -/
def markedText : String :=
  "[api]\nendpoint = \"\"\"it's \"so\"\"\"\"\n\n[paths]\nstate = 'C:\\new'\n\n" ++
  "[credentials]\npersist = false\n\n[ui]\nrefresh_rate_ms = 9223372036854775807\n\n" ++
  "[logging]\nlevel = \"\"\"\n'''\n\\u0007\"\"\\\"\"\\\\\"\"\"\nto_file = true\n"

/-- The text in the file that is named. -/
def markedSources : Sources where
  directory := "/"
  disk := ⟨[(["own.toml"], .file (Text.utf8Bytes markedText) 420)], []⟩
  environment := [("HOME", "/home")]
  home := none
  named := some "own.toml"
  reading := .plain

theorem load_of_written_marks :
    markedSettings.write? = some markedText.toList ∧
      OnlyText markedSources (String.ofList markedText.toList) ∧
      (∀ entry ∈ markedSources.environment, Environment.keyOf? entry.1 = none) ∧
      load markedSources = .ok markedSettings := by
  have written : markedSettings.write? = some markedText.toList := by decide +kernel
  have userFile : userFile? markedSources.environment markedSources.home =
      some "/home/.config/swallowtail/config.toml" := by decide +kernel
  have noUser : ∀ path, userFile? markedSources.environment markedSources.home = some path →
      markedSources.disk.contains (Path.join markedSources.directory path) = false := by
    intro path known
    rw [← Option.some.inj (userFile.symm.trans known)]
    decide +kernel
  have there : fileFor .plain markedSources.disk (Path.join markedSources.directory "own.toml") =
      .ok (.toml, Text.utf8Bytes (String.ofList markedText.toList)) := by
    rw [String.ofList_toList]
    refine fileFor_of_text? ?_ (by decide +kernel)
    have read : markedSources.disk.bytes? (Path.join markedSources.directory "own.toml") =
        some (Text.utf8Bytes markedText) := rfl
    rw [Disk.text?, read, Option.bind_some, Text.ofUtf8?_utf8Bytes]
  have only : OnlyText markedSources (String.ofList markedText.toList) :=
    .named (by decide +kernel) noUser rfl there
  have noVariables : ∀ entry ∈ markedSources.environment,
      Environment.keyOf? entry.1 = none := by
    decide +kernel
  exact ⟨written, only, noVariables, load_of_written written only noVariables⟩

end Onboarding.Settings
