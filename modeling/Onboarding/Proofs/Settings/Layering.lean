/-
This file proves how settings are layered. The project's file, the user's file, the file
that is named and the environment each give values for some of the settings, for any of
them in any combination. Each setting gets the value of the last of these that gives one,
and its default if none does. A file that need not be there gives nothing when it is not.

A number that 64 bits with a sign cannot hold passes through a floating-point number on
its way, from the environment or from a JSON document, and so need not arrive as given. The
same holds for any other format that hands it over as such a number. A format that hands
over texts alone lets it arrive.
-/

import Onboarding.Proofs.Settings.Variables

namespace Onboarding.Settings

open Numeric

/-! ### What each source gives -/

/-- The file that a path names gives what is chosen: its members, in whatever format, hold what
stands for it. -/
def FileGives (reading : FileReading) (disk : Disk) (path : String) (choice : Choice) : Prop :=
  ∃ format bytes members, fileFor reading disk path = .ok (format, bytes) ∧
    layerOf? reading format bytes = some members ∧ SectionsChoose members choice

/-- The file under a path gives what is chosen, nothing when there is no such file. -/
def OptionalFileGives (reading : FileReading) (disk : Disk) (path : String) (choice : Choice) :
    Prop :=
  if disk.contains path then FileGives reading disk path choice else choice = .empty

/-- What each of the sources gives; a file whose path is not known gives nothing. -/
structure Gives (sources : Sources) (project user named environment : Choice) : Prop where
  ofProject : OptionalFileGives sources.reading sources.disk (projectFile sources.directory) project
  ofUser : ∀ path, userFile? sources.environment sources.home = some path →
    OptionalFileGives sources.reading sources.disk (Path.join sources.directory path) user
  withoutUser : userFile? sources.environment sources.home = none → user = .empty
  ofNamed : ∀ path, sources.named = some path →
    FileGives sources.reading sources.disk (Path.join sources.directory path) named
  withoutNamed : sources.named = none → named = .empty
  ofEnvironment : VariablesChoose sources.environment environment

/-! ### Layers -/

variable {reading : FileReading} {disk : Disk} {path : String} {choice : Choice}

theorem areEntries_nil {name : Setting → Option String} : AreEntries name [] :=
  ⟨List.nodup_nil, fun _ listed => nomatch listed⟩

theorem sectionsChoose_nil : SectionsChoose [] .empty where
  sections := ⟨List.nodup_nil, fun _ listed => nomatch listed⟩
  stand _ := .none

theorem FileGives.exists_fileLayer (gives : FileGives reading disk path choice) :
    ∃ members, fileLayer reading disk path = .ok members ∧ SectionsChoose members choice := by
  obtain ⟨format, bytes, members, found, read, sections⟩ := gives
  refine ⟨members, ?_, sections⟩
  unfold fileLayer
  rw [found]
  dsimp only [bind, Except.bind]
  rw [read]

theorem FileGives.optional (gives : FileGives reading disk path choice)
    (there : disk.contains path = true) : OptionalFileGives reading disk path choice := by
  rwa [OptionalFileGives, if_pos there]

theorem optionalFileGives_empty (missing : disk.contains path = false) :
    OptionalFileGives reading disk path .empty := by
  rw [OptionalFileGives, missing]
  exact rfl

theorem OptionalFileGives.exists_optionalLayer
    (gives : OptionalFileGives reading disk path choice) :
    ∃ members, optionalLayer reading disk path = .ok members ∧ SectionsChoose members choice := by
  unfold OptionalFileGives at gives
  unfold optionalLayer
  split at gives
  · next there =>
    rw [if_pos there]
    exact gives.exists_fileLayer
  · next missing =>
    rw [if_neg missing]
    exact ⟨[], rfl, gives ▸ sectionsChoose_nil⟩

theorem exists_layerAt {path? : Option String}
    {read : String → Except LoadFailure (List (String × Datum))}
    (known : ∀ path, path? = some path → ∃ members, read path = .ok members ∧
      SectionsChoose members choice)
    (unknown : path? = none → choice = .empty) :
    ∃ members, layerAt read path? = .ok members ∧ SectionsChoose members choice := by
  cases path? with
  | some path => exact known path rfl
  | none => exact ⟨[], rfl, unknown rfl ▸ sectionsChoose_nil⟩

namespace Gives

variable {sources : Sources} {project user named environment : Choice}
  (gives : Gives sources project user named environment)

include gives

/-- The layers over the defaults, the environment on top. -/
theorem exists_layers : ∃ above,
    layers sources =
      .ok (arrangedLayer sources.reading.members ("defaults", defaultLayer) :: above) ∧
      Chooses above.flatten (environment.onto (named.onto (user.onto project))) := by
  obtain ⟨projectMembers, readProject, ofProject⟩ := gives.ofProject.exists_optionalLayer
  obtain ⟨userMembers, readUser, ofUser⟩ := exists_layerAt
    (fun path found => (gives.ofUser path found).exists_optionalLayer) gives.withoutUser
  obtain ⟨namedMembers, readNamed, ofNamed⟩ := exists_layerAt
    (fun path found => (gives.ofNamed path found).exists_fileLayer) gives.withoutNamed
  refine ⟨[("project", projectMembers), ("user", userMembers), ("named", namedMembers),
    ("environment", sources.environment.layer)].map (arrangedLayer sources.reading.members),
    ?_, ?_⟩
  · unfold layers fileLayers
    dsimp only [bind, Except.bind, pure, Except.pure]
    rw [readProject, readUser, readNamed]
    rfl
  · have files := ((ofProject.chooses sources.reading.members "project").append
      (ofUser.chooses sources.reading.members "user")).append
        (ofNamed.chooses sources.reading.members "named")
    have upwards := files.append
      (gives.ofEnvironment.chooses sources.reading.members "environment")
    simpa only [List.map_cons, List.map_nil, List.flatten_cons, List.flatten_nil, List.append_nil,
      List.append_assoc] using upwards

theorem load_eq : load sources =
    .ok (environment.onto (named.onto (user.onto project))).settings := by
  obtain ⟨above, together, chooses⟩ := gives.exists_layers
  unfold load
  rw [together]
  dsimp only [bind, Except.bind]
  rw [ofDatum?_merged chooses]

end Gives

/-- The settings are loaded, and each of them is taken from the highest of the sources that give it,
which are in descending order the environment, the named file, the user's file and the project's;
it has its default if none of them gives it. This is so in whatever order formats are tried and
members are taken. -/
theorem load_of_gives {sources : Sources} {project user named environment : Choice}
    (gives : Gives sources project user named environment) :
    ∃ settings, load sources = .ok settings ∧ ∀ setting : Setting,
      settings.value setting =
        ((((environment setting).or (named setting)).or (user setting)).or
          (project setting)).getD (default.value setting) := by
  refine ⟨_, gives.load_eq, fun setting => ?_⟩
  rw [Choice.settings, value_ofValues, Choice.onto, Choice.onto, Choice.onto, Option.or_assoc,
    Option.or_assoc]

/-- A text for the project's file. -/
def someProjectText : String :=
  "[logging]\nlevel = \"debug\"\nto_file = false\n[api]\nendpoint = \"e\"\n"

/-- A text for the user's file. -/
def someUserText : String := "[paths]\n[logging]\nlevel = \"warn\"\n"

/-- A text for the file that is named. -/
def someNamedText : String := "[ui]\nrefresh_rate_ms=250\n[api]\n"

/-- What the named file holds: its format has texts and nothing else. -/
def someNamedMembers : List (String × Datum) :=
  [("ui", .table [("refresh_rate_ms", .text "250")]), ("api", .table [])]

/-- The named file is read as what it holds; formats and members are taken the other way round. -/
def someReading : FileReading where
  other? format text :=
    if format = .ini ∧ text = someNamedText then some someNamedMembers else none
  mended? _ := none
  formats := ⟨List.reverse, List.reverse_perm⟩
  members _ := ⟨List.reverse, List.reverse_perm⟩

/-- Files with these texts, and variables beside them. -/
def someSources : Sources where
  directory := "/work"
  disk := ((Disk.empty.addFile "/work/.swallowtail/config.toml" someProjectText 420).addFile
    "/home/.config/swallowtail/config.toml" someUserText 420).addFile "/work/own.ini"
      someNamedText 420
  environment := [("swallowtail__logging__Level", "trace"),
    ("SWALLOWTAIL__CREDENTIALS__PERSIST", "False")]
  home := some "/home"
  named := some "own"
  reading := someReading

/-- Four sources that give some settings each, among them the level three times and the flag beside
it once. -/
theorem load_of_four_sources :
    let project : Choice := fun
      | .endpoint => some "e"
      | .level => some "debug"
      | .toFile => some false
      | _ => none
    let user : Choice := fun
      | .level => some "warn"
      | _ => none
    let named : Choice := fun
      | .refreshMillis => some (250 : Nat)
      | _ => none
    let environment : Choice := fun
      | .level => some "trace"
      | .persist => some false
      | _ => none
    Gives someSources project user named environment ∧
      (∃ settings, load someSources = .ok settings ∧ ∀ setting : Setting,
        settings.value setting =
          ((((environment setting).or (named setting)).or (user setting)).or
            (project setting)).getD (default.value setting)) ∧
      load someSources = .ok ⟨"e", ".swallowtail", false, 250, "trace", false⟩ := by
  intro project user named environment
  have projectSections : SectionsChoose
      [("logging", .table [("level", .text "debug"), ("to_file", .bool false)]),
        ("api", .table [("endpoint", .text "e")])] project := by
    have logging : AreEntries (keyIn "logging")
        [("level", .text "debug"), ("to_file", .bool false)] :=
      ⟨by decide, List.forall_mem_cons.mpr ⟨⟨.level, "debug", rfl, rfl⟩,
        List.forall_mem_singleton.mpr ⟨.toFile, false, rfl, .bool false⟩⟩⟩
    have api : AreEntries (keyIn "api") [("endpoint", .text "e")] :=
      ⟨by decide, List.forall_mem_singleton.mpr ⟨.endpoint, "e", rfl, rfl⟩⟩
    refine ⟨⟨by decide, List.forall_mem_cons.mpr ⟨⟨by decide, _, rfl, logging⟩,
      List.forall_mem_singleton.mpr ⟨by decide, _, rfl, api⟩⟩⟩, fun setting => ?_⟩
    cases setting with
    | endpoint => exact .some rfl
    | level => exact .some rfl
    | toFile => exact .some (.bool false)
    | state | persist | refreshMillis => exact .none
  have userSections : SectionsChoose
      [("paths", .table []), ("logging", .table [("level", .text "warn")])] user := by
    have logging : AreEntries (keyIn "logging") [("level", .text "warn")] :=
      ⟨by decide, List.forall_mem_singleton.mpr ⟨.level, "warn", rfl, rfl⟩⟩
    refine ⟨⟨by decide, List.forall_mem_cons.mpr ⟨⟨by decide, _, rfl, areEntries_nil⟩,
      List.forall_mem_singleton.mpr ⟨by decide, _, rfl, logging⟩⟩⟩, fun setting => ?_⟩
    cases setting with
    | level => exact .some rfl
    | endpoint | state | persist | refreshMillis | toFile => exact .none
  have namedSections : SectionsChoose someNamedMembers named := by
    have millis : StandsForWord (.text "250") 250 :=
      .text ⟨by decide, _, .inl rfl, by decide, List.all_eq_true.mp (by decide), by decide⟩
    have ui : AreEntries (keyIn "ui") [("refresh_rate_ms", .text "250")] :=
      ⟨by decide, List.forall_mem_singleton.mpr ⟨.refreshMillis, (250 : Nat), rfl, millis⟩⟩
    refine ⟨⟨by decide, List.forall_mem_cons.mpr ⟨⟨by decide, _, rfl, ui⟩,
      List.forall_mem_singleton.mpr ⟨by decide, _, rfl, areEntries_nil⟩⟩⟩, fun setting => ?_⟩
    cases setting with
    | refreshMillis => exact .some millis
    | endpoint | state | persist | level | toFile => exact .none
  have chosen : VariablesChoose someSources.environment environment := by
    have level : "swallowtail__logging__Level".toLower = Setting.level.variableName.toLower := by
      rw [toLower_eq, toLower_eq]
      exact congrArg String.ofList (by decide)
    have persist : "SWALLOWTAIL__CREDENTIALS__PERSIST".toLower =
      Setting.persist.variableName.toLower := congrArg String.toLower rfl
    have trace : Setting.level.Spells "trace" "trace" := ⟨by decide +kernel, rfl⟩
    have no : Setting.persist.Spells "False" false :=
      (by decide +kernel : "False".toLower = "false")
    refine VariablesChoose.congr
      (.cons .level "trace" level trace (.cons .persist false persist no .nil)) fun setting => ?_
    cases setting <;> rfl
  have user? : userFile? someSources.environment someSources.home =
      some "/home/.config/swallowtail/config.toml" := by decide +kernel
  have projectGives : FileGives someReading someSources.disk
      (projectFile someSources.directory) project :=
    ⟨.toml, Text.utf8Bytes someProjectText, _, by decide +kernel, by decide +kernel,
      projectSections⟩
  have userGives : FileGives someReading someSources.disk
      (Path.join someSources.directory "/home/.config/swallowtail/config.toml") user :=
    ⟨.toml, Text.utf8Bytes someUserText, _, by decide +kernel, by decide +kernel, userSections⟩
  have namedGives : FileGives someReading someSources.disk
      (Path.join someSources.directory "own") named :=
    ⟨.ini, Text.utf8Bytes someNamedText, someNamedMembers, by decide +kernel, by decide +kernel,
      namedSections⟩
  have gives : Gives someSources project user named environment :=
    { ofProject := projectGives.optional (by decide +kernel)
      ofUser := fun path found => by
        rw [← Option.some.inj (user?.symm.trans found)]
        exact userGives.optional (by decide +kernel)
      withoutUser := fun unknown => nomatch user?.symm.trans unknown
      ofNamed := fun path found => by
        rw [← Option.some.inj found]
        exact namedGives
      withoutNamed := fun unnamed => nomatch unnamed
      ofEnvironment := chosen }
  have same : (environment.onto (named.onto (user.onto project))).settings =
      ⟨"e", ".swallowtail", false, 250, "trace", false⟩ := by decide +kernel
  exact ⟨gives, load_of_gives gives, same ▸ gives.load_eq⟩

/-- A number that is a word, but that 64 bits with a sign cannot hold, does not arrive from the
environment as it is given. -/
theorem load_ne_of_large_count :
    let sources : Sources := ⟨"/", .empty,
      [("SWALLOWTAIL__UI__REFRESH_RATE_MS", "9223372036854775809")], none, none, .plain⟩
    let given : Choice := .only .refreshMillis (9223372036854775809 : Nat)
    let arrived : Choice := .only .refreshMillis (9223372036854775808 : Nat)
    Setting.refreshMillis.Spells "9223372036854775809" (9223372036854775809 : Nat) ∧
      9223372036854775809 < wordCount ∧ Gives sources .empty .empty .empty arrived ∧
      load sources = .ok { default with refreshMillis := 9223372036854775808 } ∧
      ¬ ∃ settings, load sources = .ok settings ∧ ∀ setting : Setting,
        settings.value setting = (given setting).getD (default.value setting) := by
  intro sources given arrived
  have spells : Setting.refreshMillis.Spells "9223372036854775809" (9223372036854775809 : Nat) :=
    ⟨_, .inl rfl, ⟨by decide, List.all_eq_true.mp (by decide)⟩, by decide⟩
  have chosen : VariablesChoose sources.environment arrived := by
    refine .congr (.cons .refreshMillis (9223372036854775809 : Nat) (congrArg String.toLower rfl)
      spells .nil) fun setting => ?_
    have taken : Setting.takenCount 9223372036854775809 = 9223372036854775808 := by decide +kernel
    exact Option.none_or.trans (congrFun (congrArg (Choice.only .refreshMillis) taken) setting)
  have gives : Gives sources .empty .empty .empty arrived :=
    { ofProject := optionalFileGives_empty (by decide +kernel)
      ofUser := fun path found => nomatch found
      withoutUser := fun _ => rfl
      ofNamed := fun path found => nomatch found
      withoutNamed := fun _ => rfl
      ofEnvironment := chosen }
  have loaded : load sources = .ok { default with refreshMillis := 9223372036854775808 } := by
    decide +kernel
  refine ⟨spells, by decide, gives, loaded, ?_⟩
  rintro ⟨settings, other, each⟩
  cases Except.ok.inj (loaded.symm.trans other)
  exact absurd (each .refreshMillis) (by decide)

end Onboarding.Settings
