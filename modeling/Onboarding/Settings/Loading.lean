/-
This file holds how settings are loaded. They come in layers, of which each counts
more than those before it: the defaults, the file of the project, the file of the
user, the file that is named, and the environment.

Some of it is left open. What a file of another format than TOML and JSON holds is
given, and so is the order in which formats are tried and members are taken, on which
nobody can rely.
-/

import Onboarding.Files.Disk
import Onboarding.Settings.Basic
import Onboarding.Settings.Environment
import Onboarding.Toml.Document

namespace Onboarding.Settings

/-! ### Failures and sources -/

/-- Why settings cannot be loaded. -/
inductive LoadFailure where
  /-- A file is missing or cannot be read. -/
  | unreadable (reason : String)
  /-- What was read cannot be made into settings. -/
  | unsuitable
  deriving DecidableEq, Repr

/-- The words for a failure. -/
def LoadFailure.message : LoadFailure → String
  | unreadable _ => "Failed to load configuration"
  | unsuitable => "Failed to deserialize configuration"

/-- The words for what is behind a failure. -/
def LoadFailure.cause : LoadFailure → String
  | unreadable reason => reason
  | unsuitable => "a setting is not of the kind that it must be"

/-- A format of files. -/
inductive FileFormat where
  | toml
  | json
  | yaml
  | ini
  | ron
  | json5
  deriving DecidableEq, Repr

namespace FileFormat

/-- All formats. -/
def all : List FileFormat := [toml, json, yaml, ini, ron, json5]

/-- The extensions for the format, in the order in which they are tried. -/
def extensions : FileFormat → List String
  | toml => ["toml"]
  | json => ["json"]
  | yaml => ["yaml", "yml"]
  | ini => ["ini"]
  | ron => ["ron"]
  | json5 => ["json5"]

end FileFormat

/-- What is left open about the reading of files. -/
structure FileReading where
  /-- The members that a text holds in a format other than TOML and JSON, if it is well formed. -/
  other? : FileFormat → String → Option (List (String × Datum))
  /-- The text that is made of bytes that are none, if one is. -/
  mended? : List UInt8 → Option String
  /-- The order in which the formats are tried. -/
  formats : Order FileFormat
  /-- The order in which the members of each table are taken; the names that lead to it begin with
  that of the layer. -/
  members : Orders

/-- No other format is known, bytes that are no text are left, and all is taken as it is given. -/
def FileReading.plain : FileReading :=
  ⟨fun _ _ => none, fun _ => none, .asGiven, fun _ => .asGiven⟩

/-- The text of a file with these bytes. -/
def FileReading.text? (reading : FileReading) (bytes : List UInt8) : Option String :=
  (Text.ofUtf8? bytes).or (reading.mended? bytes)

/-- What settings are loaded from. -/
structure Sources where
  /-- The directory from which relative paths start. -/
  directory : String
  disk : Disk
  environment : Environment
  /-- The directory that the system has for the user, where the environment names none. -/
  home : Option String
  /-- The file that is named, if one is. -/
  named : Option String
  reading : FileReading

/-! ### Files -/

/-- The format that a path's extension tells. -/
def formatOf? (path : String) : Option FileFormat :=
  (Path.extension? path).bind fun extension =>
    FileFormat.all.find? fun format => format.extensions.contains extension

/-- The members that the text of a file holds. -/
def membersOf? (reading : FileReading) (format : FileFormat) (text : String) :
    Option (List (String × Datum)) :=
  match format with
  | .toml => Toml.read? text.toList
  | .json =>
    match (Json.Tree.read? text.toList).bind (Json.Tree.keep? Json.levelLimit) with
    | some (.object members) => some (Datum.ofJsonMembers members)
    | _ => none
  | other => reading.other? other text

/-- The members that a file with these bytes holds. -/
def layerOf? (reading : FileReading) (format : FileFormat) (bytes : List UInt8) :
    Option (List (String × Datum)) :=
  (reading.text? bytes).bind (membersOf? reading format)

/-- The bytes of the file with an extension added to the name at the end of a path; none where the
path ends with a step back. -/
def extendedBytes? (disk : Disk) (path extension : String) : Option (List UInt8) :=
  if (Path.steps path).getLast? = some Path.back then none
  else disk.bytes? (Path.upToName path ++ extension)

/-- The format and the bytes of the file that a path without an extension names. -/
def extendedFile? (reading : FileReading) (disk : Disk) (path : String) :
    Option (FileFormat × List UInt8) :=
  (reading.formats.arrange FileFormat.all).findSome? fun format =>
    format.extensions.findSome? fun extension =>
      (extendedBytes? disk path ("." ++ extension)).map fun bytes => (format, bytes)

/-- The format and the bytes of the file that a path names. The extension may be left out; a path
that goes on behind a name, as with a slash, can only be meant so. -/
def fileFor (reading : FileReading) (disk : Disk) (path : String) :
    Except LoadFailure (FileFormat × List UInt8) :=
  match disk.bytes? path with
  | some bytes =>
    match formatOf? path with
    | some format => .ok (format, bytes)
    | none => .error (.unreadable ("the format of " ++ path ++ " is unknown"))
  | none =>
    match extendedFile? reading disk path with
    | some file => .ok file
    | none => .error (.unreadable ("there is no file " ++ path))

/-- The members of the file that a path names. -/
def fileLayer (reading : FileReading) (disk : Disk) (path : String) :
    Except LoadFailure (List (String × Datum)) := do
  let (format, bytes) ← fileFor reading disk path
  match layerOf? reading format bytes with
  | some members => .ok members
  | none => .error (.unreadable ("there is a mistake in " ++ path))

/-- The members of a file that need not be there. -/
def optionalLayer (reading : FileReading) (disk : Disk) (path : String) :
    Except LoadFailure (List (String × Datum)) :=
  if disk.contains path then fileLayer reading disk path else .ok []

/-! ### Layers -/

/-- The defaults as members. -/
def defaultLayer : List (String × Datum) := [
  ("api", .table [("endpoint", .text default.endpoint)]),
  ("paths", .table [("state", .text default.state)]),
  ("credentials", .table [("persist", .bool default.persist)]),
  ("ui", .table [("refresh_rate_ms", .integer default.refreshMillis)]),
  ("logging", .table [("level", .text default.level), ("to_file", .bool default.toFile)])]

/-- The path of the project's file. -/
def projectFile (directory : String) : String :=
  Path.join directory ".swallowtail/config.toml"

/-- The path of the user's file, when it is known where such files are. -/
def userFile? (environment : Environment) (home : Option String) : Option String :=
  let directory := match environment.get? "XDG_CONFIG_HOME" with
    | some path => if Path.isAbsolute path then some path else none
    | none => none
  let home := match environment.get? "HOME" with
    | some path => if path = "" then home else some path
    | none => home
  (directory.or (home.map fun path => Path.join path ".config")).map fun directory =>
    Path.join directory "swallowtail/config.toml"

/-- The members that are read at a path, if there is one. -/
def layerAt (read : String → Except LoadFailure (List (String × Datum))) :
    Option String → Except LoadFailure (List (String × Datum))
  | some path => read path
  | none => .ok []

/-- The layers that the files give, each under a name, those that count less in front. -/
def fileLayers (sources : Sources) :
    Except LoadFailure (List (String × List (String × Datum))) := do
  let inside (path : String) := Path.join sources.directory path
  let optional := optionalLayer sources.reading sources.disk
  let project ← optional (projectFile sources.directory)
  let user ← layerAt (optional <| inside ·) (userFile? sources.environment sources.home)
  let named ← layerAt (fileLayer sources.reading sources.disk <| inside ·) sources.named
  return [("project", project), ("user", user), ("named", named)]

/-- The members of a layer with a name, and those of the tables in it, in an order. -/
def arrangedLayer (orders : Orders) (layer : String × List (String × Datum)) :
    List (String × Datum) :=
  (orders [layer.1]).arrange (Datum.arrangedMembers orders [layer.1] layer.2)

/-- The layers that the sources give, those that count less in front. -/
def layers (sources : Sources) : Except LoadFailure (List (List (String × Datum))) := do
  let files ← fileLayers sources
  let layers := ("defaults", defaultLayer) :: files ++ [("environment", sources.environment.layer)]
  return layers.map (arrangedLayer sources.reading.members)

/-- The data that the layers make together. -/
def merged (layers : List (List (String × Datum))) : Datum :=
  layers.foldl Datum.putLayer (.table [])

/-- The settings that the sources give. -/
def load (sources : Sources) : Except LoadFailure Settings := do
  match ofDatum? (merged (← layers sources)) with
  | some settings => .ok settings
  | none => .error .unsuitable

/-! ### Paths -/

/-- The directory for the credential and for logs. -/
def statePath (settings : Settings) (directory : String) : String :=
  Path.join directory settings.state

/-- The directory for logs. -/
def logsPath (settings : Settings) (directory : String) : String :=
  Path.join (settings.statePath directory) "logs"

/-- The file for the credential. -/
def credentialPath (settings : Settings) (directory : String) : String :=
  Path.join (settings.statePath directory) "credentials.json"

end Onboarding.Settings
