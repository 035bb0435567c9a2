/-
This file holds a disk: directories and the bytes of files under their paths, and what
stands in the way of changing them. It says where a path leads and what comes of the
changes to a file.
-/

import Onboarding.Credential.Keeping
import Onboarding.Files.Path

namespace Onboarding

/-- What is kept under a path. -/
inductive Node where
  | directory
  | file (bytes : List UInt8) (mode : Nat)
  deriving DecidableEq, Repr

/-- What stands in the way of changes in one place of a disk. -/
inductive Hindrance where
  /-- Nothing can be made, written or removed there, for the reason told. -/
  | locked (reason : String)
  /-- A file can be written there, but whom it is readable by cannot be changed. -/
  | foreign
  /-- A file can be written there, but only so many bytes of it. -/
  | narrow (room : Nat)
  deriving DecidableEq, Repr

/-- What is kept under the parts of each path, and what stands in the way of changes there. The root
is always a directory. -/
structure Disk where
  nodes : List (List String × Node)
  hindrances : List (List String × Hindrance)
  deriving Repr

namespace Disk

/-- A disk with the root alone, where all can be changed. -/
def empty : Disk := ⟨[], []⟩

/-- What is kept under a path. -/
def node? (disk : Disk) (parts : List String) : Option Node :=
  if parts = [] then some .directory else disk.nodes.lookup parts

/-- What stands in the way of changes under a path. -/
def hindrance? (disk : Disk) (parts : List String) : Option Hindrance :=
  disk.hindrances.lookup parts

/-- Removes what is kept under a path. -/
def remove (disk : Disk) (parts : List String) : Disk :=
  { disk with nodes := disk.nodes.filter fun entry => entry.1 != parts }

/-- Puts something under a path. -/
def put (disk : Disk) (parts : List String) (node : Node) : Disk :=
  { disk with nodes := (parts, node) :: (disk.remove parts).nodes }

/-! ### Places -/

/-- Where a path leads. -/
inductive Place where
  /-- To what is kept under these parts. -/
  | found (parts : List String) (node : Node)
  /-- To nothing, but into a directory in which a file could be. -/
  | vacant (parts : List String)
  /-- Through something that is no directory, or to a file where a directory is asked for. -/
  | nowhere
  deriving DecidableEq, Repr

/-- The directory that a step from a directory leads to; none when there is none. -/
def enter? (disk : Disk) (directory : List String) (step : String) : Option (List String) :=
  let inner := directory ++ [step]
  if step = Path.back then some directory.dropLast
  else if disk.node? inner = some .directory then some inner
  else none

/-- Where a path leads from the root. Each step but the last one needs a directory to go on from,
also where the next step leads back out of it. -/
def place (disk : Disk) (path : String) : Place :=
  let steps := Path.steps path
  match steps.getLast?, steps.dropLast.foldlM disk.enter? [] with
  | none, _ => .found [] .directory
  | some _, none => .nowhere
  | some last, some directory =>
    let parts := directory ++ [last]
    if last = Path.back then .found directory.dropLast .directory
    else
      match disk.node? parts, Path.isOfDirectory path with
      | some .directory, _ => .found parts .directory
      | some file, false => .found parts file
      | none, false => .vacant parts
      | _, true => .nowhere

/-- What is kept where a path leads. -/
def find? (disk : Disk) (path : String) : Option Node :=
  match disk.place path with
  | .found _ node => some node
  | _ => none

/-- The bytes of the file under a path. -/
def bytes? (disk : Disk) (path : String) : Option (List UInt8) :=
  match disk.find? path with
  | some (.file bytes _) => some bytes
  | _ => none

/-- The text of the file under a path, where its bytes are one. -/
def text? (disk : Disk) (path : String) : Option String :=
  (disk.bytes? path).bind Text.ofUtf8?

/-- Whether anything is kept under a path. -/
def contains (disk : Disk) (path : String) : Bool :=
  (disk.find? path).isSome

/-! ### Making directories -/

/-- Why a directory cannot be made: its name is that of a file, a file is in the place of a
directory on the way to it, or nothing can be made in the place of one of these. -/
inductive DirectoryFailure where
  | exists
  | inTheWay
  | locked (reason : String)
  deriving DecidableEq, Repr

/-- Makes the directories that are missing on the way of the steps. The directories made before a
failure stay; behind one that was made, a file in the way is reported as what is to be made. -/
def makeOnWay (disk : Disk) (directory : List String) (made : Bool) :
    List String → Disk × Option DirectoryFailure
  | [] => (disk, none)
  | step :: rest =>
    let inner := directory ++ [step]
    match disk.enter? directory step, disk.node? inner with
    | some entered, _ => makeOnWay disk entered made rest
    | none, none =>
      match disk.hindrance? inner with
      | some (.locked reason) => (disk, some (.locked reason))
      | _ => makeOnWay (disk.put inner .directory) inner true rest
    | none, some _ => (disk, some (if made || rest.isEmpty then .exists else .inTheWay))

/-- Makes the directory of a path and all around it. -/
def makeDirectory (disk : Disk) (path : String) : Disk × Option DirectoryFailure :=
  disk.makeOnWay [] false (Path.steps path)

/-- Makes the directories around a path, as far as possible. -/
def makeAround (disk : Disk) (path : String) : Disk :=
  (disk.makeOnWay [] false (Path.steps path).dropLast).1

/-- Puts a file where a path leads, if a file can be there. -/
def putFile (disk : Disk) (path : String) (bytes : List UInt8) (mode : Nat) : Disk :=
  match disk.place path with
  | .found parts (.file ..) | .vacant parts => disk.put parts (.file bytes mode)
  | _ => disk

/-- Puts a file with a text under a path, with the directories around it. -/
def addFile (disk : Disk) (path : String) (text : String) (mode : Nat) : Disk :=
  (disk.makeAround path).putFile path (Text.utf8Bytes text) mode

/-! ### A file as a credential -/

/-- What is found under the path of a credential. -/
def content (disk : Disk) (path : String) : FileContent :=
  match disk.find? path with
  | none => .missing
  | some .directory => .directory
  | some (.file bytes mode) => .file bytes mode

/-- What comes of writing a text in spite of what stands in the way. -/
def outcomeOf (text : String) : Option Hindrance → WriteOutcome
  | none => .complete
  | some (.locked _) => .untouched
  | some .foreign => .emptied
  | some (.narrow room) =>
    if (Text.utf8Bytes text).length ≤ room then .complete else .brokenOff room

/-- What comes of writing a text to the file under a path, once the directories around it are
made. -/
def writeOutcome (disk : Disk) (path text : String) : WriteOutcome :=
  match disk.place path with
  | .found parts (.file ..) | .vacant parts => outcomeOf text (disk.hindrance? parts)
  | _ => .untouched

/-- What comes of removing what is found under a path. -/
def removalOutcome (disk : Disk) (path : String) : RemovalOutcome :=
  match disk.place path with
  | .found _ .directory => .refused "Is a directory (os error 21)"
  | .found parts (.file ..) =>
    match disk.hindrance? parts with
    | some (.locked reason) => .refused reason
    | _ => .removed
  | _ => .removed

/-- The disk with what a credential's file holds put under its path. -/
def setContent (disk : Disk) (path : String) : FileContent → Disk
  | .missing =>
    match disk.place path with
    | .found parts _ => disk.remove parts
    | _ => disk
  | .directory => (disk.makeDirectory path).1
  | .file bytes mode => disk.putFile path bytes mode

end Disk

end Onboarding
