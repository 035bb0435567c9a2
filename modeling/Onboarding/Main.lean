/-
This file holds the program as it is started: it reads the environment and the
files that the program may ask for, runs the program as a function, prints what it
says and makes the one change to the disk that a command may make. No service can
be reached from here, and there is no terminal for the screens.
-/

import Onboarding.CommandLine.Program
import Onboarding.Exchange.Address

namespace Onboarding.CommandLine

/-! ### What is found -/

/-- The text of a file, if it can be read. -/
def readText? (path : String) : IO (Option String) := do
  try
    return some (← IO.FS.readFile path)
  catch _ => return none

/-- The bytes of a file, if it can be read. -/
def readBytes? (path : String) : IO (Option (List UInt8)) := do
  try
    return some (← IO.FS.readBinFile path).data.toList
  catch _ => return none

/-- The disk with what is found under a path. -/
def withFound (disk : Disk) (path : String) : IO Disk := do
  match ← readBytes? path with
  | some bytes => return (disk.makeAround path).putFile path bytes 0o644
  | none =>
    if ← ((← IO.currentDir) / path).isDir then
      return (disk.makeDirectory path).1
    else return disk

/-- The variables of the environment. -/
def readEnvironment : IO Environment := do
  let entries := Text.pieces '\u0000' ((← readText? "/proc/self/environ").getD "").toList
  return entries.filterMap fun entry =>
    let name := entry.takeWhile (· != '=')
    if name.isEmpty then none
    else some (String.ofList name, String.ofList (entry.drop (name.length + 1)))

/-- The present moment. -/
def presentMoment : IO Moment := do
  let time := (← ((← IO.currentDir) / "/proc/self/environ").metadata).modified
  return .ofSeconds time.sec.toNat time.nsec.toNat

/-- The paths of the files with settings that the program may ask for. -/
def settingsPaths (directory : String) (environment : Environment) (named : Option String) :
    List String :=
  let named := named.toList.map (Path.join directory)
  let names := named.map Path.upToName
  let extensions := Settings.FileFormat.all.flatMap Settings.FileFormat.extensions
  Settings.projectFile directory :: (Settings.userFile? environment none).toList ++
    named ++ names.flatMap fun name => extensions.map fun extension => name ++ "." ++ extension

/-! ### What is left -/

/-- Makes what is found under a path what the program left there. -/
def keepContent (path : String) (before after : FileContent) : IO Unit := do
  if before = after then return
  match after with
  | .missing => IO.FS.removeFile path
  | .directory => IO.FS.createDirAll path
  | .file bytes _ =>
    IO.FS.createDirAll ("/" ++ String.intercalate "/" (Path.steps path).dropLast)
    IO.FS.writeBinFile path ⟨bytes.toArray⟩
    IO.setAccessRights path ⟨⟨true, true, false⟩, ⟨false, false, false⟩, ⟨false, false, false⟩⟩

/-- Runs the program in the directory and the environment in which it is started. -/
def runHere (arguments : List String) : IO Outcome := do
  let directory := (← IO.currentDir).toString
  let environment ← readEnvironment
  let named := match wishOf arguments with
    | .run invocation => invocation.named
    | _ => none
  let disk ← (settingsPaths directory environment named).foldlM withFound Disk.empty
  let host : Host := {
    environment, directory, disk
    home := none
    reading := .plain
    exchange := fun address => .failed (Address.unreachable address)
    charsets := fun _ => none
    now := ← presentMoment }
  let path := match Settings.load (host.sources named) with
    | .ok settings => settings.credentialPath directory
    | .error _ => Settings.default.credentialPath directory
  let disk ← withFound disk path
  let (outcome, left) := run { host with disk } arguments
  keepContent path (disk.content path) (left.content path)
  return outcome

end Onboarding.CommandLine

/-- The program. -/
def main (arguments : List String) : IO UInt32 := do
  let outcome ← Onboarding.CommandLine.runHere arguments
  IO.print outcome.out
  IO.eprint outcome.err
  return UInt32.ofNat outcome.code
