/-
This file holds the program as a function: from the arguments and what is found
on the disk and in the environment to the words that are printed and the disk that
is left behind.
-/

import Onboarding.CommandLine.Invocation
import Onboarding.CommandLine.Outcome
import Onboarding.Registration.Online

namespace Onboarding.CommandLine

open Registration

/-- What the program finds when it is started, beside the disk. -/
structure Circumstances where
  environment : Environment
  /-- The directory that the system has for the user, where the environment names none. -/
  home : Option String
  /-- What is left open about the reading of files with settings. -/
  reading : Settings.FileReading
  /-- What comes of sending a request to an address. -/
  exchange : String → Exchange
  /-- What is left open about the reading of replies. -/
  charsets : Text.Charsets
  /-- The present moment. -/
  now : Moment

/-- What the program finds when it is started. -/
structure Host extends Circumstances where
  /-- The working directory. -/
  directory : String
  disk : Disk

/-- What settings are loaded from. -/
def Host.sources (host : Host) (named : Option String) : Settings.Sources where
  directory := host.directory
  disk := host.disk
  environment := host.environment
  home := host.home
  named := named
  reading := host.reading

/-- The words for a directory that cannot be made. -/
def directoryWords : Disk.DirectoryFailure → String
  | .exists => "File exists (os error 17)"
  | .inTheWay => "Not a directory (os error 20)"
  | .locked reason => reason

/-- Shows the screens, for which there must be a terminal; the directory for logs is made before
that. -/
def showScreens (host : Host) (settings : Settings) : Outcome × Disk :=
  let noTerminal := Outcome.failed "No such device or address (os error 6)" none
  if settings.toFile then
    match host.disk.makeDirectory (settings.logsPath host.directory) with
    | (disk, none) => (noTerminal, disk)
    | (disk, some failure) => (.failed (directoryWords failure) none, disk)
  else (noTerminal, host.disk)

/-- Runs a command with the settings. -/
def runCommand (host : Host) (settings : Settings) (command : Command) : Outcome × Disk :=
  let path := settings.credentialPath host.directory
  let (store, vault) := TokenStore.opened settings.persist path ⟨none, host.disk⟩
  match command with
  | .register applicant =>
    let online : Online := ⟨vault, [host.exchange settings.endpoint], []⟩
    let (outcome, online) := register (onlineServices host.charsets store host.now)
      (registeredText settings.persist path) applicant online
    (outcome, online.vault.disk)
  | .token => (printToken (store.token? vault), vault.disk)
  | .logout =>
    let (outcome, vault) := store.clear vault
    (loggedOut outcome, vault.disk)
  | .config => (printSettings settings, host.disk)

/-- The words when the program cannot do what is asked for. -/
def misuse : Outcome :=
  ⟨2, "", "error: the arguments are not understood\n\nFor more information, try '--help'.\n"⟩

/-- Runs the program: what is printed, and the disk left behind. -/
def run (host : Host) (arguments : List String) : Outcome × Disk :=
  match wishOf arguments with
  | .print text => (.done text, host.disk)
  | .misuse => (misuse, host.disk)
  | .run invocation =>
    match Settings.load (host.sources invocation.named) with
    | .error failure => (.failed failure.message (some failure.cause), host.disk)
    | .ok settings =>
      match invocation.command with
      | some command => runCommand host settings command
      | none => showScreens host settings

end Onboarding.CommandLine
