/-
This file holds what a command line asks for: a command with its options, or only
some words to be printed.
-/

import Onboarding.CommandLine.Help
import Onboarding.CommandLine.Options
import Onboarding.Registration.Applicant

namespace Onboarding.CommandLine

open Registration

/-- A command. -/
inductive Command where
  /-- Registers an applicant. -/
  | register (applicant : Applicant)
  /-- Prints the token. -/
  | token
  /-- Forgets the token. -/
  | logout
  /-- Prints the settings. -/
  | config
  deriving DecidableEq, Repr

/-- What the program is to do. -/
structure Invocation where
  /-- The file with settings that is named. -/
  named : Option String
  /-- Whether everything is to be logged. -/
  debug : Bool
  /-- The command; without one the screens are shown. -/
  command : Option Command
  deriving DecidableEq, Repr

/-- What a command line asks for. -/
inductive Wish where
  | run (invocation : Invocation)
  /-- Some words to be printed. -/
  | print (text : String)
  /-- Nothing that the program can do. -/
  | misuse
  deriving DecidableEq, Repr

/-! ### Options -/

def helpOption : OptionSpec := ⟨"help", some 'h', .stopping⟩

/-- The options of the program. -/
def programOptions : List OptionSpec :=
  [⟨"config", some 'c', .valued⟩, ⟨"debug", some 'd', .switch⟩, helpOption,
    ⟨"version", some 'V', .stopping⟩]

/-- The names of the commands. -/
def commandNames : List String := ["register", "token", "logout", "config", "help"]

/-- The name of the option for a field. -/
def optionName : Field → String
  | .firstName => "first-name"
  | .lastName => "last-name"
  | .email => "email"
  | .password => "password"

/-- The options of the registration. -/
def registerOptions : List OptionSpec :=
  Field.all.map (fun field => ⟨optionName field, none, .valued⟩) ++ [helpOption]

/-! ### Commands -/

/-- The applicant that the options give; none unless all of them are given. -/
def applicantOf? (given : List (String × String)) : Option Applicant := do
  return {
    firstName := ← given.lookup (optionName .firstName)
    lastName := ← given.lookup (optionName .lastName)
    email := ← given.lookup (optionName .email)
    password := ← given.lookup (optionName .password) }

/-- What the command that explains the others is asked for. -/
def readHelp : List String → Wish
  | [] => .print programHelp
  | [name] =>
    match commandHelp? name with
    | some text => .print text
    | none => .misuse
  | _ => .misuse

/-- What a command is asked for by the arguments behind its name; `make` makes it of the options. -/
def readCommand (name : String) (specs : List OptionSpec)
    (make : List (String × String) → Option Command) (arguments : List String) :
    Except Wish Command :=
  match read specs [] arguments with
  | .complete given _ =>
    match make given with
    | some command => .ok command
    | none => .error .misuse
  | .stopped _ => .error (.print ((commandHelp? name).getD ""))
  | .misuse => .error .misuse

/-- The command with a name. -/
def commandOf (name : String) (arguments : List String) : Except Wish Command :=
  let plain (command : Command) : Except Wish Command :=
    readCommand name [helpOption] (fun _ => some command) arguments
  match name with
  | "register" =>
    readCommand name registerOptions (fun given => (applicantOf? given).map .register) arguments
  | "token" => plain .token
  | "logout" => plain .logout
  | "config" => plain .config
  | "help" => .error (readHelp arguments)
  | _ => .error .misuse

/-- What the arguments ask for. -/
def wishOf (arguments : List String) : Wish :=
  match read programOptions commandNames arguments with
  | .misuse => .misuse
  | .stopped long => .print (if long = "version" then versionText else programHelp)
  | .complete given rest =>
    let invocation (command : Option Command) : Wish :=
      .run ⟨given.lookup "config", (given.lookup "debug").isSome, command⟩
    match rest with
    | [] => invocation none
    | name :: arguments =>
      match commandOf name arguments with
      | .ok command => invocation (some command)
      | .error wish => wish

end Onboarding.CommandLine
