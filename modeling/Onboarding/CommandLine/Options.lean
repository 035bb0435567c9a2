/-
This file holds how the options of a command line are read, by a list of the
options that there are. An option has a long name behind two dashes and perhaps a
letter behind one; letters may stand together, and a value may be attached or
follow. Reading ends at the name of a command.
-/

namespace Onboarding.CommandLine

/-! ### Options -/

/-- What an option does. -/
inductive OptionKind where
  /-- It is there or not. -/
  | switch
  /-- It has a value. -/
  | valued
  /-- It ends the reading, whatever else follows. -/
  | stopping
  deriving DecidableEq, Repr

/-- An option that there is. -/
structure OptionSpec where
  long : String
  short : Option Char
  kind : OptionKind
  deriving DecidableEq, Repr

/-- What the reading of a command line came to. -/
inductive Reading where
  /-- The options given, each with its value, and what follows them from a command on. -/
  | complete (given : List (String × String)) (rest : List String)
  /-- An option ended the reading. -/
  | stopped (long : String)
  /-- The command line breaks the rules. -/
  | misuse
  deriving DecidableEq, Repr

/-- Where the reading stands. -/
structure Progress where
  /-- The options given so far, each with its value. -/
  given : List (String × String)
  /-- The option whose value must come next. -/
  awaiting : Option String
  /-- Whether two dashes have closed the options. -/
  closed : Bool
  deriving DecidableEq, Repr

namespace Progress

/-- Before the first argument. -/
def start : Progress := ⟨[], none, false⟩

/-- Adds an option with its value; no option is given twice. -/
def give (progress : Progress) (long value : String) : Except Reading Progress :=
  if progress.given.any fun entry => entry.1 == long then .error .misuse
  else .ok { progress with given := progress.given ++ [(long, value)], awaiting := none }

/-- Adds an option to which perhaps a value is attached. -/
def option (progress : Progress) (spec : OptionSpec) (attached : Option String) :
    Except Reading Progress :=
  match spec.kind, attached with
  | .valued, some value => progress.give spec.long value
  | .valued, none => .ok { progress with awaiting := some spec.long }
  | .switch, none => progress.give spec.long ""
  | .stopping, none => .error (.stopped spec.long)
  | _, some _ => .error .misuse

/-- Adds the options of letters that stand together. What follows the letter of an option with a
value is the value, perhaps behind a sign of equality. -/
def letters (specs : List OptionSpec) (progress : Progress) : List Char → Except Reading Progress
  | [] => .ok progress
  | letter :: rest =>
    match specs.find? fun spec => spec.short == some letter with
    | none => .error .misuse
    | some spec =>
      match spec.kind, rest with
      | .valued, '=' :: value => progress.option spec (some (String.ofList value))
      | .valued, [] => progress.option spec none
      | .valued, value => progress.option spec (some (String.ofList value))
      | _, rest => do letters specs (← progress.option spec none) rest

/-- Adds an option by its long name, to which perhaps a value is attached. -/
def word (specs : List OptionSpec) (progress : Progress) (text : List Char) :
    Except Reading Progress :=
  let long := text.takeWhile (· != '=')
  let attached := match text.drop long.length with
    | _ :: value => some (String.ofList value)
    | [] => none
  match specs.find? fun spec => spec.long.toList == long with
  | none => .error .misuse
  | some spec => progress.option spec attached

/-- Reads an argument that is no command. -/
def argument (specs : List OptionSpec) (progress : Progress) (argument : String) :
    Except Reading Progress :=
  match progress.awaiting, progress.closed, argument.toList with
  | some _, _, '-' :: _ :: _ => .error .misuse
  | some long, _, _ => progress.give long argument
  | none, true, _ => .error .misuse
  | none, false, ['-', '-'] => .ok { progress with closed := true }
  | none, false, '-' :: '-' :: text => progress.word specs text
  | none, false, '-' :: letter :: rest => progress.letters specs (letter :: rest)
  | none, false, _ => .error .misuse

end Progress

/-! ### Command lines -/

/-- Reads arguments up to the name of a command. -/
def readFrom (specs : List OptionSpec) (commands : List String) :
    Progress → List String → Reading
  | progress, [] =>
    if progress.awaiting.isSome then .misuse else .complete progress.given []
  | progress, argument :: rest =>
    if progress.awaiting.isNone && !progress.closed && commands.contains argument then
      .complete progress.given (argument :: rest)
    else
      match progress.argument specs argument with
      | .ok next => readFrom specs commands next rest
      | .error reading => reading

/-- Reads the arguments of a command line. -/
def read (specs : List OptionSpec) (commands : List String) (arguments : List String) : Reading :=
  readFrom specs commands .start arguments

end Onboarding.CommandLine
