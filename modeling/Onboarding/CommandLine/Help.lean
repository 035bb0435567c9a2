/-
This file holds the words with which the program explains itself.
-/

namespace Onboarding.CommandLine

/-- Lines, each with its end. -/
def page (lines : List String) : String :=
  String.join (lines.map fun line => line ++ "\n")

/-- The name of the program and its version. -/
def versionText : String := page ["swallowtail 0.1.0"]

/-- How the program is used. -/
def programHelp : String := page [
  "Landing page and sign-up for the Swallowtail trading bot",
  "",
  "Usage: swallowtail [OPTIONS] [COMMAND]",
  "",
  "Commands:",
  "  register  Register a new account without the interactive wizard",
  "  token     Print the stored access token",
  "  logout    Forget the stored access token",
  "  config    Print the effective configuration as TOML",
  "  help      Print this message or the help of the given subcommand(s)",
  "",
  "Options:",
  "  -c, --config <CONFIG>  Config file path",
  "  -d, --debug            Enable debug logging",
  "  -h, --help             Print help",
  "  -V, --version          Print version"]

/-- How the registration is used. -/
def registerHelp : String := page [
  "Register a new account without the interactive wizard",
  "",
  "Usage: swallowtail register --first-name <FIRST_NAME> --last-name <LAST_NAME>" ++
    " --email <EMAIL> --password <PASSWORD>",
  "",
  "Options:",
  "      --first-name <FIRST_NAME>  ",
  "      --last-name <LAST_NAME>    ",
  "      --email <EMAIL>            ",
  "      --password <PASSWORD>      Account password (at least 8 Latin characters)",
  "  -h, --help                     Print help"]

/-- How a command without options of its own is used. -/
def plainHelp (name about : String) : String := page [
  about,
  "",
  "Usage: swallowtail " ++ name,
  "",
  "Options:",
  "  -h, --help  Print help"]

/-- How the command that explains the others is used. -/
def helpHelp : String := page [
  "Print this message or the help of the given subcommand(s)",
  "",
  "Usage: swallowtail help [COMMAND]...",
  "",
  "Arguments:",
  "  [COMMAND]...  Print help for the subcommand(s)"]

/-- How a command is used, if there is such a command. -/
def commandHelp? (name : String) : Option String :=
  match name with
  | "register" => some registerHelp
  | "token" => some (plainHelp name "Print the stored access token")
  | "logout" => some (plainHelp name "Forget the stored access token")
  | "config" => some (plainHelp name "Print the effective configuration as TOML")
  | "help" => some helpHelp
  | _ => none

end Onboarding.CommandLine
