import Passforge.Command.Flag
import Passforge.Number.Written

/-!
# Commands

What the program can be told to do: generate strings, which needs no name, list
the presets, print the configuration, or explain itself. Each command knows its
own flags and the two that all commands share.

## Main definitions

* `Command`: The commands.
* `Command.flags`: The flags a command knows.
* `Command.checkArguments`: What is wrong with the number of its arguments.
-/

namespace Passforge

/-- What the program can be told to do. -/
inductive Command where
  | generate | alphabets | config | help
  deriving DecidableEq

namespace Command

/-- The name of the program. -/
def program : String := "pwgen"

/-- The name of a command. -/
def name : Command → String
  | .generate => program
  | .alphabets => "alphabets"
  | .config => "config"
  | .help => "help"

/-- A command with the program it belongs to. -/
def fullName (c : Command) : String :=
  if c = .generate then program else program ++ " " ++ c.name

/-- The commands that have to be named. The one that prints completion scripts
    is left out: it is listed in the help, and its name counts as an argument
    here. -/
def named : List Command := [.alphabets, .config, .help]

/-- The command of a name. -/
def ofName? (name : String) : Option Command :=
  named.find? fun c => c.name == name

/-- The flags that all commands share, in the order of their names. -/
def sharedFlags : List Flag := [.config, .logLevel]

/-- The flags of a command, in the order of their names, without the shared ones
    for a command that has to be named. -/
def ownFlags : Command → List Flag
  | .generate =>
    [.alphabet, .charset, .config, .count, .hash, .help, .logLevel, .metrics, .seed, .unique]
  | .alphabets => [.help]
  | .config => [.help, .json]
  | .help => [.help]

/-- All flags a command knows. -/
def flags (c : Command) : List Flag :=
  if c = .generate then c.ownFlags else c.ownFlags ++ sharedFlags

/-- What is wrong with the number of arguments. -/
inductive ArgumentError where
  | tooMany (count : Nat)
  | unknownCommand (argument : String) (command : String)
  deriving DecidableEq

/-- The wording of the error. -/
def ArgumentError.message : ArgumentError → String
  | .tooMany count =>
    "accepts at most 1 arg(s), received " ++ String.ofList (Number.digitsOf count)
  | .unknownCommand argument command =>
    "unknown command " ++ Text.quote argument ++ " for " ++ Text.quote command

/-- What is wrong with the number of arguments of a command: generating takes
    one at most, listing and printing take none. -/
def checkArguments (c : Command) (arguments : List String) : Option ArgumentError :=
  match c, arguments with
  | .generate, _ :: _ :: _ => some (.tooMany arguments.length)
  | .alphabets, a :: _ => some (.unknownCommand a c.fullName)
  | .config, a :: _ => some (.unknownCommand a c.fullName)
  | _, _ => none

end Command

end Passforge
