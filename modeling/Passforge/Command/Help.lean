import Passforge.Command.Basic

/-!
# Help Texts

What each command says about itself: a description, how it is called, and its
flags in columns, with what a flag takes behind its name and the explanations
aligned.

## Main definitions

* `Command.helpText`: The whole text.
-/

namespace Passforge.Command

/-- What a flag takes, as help texts show it. -/
def FlagKind.placeholder : FlagKind → String
  | .text => " string"
  | .integer => " int"
  | .natural => " uint"
  | .truth => ""

/-- What a flag does. -/
def explanation (c : Command) : Flag → String
  | .alphabet => "comma separated alphabet presets, see 'pwgen alphabets'"
  | .charset => "custom characters, overrides --alphabet"
  | .config => "directory holding main.toml (default \"./etc/\")"
  | .count => "number of strings to generate (default 1)"
  | .hash => "append a tab and the argon2id hash of every string"
  | .help => "help for " ++ c.name
  | .json => "print JSON instead of TOML"
  | .logLevel => "override the configured log level"
  | .metrics => "write generator metrics to stderr when done"
  | .seed => "seed a reproducible source (not for secrets)"
  | .unique => "drop duplicate characters of the alphabet"

/-- The left column of a flag. -/
def leftColumn (f : Flag) : String :=
  (match f.short? with
    | some s => "  -" ++ s.toString ++ ", --"
    | none => "      --") ++ f.name ++ f.kind.placeholder

/-- A text filled up with blanks to a width. -/
def padded (width : Nat) (s : String) : String :=
  s ++ String.ofList (List.replicate (width - s.length) ' ')

/-- The lines for some flags, explanations three blanks behind the widest left
    column. -/
def flagLines (c : Command) (flags : List Flag) : String :=
  let width := (flags.map fun f => (leftColumn f).length).foldl max 0 + 3
  String.join (flags.map fun f => padded width (leftColumn f) ++ explanation c f ++ "\n")

/-- The first lines of a help text. -/
def description : Command → String
  | .generate =>
    "pwgen generates random strings of a given length, every character drawn\n" ++
      "uniformly from an alphabet built from presets or custom characters.\n\n" ++
      "The optional argument is the length. A missing, invalid or negative length\n" ++
      "falls back to the configured default (12).\n"
  | .alphabets => "List the alphabet presets\n"
  | .config => "Print the effective configuration\n"
  | .help =>
    "Help provides help for any command in the application.\n" ++
      "Simply type pwgen help [path to command] for full details.\n"

/-- How a command is called. -/
def usage : Command → String
  | .generate => "  pwgen [length] [flags]\n  pwgen [command]\n"
  | .help => "  pwgen help [command] [flags]\n"
  | c => "  " ++ c.fullName ++ " [flags]\n"

/-- The commands that can be named, each with a line about it. -/
def commandLines : String :=
  "  alphabets   List the alphabet presets\n" ++
    "  completion  Generate the autocompletion script for the specified shell\n" ++
    "  config      Print the effective configuration\n" ++
    "  help        Help about any command\n"

/-- What a command says about itself. -/
def helpText (c : Command) : String :=
  description c ++ "\nUsage:\n" ++ usage c ++
    (if c = .generate then "\nAvailable Commands:\n" ++ commandLines else "") ++
    "\nFlags:\n" ++ flagLines c c.ownFlags ++
    (if c = .generate then
      "\nUse \"pwgen [command] --help\" for more information about a command.\n"
    else "\nGlobal Flags:\n" ++ flagLines c sharedFlags)

end Passforge.Command
