import Passforge.Json.Printer
import Passforge.Number.Written
import Passforge.Settings.Key
import Passforge.Toml.Printer

/-!
# Dumping Settings

All settings as a configuration file, which reads back as the same settings, and
as an override, which replaces every one of them.

## Main definitions

* `Settings.toToml`: As a configuration file.
* `Settings.toJson`: As an override.
-/

namespace Passforge

/-- A value in a configuration file. -/
def Scalar.toToml : Scalar → List Char
  | .text s => Toml.quoted s
  | .number n => Number.signedDigits n
  | .flag b => Toml.booleanText b

/-- A value in an override. -/
def Scalar.toJson : Scalar → List Char
  | .text s => Json.quoted s
  | .number n => Number.signedDigits n
  | .flag b => (if b then "true" else "false").toList

namespace Settings

/-- The lines of a section, its header included. -/
def tomlSection (s : Settings) (home : Section) : List Char :=
  (if home = .root then [] else Toml.header home.path) ++
    home.settings.flatMap fun l => Toml.line l.key (s.get l).toToml

/-- All settings as a configuration file. -/
def toToml (s : Settings) : String :=
  String.ofList (Section.all.flatMap s.tomlSection)

/-- The object of a section and of the sections inside it, down to a depth. -/
def jsonSection (s : Settings) : (depth level : Nat) → Section → List Char
  | 0, _, _ => []
  | depth + 1, level, home =>
    Json.object level
      (home.settings.map (fun l => (l.field, (s.get l).toJson)) ++
        home.children.map fun c => (c.field, s.jsonSection depth (level + 1) c))

/-- All settings as an override. -/
def toJson (s : Settings) : String :=
  String.ofList (s.jsonSection sectionDepth 0 .root ++ ['\n'])

end Settings

end Passforge
