import Passforge.Settings.Conversion
import Passforge.Toml.Lookup

/-!
# Layers of Settings

A setting takes its value from the first of three layers that has one: its
environment variable if that is not empty, the configuration file, and the
standard settings. A variable named like a whole section, if not empty, hides
what the file and the standard settings say about everything in the section, so
that only the variables of single settings count there.

A file may give a section a value that is no table. Then the section can not be
decoded, whatever the variables of its settings say, except that a date leaves
all its settings without a value.

## Main definitions

* `Environment`: The environment variables.
* `Setting.raw`: The value of a setting before it is converted.
* `Standing`: Whether a section is decoded setting by setting.
* `decode`: All settings, or all problems.
-/

namespace Passforge

/-- The value of each environment variable, empty for those that are not set. -/
abbrev Environment : Type := String → String

/-- The environment with the given variables. -/
def Environment.ofList (entries : List (String × String)) : Environment :=
  fun name => (entries.lookup name).getD ""

/-- A variable is set to something. -/
def Environment.has (env : Environment) (name : String) : Bool :=
  env name != ""

/-- A variable named after a section around this one hides it. -/
def Section.hiddenAround (env : Environment) (s : Section) : Bool :=
  s.around.any fun outer => env.has outer.variable

/-- A variable named after this section or one around it hides it. -/
def Section.hidden (env : Environment) (s : Section) : Bool :=
  (s != .root && env.has s.variable) || s.hiddenAround env

/-- A value of a setting as a file would give it. -/
def Scalar.toValue : Scalar → Toml.Value
  | .text s => .text s
  | .number n => .integer n
  | .flag b => .boolean b

/-- The path of a setting as it is looked up. -/
def Setting.lookupPath (l : Setting) : List String :=
  l.path.map Text.lower

/-- The value of a setting before it is converted: that of its variable, of the
    file, or the standard one. Nothing if a variable hides its section. -/
def Setting.raw (env : Environment) (file : Toml.Document) (l : Setting) : Option Toml.Value :=
  if env.has l.variable then some (.text (env l.variable))
  else if l.home.hidden env then none
  else
    match file.search l.lookupPath with
    | some v => some v
    | none => some (Settings.standard.get l).toValue

/-- The value of a setting. -/
def Setting.decode (env : Environment) (file : Toml.Document) (l : Setting) :
    Except Problem (Setting × Scalar) :=
  match l.raw env file with
  | none => .ok (l, l.kind.zero)
  | some v =>
    match convert l.kind v with
    | .ok x => .ok (l, x)
    | .error e => .error (.setting l e)

/-- Whether a section is decoded. -/
inductive Standing where
  /-- Setting by setting. -/
  | fine
  /-- All its settings are without a value. -/
  | blank
  /-- It has a value of the named sort in place of a table. -/
  | refused (sort : String)
  deriving DecidableEq

/-- The standing of a section given such a value. -/
def Standing.ofValue : Toml.Value → Standing
  | .text _ => .refused "string"
  | .integer _ => .refused "int64"
  | .real _ => .refused "float64"
  | .boolean _ => .refused "bool"
  | .moment _ _ => .blank
  | .array _ => .refused "slice"
  | .elements => .refused "slice"
  | .inline _ => .fine
  | .table _ => .fine

/-- The standing of a section by what the file and the environment say about
    it. -/
def Section.standing (env : Environment) (file : Toml.Document) (s : Section) : Standing :=
  if s = .root then .fine
  else
    match file.search s.path with
    | none => .fine
    | some v =>
      if v.isTable then .fine
      else if env.has s.variable then Standing.ofValue (.text (env s.variable))
      else if s.hiddenAround env then .blank
      else Standing.ofValue v

/-- What decoding a section gives. Nothing is decoded inside a section that is
    not decoded. -/
def Section.decode (env : Environment) (file : Toml.Document) (s : Section) :
    List (Except Problem (Setting × Scalar)) :=
  if s.around.any fun outer => outer.standing env file != .fine then []
  else
    match s.standing env file with
    | .fine => s.settings.map (Setting.decode env file)
    | .blank => []
    | .refused sort => [.error (.misplaced s sort)]

/-- The errors among outcomes. -/
def problemsOf {α : Type} (outcomes : List (Except Problem α)) : List Problem :=
  outcomes.filterMap fun
    | .error p => some p
    | .ok _ => none

/-- The successes among outcomes. -/
def valuesOf {α : Type} (outcomes : List (Except Problem α)) : List α :=
  outcomes.filterMap fun
    | .error _ => none
    | .ok v => some v

/-- All settings, or all problems in the order of the settings. -/
def decode (env : Environment) (file : Toml.Document) : Except (List Problem) Settings :=
  let outcomes := Section.all.flatMap (Section.decode env file)
  match problemsOf outcomes with
  | [] => .ok (Settings.ofValues (valuesOf outcomes))
  | problems => .error problems

end Passforge
