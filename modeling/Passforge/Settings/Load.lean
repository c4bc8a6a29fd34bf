import Passforge.Settings.Layers
import Passforge.Settings.Override
import Passforge.Settings.Validation
import Passforge.Storage.Disk
import Passforge.Toml.Parser

/-!
# Loading Settings

The settings a directory and an environment give: the configuration file in the
directory, if there is one, layered with the environment and the standard
settings, then overridden as a whole if the environment says so, then validated.
When any step before the validation fails, nothing is configured at all;
settings that are merely not valid are given with the reason.

## Main definitions

* `LoadError`: Why settings can not be used.
* `readDocument`: The configuration file.
* `Settings.load`: The settings.
-/

namespace Passforge

/-- Why settings can not be used. -/
inductive LoadError where
  /-- The file can not be read. -/
  | unreadable (trouble : Storage.PathTrouble)
  /-- The file is no configuration file. -/
  | malformed
  /-- Values of the file or the environment do not fit. -/
  | undecodable (problems : List Problem)
  /-- The override is not one. -/
  | badOverride
  /-- The settings are not valid. -/
  | invalid (reason : Invalid)

/-- The wording of an error. -/
def LoadError.message : LoadError → String
  | .unreadable trouble => "failed to read main config file: " ++ trouble.message
  | .malformed => "failed to read main config file: malformed"
  | .undecodable problems =>
    "failed to decode main config file: decoding failed due to the following error(s):\n\n" ++
      "\n".intercalate (problems.map Problem.message)
  | .badOverride => "failed to read json config from env: malformed"
  | .invalid reason => reason.message

/-- The directory that is searched when none is given. -/
def standardDirectory : String := "./etc/"

/-- The name of the configuration file. -/
def fileName : String := "main.toml"

/-- The environment variable that holds the override. -/
def overrideVariable : String := "PWGEN_CONFIG_JSON"

/-- The path of the configuration file in a directory. -/
def configPath (directory : String) : String :=
  Storage.joinPath (if directory == "" then standardDirectory else directory) fileName

/-- The document of the configuration file, with names in lower case. A file
    that is missing says nothing. -/
def readDocument (disk : Storage.Disk) (directory : String) : Except LoadError Toml.Document :=
  match disk.readFile (configPath directory) with
  | .error trouble =>
    if trouble.trouble = .missing then .ok Toml.Document.empty else .error (.unreadable trouble)
  | .ok content =>
    match (String.fromUTF8? content).bind Toml.Document.parse with
    | some d => .ok d.lowered
    | none => .error .malformed

/-- The settings before validation. -/
def Settings.gather (disk : Storage.Disk) (env : Environment) (directory : String) :
    Except LoadError Settings := do
  let document ← readDocument disk directory
  match decode env document with
  | .error problems => .error (.undecodable problems)
  | .ok s =>
    if env.has overrideVariable then
      match s.override (env overrideVariable) with
      | some s => .ok s
      | none => .error .badOverride
    else .ok s

/-- The settings, and why they can not be used if so. -/
def Settings.load (disk : Storage.Disk) (env : Environment) (directory : String) :
    Settings × Option LoadError :=
  match Settings.gather disk env directory with
  | .error e => (Settings.zero, some e)
  | .ok s => (s, s.validate.map LoadError.invalid)

end Passforge
