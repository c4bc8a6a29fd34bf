import Passforge.Settings.Basic
import Passforge.Text.Blank

/-!
# Validation of Settings

Settings must allow a string to be generated: no length is negative, the source
is one of two, there is an alphabet, and the usual length is within the limit if
there is one. The rules about single settings are checked first and reported
together; the relations between settings only if those hold.

## Main definitions

* `Violation`: A rule about a single setting that is broken.
* `Invalid`: Why settings are not valid.
* `Settings.validate`: The check.
-/

namespace Passforge

/-- A rule about a single setting that is broken. -/
inductive Violation where
  | negativeDefaultLength
  | negativeMaxLength
  | unknownSource
  deriving DecidableEq

/-- The wording of a broken rule. -/
def Violation.message : Violation → String
  | .negativeDefaultLength =>
    "Key: 'Config.Generator.DefaultLength' " ++
      "Error:Field validation for 'DefaultLength' failed on the 'gte' tag"
  | .negativeMaxLength =>
    "Key: 'Config.Generator.MaxLength' " ++
      "Error:Field validation for 'MaxLength' failed on the 'gte' tag"
  | .unknownSource =>
    "Key: 'Config.Generator.Source' " ++
      "Error:Field validation for 'Source' failed on the 'oneof' tag"

/-- Why settings are not valid. -/
inductive Invalid where
  | violations (list : List Violation)
  | emptyAlphabet
  | defaultLengthTooLarge
  deriving DecidableEq

/-- The wording of the reason. -/
def Invalid.message (e : Invalid) : String :=
  "invalid config: " ++
    match e with
    | .violations list => "\n".intercalate (list.map Violation.message)
    | .emptyAlphabet =>
      "toml config generator.alphabet and generator.charset can not both be empty"
    | .defaultLengthTooLarge =>
      "toml config generator.defaultLength can not exceed generator.maxLength"

/-- The sources a configuration can name. -/
def sourceNames : List String := ["crypto", "math"]

/-- The broken rules about single settings. -/
def GeneratorSettings.violations (g : GeneratorSettings) : List Violation :=
  (if g.defaultLength < 0 then [.negativeDefaultLength] else []) ++
    (if g.maxLength < 0 then [.negativeMaxLength] else []) ++
    (if sourceNames.contains g.source then [] else [.unknownSource])

/-- Why settings are not valid, if they are not. -/
def Settings.validate (s : Settings) : Option Invalid :=
  let g := s.generator
  match g.violations with
  | [] =>
    if Text.trim g.alphabet == "" && g.charset == "" then some .emptyAlphabet
    else if 0 < g.maxLength ∧ g.maxLength < g.defaultLength then some .defaultLengthTooLarge
    else none
  | list => some (.violations list)

end Passforge
