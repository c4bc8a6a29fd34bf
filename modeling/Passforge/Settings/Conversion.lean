import Passforge.Number.Literal
import Passforge.Number.Written
import Passforge.Settings.Key
import Passforge.Text.Truth
import Passforge.Toml.Document

/-!
# Converting Values of a File to Settings

A file or a variable need not give a value of the kind a setting takes: numbers,
truth values and texts are converted into each other as far as they can be.
Lists, tables and dates are converted to nothing.

## Main definitions

* `ConversionError`: Why a value can not be converted.
* `convert`: A value as one of the kind asked for.
* `Problem`: What is wrong with a setting or a section, with its wording.
-/

namespace Passforge

/-- Why a value is not of the kind asked for. -/
inductive ConversionError where
  /-- A text that spells no integer. -/
  | numeral (cause : Number.LiteralError)
  /-- A text that spells no truth value. -/
  | truth
  /-- A value that is never converted, with the name of its type. -/
  | unconvertible (typeName : String)
  deriving DecidableEq

/-- The name of a kind in messages. -/
def Kind.name : Kind → String
  | .text => "string"
  | .number => "int"
  | .flag => "bool"

/-- The name of the type of values that are never converted. -/
def momentType : Toml.MomentKind → String
  | .offsetDateTime => "time.Time"
  | .localDateTime => "toml.LocalDateTime"
  | .localDate => "toml.LocalDate"
  | .localTime => "toml.LocalTime"

/-- The wording of an error about the setting at a path. -/
def ConversionError.message (e : ConversionError) (kind : Kind) (path : String) : String :=
  match e with
  | .numeral cause =>
    "'" ++ path ++ "' cannot parse value as '" ++ kind.name ++ "': strconv.ParseInt: " ++
      cause.message
  | .truth =>
    "'" ++ path ++ "' cannot parse value as '" ++ kind.name ++
      "': strconv.ParseBool: invalid syntax"
  | .unconvertible typeName =>
    "'" ++ path ++ "' expected type '" ++ kind.name ++ "', got unconvertible type '" ++ typeName ++
      "'"

/-- A value as one of the kind asked for. -/
def convert (kind : Kind) : Toml.Value → Except ConversionError Scalar
  | .text s =>
    match kind with
    | .text => .ok (.text s)
    | .number =>
      if s == "" then .ok (.number 0)
      else
        match Number.markedInt s with
        | .ok n => .ok (.number n)
        | .error cause => .error (.numeral cause)
    | .flag =>
      if s == "" then .ok (.flag false)
      else
        match Text.truth? s with
        | some b => .ok (.flag b)
        | none => .error .truth
  | .integer n =>
    match kind with
    | .text => .ok (.text (String.ofList (Number.signedDigits n)))
    | .number => .ok (.number n)
    | .flag => .ok (.flag (n != 0))
  | .real x =>
    match kind with
    | .text => .ok (.text (Number.plainStyle.write x))
    | .number => .ok (.number x.truncate)
    | .flag => .ok (.flag (!x.isZero))
  | .boolean b =>
    match kind with
    | .text => .ok (.text (if b then "1" else "0"))
    | .number => .ok (.number (if b then 1 else 0))
    | .flag => .ok (.flag b)
  | .moment m _ => .error (.unconvertible (momentType m))
  | .array _ => .error (.unconvertible "[]interface \x7b\x7d")
  | .elements => .error (.unconvertible "[]interface \x7b\x7d")
  | .inline _ => .error (.unconvertible "map[string]interface \x7b\x7d")
  | .table _ => .error (.unconvertible "map[string]interface \x7b\x7d")

/-- What is wrong with a setting or a section. -/
inductive Problem where
  | setting (l : Setting) (e : ConversionError)
  /-- A section with a value of the named sort in place of a table. -/
  | misplaced (s : Section) (sort : String)
  deriving DecidableEq

/-- The wording of a problem. -/
def Problem.message : Problem → String
  | .setting l e => e.message l.kind (".".intercalate l.path)
  | .misplaced s sort =>
    "'" ++ ".".intercalate s.path ++ "' expected a map or struct, got \"" ++ sort ++ "\""

end Passforge
