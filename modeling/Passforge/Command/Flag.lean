import Passforge.Number.Literal
import Passforge.Text.Quoted
import Passforge.Text.Truth

/-!
# Flags

The flags of all commands, the values they take and how a value is read. A truth
flag may stand without a value and then means true; every other flag needs one.

## Main definitions

* `Flag`: The flags, with their names, shorthands and kinds.
* `FlagValue`: A value given to a flag.
* `Flag.read`: Reads a value.
* `FlagError`: What can be wrong with a flag on the command line, with its
  wording.
-/

namespace Passforge.Command

/-- What kind of value a flag takes. -/
inductive FlagKind where
  | text | integer | natural | truth
  deriving DecidableEq

/-- A flag. -/
inductive Flag where
  | alphabet | charset | config | count | hash | help | json | logLevel | metrics | seed | unique
  deriving DecidableEq

/-- A value given to a flag. -/
inductive FlagValue where
  | text (s : String)
  | integer (n : Int)
  | natural (n : Nat)
  | truth (b : Bool)
  deriving DecidableEq

namespace Flag

/-- The name of a flag, behind two dashes. -/
def name : Flag → String
  | .alphabet => "alphabet"
  | .charset => "charset"
  | .config => "config"
  | .count => "count"
  | .hash => "hash"
  | .help => "help"
  | .json => "json"
  | .logLevel => "log-level"
  | .metrics => "metrics"
  | .seed => "seed"
  | .unique => "unique"

/-- The shorthand of a flag, behind one dash. -/
def short? : Flag → Option Char
  | .alphabet => some 'a'
  | .charset => some 'c'
  | .count => some 'n'
  | .help => some 'h'
  | _ => none

/-- What kind of value a flag takes. -/
def kind : Flag → FlagKind
  | .alphabet => .text
  | .charset => .text
  | .config => .text
  | .logLevel => .text
  | .count => .integer
  | .seed => .natural
  | _ => .truth

/-- The flag as messages show it. -/
def shown (f : Flag) : String :=
  match f.short? with
  | some c => "-" ++ c.toString ++ ", --" ++ f.name
  | none => "--" ++ f.name

end Flag

/-- Why a text is no value of a kind. -/
inductive ValueError where
  | integer (cause : Number.LiteralError)
  | natural (cause : Number.LiteralError)
  | truth
  deriving DecidableEq

/-- The wording of the reason. -/
def ValueError.message (text : String) : ValueError → String
  | .integer cause => "strconv.ParseInt: parsing " ++ Text.quote text ++ ": " ++ cause.message
  | .natural cause => "strconv.ParseUint: parsing " ++ Text.quote text ++ ": " ++ cause.message
  | .truth => "strconv.ParseBool: parsing " ++ Text.quote text ++ ": invalid syntax"

/-- Reads a value of a kind. -/
def FlagKind.read (kind : FlagKind) (text : String) : Except ValueError FlagValue :=
  match kind with
  | .text => .ok (.text text)
  | .integer =>
    match Number.markedInt text with
    | .ok n => .ok (.integer n)
    | .error cause => .error (.integer cause)
  | .natural =>
    match Number.markedNat text with
    | .ok n => .ok (.natural n)
    | .error cause => .error (.natural cause)
  | .truth =>
    match Text.truth? text with
    | some b => .ok (.truth b)
    | none => .error .truth

/-- What is wrong with a flag on the command line. -/
inductive FlagError where
  /-- A word that starts like a flag and has no name. -/
  | nameless (word : String)
  | unknown (name : String)
  /-- The first of these shorthands is no flag. -/
  | unknownShort (letter : Char) (letters : String)
  | missing (word : String)
  /-- The first of these shorthands lacks its value. -/
  | missingShort (letter : Char) (letters : String)
  | invalid (flag : Flag) (text : String) (cause : ValueError)
  deriving DecidableEq

/-- The wording of the error. -/
def FlagError.message : FlagError → String
  | .nameless word => "bad flag syntax: " ++ word
  | .unknown name => "unknown flag: --" ++ name
  | .unknownShort letter letters =>
    "unknown shorthand flag: " ++ Text.quoteLetter letter ++ " in -" ++ letters
  | .missing word => "flag needs an argument: " ++ word
  | .missingShort letter letters =>
    "flag needs an argument: " ++ Text.quoteLetter letter ++ " in -" ++ letters
  | .invalid flag text cause =>
    "invalid argument " ++ Text.quote text ++ " for " ++ Text.quote flag.shown ++ " flag: " ++
      cause.message text

/-- Reads a value of a flag. -/
def Flag.read (f : Flag) (text : String) : Except FlagError (Flag × FlagValue) :=
  match f.kind.read text with
  | .ok v => .ok (f, v)
  | .error cause => .error (.invalid f text cause)

end Passforge.Command
