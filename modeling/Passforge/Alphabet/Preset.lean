import Passforge.Alphabet
import Passforge.Text.Blank
import Passforge.Text.Case
import Passforge.Text.Quoted

/-!
# Alphabet Presets

The alphabets that have a name, and lists of such names. A name is looked up
without the blanks around it and without regard to case. A list separates names
by commas, skips blank entries, and stands for the symbols of all its presets,
each once.

The first unknown name of a list decides the error, which shows that name as it
was given but for the blanks around it.

## Main definitions

* `Preset`: The named alphabets, with `Preset.name` and `Preset.alphabet`.
* `Preset.ofBytes`: The preset a name stands for.
* `SpecError`: Why a name or a list of names stands for no alphabet.
* `Alphabet.parse`: The alphabet a list of names stands for.
-/

namespace Passforge

/-- The named alphabets. -/
inductive Preset where
  | alnum | digits | hex | human | lower | password | symbols | upper
  deriving DecidableEq

namespace Preset

/-- All presets in the order of their names. -/
def all : List Preset :=
  [.alnum, .digits, .hex, .human, .lower, .password, .symbols, .upper]

/-- The name a preset is asked for by. -/
def name : Preset → String
  | .alnum => "alnum"
  | .digits => "digits"
  | .hex => "hex"
  | .human => "human"
  | .lower => "lower"
  | .password => "password"
  | .symbols => "symbols"
  | .upper => "upper"

/-- The capital letters. -/
def upperText : String := "ABCDEFGHIJKLMNOPQRSTUVWXYZ"
/-- The small letters. -/
def lowerText : String := "abcdefghijklmnopqrstuvwxyz"
/-- The decimal digits. -/
def digitText : String := "0123456789"
/-- Punctuation signs that are safe to type. -/
def symbolText : String := "~!@#$%^&*()-_=+[]\x7b\x7d;:,.<>?"

/-- The characters of a preset. -/
def text : Preset → String
  | .alnum => upperText ++ lowerText ++ digitText
  | .digits => digitText
  | .hex => "0123456789abcdef"
  | .human => "abcdefghijkmnpqrstuvwxyzABCDEFGHJKLMNPQRSTUVWXYZ23456789"
  | .lower => lowerText
  | .password => upperText ++ lowerText ++ digitText ++ symbolText
  | .symbols => symbolText
  | .upper => upperText

/-- The alphabet a preset stands for. -/
def alphabet (p : Preset) : Alphabet :=
  Alphabet.ofChars p.text.toList

/-- The preset with exactly this name. -/
def ofKey? (key : String) : Option Preset :=
  all.find? fun p => p.name == key

end Preset

/-- Why a name or a list of names stands for no alphabet. -/
inductive SpecError where
  /-- No preset has this name. -/
  | unknownPreset (name : ByteArray)
  /-- The list names nothing. -/
  | emptySpec

/-- The text of the error. -/
def SpecError.message : SpecError → String
  | .unknownPreset name => "preset " ++ Text.quoteBytes name ++ ": unknown alphabet preset"
  | .emptySpec => "alphabet preset list can not be empty"

namespace Preset

/-- The preset a name stands for, blanks around it and case apart. -/
def ofBytes (name : ByteArray) : Except SpecError Preset :=
  let key := (Text.trimChars (Text.lenientChars name)).map Text.lowerChar
  match ofKey? (String.ofList key) with
  | some p => .ok p
  | none => .error (.unknownPreset name)

/-- The preset a name given as text stands for. -/
def ofName (name : String) : Except SpecError Preset :=
  ofBytes name.toUTF8

end Preset

namespace Alphabet

/-- The names in a comma-separated list: trimmed, blank ones left out. -/
def presetNames (spec : String) : List String :=
  (((spec.toList.splitOn ',').map Text.trimChars).filter (!·.isEmpty)).map String.ofList

/-- The alphabet a comma-separated list of preset names stands for. -/
def parse (spec : String) : Except SpecError Alphabet :=
  match presetNames spec with
  | [] => .error .emptySpec
  | names => do
    let presets : List Preset ← names.mapM Preset.ofName
    return (Alphabet.mk (presets.flatMap fun p => p.alphabet.symbols)).unique

end Alphabet

end Passforge
