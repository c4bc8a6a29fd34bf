import Passforge.Text.Hexadecimal
import Passforge.Toml.Text

/-!
# Writing Configuration Files

Texts stand in single quotes, where no character has a meaning of its own,
unless they hold such a quote or a control character; then they stand in double
quotes with escapes.

## Main definitions

* `quoted`: A text as a value.
* `booleanText`: A truth value as a value.
* `header`, `line`: The lines of a file.
-/

namespace Passforge.Toml

/-- The text can stand in single quotes. -/
def isPlain (cs : List Char) : Bool :=
  cs.all fun c => c != '\x27' && !isControl c

/-- A character inside double quotes. -/
def escape (c : Char) : List Char :=
  match c with
  | '\\' => ['\\', '\\']
  | '"' => ['\\', '"']
  | '\x08' => ['\\', 'b']
  | '\x0c' => ['\\', 'f']
  | '\n' => ['\\', 'n']
  | '\r' => ['\\', 'r']
  | '\t' => ['\\', 't']
  | c => if isControl c then '\\' :: 'u' :: Text.upperHex 4 c.toNat else [c]

/-- A text as a value. -/
def quoted (s : String) : List Char :=
  if isPlain s.toList then '\x27' :: s.toList ++ ['\x27']
  else '"' :: s.toList.flatMap escape ++ ['"']

/-- A truth value as a value. -/
def booleanText (b : Bool) : List Char :=
  (if b then "true" else "false").toList

/-- The header of a table, after an empty line. -/
def header (path : List String) : List Char :=
  '\n' :: '[' :: (".".intercalate path).toList ++ [']', '\n']

/-- A line that gives a key a value. -/
def line (key : String) (value : List Char) : List Char :=
  key.toList ++ ' ' :: '=' :: ' ' :: value ++ ['\n']

end Passforge.Toml
