import Passforge.Text.Hexadecimal

/-!
# Writing Object Notation

Objects over several lines, indented by two blanks a level. Strings escape what
the notation demands and also the characters that mean something to a page the
text may be put into: angle brackets, the ampersand and the two line separators.

## Main definitions

* `quoted`: A text as a value.
* `object`: An object over several lines.
-/

namespace Passforge.Json

/-- A character inside a string. -/
def escape (c : Char) : List Char :=
  match c with
  | '"' => ['\\', '"']
  | '\\' => ['\\', '\\']
  | '\x08' => ['\\', 'b']
  | '\x0c' => ['\\', 'f']
  | '\n' => ['\\', 'n']
  | '\r' => ['\\', 'r']
  | '\t' => ['\\', 't']
  | c =>
    if c.toNat < 0x20 || c == '<' || c == '>' || c == '&' || c.toNat == 0x2028 ||
        c.toNat == 0x2029 then
      '\\' :: 'u' :: Text.lowerHex 4 c.toNat
    else [c]

/-- A text as a value. -/
def quoted (s : String) : List Char :=
  '"' :: s.toList.flatMap escape ++ ['"']

/-- The blanks before a line at a level. -/
def indent (level : Nat) : List Char :=
  List.replicate (2 * level) ' '

/-- The members of an object at a level, each on a line of its own. -/
def memberLines (level : Nat) : List (String × List Char) → List Char
  | [] => []
  | (name, value) :: rest =>
    indent level ++ quoted name ++ ':' :: ' ' :: value ++
      (if rest.isEmpty then [] else [',']) ++ '\n' :: memberLines level rest

/-- An object that is not empty, whose braces stand at a level. -/
def object (level : Nat) (members : List (String × List Char)) : List Char :=
  '\x7b' :: '\n' :: memberLines (level + 1) members ++ indent level ++ ['\x7d']

end Passforge.Json
