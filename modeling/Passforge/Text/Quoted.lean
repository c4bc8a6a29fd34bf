import Passforge.Text.Hexadecimal
import Passforge.Text.Piece
import Passforge.Text.Printable

/-!
# Quoted Text

Text shown between double quotes so that every byte of it can be told: printable
characters stand for themselves, the quote and the backslash are escaped, the
usual controls have letters, and everything else is written by number. A stray
byte is written by its value, so that two different byte strings never look
alike.

## Main definitions

* `escapeChar`: A character as it appears between the quotes.
* `quoteBytes`, `quote`: The quoted form of a byte string and of a text.
* `quoteLetter`: The quoted form of a single character.
-/

namespace Passforge.Text

/-- A character as it appears between quotes of a kind. -/
def escapeWithin (mark c : Char) : List Char :=
  if c == mark || c == '\\' then ['\\', c]
  else if isPrintable c then [c]
  else match c.toNat with
    | 7 => ['\\', 'a']
    | 8 => ['\\', 'b']
    | 9 => ['\\', 't']
    | 10 => ['\\', 'n']
    | 11 => ['\\', 'v']
    | 12 => ['\\', 'f']
    | 13 => ['\\', 'r']
    | n =>
      if n < 0x20 || n == 0x7F then '\\' :: 'x' :: lowerHex 2 n
      else if n < 0x10000 then '\\' :: 'u' :: lowerHex 4 n
      else '\\' :: 'U' :: lowerHex 8 n

/-- A character as it appears between double quotes. -/
def escapeChar (c : Char) : List Char :=
  escapeWithin '"' c

/-- A piece as it appears between double quotes. -/
def escapePiece : Piece → List Char
  | .scalar c => escapeChar c
  | .stray b => '\\' :: 'x' :: lowerHex 2 b.toNat

/-- A byte string in double quotes. -/
def quoteBytes (bytes : ByteArray) : String :=
  String.ofList ('"' :: (pieces bytes).flatMap escapePiece ++ ['"'])

/-- A text in double quotes. -/
def quote (s : String) : String :=
  String.ofList ('"' :: s.toList.flatMap escapeChar ++ ['"'])

/-- A single character in single quotes. -/
def quoteLetter (c : Char) : String :=
  String.ofList ('\x27' :: escapeWithin '\x27' c ++ ['\x27'])

end Passforge.Text
