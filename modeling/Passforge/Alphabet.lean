import Passforge.Fault
import Passforge.Text.Canonical.Form
import Passforge.Text.Piece

/-!
# Alphabets

An alphabet is the sequence of symbols a random string is drawn from. Positions
matter, not only members: a symbol that stands twice is drawn twice as often.

A symbol is any 32-bit number. Alphabets made from text only hold Unicode scalar
values, but an alphabet can also be given by its numbers, and then a symbol that
is no scalar value is shown as U+FFFD.

## Main definitions

* `Symbol`: A 32-bit number, with `Symbol.toChar` for the character shown.
* `Alphabet`: A sequence of symbols.
* `Alphabet.ofBytes`, `Alphabet.ofText`: The alphabet of a text in composed
  normal form.
* `Alphabet.unique`: Keeps the first of equal symbols.
* `Alphabet.symbolAt`: The symbol at a position, a fault outside.
-/

namespace Passforge

/-- What stands at a position of an alphabet. -/
abbrev Symbol : Type := Int32

/-- The symbol for a character. -/
def Symbol.ofChar (c : Char) : Symbol :=
  Int32.ofNat c.toNat

/-- The character a symbol is shown as, U+FFFD for a number that is no scalar
    value. -/
def Symbol.toChar (s : Symbol) : Char :=
  if h : 0 ≤ s.toInt ∧ s.toInt.toNat.isValidChar then Char.ofNatAux s.toInt.toNat h.2
  else Text.replacement

/-- A sequence of symbols to draw from. -/
structure Alphabet where
  symbols : List Symbol
  deriving DecidableEq

namespace Alphabet

/-- The alphabet whose symbols are the given characters. -/
def ofChars (cs : List Char) : Alphabet :=
  ⟨cs.map Symbol.ofChar⟩

/-- The alphabet of a byte string: its text in composed normal form, one U+FFFD
    for each byte that is no text. Where the bytes break off in the middle of a
    sequence, the rest is taken as it is. -/
def ofBytes (bytes : ByteArray) : Alphabet :=
  match Text.breakOff (Text.pieces bytes) with
  | (whole, broken) =>
    ofChars (Text.Canonical.normalize (whole.map Text.Piece.toChar)
      ++ broken.map Text.Piece.toChar)

/-- The alphabet of a text in composed normal form. -/
def ofText (s : String) : Alphabet :=
  ofBytes s.toUTF8

/-- How many positions there are. -/
def size (a : Alphabet) : Nat :=
  a.symbols.length

/-- There is nothing to draw. -/
def isEmpty (a : Alphabet) : Bool :=
  a.symbols.isEmpty

/-- Some position holds `s`. -/
def contains (a : Alphabet) (s : Symbol) : Bool :=
  a.symbols.contains s

/-- The symbol at a position; outside the alphabet it is a fault. -/
def symbolAt (a : Alphabet) (index : Int) : Except Fault Symbol :=
  if index < 0 then .error (.outOfRange index a.size)
  else match a.symbols[index.toNat]? with
    | some s => .ok s
    | none => .error (.outOfRange index a.size)

/-- Keeps the first of equal symbols. -/
def firsts : List Symbol → List Symbol
  | [] => []
  | s :: rest => s :: (firsts rest).filter (· != s)

/-- The alphabet with every symbol once, at its first position. -/
def unique (a : Alphabet) : Alphabet :=
  ⟨firsts a.symbols⟩

/-- Some symbol stands at two positions. -/
def hasDuplicates (a : Alphabet) : Bool :=
  a.unique.size != a.size

/-- The alphabet as text. -/
def toText (a : Alphabet) : String :=
  String.ofList (a.symbols.map Symbol.toChar)

/-- The symbols of one alphabet, then those of another. -/
def append (a b : Alphabet) : Alphabet :=
  ⟨a.symbols ++ b.symbols⟩

instance : Append Alphabet := ⟨append⟩

end Alphabet

end Passforge
