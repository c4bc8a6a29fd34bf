/-!
# Text in Raw Bytes

A byte string that is meant as text need not be well-formed UTF-8. Reading it
yields *pieces*: a piece is a character that a well-formed sequence encodes, or
a single byte that starts none. Nothing is lost by the reading, since every byte
belongs to exactly one piece, and whatever shows such text decides for itself
how a stray byte appears.

## Main definitions

* `Piece`: A character, or a stray byte.
* `pieces`: The pieces of a byte string, in order.
* `breakOff`: Where a byte string breaks off in the middle of a sequence.
* `Piece.toChar`: A piece as a character, U+FFFD standing for a stray byte.
* `lenient`: A byte string as text, one U+FFFD for each stray byte.
* `leadingByte`: What a character looks like to a reader of single bytes.
-/

namespace Passforge.Text

/-- A unit of a byte string read as UTF-8. -/
inductive Piece where
  /-- A well-formed sequence for this character. -/
  | scalar (c : Char)
  /-- A byte at which no well-formed sequence starts. -/
  | stray (b : UInt8)
  deriving DecidableEq

/-- The character that stands for bytes which are no text. -/
def replacement : Char := '\uFFFD'

/-- A piece as a character. -/
def Piece.toChar : Piece → Char
  | .scalar c => c
  | .stray _ => replacement

/-- The pieces of `bytes` from position `i` on. -/
def piecesFrom (bytes : ByteArray) (i : Nat) : List Piece :=
  if h : i < bytes.size then
    match bytes.utf8DecodeChar? i with
    | some c => .scalar c :: piecesFrom bytes (i + c.utf8Size)
    | none => .stray bytes[i] :: piecesFrom bytes (i + 1)
  else []
termination_by bytes.size - i
decreasing_by
  · have := c.utf8Size_pos
    omega
  · omega

/-- The pieces of a byte string. -/
def pieces (bytes : ByteArray) : List Piece :=
  piecesFrom bytes 0

/-- How many bytes a piece has. -/
def Piece.width : Piece → Nat
  | .scalar c => c.utf8Size
  | .stray _ => 1

/-- How many bytes a sequence has that starts with `b`, going by `b` alone. -/
def announcedWidth (b : UInt8) : Nat :=
  if b < 0xC2 then 1 else if b < 0xE0 then 2 else if b < 0xF0 then 3 else if b < 0xF8 then 4 else 1

/-- The pieces have `n` bytes or more. -/
def haveBytes : (n : Nat) → List Piece → Bool
  | 0, _ => true
  | _ + 1, [] => false
  | n + 1, p :: rest => haveBytes (n + 1 - p.width) rest

/-- The first of the pieces announces more bytes than there are. -/
def breaksOff : List Piece → Bool
  | .stray b :: rest => !haveBytes (announcedWidth b - 1) rest
  | _ => false

/-- Cuts where the pieces break off: those before, and the announcing byte with
    all that follow it, whatever they are. -/
def breakOff : List Piece → List Piece × List Piece
  | [] => ([], [])
  | p :: rest =>
    if breaksOff (p :: rest) then ([], p :: rest)
    else match breakOff rest with
      | (whole, broken) => (p :: whole, broken)

/-- The characters of a byte string, one U+FFFD for each stray byte. -/
def lenientChars (bytes : ByteArray) : List Char :=
  (pieces bytes).map Piece.toChar

/-- A byte string as text, one U+FFFD for each stray byte. -/
def lenient (bytes : ByteArray) : String :=
  String.ofList (lenientChars bytes)

/-- The character numbered like the first byte that encodes a character, which
    for ASCII is the character itself. -/
def leadingByte (c : Char) : Char :=
  match String.utf8EncodeChar c with
  | b :: _ => Char.ofNat b.toNat
  | [] => c

end Passforge.Text
