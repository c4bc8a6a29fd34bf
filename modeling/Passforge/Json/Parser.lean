import Passforge.Json.Value
import Passforge.Text.Hexadecimal
import Passforge.Text.Piece

/-!
# Reading Object Notation

A strict reader: the whole text is one value with blanks around it. Every
function takes the characters that are left and gives what it read with the
characters after it, or nothing.

An escape for half of a surrogate pair stands for the replacement character
unless its other half follows.

## Main definitions

* `textBody`: A string behind its opening quote.
* `numberLiteral`: A number.
* `Value.parse`: The value of a whole text.
-/

namespace Passforge.Json

/-- A space, tab or line end. -/
def isBlank (c : Char) : Bool :=
  c == ' ' || c == '\t' || c == '\n' || c == '\r'

/-- Leaves out blanks. -/
def skipBlanks (cs : List Char) : List Char :=
  cs.dropWhile isBlank

/-- The character a short escape stands for. -/
def escaped? : Char → Option Char
  | '"' => some '"'
  | '\\' => some '\\'
  | '/' => some '/'
  | 'b' => some '\x08'
  | 'f' => some '\x0c'
  | 'n' => some '\n'
  | 'r' => some '\r'
  | 't' => some '\t'
  | _ => none

/-- The first half of a surrogate pair. -/
def isHighHalf (n : Nat) : Bool :=
  0xD800 ≤ n && n < 0xDC00

/-- The second half of a surrogate pair. -/
def isLowHalf (n : Nat) : Bool :=
  0xDC00 ≤ n && n < 0xE000

/-- The character of a surrogate pair. -/
def joinHalves (high low : Nat) : Char :=
  Char.ofNat (0x10000 + (high - 0xD800) * 0x400 + (low - 0xDC00))

/-- The number of an escape by code, if one comes next. -/
def codeEscape? : List Char → Option Nat
  | '\\' :: 'u' :: a :: b :: c :: d :: _ => Text.hexNumber? [a, b, c, d]
  | _ => none

/-- Puts a character before what was read. -/
def consRead (c : Char) (read : Option (List Char × List Char)) : Option (List Char × List Char) :=
  read.map fun (s, rest) => (c :: s, rest)

/-- A string behind its opening quote, up to its closing one. After the first
    half of a surrogate pair, `high` holds it until the second half has been
    read. -/
def textBody (high : Option Nat) : List Char → Option (List Char × List Char)
  | [] => none
  | '"' :: rest => some ([], rest)
  | '\\' :: 'u' :: a :: b :: c :: d :: rest => do
    let n ← Text.hexNumber? [a, b, c, d]
    match high with
    | some h => consRead (joinHalves h n) (textBody none rest)
    | none =>
      if isHighHalf n && (codeEscape? rest).any isLowHalf then textBody (some n) rest
      else if isHighHalf n || isLowHalf n then consRead Text.replacement (textBody none rest)
      else consRead (Char.ofNat n) (textBody none rest)
  | '\\' :: c :: rest => do consRead (← escaped? c) (textBody none rest)
  | c :: rest => if c.toNat < 0x20 then none else consRead c (textBody none rest)

/-- A decimal digit. -/
def isDigit (c : Char) : Bool :=
  '0' ≤ c && c ≤ '9'

/-- Some digits, at least one. -/
def digits (cs : List Char) : Option (List Char × List Char) :=
  match cs.takeWhile isDigit with
  | [] => none
  | ds => some (ds, cs.dropWhile isDigit)

/-- The part of a number before its point: a single zero, or digits that start
    with another one. -/
def whole : List Char → Option (List Char × List Char)
  | '0' :: rest => some (['0'], rest)
  | cs => digits cs

/-- The fraction of a number, if there is one. -/
def fraction : List Char → Option (List Char × List Char)
  | '.' :: rest => do
    let (ds, rest) ← digits rest
    some ('.' :: ds, rest)
  | cs => some ([], cs)

/-- The exponent of a number, if there is one. -/
def exponent : List Char → Option (List Char × List Char)
  | [] => some ([], [])
  | c :: rest =>
    if c == 'e' || c == 'E' then
      match rest with
      | '+' :: rest => do
        let (ds, rest) ← digits rest
        some (c :: '+' :: ds, rest)
      | '-' :: rest => do
        let (ds, rest) ← digits rest
        some (c :: '-' :: ds, rest)
      | rest => do
        let (ds, rest) ← digits rest
        some (c :: ds, rest)
    else some ([], c :: rest)

/-- A number without its sign. -/
def unsignedLiteral (cs : List Char) : Option (List Char × List Char) := do
  let (w, cs) ← whole cs
  let (f, cs) ← fraction cs
  let (e, cs) ← exponent cs
  some (w ++ f ++ e, cs)

/-- A number as it is written. -/
def numberLiteral : List Char → Option (List Char × List Char)
  | '-' :: rest => consRead '-' (unsignedLiteral rest)
  | cs => unsignedLiteral cs

/-- How deep arrays and objects may be nested. -/
def nestingLimit : Nat := 10000

mutual

/-- A value inside `nesting` further arrays and objects at most. Each call takes
    one of `steps`. -/
def valueWithin : (steps nesting : Nat) → List Char → Option (Value × List Char)
  | 0, _, _ => none
  | steps + 1, nesting, cs =>
    match cs with
    | 'n' :: 'u' :: 'l' :: 'l' :: rest => some (.null, rest)
    | 't' :: 'r' :: 'u' :: 'e' :: rest => some (.boolean true, rest)
    | 'f' :: 'a' :: 'l' :: 's' :: 'e' :: rest => some (.boolean false, rest)
    | '"' :: rest => (textBody none rest).map fun (s, rest) => (.text (String.ofList s), rest)
    | '[' :: rest =>
      if nesting == 0 then none
      else
        match skipBlanks rest with
        | ']' :: rest => some (.array [], rest)
        | rest => do
          let (elements, rest) ← elementsWithin steps (nesting - 1) rest
          some (.array elements, rest)
    | '\x7b' :: rest =>
      if nesting == 0 then none
      else
        match skipBlanks rest with
        | '\x7d' :: rest => some (.object [], rest)
        | rest => do
          let (members, rest) ← membersWithin steps (nesting - 1) rest
          some (.object members, rest)
    | cs => (numberLiteral cs).map fun (n, rest) => (.number n, rest)

/-- The elements of an array that is not empty, up to its bracket. -/
def elementsWithin : (steps nesting : Nat) → List Char → Option (List Value × List Char)
  | 0, _, _ => none
  | steps + 1, nesting, cs => do
    let (v, rest) ← valueWithin steps nesting (skipBlanks cs)
    match skipBlanks rest with
    | ',' :: rest =>
      let (elements, rest) ← elementsWithin steps nesting rest
      some (v :: elements, rest)
    | ']' :: rest => some ([v], rest)
    | _ => none

/-- The members of an object that is not empty, up to its brace. -/
def membersWithin : (steps nesting : Nat) → List Char →
    Option (List (String × Value) × List Char)
  | 0, _, _ => none
  | steps + 1, nesting, cs => do
    match skipBlanks cs with
    | '"' :: rest =>
      let (name, rest) ← textBody none rest
      match skipBlanks rest with
      | ':' :: rest =>
        let (v, rest) ← valueWithin steps nesting (skipBlanks rest)
        match skipBlanks rest with
        | ',' :: rest =>
          let (members, rest) ← membersWithin steps nesting rest
          some ((String.ofList name, v) :: members, rest)
        | '\x7d' :: rest => some ([(String.ofList name, v)], rest)
        | _ => none
      | _ => none
    | _ => none

end

/-- The value of a whole text. -/
def Value.parse (s : String) : Option Value := do
  let cs := s.toList
  -- Every two steps take a character at least.
  let (v, rest) ← valueWithin (2 * cs.length + 2) nestingLimit (skipBlanks cs)
  match skipBlanks rest with
  | [] => some v
  | _ => none

end Passforge.Json
