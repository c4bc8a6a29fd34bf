import Passforge.Number.Power
import Passforge.Text.Hexadecimal

/-!
# Integer Literals

Reading 64-bit integers from text. A decimal literal is an optional sign and
digits. A literal with a base mark may start with `0b`, `0o`, `0x` or a plain
`0` for octal, and may hold underscores between digits.

Digits are read from the left and the first offence decides: a number that grows
out of range is reported as such even if a wrong character follows.

## Main definitions

* `LiteralError`: Malformed, or out of range.
* `decimalInt`: A signed decimal literal.
* `markedNat`, `markedInt`: Literals with an optional base mark.
-/

namespace Passforge.Number

/-- Why a text is no integer literal. -/
inductive LiteralError where
  | malformed
  | outOfRange
  deriving DecidableEq

/-- How the error is worded. -/
def LiteralError.message : LiteralError → String
  | .malformed => "invalid syntax"
  | .outOfRange => "value out of range"

/-- The value of a digit in bases up to 36. -/
def digitValue? (c : Char) : Option Nat :=
  if '0' ≤ c && c ≤ '9' then some (c.toNat - 48)
  else if 'a' ≤ c && c ≤ 'z' then some (c.toNat - 87)
  else if 'A' ≤ c && c ≤ 'Z' then some (c.toNat - 55)
  else none

/-- One more than the greatest unsigned 64-bit number. -/
def natBound : Nat := twoTo 64

/-- Reads digits of a base after the value `n`, skipping underscores if
    allowed. -/
def readDigits (base : Nat) (underscores : Bool) : Nat → List Char → Except LiteralError Nat
  | n, [] => .ok n
  | n, c :: rest =>
    if underscores && c == '_' then readDigits base underscores n rest
    else match digitValue? c with
      | none => .error .malformed
      | some d =>
        if base ≤ d then .error .malformed
        else if natBound ≤ n * base + d then .error .outOfRange
        else readDigits base underscores (n * base + d) rest

/-- An unsigned decimal literal. -/
def decimalNat : List Char → Except LiteralError Nat
  | [] => .error .malformed
  | cs => readDigits 10 false 0 cs

/-- Splits off a sign: whether it was a minus, and the rest. -/
def splitSign : List Char → Bool × List Char
  | '+' :: rest => (false, rest)
  | '-' :: rest => (true, rest)
  | cs => (false, cs)

/-- A magnitude with its sign, if it fits 64 bits. -/
def signed (negative : Bool) (magnitude : Nat) : Except LiteralError Int :=
  if negative then
    if magnitude ≤ twoTo 63 then .ok (-magnitude) else .error .outOfRange
  else
    if magnitude < twoTo 63 then .ok magnitude else .error .outOfRange

/-- A signed decimal literal. -/
def decimalInt (s : String) : Except LiteralError Int := do
  let (negative, digits) := splitSign s.toList
  signed negative (← decimalNat digits)

/-- The base a literal is marked with, and its digits. A mark needs at least one
    character after it. -/
def splitBase : List Char → Nat × List Char
  | '0' :: m :: d :: rest =>
    if m == 'b' || m == 'B' then (2, d :: rest)
    else if m == 'o' || m == 'O' then (8, d :: rest)
    else if m == 'x' || m == 'X' then (16, d :: rest)
    else (8, m :: d :: rest)
  | '0' :: rest => (8, rest)
  | cs => (10, cs)

/-- Every underscore stands between two digits; a base mark counts as a digit
    before it. -/
def underscoresBetween (afterDigit : Bool) : List Char → Bool
  | [] => true
  | '_' :: c :: rest => afterDigit && c != '_' && underscoresBetween false (c :: rest)
  | ['_'] => false
  | _ :: rest => underscoresBetween true rest

/-- Underscores are well placed in a literal without sign. -/
def underscoresFine : List Char → Bool
  | '0' :: m :: rest =>
    if m == 'b' || m == 'B' || m == 'o' || m == 'O' || m == 'x' || m == 'X' then
      underscoresBetween true rest
    else underscoresBetween true (m :: rest)
  | cs => underscoresBetween false cs

/-- An unsigned literal with an optional base mark. -/
def markedDigits : List Char → Except LiteralError Nat
  | [] => .error .malformed
  | cs => do
    let (base, digits) := splitBase cs
    let n ← readDigits base true 0 digits
    if cs.contains '_' && !underscoresFine cs then .error .malformed else .ok n

/-- An unsigned literal with an optional base mark. -/
def markedNat (s : String) : Except LiteralError Nat :=
  markedDigits s.toList

/-- A signed literal with an optional base mark. -/
def markedInt (s : String) : Except LiteralError Int := do
  let (negative, digits) := splitSign s.toList
  signed negative (← markedDigits digits)

end Passforge.Number
