/-!
# Base64 without Padding

Bytes as text in groups of four characters for three bytes. The last group may
hold two or three characters; nothing is padded. Reading is strict: every
character must be of the alphabet, a single left-over character is no group, and
the bits a short group does not use must be zero. Line breaks inside the text
are skipped.

An error names the byte at which it was found. For a group that is too short or
holds spare bits that place is counted back from the end of the text.

## Main definitions

* `encode`: Bytes as text.
* `decode`: The bytes of a text, or where it goes wrong.
-/

namespace Passforge.Hash.Base64

/-- The character for six bits. -/
def digit (n : Nat) : Char :=
  if n < 26 then Char.ofNat (65 + n)
  else if n < 52 then Char.ofNat (97 + (n - 26))
  else if n < 62 then Char.ofNat (48 + (n - 52))
  else if n == 62 then '+'
  else '/'

/-- The six bits of a character. -/
def value? (c : Char) : Option Nat :=
  if 'A' ≤ c && c ≤ 'Z' then some (c.toNat - 65)
  else if 'a' ≤ c && c ≤ 'z' then some (c.toNat - 97 + 26)
  else if '0' ≤ c && c ≤ '9' then some (c.toNat - 48 + 52)
  else if c == '+' then some 62
  else if c == '/' then some 63
  else none

/-- Bytes as text, three at a time. -/
def encode : List UInt8 → List Char
  | [] => []
  | [a] => [digit (a.toNat / 4), digit (a.toNat % 4 * 16)]
  | [a, b] =>
    [digit (a.toNat / 4), digit (a.toNat % 4 * 16 + b.toNat / 16), digit (b.toNat % 16 * 4)]
  | a :: b :: c :: rest =>
    digit (a.toNat / 4) :: digit (a.toNat % 4 * 16 + b.toNat / 16) ::
      digit (b.toNat % 16 * 4 + c.toNat / 64) :: digit (c.toNat % 64) :: encode rest

/-- The six-bit values of a text that starts at byte `place`, line breaks left
    out. A character outside the alphabet is reported by its place. -/
def values (place : Nat) : List Char → Except Nat (List Nat)
  | [] => .ok []
  | c :: rest =>
    if c == '\n' || c == '\r' then values (place + 1) rest
    else match value? c with
      | none => .error place
      | some v => (v :: ·) <$> values (place + c.utf8Size) rest

/-- The bytes of six-bit values. `length` is the size of the text, for the place
    of an error. -/
def groups (length : Nat) : List Nat → Except Nat (List UInt8)
  | [] => .ok []
  | [_] => .error (length - 1)
  | [a, b] =>
    if b % 16 == 0 then .ok [UInt8.ofNat (a * 4 + b / 16)] else .error (length - 2)
  | [a, b, c] =>
    if c % 4 == 0 then .ok [UInt8.ofNat (a * 4 + b / 16), UInt8.ofNat (b % 16 * 16 + c / 4)]
    else .error (length - 1)
  | a :: b :: c :: d :: rest =>
    ([UInt8.ofNat (a * 4 + b / 16), UInt8.ofNat (b % 16 * 16 + c / 4),
      UInt8.ofNat (c % 4 * 64 + d)] ++ ·) <$> groups length rest

/-- The bytes of a text, or the place at which it is not strict base64. -/
def decode (text : List Char) : Except Nat (List UInt8) := do
  let vs ← values 0 text
  groups (text.foldl (fun n c => n + c.utf8Size) 0) vs

end Passforge.Hash.Base64
