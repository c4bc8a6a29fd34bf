import Passforge.Text.Hexadecimal

/-!
# Strings and Keys of Configuration Files

Reading the four kinds of string and the keys. Every function takes the
characters that are left and gives what it read with the characters after it, or
nothing if they do not start with what it reads; a string is read from behind
its opening quotes.

Control characters other than the tab stand nowhere, and a carriage return only
before a line feed.

## Main definitions

* `basicBody`, `literalBody`: Strings on one line, with and without escapes.
* `multilineBasicBody`, `multilineLiteralBody`: Strings over several lines.
* `keyPath`: A key, dotted or not.
* `skipBlanks`: Leaves out spaces and tabs.
-/

namespace Passforge.Toml

/-- A control character that only stands where a rule allows it: any but the
    tab. -/
def isControl (c : Char) : Bool :=
  (c.toNat < 0x20 && c != '\t') || c.toNat == 0x7F

/-- A space or a tab. -/
def isSpacing (c : Char) : Bool :=
  c == ' ' || c == '\t'

/-- Leaves out spaces and tabs. -/
def skipBlanks (cs : List Char) : List Char :=
  cs.dropWhile isSpacing

/-- The character a short escape stands for. -/
def escaped? : Char → Option Char
  | '"' => some '"'
  | '\\' => some '\\'
  | 'b' => some '\x08'
  | 't' => some '\t'
  | 'n' => some '\n'
  | 'f' => some '\x0c'
  | 'r' => some '\r'
  | 'e' => some '\x1b'
  | _ => none

/-- The character whose code point the digits give. -/
def codePoint? (digits : List Char) : Option Char := do
  let n ← Text.hexNumber? digits
  if n < 0xD800 || (0xE000 ≤ n && n ≤ 0x10FFFF) then some (Char.ofNat n) else none

/-- Puts a character before what was read. -/
def consRead (c : Char) (read : Option (List Char × List Char)) : Option (List Char × List Char) :=
  read.map fun (s, rest) => (c :: s, rest)

/-- A string on one line with escapes, up to its closing quote. -/
def basicBody : List Char → Option (List Char × List Char)
  | [] => none
  | '"' :: rest => some ([], rest)
  | '\\' :: 'u' :: a :: b :: c :: d :: rest => do
    consRead (← codePoint? [a, b, c, d]) (basicBody rest)
  | '\\' :: 'U' :: a :: b :: c :: d :: e :: f :: g :: h :: rest => do
    consRead (← codePoint? [a, b, c, d, e, f, g, h]) (basicBody rest)
  | '\\' :: c :: rest => do consRead (← escaped? c) (basicBody rest)
  | c :: rest => if isControl c then none else consRead c (basicBody rest)

/-- A string on one line without escapes, up to its closing quote. -/
def literalBody : List Char → Option (List Char × List Char)
  | [] => none
  | '\x27' :: rest => some ([], rest)
  | c :: rest => if isControl c then none else consRead c (literalBody rest)

/-- Up to two more quotes after three closing ones belong to the string; a third
    is too many. -/
def closing (quote : Char) : List Char → Option (List Char × List Char)
  | a :: b :: c :: rest =>
    if a == quote then
      if b == quote then
        if c == quote then none else some ([quote, quote], c :: rest)
      else some ([quote], b :: c :: rest)
    else some ([], a :: b :: c :: rest)
  | [a, b] =>
    if a == quote then
      if b == quote then some ([quote, quote], []) else some ([quote], [b])
    else some ([], [a, b])
  | [a] => if a == quote then some ([quote], []) else some ([], [a])
  | [] => some ([], [])

/-- Nothing but spaces and tabs stands before the end of the line. -/
def endsLine : List Char → Bool
  | '\n' :: _ => true
  | '\r' :: '\n' :: _ => true
  | c :: rest => isSpacing c && endsLine rest
  | [] => false

/-- A string over several lines with escapes, up to its closing quotes. A
    backslash at the end of a line leaves out everything up to the next
    character that is visible; while that lasts, `trimming` is set. -/
def multilineBasicBody (trimming : Bool) : List Char → Option (List Char × List Char)
  | [] => none
  | '"' :: '"' :: '"' :: rest => closing '"' rest
  | '\\' :: 'u' :: a :: b :: c :: d :: rest => do
    consRead (← codePoint? [a, b, c, d]) (multilineBasicBody false rest)
  | '\\' :: 'U' :: a :: b :: c :: d :: e :: f :: g :: h :: rest => do
    consRead (← codePoint? [a, b, c, d, e, f, g, h]) (multilineBasicBody false rest)
  | '\\' :: c :: rest =>
    if endsLine (c :: rest) then multilineBasicBody true (c :: rest)
    else do consRead (← escaped? c) (multilineBasicBody false rest)
  | '\r' :: '\n' :: rest =>
    if trimming then multilineBasicBody true rest
    else consRead '\r' (consRead '\n' (multilineBasicBody false rest))
  | c :: rest =>
    if c == '\n' || isSpacing c then
      if trimming then multilineBasicBody true rest
      else consRead c (multilineBasicBody false rest)
    else if isControl c then none
    else consRead c (multilineBasicBody false rest)

/-- A string over several lines without escapes, up to its closing quotes. -/
def multilineLiteralBody : List Char → Option (List Char × List Char)
  | [] => none
  | '\x27' :: '\x27' :: '\x27' :: rest => closing '\x27' rest
  | '\r' :: '\n' :: rest => consRead '\r' (consRead '\n' (multilineLiteralBody rest))
  | c :: rest =>
    if c != '\n' && isControl c then none else consRead c (multilineLiteralBody rest)

/-- A line end right after the opening quotes of a string over several lines is
    no part of it. -/
def skipFirstLineEnd : List Char → List Char
  | '\n' :: rest => rest
  | '\r' :: '\n' :: rest => rest
  | cs => cs

/-- A character of a key without quotes. -/
def isBare (c : Char) : Bool :=
  ('a' ≤ c && c ≤ 'z') || ('A' ≤ c && c ≤ 'Z') || ('0' ≤ c && c ≤ '9') || c == '_' || c == '-'

/-- One name of a key. -/
def keyName : List Char → Option (String × List Char)
  | [] => none
  | '"' :: rest => (basicBody rest).map fun (s, rest) => (String.ofList s, rest)
  | '\x27' :: rest => (literalBody rest).map fun (s, rest) => (String.ofList s, rest)
  | c :: rest =>
    if isBare c then
      some (String.ofList (c :: rest.takeWhile isBare), rest.dropWhile isBare)
    else none

/-- The names of a key, at most `limit` of them. Blanks may stand around the
    dots, and those after the last name are left out too. -/
def keyNames : (limit : Nat) → List Char → Option (List String × List Char)
  | 0, _ => none
  | limit + 1, cs => do
    let (name, rest) ← keyName cs
    match skipBlanks rest with
    | '.' :: rest =>
      let (names, rest) ← keyNames limit (skipBlanks rest)
      some (name :: names, rest)
    | rest => some ([name], rest)

/-- A key, dotted or not. -/
def keyPath (cs : List Char) : Option (List String × List Char) :=
  -- Every name takes a character at least.
  keyNames (cs.length + 1) cs

end Passforge.Toml
