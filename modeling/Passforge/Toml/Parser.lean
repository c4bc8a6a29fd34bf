import Passforge.Toml.Scalar
import Passforge.Toml.Text

/-!
# Reading Configuration Files

A file is a sequence of lines, each a header, a key with a value, or nothing,
and each possibly with a comment. Reading it is reading its statements and then
carrying them out one after the other on a document. A file that breaks a rule
anywhere says nothing at all, so there is one failure and no account of it.

## Main definitions

* `value`: A value and the characters after it.
* `Statement`: What one line says.
* `statements`: What all lines say.
* `Document.parse`: The document of a file.
-/

namespace Passforge.Toml

/-- Leaves out blanks, line ends and comments, between the elements of an
    array. -/
def skipGap (inComment : Bool) : List Char → Option (List Char)
  | [] => some []
  | '\n' :: rest => skipGap false rest
  | '\r' :: '\n' :: rest => skipGap false rest
  | c :: rest =>
    if inComment then (if isControl c then none else skipGap true rest)
    else if isSpacing c then skipGap false rest
    else if c == '#' then skipGap true rest
    else some (c :: rest)

/-- A string value from what was read of it. -/
def textValue (read : Option (List Char × List Char)) : Option (Value × List Char) :=
  read.map fun (s, rest) => (.text (String.ofList s), rest)

mutual

/-- A value, nested no deeper than `depth` allows. -/
def valueWithin : (depth : Nat) → List Char → Option (Value × List Char)
  | 0, _ => none
  | depth + 1, cs =>
    match cs with
    | '"' :: '"' :: '"' :: rest => textValue (multilineBasicBody false (skipFirstLineEnd rest))
    | '"' :: rest => textValue (basicBody rest)
    | '\x27' :: '\x27' :: '\x27' :: rest => textValue (multilineLiteralBody (skipFirstLineEnd rest))
    | '\x27' :: rest => textValue (literalBody rest)
    | 't' :: 'r' :: 'u' :: 'e' :: rest => some (.boolean true, rest)
    | 'f' :: 'a' :: 'l' :: 's' :: 'e' :: rest => some (.boolean false, rest)
    | '[' :: rest => do
      let (elements, rest) ← elementsWithin depth true rest
      some (.array elements, rest)
    | '\x7b' :: rest => do
      let (members, rest) ← membersWithin depth true rest
      some (.inline (← Document.ofMembers members), rest)
    | cs => number cs

/-- The elements of an array up to its bracket. Commas stand between them, and
    one may stand after the last. -/
def elementsWithin : (depth : Nat) → (first : Bool) → List Char → Option (List Value × List Char)
  | 0, _, _ => none
  | depth + 1, first, cs => do
    match ← skipGap false cs with
    | ']' :: rest => some ([], rest)
    | cs =>
      let cs ← match first, cs with
        | true, cs => some cs
        | false, ',' :: rest => skipGap false rest
        | false, _ => none
      match cs with
      | ']' :: rest => some ([], rest)
      | cs =>
        let (v, rest) ← valueWithin depth cs
        let (elements, rest) ← elementsWithin depth false rest
        some (v :: elements, rest)

/-- The members of a table up to its brace. Commas stand between them only, and
    no line ends. -/
def membersWithin : (depth : Nat) → (first : Bool) → List Char →
    Option (List (Path × Value) × List Char)
  | 0, _, _ => none
  | depth + 1, first, cs => do
    match skipBlanks cs with
    | '\x7d' :: rest => some ([], rest)
    | cs =>
      let cs ← match first, cs with
        | true, cs => some cs
        | false, ',' :: rest => some (skipBlanks rest)
        | false, _ => none
      let (key, rest) ← keyPath cs
      match rest with
      | '=' :: rest =>
        let (v, rest) ← valueWithin depth (skipBlanks rest)
        let (members, rest) ← membersWithin depth false rest
        some ((key, v) :: members, rest)
      | _ => none

end

/-- A value and the characters after it. -/
def value (cs : List Char) : Option (Value × List Char) :=
  -- A level of nesting takes a character at least, and so does each element on it.
  valueWithin (2 * cs.length + 2) cs

/-- What one line says. -/
inductive Statement where
  | table (path : Path)
  | element (path : Path)
  | bind (key : Path) (value : Value)

/-- The characters after the end of a line that says nothing more. -/
def lineEnd (cs : List Char) : Option (List Char) :=
  let cs := match skipBlanks cs with
    | '#' :: rest => rest.dropWhile (!isControl ·)
    | cs => cs
  match cs with
  | [] => some []
  | '\n' :: rest => some rest
  | '\r' :: '\n' :: rest => some rest
  | _ => none

/-- A statement that is not empty, and the characters after it. -/
def statement : List Char → Option (Statement × List Char)
  | '[' :: '[' :: rest => do
    match ← keyPath (skipBlanks rest) with
    | (path, ']' :: ']' :: rest) => some (.element path, rest)
    | _ => none
  | '[' :: rest => do
    match ← keyPath (skipBlanks rest) with
    | (path, ']' :: rest) => some (.table path, rest)
    | _ => none
  | cs => do
    match ← keyPath cs with
    | (key, '=' :: rest) =>
      let (v, rest) ← value (skipBlanks rest)
      some (.bind key v, rest)
    | _ => none

/-- The character starts a statement rather than ending the line. -/
def startsStatement : List Char → Bool
  | [] => false
  | c :: _ => c != '\n' && c != '\r' && c != '#'

/-- The statements of at most `limit` lines. -/
def statementsWithin : (limit : Nat) → List Char → Option (List Statement)
  | 0, _ => none
  | _ + 1, [] => some []
  | limit + 1, cs => do
    let cs := skipBlanks cs
    if startsStatement cs then
      let (s, rest) ← statement cs
      let following ← statementsWithin limit (← lineEnd rest)
      some (s :: following)
    else statementsWithin limit (← lineEnd cs)

/-- What all lines of a file say. -/
def statements (cs : List Char) : Option (List Statement) :=
  -- Every line but the last takes a character at least.
  statementsWithin (cs.length + 2) cs

/-- Carries a statement out on a document, below the table opened last. -/
def Statement.apply (state : Document × Path) : Statement → Option (Document × Path)
  | .table path => do some (← state.1.openTable path, path)
  | .element path => do some (← state.1.openElement path, path)
  | .bind key v => do some (← state.1.bind state.2 key v, state.2)

/-- The document of a file. -/
def Document.parse (s : String) : Option Document := do
  let lines ← statements s.toList
  let (d, _) ← lines.foldlM Statement.apply (Document.empty, [])
  some d

end Passforge.Toml
