import Passforge.Alphabet
import Passforge.Draw.Source

/-!
# Generating Strings

A generator turns a request, an alphabet and a length, into a string by one draw
per character. It refuses a request before drawing anything when the alphabet is
empty, when the length is negative, or when a maximum is set and exceeded, in
this order.

The source need not keep to the bound it is given: an answer outside the
alphabet stops the generation with a fault, and no further draw is made.

## Main definitions

* `Request`: What to generate.
* `Rejection`: Why a request is refused, with its text and the label it is
  counted under.
* `Generator`: The configured maximum.
* `Generator.check`: The reason to refuse a request, if any.
* `drawString`: A number of characters drawn one by one.
* `Generator.generate`: Checks, then draws.
-/

namespace Passforge

/-- An alphabet and how many characters to draw from it. -/
structure Request where
  alphabet : Alphabet
  length : Int

/-- Why a request is refused. -/
inductive Rejection where
  | invalidAlphabet
  | invalidLength (length : Int)
  | lengthTooLarge (length maximum : Int)
  deriving DecidableEq

namespace Rejection

/-- The text of a refusal. -/
def message : Rejection → String
  | .invalidAlphabet => "alphabet can not be empty"
  | .invalidLength length => s!"length {length}: length can not be negative"
  | .lengthTooLarge length maximum =>
    s!"length {length}, maximum {maximum}: length exceeds the configured maximum"

/-- The label a refusal is counted under. -/
def reason : Rejection → String
  | .invalidAlphabet => "invalid_alphabet"
  | .invalidLength _ => "invalid_length"
  | .lengthTooLarge _ _ => "length_too_large"

end Rejection

/-- The length used when none is asked for. -/
def standardLength : Int := 12

/-- The maximum used when none is configured. -/
def standardMaximum : Int := 4096

/-- A generator with a maximum length; no maximum if it is zero. -/
structure Generator where
  maximum : Int

namespace Generator

/-- The generator with the given maximum, a negative one meaning none. -/
def ofMaximum (maximum : Int) : Generator :=
  ⟨max 0 maximum⟩

/-- The reason to refuse a request, if any. -/
def check (g : Generator) (r : Request) : Option Rejection :=
  if r.alphabet.isEmpty then some .invalidAlphabet
  else if r.length < 0 then some (.invalidLength r.length)
  else if 0 < g.maximum ∧ g.maximum < r.length then some (.lengthTooLarge r.length g.maximum)
  else none

end Generator

/-- One drawn character. -/
def drawChar {σ : Type} (source : Source σ) (a : Alphabet) : Run σ Char := do
  let index ← source.draw a.size
  match a.symbolAt index with
  | .ok s => return s.toChar
  | .error f => Run.fault f

/-- Draws `count` more characters after `drawn`, which holds the earlier ones
    last first. -/
def drawChars {σ : Type} (source : Source σ) (a : Alphabet) :
    (count : Nat) → (drawn : List Char) → Run σ (List Char)
  | 0, drawn => return drawn.reverse
  | count + 1, drawn => do
    let c ← drawChar source a
    drawChars source a count (c :: drawn)

/-- A string of `length` characters drawn one by one from the alphabet. -/
def drawString {σ : Type} (source : Source σ) (a : Alphabet) (length : Nat) : Run σ String := do
  return String.ofList (← drawChars source a length [])

/-- Serves a request: a refusal before any draw, or a string. -/
def Generator.generate {σ : Type} (g : Generator) (source : Source σ) (r : Request) :
    Run σ (Except Rejection String) := do
  match g.check r with
  | some rejection => return .error rejection
  | none => return .ok (← drawString source r.alphabet r.length.toNat)

end Passforge
