import Passforge.Text.Canonical.Composition
import Passforge.Text.Canonical.Decomposition
import Passforge.Text.Canonical.MarkRun

/-!
# The Composed Normal Form

Two spellings of the same text, one with a ready-made accented letter and one
with a letter and a mark, become equal here. The form is reached in four passes.

`streamSafe` first breaks up overlong runs of marks by inserting U+034F, so that
no later pass ever has to look at more than a bounded window. `decompose` then
replaces each character by its full canonical decomposition, `reorder` sorts
each run of marks by combining class without changing the order of equal
classes, and `compose` joins what can be joined, from the left.

A mark joins its starter unless a mark of the same or a higher class stands
between the two. The composer keeps the starter it is working on and what could
not join it, so this is a comparison with the last character kept. It turns to
another starter when that one starts a run, or is a Hangul letter. A starter
that extends a run is kept like a mark, and the composer turns to it only if
what comes right behind it can join at all. Behind any other mark it has
overlooked that starter, and goes on joining across it.

## Main definitions

* `decomposition`: The full decomposition of one character, Hangul included.
* `streamSafe`: Breaks runs of more than thirty marks.
* `reorder`: Sorts runs of marks by class, keeping the order of equals.
* `composition`: The character two neighbours join into, Hangul included.
* `compose`: Joins every mark that is not blocked with its starter.
* `normalize`: All four passes.
-/

namespace Passforge.Text.Canonical

/-- The first Hangul syllable. -/
def syllableBase : Nat := 0xAC00
/-- The first leading consonant. -/
def leadBase : Nat := 0x1100
/-- The first vowel. -/
def vowelBase : Nat := 0x1161
/-- One before the first trailing consonant. -/
def trailBase : Nat := 0x11A7
/-- How many leading consonants there are. -/
def leadCount : Nat := 19
/-- How many vowels there are. -/
def vowelCount : Nat := 21
/-- How many trailing consonants there are, the missing one included. -/
def trailCount : Nat := 28
/-- How many syllables there are. -/
def syllableCount : Nat := leadCount * vowelCount * trailCount

/-- The parts of a Hangul syllable: a lead, a vowel and, if it has one, a
    trail. -/
def syllableParts? (c : Char) : Option (List Char) :=
  if syllableBase ≤ c.toNat && c.toNat < syllableBase + syllableCount then
    let index := c.toNat - syllableBase
    let lead := Char.ofNat (leadBase + index / (vowelCount * trailCount))
    let vowel := Char.ofNat (vowelBase + index % (vowelCount * trailCount) / trailCount)
    let trail := index % trailCount
    some (if trail == 0 then [lead, vowel] else [lead, vowel, Char.ofNat (trailBase + trail)])
  else none

/-- The full canonical decomposition of a character; most are their own. -/
def decomposition (c : Char) : List Char :=
  match syllableParts? c with
  | some parts => parts
  | none => (tableDecomposition c).getD [c]

/-- The combining grapheme joiner, which breaks a run of marks and is otherwise
    invisible. -/
def joiner : Char := '\u034F'

/-- The most marks that may follow each other. -/
def markLimit : Nat := 30

/-- How many characters at the start of a text extend the run before it. -/
def leadingMarks (cs : List Char) : Nat :=
  (cs.takeWhile fun c => (freshRun? c).isNone).length

/-- The length of the run at the end of a text, `seen` marks standing before
    it. -/
def runAfter (seen : Nat) : List Char → Nat
  | [] => seen
  | c :: cs => runAfter ((freshRun? c).getD (seen + 1)) cs

/-- Breaks runs of marks, `seen` marks standing just before. They are counted in
    decompositions, and a character is never taken apart by a break. -/
def breakRuns : Nat → List Char → List Char
  | _, [] => []
  | seen, c :: rest =>
    if seen + leadingMarks (decomposition c) ≤ markLimit then
      c :: breakRuns (runAfter seen (decomposition c)) rest
    else joiner :: c :: breakRuns (runAfter 0 (decomposition c)) rest

/-- The text with a joiner inserted wherever a run of marks would grow past the
    limit. -/
def streamSafe (cs : List Char) : List Char :=
  breakRuns 0 cs

/-- Every character replaced by its decomposition. -/
def decompose (cs : List Char) : List Char :=
  cs.flatMap decomposition

/-- Puts `c` before a reordered text: past the marks of lower class, and never
    past a starter. -/
def place (c : Char) : List Char → List Char
  | [] => [c]
  | d :: rest =>
    if 0 < combiningClass d && combiningClass d < combiningClass c then d :: place c rest
    else c :: d :: rest

/-- Sorts each run of marks by combining class, keeping the order of equals. -/
def reorder (cs : List Char) : List Char :=
  cs.foldr place []

/-- The Hangul syllable two neighbours form. -/
def syllable? (a b : Char) : Option Char :=
  if leadBase ≤ a.toNat && a.toNat < leadBase + leadCount &&
      vowelBase ≤ b.toNat && b.toNat < vowelBase + vowelCount then
    some (Char.ofNat (syllableBase +
      ((a.toNat - leadBase) * vowelCount + (b.toNat - vowelBase)) * trailCount))
  else if syllableBase ≤ a.toNat && a.toNat < syllableBase + syllableCount &&
      (a.toNat - syllableBase) % trailCount == 0 &&
      trailBase < b.toNat && b.toNat < trailBase + trailCount then
    some (Char.ofNat (a.toNat + (b.toNat - trailBase)))
  else none

/-- The character that `a` followed by `b` joins into. -/
def composition (a b : Char) : Option Char :=
  match syllable? a b with
  | some c => some c
  | none => tableComposition a b

/-- A vowel or a trailing consonant of Hangul. -/
def isConjoining (c : Char) : Bool :=
  (vowelBase ≤ c.toNat && c.toNat < vowelBase + vowelCount) ||
    (trailBase < c.toNat && c.toNat < trailBase + trailCount)

/-- There is a character that `c` joins. -/
def mayJoin (c : Char) : Bool :=
  isConjoining c || compositions.any (·.2.1 == c.toNat)

/-- Nothing among the kept marks stands between the starter and a character of
    class `cls`. The marks are listed last first, and their classes never
    decrease, so the last one decides. -/
def unblocked (kept : List Char) (cls : Nat) : Bool :=
  match kept with
  | [] => true
  | last :: _ => combiningClass last < cls

/-- Turns to the last kept character if it is a starter: what is left behind,
    the starter to join, and the marks kept behind it. -/
def turn (starter : Char) : List Char → List Char × Char × List Char
  | [] => ([], starter, [])
  | last :: before =>
    if isStarter last then (starter :: before.reverse, last, [])
    else ([], starter, last :: before)

/-- Joins onto `starter`, with what could not join in `kept`, last first. -/
def composeFrom (starter : Char) (kept : List Char) : List Char → List Char
  | [] => starter :: kept.reverse
  | c :: rest =>
    if (freshRun? c).isSome then starter :: kept.reverse ++ composeFrom c [] rest
    else if mayJoin c then
      match turn starter kept with
      | (behind, starter, kept) =>
        match if unblocked kept (combiningClass c) then composition starter c else none with
        | some joined => behind ++ composeFrom joined kept rest
        | none =>
          if isConjoining c then behind ++ starter :: kept.reverse ++ composeFrom c [] rest
          else behind ++ composeFrom starter (c :: kept) rest
    else composeFrom starter (c :: kept) rest

/-- Joins every mark that is not blocked with its starter. Marks before the
    first starter have nothing to join. -/
def compose : List Char → List Char
  | [] => []
  | c :: rest => if isStarter c then composeFrom c [] rest else c :: compose rest

/-- The composed normal form of a text, runs of marks kept short. -/
def normalize (cs : List Char) : List Char :=
  compose (reorder (decompose (streamSafe cs)))

end Passforge.Text.Canonical
