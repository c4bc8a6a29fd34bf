/-!
# Case-Insensitive Names

Every fixed name of the program is plain ASCII, so a name given in any script
can only meet one of them through the few characters whose lower case or case
folding is an ASCII letter. These are the ASCII capitals and a handful of
others: the dotted capital I lowers to `i`, the kelvin sign lowers and folds to
`k`, and the long s folds to `s` although it is lower case already.

Lower-casing and folding therefore differ, and both are needed: preset names and
setting keys are lowered, log levels and override fields are folded.

## Main definitions

* `lowerChar`, `lower`: Lower case, exact wherever the result is ASCII.
* `foldChar`, `sameFolded`: Case folding, exact wherever the result is ASCII.
-/

namespace Passforge.Text

/-- The lower case of a character, as far as it is ASCII; any other character
    stays as it is. -/
def lowerChar (c : Char) : Char :=
  if c.toNat == 0x130 then 'i' else if c.toNat == 0x212A then 'k' else c.toLower

/-- A text in lower case, exact for every character whose lower case is
    ASCII. -/
def lower (s : String) : String :=
  String.ofList (s.toList.map lowerChar)

/-- The folded form of a character, as far as it is ASCII; any other character
    stays as it is. -/
def foldChar (c : Char) : Char :=
  if c.toNat == 0x17F then 's' else if c.toNat == 0x212A then 'k' else c.toLower

/-- `given` and the ASCII name `name` agree up to case. -/
def sameFolded (given name : String) : Bool :=
  given.toList.map foldChar == name.toList.map foldChar

end Passforge.Text
