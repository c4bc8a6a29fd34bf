/-!
# Truth Values as Text

The six spellings of each truth value: a digit, a letter in either case, and the
word in lower case, in upper case or with a capital. Nothing else counts, not
even with blanks around it.

## Main definitions

* `truth?`: The truth value a text spells.
-/

namespace Passforge.Text

/-- The spellings of true. -/
def trueSpellings : List String := ["1", "t", "T", "true", "TRUE", "True"]

/-- The spellings of false. -/
def falseSpellings : List String := ["0", "f", "F", "false", "FALSE", "False"]

/-- The truth value a text spells. -/
def truth? (s : String) : Option Bool :=
  if trueSpellings.contains s then some true
  else if falseSpellings.contains s then some false
  else none

end Passforge.Text
