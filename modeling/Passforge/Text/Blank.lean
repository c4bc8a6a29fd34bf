/-!
# Blank Characters

The characters that count as white space around a name or a value. The set is
the Unicode property of that name, so it reaches beyond ASCII: the next-line
control, the no-break space and the typographic spaces are all blank, while the
zero-width characters are not.

## Main definitions

* `isBlank`: The white-space property.
* `trim`: A text without the blanks at its two ends.
-/

namespace Passforge.Text

/-- White space. -/
def isBlank (c : Char) : Bool :=
  let n := c.toNat
  (0x9 ≤ n && n ≤ 0xD) || n == 0x20 || n == 0x85 || n == 0xA0 || n == 0x1680 ||
    (0x2000 ≤ n && n ≤ 0x200A) || n == 0x2028 || n == 0x2029 || n == 0x202F || n == 0x205F ||
    n == 0x3000

/-- The characters left after dropping blanks at both ends. -/
def trimChars (cs : List Char) : List Char :=
  ((cs.dropWhile isBlank).reverse.dropWhile isBlank).reverse

/-- A text without the blanks at its two ends. -/
def trim (s : String) : String :=
  String.ofList (trimChars s.toList)

end Passforge.Text
