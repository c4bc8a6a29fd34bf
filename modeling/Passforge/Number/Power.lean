/-!
# Powers

Powers of two and of ten, which is all that 64-bit arithmetic and decimal
numerals need.

## Main definitions

* `twoTo`, `tenTo`: The powers.
-/

namespace Passforge.Number

/-- A power of two. -/
def twoTo (n : Nat) : Nat :=
  Nat.pow 2 n

/-- A power of ten. -/
def tenTo (n : Nat) : Nat :=
  Nat.pow 10 n

end Passforge.Number
