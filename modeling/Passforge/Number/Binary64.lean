import Passforge.Number.Power

/-!
# Binary Floating-Point Numbers

The 64-bit floating-point numbers as exact values. A finite number is `±mantissa
· 2^exponent`; the rest are the two infinities and the one value that is no
number. Rounding an exact quotient to the nearest of them, ties to the even
mantissa, needs nothing but natural numbers, so every number the program prints
or reads can be reasoned about.

## Main definitions

* `Binary64`: The values.
* `roundQuot`: A quotient of natural numbers rounded to a natural number, ties
  to even.
* `Binary64.ofRatio`: The value nearest to a quotient.
* `Binary64.ofBits`: The value a 64-bit pattern stands for.
* `roundToBinary64`: A natural number rounded to the nearest that has a 64-bit
  value.
-/

namespace Passforge.Number

/-- A 64-bit floating-point value. -/
inductive Binary64 where
  /-- `mantissa · 2^exponent`, negated if `negative`. -/
  | finite (negative : Bool) (mantissa : Nat) (exponent : Int)
  | infinite (negative : Bool)
  | nan
  deriving DecidableEq

/-- `num / den` rounded to the nearest natural number, a half to the even
    one. -/
def roundQuot (num den : Nat) : Nat :=
  let q := num / den
  let r := num % den
  if 2 * r < den then q
  else if den < 2 * r then q + 1
  else if q % 2 == 0 then q else q + 1

/-- `num / den` in units of `2^exponent`, rounded, a half to even. -/
def scaledQuot (num den : Nat) (exponent : Int) : Nat :=
  if 0 ≤ exponent then roundQuot num (den * twoTo exponent.toNat)
  else roundQuot (num * twoTo (-exponent).toNat) den

/-- The least exponent a finite value can have. -/
def minExponent : Int := -1074

/-- The greatest exponent a finite value with a full mantissa can have. -/
def maxExponent : Int := 971

/-- The exponent whose unit leaves `num / den` 53 binary digits before the
    point, or the least exponent if that is greater. -/
def unitExponent (num den : Nat) : Int :=
  let guess : Int := (num.log2 : Int) - den.log2 - 52
  -- The quotient of the two leading digits is off by less than a factor of two.
  let short :=
    if 0 ≤ guess then num < den * twoTo guess.toNat * twoTo 52
    else num * twoTo (-guess).toNat < den * twoTo 52
  max minExponent (if short then guess - 1 else guess)

/-- The value nearest to `num / den`, ties to the even mantissa. -/
def Binary64.ofRatio (negative : Bool) (num den : Nat) : Binary64 :=
  if num == 0 then .finite negative 0 minExponent
  else
    let e := unitExponent num den
    let m := scaledQuot num den e
    -- Rounding up can carry into one more binary digit.
    let (m, e) := if m == twoTo 53 then (twoTo 52, e + 1) else (m, e)
    if maxExponent < e then .infinite negative else .finite negative m e

/-- The value a 64-bit pattern stands for. -/
def Binary64.ofBits (bits : UInt64) : Binary64 :=
  let negative := bits.toNat / twoTo 63 == 1
  let field : Nat := bits.toNat / twoTo 52 % twoTo 11
  let fraction : Nat := bits.toNat % twoTo 52
  if field == 2047 then (if fraction == 0 then .infinite negative else .nan)
  else if field == 0 then .finite negative fraction minExponent
  else .finite negative (twoTo 52 + fraction) ((field : Int) - 1075)

/-- The natural number nearest to `n` that is a 64-bit value, for `n` within
    their range. -/
def roundToBinary64 (n : Nat) : Nat :=
  if n < twoTo 53 then n
  else
    let unit := twoTo (n.log2 - 52)
    roundQuot n unit * unit

/-- The value is zero, of either sign. -/
def Binary64.isZero : Binary64 → Bool
  | .finite _ m _ => m == 0
  | _ => false

/-- The least 64-bit integer. -/
def leastInt : Int := -9223372036854775808

/-- The value without its fraction, toward zero, as a 64-bit integer; whatever
    has no such integer gives the least one. -/
def Binary64.truncate : Binary64 → Int
  | .finite negative m e =>
    let whole : Int := (if 0 ≤ e then m * twoTo e.toNat else m / twoTo (-e).toNat : Nat)
    let signed := if negative then -whole else whole
    if leastInt ≤ signed ∧ signed < -leastInt then signed else leastInt
  | _ => leastInt

end Passforge.Number
