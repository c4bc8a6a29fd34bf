import Passforge.Number.Binary64

/-!
# Entropy in Bits

How many bits of entropy a string carries when each of its characters is drawn
uniformly from a number of choices: the length times the binary logarithm of
that number. The logarithm is evaluated in 64-bit floating point by an argument
reduction to `[√2/2, √2)` and a polynomial in `s = f / (2 + f)`, so that the
result is the same on every machine.

## Main definitions

* `naturalLog`: The logarithm of a number from one half to one.
* `binaryLog`: The binary logarithm of a positive number.
* `entropyBits`: Length times logarithm, zero where there is nothing to choose.
-/

namespace Passforge.Number

/-- The natural logarithm of `frac · 2^exp` with `frac` from one half to one. -/
def naturalLog (frac : Float) (exp : Int) : Float :=
  let small := frac < 7.07106781186547524401e-01
  let f := (if small then frac * 2.0 else frac) - 1.0
  let k := Float.ofInt (if small then exp - 1 else exp)
  let s := f / (2.0 + f)
  let s2 := s * s
  let s4 := s2 * s2
  let t1 := s2 * (6.666666666666735130e-01 +
    s4 * (2.857142874366239149e-01 +
      s4 * (1.818357216161805012e-01 + s4 * 1.479819860511658591e-01)))
  let t2 := s4 * (3.999999999940941908e-01 +
    s4 * (2.222219843214978396e-01 + s4 * 1.531383769920937332e-01))
  let r := t1 + t2
  let hfsq := 0.5 * f * f
  k * 6.93147180369123816490e-01 - ((hfsq - (s * (hfsq + r) + k * 1.90821492927058770002e-10)) - f)

/-- The binary logarithm of a positive number, exact for powers of two. -/
def binaryLog (x : Float) : Float :=
  let (frac, exp) := x.frExp
  if frac == 0.5 then Float.ofInt (exp - 1)
  else naturalLog frac 0 * 1.44269504088896340735992468100189214 + Float.ofInt exp

/-- The entropy of `length` characters drawn from `size` choices. -/
def entropyBits (length : Int) (size : Int) : Binary64 :=
  if length ≤ 0 ∨ size ≤ 1 then .ofRatio false 0 1
  else
    let count := (UInt64.ofNat length.toNat).toFloat
    let choices := (UInt64.ofNat size.toNat).toFloat
    .ofBits (count * binaryLog choices).toBits

end Passforge.Number
