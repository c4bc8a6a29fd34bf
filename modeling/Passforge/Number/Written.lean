import Passforge.Number.Shortest

/-!
# Writing Numbers

The three ways a floating-point number is written: positionally, with a power of
ten, and with a fixed count of decimals. The first two use the shortest digits;
which of them applies is a choice of whatever prints the number, so each place
has its own rule here.

## Main definitions

* `positional`: The shortest digits without a power of ten.
* `counterText`: For counters, a power of ten from a million on.
* `logText`: For log lines, a power of ten from `10^21` on and below `10^-6`.
* `fixedText`: A fixed count of decimals.
-/

namespace Passforge.Number

/-- The decimal digits of a natural number. -/
def digitsOf (n : Nat) : List Char :=
  Nat.toDigits 10 n

/-- An integer in decimal. -/
def signedDigits (n : Int) : List Char :=
  if n < 0 then '-' :: digitsOf n.natAbs else digitsOf n.natAbs

/-- `digits · 10^p` written with a point where needed. -/
def positional (digits : List Char) (p : Int) : List Char :=
  if 0 ≤ p then digits ++ List.replicate p.toNat '0'
  else
    let places := (-p).toNat
    if places < digits.length then
      digits.take (digits.length - places) ++ '.' :: digits.drop (digits.length - places)
    else '0' :: '.' :: List.replicate (places - digits.length) '0' ++ digits

/-- The exponent of ten with its sign and at least `width` digits. -/
def exponentText (e : Int) (width : Nat) : List Char :=
  let digits := digitsOf e.natAbs
  (if e < 0 then '-' else '+') :: List.replicate (width - digits.length) '0' ++ digits

/-- `digits · 10^p` with one digit before the point and a power of ten. -/
def scientific (digits : List Char) (p : Int) (width : Nat) : List Char :=
  let e := p + digits.length - 1
  (match digits with
    | [] => []
    | [d] => [d]
    | d :: rest => d :: '.' :: rest) ++ 'e' :: exponentText e width

/-- Which numbers are written with a power of ten, by the exponent `e` of the
    leading digit, and how wide that power is at least. -/
structure Style where
  isScientific : Int → Bool
  width : Nat

/-- A value in the given style; a negative zero keeps its sign. -/
def Style.write (style : Style) : Binary64 → String
  | .nan => "NaN"
  | .infinite negative => if negative then "-Inf" else "+Inf"
  | .finite negative m q =>
    let sign := if negative then ['-'] else []
    if m == 0 then String.ofList (sign ++ ['0'])
    else
      let (d, p) := shortestDigits m q
      let digits := digitsOf d
      let e := p + digits.length - 1
      String.ofList (sign ++
        if style.isScientific e then scientific digits p style.width else positional digits p)

/-- Settings: always positional. -/
def plainStyle : Style := ⟨fun _ => false, 1⟩

/-- Counters: powers of ten with two digits, from a million on and below a
    ten-thousandth. -/
def counterStyle : Style := ⟨fun e => decide (e < -4 ∨ 6 ≤ e), 2⟩

/-- Log lines: powers of ten from `10^21` on and below a millionth. -/
def logStyle : Style := ⟨fun e => decide (e < -6 ∨ 21 ≤ e), 1⟩

/-- A counter's value, rounded to a floating-point number first. -/
def counterText (n : Nat) : String :=
  counterStyle.write (.ofRatio false n 1)

/-- A finite value with exactly `places` decimals, a half to the even last
    digit. -/
def fixedText (places : Nat) : Binary64 → String
  | .nan => "NaN"
  | .infinite negative => if negative then "-Inf" else "+Inf"
  | .finite negative m q =>
    let scaled :=
      if 0 ≤ q then m * twoTo q.toNat * tenTo places
      else roundQuot (m * tenTo places) (twoTo (-q).toNat)
    let digits := digitsOf scaled
    let padded := List.replicate (places + 1 - digits.length) '0' ++ digits
    String.ofList ((if negative then ['-'] else []) ++ positional padded (-places))

end Passforge.Number
