import Passforge.Number.Binary64

/-!
# Shortest Decimals

The fewest decimal digits that read back as the same binary floating-point
value. All numbers that round to `m · 2^q` form an interval around it, which
holds its ends exactly when `m` is even. The shortest decimal is the point of
the coarsest decimal grid that meets the interval, and of two such points the
nearer one.

A value that is an exact power of two has a narrower neighbourhood below, since
the spacing halves there.

## Main definitions

* `Neighbourhood`: The interval of numbers that round to a value, over one
  denominator.
* `gridPoint?`: The point of a decimal grid inside the interval, the nearer of
  two.
* `shortestDigits`: Digits and power of ten of the shortest decimal.
-/

namespace Passforge.Number

/-- The numbers that round to `value / scale`: from `low / scale` to `high /
    scale`, ends included if `closed`. -/
structure Neighbourhood where
  low : Nat
  value : Nat
  high : Nat
  scale : Nat
  closed : Bool

/-- The neighbourhood of `m · 2^q`. -/
def neighbourhood (m : Nat) (q : Int) : Neighbourhood :=
  -- A quarter of the spacing is the unit, so that all three numbers are whole.
  let below := if m == twoTo 52 && minExponent < q then 1 else 2
  let up := if 2 ≤ q then twoTo (q - 2).toNat else 1
  let scale := if 2 ≤ q then 1 else twoTo (2 - q).toNat
  { low := (4 * m - below) * up, value := 4 * m * up, high := (4 * m + 2) * up, scale,
    closed := m % 2 == 0 }

/-- The rational `num / den` lies in the neighbourhood. -/
def Neighbourhood.holds (n : Neighbourhood) (num den : Nat) : Bool :=
  let x := num * n.scale
  if n.closed then n.low * den ≤ x && x ≤ n.high * den
  else n.low * den < x && x < n.high * den

/-- The multiple of `10^p` in the neighbourhood that is nearest to the value, as
    its multiplier. -/
def gridPoint? (n : Neighbourhood) (p : Int) : Option Nat :=
  let unit := if 0 ≤ p then tenTo p.toNat else 1
  let den := if 0 ≤ p then 1 else tenTo (-p).toNat
  let below := n.value * den / (n.scale * unit)
  let rest := n.value * den % (n.scale * unit)
  match n.holds (below * unit) den, n.holds ((below + 1) * unit) den with
  | true, true =>
    if 2 * rest < n.scale * unit || (2 * rest == n.scale * unit && below % 2 == 0) then some below
    else some (below + 1)
  | true, false => some below
  | false, true => some (below + 1)
  | false, false => none

/-- The first grid from `10^p` on downward that meets the neighbourhood, among
    `count` grids. -/
def coarsest (n : Neighbourhood) (p : Int) : Nat → Nat × Int
  | 0 => (0, p)
  | count + 1 =>
    match gridPoint? n p with
    | some d => (d, p)
    | none => coarsest n (p - 1) count

/-- The digits `d` and the power `p` of the shortest decimal `d · 10^p` of `m ·
    2^q`, `m` not zero. -/
def shortestDigits (m : Nat) (q : Int) : Nat × Int :=
  let n := neighbourhood m q
  let whole := (Nat.toDigits 10 (n.value / n.scale)).length
  -- No value needs a grid finer than its own binary expansion.
  coarsest n whole (whole + 1100)

end Passforge.Number
