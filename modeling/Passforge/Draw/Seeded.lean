import Passforge.Draw.Source
import Passforge.Number.Power

/-!
# Seeded Draws

A reproducible source: a 128-bit linear congruential state whose output is
scrambled to 64 bits. The same seed always gives the same draws, which is what
tests want and what secrets must never use.

A bound that is a power of two takes the low bits of one output. Any other bound
multiplies the output by the bound and takes the high half, drawing again while
the low half falls into the part that would favour some answers. The state runs
through all its values before it repeats, so a loop that has looked at as many
outputs as there are states would never end; that is the limit it is given.

## Main definitions

* `SeededState`: The 128-bit state.
* `SeededState.ofSeed`: The state a seed starts from.
* `SeededState.step`, `SeededState.output`: One step, and the scrambled output.
* `SeededState.choose`: A uniform choice.
* `SeededState.source`: The source.
-/

namespace Passforge

/-- The state of a seeded source. -/
structure SeededState where
  bits : BitVec 128
  deriving DecidableEq

namespace SeededState

/-- What is mixed into the low half of the first state. -/
def seedMix : BitVec 64 := 0x9e3779b97f4a7c15#64

/-- The factor of a step. -/
def factor : BitVec 128 := 2549297995355413924#64 ++ 4865540595714422341#64

/-- The increment of a step. -/
def increment : BitVec 128 := 6364136223846793005#64 ++ 1442695040888963407#64

/-- The state a seed starts from. -/
def ofSeed (seed : BitVec 64) : SeededState :=
  ⟨seed ++ (seed ^^^ seedMix)⟩

/-- The next state. -/
def step (s : SeededState) : SeededState :=
  ⟨s.bits * factor + increment⟩

/-- The scrambled output of a state. -/
def output (s : SeededState) : BitVec 64 :=
  let high := s.bits.extractLsb' 64 64
  let low := s.bits.extractLsb' 0 64
  let high := (high ^^^ (high >>> 32)) * 0xda942042e4dd58b5#64
  (high ^^^ (high >>> 48)) * (low ||| 1#64)

/-- One raw 64-bit draw. -/
def next : Run SeededState Nat := do
  let s ← get
  set s.step
  return s.step.output.toNat

/-- The low halves below this one are rejected for `n` choices. -/
def lowCut (n : Nat) : Nat :=
  (Number.twoTo 64 - n) % n

/-- The high half of a product whose low half is acceptable, among at most
    `limit` draws. -/
def drawHigh (n : Nat) : (limit : Nat) → Run SeededState Nat
  | 0 => throw .endless
  | limit + 1 => do
    let product := (← next) * n
    if product % Number.twoTo 64 < lowCut n then drawHigh n limit
    else return product / Number.twoTo 64

/-- How many states there are. -/
def period : Nat := Number.twoTo 128

/-- A uniform choice among `n`, by one draw if `n` is a power of two. -/
def choose (n : Nat) : Run SeededState Nat := do
  if n &&& (n - 1) == 0 then return (← next) &&& (n - 1)
  else drawHigh n period

/-- The source of seeded draws. A bound below one is a fault. -/
def source : Source SeededState where
  draw bound := do
    if bound ≤ 0 then Run.fault .seededBound
    return (← choose bound.toNat : Nat)

end SeededState

end Passforge
