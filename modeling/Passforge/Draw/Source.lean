import Passforge.Fault

/-!
# Sources of Draws

A source answers draws: given a bound it names a number, ideally one below the
bound. Nothing more is assumed, so whatever uses a source must cope with any
answer, and a source may fault or fail to end.

## Main definitions

* `Source`: What answers draws on a state.
* `ListedSource`: Answers a fixed list in turn, again and again, whatever the
  bound.
-/

namespace Passforge

/-- Something that answers draws on a state of type `σ`. -/
structure Source (σ : Type) where
  /-- The answer to a draw with the given bound. -/
  draw : (bound : Int) → Run σ Int

/-- A fixed list of answers, given in turn and from the start again. -/
structure ListedSource where
  values : Array Int
  next : Nat

namespace ListedSource

/-- The next value of the list; the bound is ignored. -/
def source : Source ListedSource where
  draw _ := do
    let s ← get
    set { s with next := s.next + 1 }
    return s.values.getD (s.next % s.values.size) 0

end ListedSource

end Passforge
