/-!
# Faults

Some requests break a contract that the program does not guard: an index outside
an alphabet, a draw from an empty range, a counter that would have to fall. They
stop the operation at once and are told apart from errors, which are ordinary
answers.

A drawing loop can also fail to end, when the random bytes never hold an
acceptable value. That is neither an answer nor a fault, so `Halt` keeps the two
ways of not answering apart.

## Main definitions

* `Fault`: Why an operation stopped at once, with `Fault.message`.
* `Halt`: A fault, or a loop that never ends.
* `Run`: A computation on a state that may halt. The state survives a halt.
-/

namespace Passforge

/-- Why an operation stopped at once. -/
inductive Fault where
  /-- Position `index` of a sequence of `size` elements. -/
  | outOfRange (index : Int) (size : Nat)
  /-- A seeded draw from fewer than one value. -/
  | seededBound
  /-- A buffered draw from fewer than one value. -/
  | bufferedBound
  /-- A negative amount added to a counter. -/
  | counterDecrease
  /-- A second set of counters under the same names. -/
  | duplicateCounters
  /-- Key derivation with no pass over the memory. -/
  | noPasses
  /-- Key derivation with no lane. -/
  | noLanes
  /-- Key derivation of an empty key. -/
  | emptyKey
  deriving DecidableEq

/-- The text of a fault. -/
def Fault.message : Fault → String
  | .outOfRange index size =>
    if index < 0 then s!"runtime error: index out of range [{index}]"
    else s!"runtime error: index out of range [{index}] with length {size}"
  | .seededBound => "invalid argument to IntN"
  | .bufferedBound => "randstr: invalid argument to IntN"
  | .counterDecrease => "counter cannot decrease in value"
  | .duplicateCounters => "duplicate metrics collector registration attempted"
  | .noPasses => "argon2: number of rounds too small"
  | .noLanes => "argon2: parallelism degree too low"
  | .emptyKey => "runtime error: invalid memory address or nil pointer dereference"

/-- Why a computation gave no answer. -/
inductive Halt where
  | fault (f : Fault)
  | endless
  deriving DecidableEq

/-- A computation on a state that may halt; the state reached is kept either
    way. -/
abbrev Run (σ α : Type) : Type :=
  ExceptT Halt (StateM σ) α

/-- Stops with a fault. -/
def Run.fault {σ α : Type} (f : Fault) : Run σ α :=
  throw (.fault f)

/-- Runs a computation on a part of the state. -/
def Run.within {σ τ α : Type} (get : σ → τ) (set : τ → σ → σ) (run : Run τ α) : Run σ α :=
  fun s =>
    let (result, part) := run (get s)
    (result, set part s)

end Passforge
