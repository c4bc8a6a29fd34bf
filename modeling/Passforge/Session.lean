import Passforge.Generator
import Passforge.Log.Journal
import Passforge.Metrics.Tally
import Passforge.Number.Entropy

/-!
# Serving Requests

Generating a string leaves traces besides the string: counters move, and an
event tells the length, the size of the alphabet and the entropy. A session
holds what these traces go to, next to the state of the source.

A refused request is counted but not logged, and a request that faults leaves no
trace at all except in the source it drew from.

## Main definitions

* `Session`: Source state, counters and journal.
* `Request.event`: What is logged about a served request.
* `Generator.serve`: Generates, counts and logs.
-/

namespace Passforge

/-- What serving requests works on. -/
structure Session (σ : Type) where
  supply : σ
  board : Metrics.Board
  journal : Log.Journal

/-- The entropy of a string drawn for a request, equal symbols counting once. -/
def Request.entropy (r : Request) : Number.Binary64 :=
  Number.entropyBits r.length r.alphabet.unique.size

/-- What is logged about a served request. -/
def Request.event (r : Request) : Log.Event where
  level := Log.Level.debug
  fields := [("length", .integer r.length), ("alphabet", .integer r.alphabet.size),
    ("entropy", .real r.entropy)]
  message := "string generated"

/-- Generates a string, counts the outcome, and logs a success. -/
def Generator.serve {σ : Type} (g : Generator) (source : Source σ) (r : Request) :
    Run (Session σ) (Except Rejection String) := do
  let outcome ← Run.within (·.supply) (fun supply session => { session with supply })
    (g.generate source r)
  modify fun session => { session with board := session.board.account r.length outcome }
  match outcome with
  | .ok _ => modify fun session => { session with journal := session.journal.log r.event }
  | .error _ => pure ()
  return outcome

end Passforge
