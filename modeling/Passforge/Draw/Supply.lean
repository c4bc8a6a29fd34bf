import Passforge.Draw.Buffered
import Passforge.Draw.Seeded

/-!
# A Supply of Draws

A generator draws from one of three sources: the buffered one, the seeded one,
or a fixed list. The supply holds the state of whichever is in use together with
the random stream, so that everything else that needs random bytes reads from
the same stream.

## Main definitions

* `Drawer`: The state of the source in use.
* `Supply`: That state and the random stream.
* `Supply.source`: The source in use.
-/

namespace Passforge

/-- The state of the source in use. -/
inductive Drawer where
  | buffered (b : Buffer)
  | seeded (s : SeededState)
  | listed (l : ListedSource)

/-- The random stream and a source. -/
structure Supply where
  entropy : Entropy
  drawer : Drawer

namespace Supply

/-- Draws from the buffered source. -/
def drawBuffered (b : Buffer) (bound : Int) : Run Supply Int := fun s =>
  match (Buffer.source.draw bound) ⟨s.entropy, b⟩ with
  | (result, r) => (result, ⟨r.entropy, .buffered r.buffer⟩)

/-- Draws from the seeded source. -/
def drawSeeded (state : SeededState) (bound : Int) : Run Supply Int := fun s =>
  match (SeededState.source.draw bound) state with
  | (result, state) => (result, ⟨s.entropy, .seeded state⟩)

/-- Draws from the list. -/
def drawListed (l : ListedSource) (bound : Int) : Run Supply Int := fun s =>
  match (ListedSource.source.draw bound) l with
  | (result, l) => (result, ⟨s.entropy, .listed l⟩)

/-- The source in use. -/
def source : Source Supply where
  draw bound := do
    match (← get).drawer with
    | .buffered b => drawBuffered b bound
    | .seeded s => drawSeeded s bound
    | .listed l => drawListed l bound

end Supply

end Passforge
