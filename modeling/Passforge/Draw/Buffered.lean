import Passforge.Draw.Entropy
import Passforge.Draw.Source
import Passforge.Number.Power

/-!
# Buffered Uniform Draws

A source that draws uniformly from the random stream. It reads a block at a time
and hands out the block's bytes in order; what is left of a block when a draw
needs more than that is dropped.

A draw from up to 256 choices looks at single bytes, one from more choices at
words of eight bytes, low byte first. Reducing a value modulo the number of
choices favours the small remainders unless the values come in whole rounds, so
the excess is rejected and drawn again: the highest bytes in the one case, the
lowest words in the other.

## Main definitions

* `Buffer`: The bytes read but not yet used.
* `Buffer.take`: The next bytes, from the buffer or from a fresh block.
* `Buffer.drawByte`, `Buffer.drawWord`: Draws again until a value is acceptable.
* `Buffer.source`: The source.
-/

namespace Passforge

/-- The bytes of the current block that no draw has used. -/
structure Buffer where
  unread : List UInt8

/-- A buffered source together with the stream behind it. -/
structure Reservoir where
  entropy : Entropy
  buffer : Buffer

namespace Buffer

/-- A buffer that reads a block at the first draw. -/
def empty : Buffer := ⟨[]⟩

/-- The next `count` bytes. A block that holds fewer is dropped for a fresh
    one. -/
def take (count : Nat) : Run Reservoir (List UInt8) := do
  let r ← get
  if count ≤ r.buffer.unread.length then
    set { r with buffer := ⟨r.buffer.unread.drop count⟩ }
    return r.buffer.unread.take count
  else
    let block := r.entropy.slice r.entropy.position Entropy.blockSize
    set { entropy := { r.entropy with position := r.entropy.position + Entropy.blockSize },
          buffer := ⟨block.drop count⟩ : Reservoir }
    return block.take count

/-- The number that bytes spell, low byte first. -/
def littleEndian (bytes : List UInt8) : Nat :=
  bytes.foldr (fun b n => b.toNat + 256 * n) 0

/-- The highest byte that is acceptable for `n` choices: the bytes up to it come
    in whole rounds. -/
def byteCut (n : Nat) : Nat :=
  255 - 256 % n

/-- The lowest word that is acceptable for `n` choices: the words from it on
    come in whole rounds. -/
def wordCut (n : Nat) : Nat :=
  (Number.twoTo 64 - n) % n

/-- An acceptable byte for `n` choices, reduced to a choice, looking at no more
    than `patience`. -/
def drawByte (n : Nat) : (patience : Nat) → Run Reservoir Nat
  | 0 => throw .endless
  | patience + 1 => do
    let value := littleEndian (← take 1)
    if value ≤ byteCut n then return value % n else drawByte n patience

/-- An acceptable word for `n` choices, reduced to a choice, looking at no more
    than `patience`. -/
def drawWord (n : Nat) : (patience : Nat) → Run Reservoir Nat
  | 0 => throw .endless
  | patience + 1 => do
    let value := littleEndian (← take 8)
    if wordCut n ≤ value then return value % n else drawWord n patience

/-- A uniform choice among `n`. A single choice needs no randomness. -/
def choose (n : Nat) : Run Reservoir Nat := do
  if n == 1 then return 0
  let r ← get
  if n ≤ 256 then drawByte n r.entropy.patience else drawWord n r.entropy.patience

/-- The source of uniform draws. A bound below one is a fault. -/
def source : Source Reservoir where
  draw bound := do
    if bound ≤ 0 then Run.fault .bufferedBound
    return (← choose bound.toNat : Nat)

end Buffer

end Passforge
