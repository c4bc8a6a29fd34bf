import Passforge.Fault

/-!
# The Random Stream

All random bytes come from one endless stream, read front to back by everything
that needs some. Reading moves the position on, so no byte is handed out twice.

A draw that rejects unsuitable values cannot know whether the stream ever holds
a suitable one. The stream therefore carries a *patience*: how many values one
draw may inspect before it counts as endless. For a stream that repeats a cycle,
a patience of the cycle's length and one buffer is exact, since what was
rejected throughout a whole cycle is rejected for good.

## Main definitions

* `Entropy`: A stream of bytes with a position and a patience.
* `Entropy.cycle`: The stream that repeats the given bytes.
* `Entropy.read`: The next bytes.
-/

namespace Passforge

/-- An endless stream of random bytes and how far it has been read. -/
structure Entropy where
  /-- The byte at each position. -/
  byteAt : Nat → UInt8
  /-- How many bytes have been read. -/
  position : Nat
  /-- How many values a single draw may inspect. -/
  patience : Nat

namespace Entropy

/-- How many bytes a buffered source reads at a time. -/
def blockSize : Nat := 512

/-- The stream that repeats `bytes`, zeros if there are none. -/
def cycle (bytes : Array UInt8) : Entropy where
  byteAt i := bytes.getD (i % bytes.size) 0
  position := 0
  patience := blockSize + bytes.size + 64

/-- The `count` bytes from position `start` on. -/
def slice (e : Entropy) (start count : Nat) : List UInt8 :=
  (List.range' start count).map e.byteAt

/-- The next `count` bytes. -/
def read (count : Nat) : Run Entropy (List UInt8) := do
  let e ← get
  set { e with position := e.position + count }
  return e.slice e.position count

end Entropy

end Passforge
