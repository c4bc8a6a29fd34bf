import Passforge.Fault
import Passforge.Hash.Blake2b
import Passforge.Number.Power

/-!
# Argon2id

The memory-hard key derivation function Argon2id, version 1.3, without secret
and associated data.

The memory is a table of blocks with a row for every lane. Each block is
computed from its predecessor in the row and from one other block. In the first
half of the first pass that other block follows from the position alone;
afterwards it follows from the predecessor's content. A pass runs through the
table in four slices, and in a slice each lane only looks at blocks of other
lanes that lie in finished slices. The key is the digest of the last column, all
lanes xored together.

## Main definitions

* `CostParameters`: Memory, passes and lanes.
* `Argon2id.fillBlock`: The compression function on blocks.
* `Argon2id.reference`: Which other block a block depends on.
* `Argon2id.derive`: The key derivation, for parameters that allow it.
* `deriveKey`: The key derivation, with faults for the parameters that do not.
-/

namespace Passforge.Hash

/-- How costly a derivation is. -/
structure CostParameters where
  /-- Memory in kibibytes. -/
  memory : Nat
  /-- Passes over the memory. -/
  passes : Nat
  /-- Independent lanes. -/
  lanes : Nat
  deriving DecidableEq

namespace Argon2id

/-- A block of 128 words. -/
abbrev Block : Type := Array UInt64

/-- The words of a block. -/
def blockWords : Nat := 128

/-- How many slices a pass has. -/
def slices : Nat := 4

/-- The block of zeros. -/
def zeroBlock : Block := Array.replicate blockWords 0

/-- Words combined by xor. -/
def xorBlocks (a b : Block) : Block :=
  Array.zipWith (· ^^^ ·) a b

/-- Four words mixed together. -/
structure Quad where
  a : UInt64
  b : UInt64
  c : UInt64
  d : UInt64

/-- A sum that also holds twice the product of the low halves. -/
@[inline] def mulAdd (x y : UInt64) : UInt64 :=
  x + y + 2 * (x &&& 0xffffffff) * (y &&& 0xffffffff)

/-- Mixes four words. -/
@[inline] def mix (a b c d : UInt64) : Quad :=
  let a := mulAdd a b
  let d := rotateRight (d ^^^ a) 32
  let c := mulAdd c d
  let b := rotateRight (b ^^^ c) 24
  let a := mulAdd a b
  let d := rotateRight (d ^^^ a) 16
  let c := mulAdd c d
  let b := rotateRight (b ^^^ c) 63
  ⟨a, b, c, d⟩

/-- Mixes the sixteen words at the given places. -/
def permute (t : Block) (p : Nat → Nat) : Block :=
  let q0 := mix (t.getD (p 0) 0) (t.getD (p 4) 0) (t.getD (p 8) 0) (t.getD (p 12) 0)
  let q1 := mix (t.getD (p 1) 0) (t.getD (p 5) 0) (t.getD (p 9) 0) (t.getD (p 13) 0)
  let q2 := mix (t.getD (p 2) 0) (t.getD (p 6) 0) (t.getD (p 10) 0) (t.getD (p 14) 0)
  let q3 := mix (t.getD (p 3) 0) (t.getD (p 7) 0) (t.getD (p 11) 0) (t.getD (p 15) 0)
  let r0 := mix q0.a q1.b q2.c q3.d
  let r1 := mix q1.a q2.b q3.c q0.d
  let r2 := mix q2.a q3.b q0.c q1.d
  let r3 := mix q3.a q0.b q1.c q2.d
  let t := (((t.setIfInBounds (p 0) r0.a).setIfInBounds (p 1) r1.a).setIfInBounds (p 2)
    r2.a).setIfInBounds (p 3) r3.a
  let t := (((t.setIfInBounds (p 4) r3.b).setIfInBounds (p 5) r0.b).setIfInBounds (p 6)
    r1.b).setIfInBounds (p 7) r2.b
  let t := (((t.setIfInBounds (p 8) r2.c).setIfInBounds (p 9) r3.c).setIfInBounds (p 10)
    r0.c).setIfInBounds (p 11) r1.c
  (((t.setIfInBounds (p 12) r1.d).setIfInBounds (p 13) r2.d).setIfInBounds (p 14)
    r3.d).setIfInBounds (p 15) r0.d

/-- The compression function: mixes rows and then columns of the xor of two
    blocks, and adds that xor again. -/
def fillBlock (x y : Block) : Block :=
  let r := xorBlocks x y
  let t := (List.range 8).foldl (fun t i => permute t fun k => 16 * i + k) r
  let t := (List.range 8).foldl (fun t i => permute t fun k => 2 * i + k / 2 * 16 + k % 2) t
  xorBlocks r t

/-- The blocks of pseudo-random words that position alone determines, `count` of
    them. -/
def addressBlocks (pass lane slice total passes count : Nat) : Array Block :=
  ((List.range count).map fun i =>
    let input := ([pass, lane, slice, total, passes, 2, i + 1].map UInt64.ofNat).toArray ++
      Array.replicate (blockWords - 7) 0
    fillBlock zeroBlock (fillBlock zeroBlock input)).toArray

/-- Where in the memory a block stands. -/
structure Position where
  pass : Nat
  slice : Nat
  lane : Nat
  /-- The place within the segment. -/
  index : Nat

/-- The block a position depends on besides its predecessor, chosen by a
    pseudo-random word. Recent blocks are likelier. -/
def reference (word : UInt64) (columns lanes : Nat) (p : Position) : Nat :=
  let segment := columns / slices
  let lane := if p.pass == 0 && p.slice == 0 then p.lane else (word >>> 32).toNat % lanes
  let same := lane == p.lane
  let finished := if p.pass == 0 then p.slice * segment else 3 * segment
  let own := if same || (p.pass == 0 && p.slice == 0) then p.index else 0
  let size := finished + own - (if p.index == 0 || same then 1 else 0)
  let first := if p.pass == 0 then 0 else (p.slice + 1) % slices * segment
  let low := (word &&& 0xffffffff).toNat
  let back := size * (low * low / Number.twoTo 32) / Number.twoTo 32
  lane * columns + (first + size - (back + 1)) % columns

/-- Computes one block of the memory. -/
def fillPosition (columns lanes : Nat) (addresses : Array Block) (independent : Bool)
    (p : Position) (memory : Array Block) : Array Block :=
  let column := p.slice * (columns / slices) + p.index
  let here := p.lane * columns + column
  let previous := memory.getD (p.lane * columns + (column + columns - 1) % columns) zeroBlock
  let word := if independent then
      (addresses.getD (p.index / blockWords) zeroBlock).getD (p.index % blockWords) 0
    else previous.getD 0 0
  let other := memory.getD (reference word columns lanes p) zeroBlock
  let fresh := fillBlock previous other
  memory.modify here (xorBlocks fresh)

/-- Computes a segment: one lane of one slice. The first two blocks of a lane
    are given. -/
def fillSegment (columns lanes passes : Nat) (pass slice lane : Nat) (memory : Array Block) :
    Array Block :=
  let segment := columns / slices
  let independent := pass == 0 && slice < 2
  let addresses := if independent then
      addressBlocks pass lane slice (columns * lanes) passes
        ((segment + blockWords - 1) / blockWords)
    else #[]
  let start := if pass == 0 && slice == 0 then 2 else 0
  (List.range' start (segment - start)).foldl (fun memory index =>
    fillPosition columns lanes addresses independent ⟨pass, slice, lane, index⟩ memory) memory

/-- All passes over the memory. -/
def fillMemory (columns lanes passes : Nat) (memory : Array Block) : Array Block :=
  (List.range passes).foldl (fun memory pass =>
    (List.range slices).foldl (fun memory slice =>
      (List.range lanes).foldl (fun memory lane =>
        fillSegment columns lanes passes pass slice lane memory) memory) memory) memory

/-- The digest that the whole derivation starts from. -/
def seed (cost : CostParameters) (password salt : List UInt8) (size : Nat) : List UInt8 :=
  Blake2b.digest 64 (lengthBytes cost.lanes ++ lengthBytes size ++ lengthBytes cost.memory ++
    lengthBytes cost.passes ++ lengthBytes 0x13 ++ lengthBytes 2 ++
    lengthBytes password.length ++ password ++ lengthBytes salt.length ++ salt ++
    lengthBytes 0 ++ lengthBytes 0)

/-- The block that bytes spell. -/
def blockOfBytes (bytes : List UInt8) : Block :=
  let data : ByteArray := ⟨bytes.toArray⟩
  ((List.range blockWords).map fun i => wordAt data (8 * i)).toArray

/-- The first two blocks of every lane, the others zero. -/
def startMemory (columns lanes : Nat) (seed : List UInt8) : Array Block :=
  let row (lane : Nat) : List Block :=
    [blockOfBytes (longDigest 1024 (seed ++ lengthBytes 0 ++ lengthBytes lane)),
      blockOfBytes (longDigest 1024 (seed ++ lengthBytes 1 ++ lengthBytes lane))] ++
    List.replicate (columns - 2) zeroBlock
  ((List.range lanes).flatMap row).toArray

/-- The number of columns: memory is used in whole segments, eight blocks a lane
    at least. -/
def columnCount (cost : CostParameters) : Nat :=
  max (2 * slices) (cost.memory / (slices * cost.lanes) * slices)

/-- The derived key of `size` bytes. -/
def derive (cost : CostParameters) (password salt : List UInt8) (size : Nat) : List UInt8 :=
  let columns := columnCount cost
  let memory := fillMemory columns cost.lanes cost.passes
    (startMemory columns cost.lanes (seed cost password salt size))
  let last := (List.range cost.lanes).foldl (fun block lane =>
    xorBlocks block (memory.getD (lane * columns + columns - 1) zeroBlock)) zeroBlock
  longDigest size (last.toList.flatMap wordBytes)

end Argon2id

/-- The derived key of `size` bytes. No pass, no lane and an empty key are
    faults, in this order. -/
def deriveKey (cost : CostParameters) (password salt : List UInt8) (size : Nat) :
    Except Fault (List UInt8) :=
  if cost.passes == 0 then .error .noPasses
  else if cost.lanes == 0 then .error .noLanes
  else if size == 0 then .error .emptyKey
  else .ok (Argon2id.derive cost password salt size)

end Passforge.Hash
