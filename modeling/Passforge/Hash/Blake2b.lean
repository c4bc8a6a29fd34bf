import Passforge.Hash.Word
import Passforge.Number.Power

/-!
# BLAKE2b

The BLAKE2b hash function without a key, for digests of up to 64 bytes, and the
variable-length hash built on it, which strings together half digests until
enough bytes are there.

Data is taken in blocks of 128 bytes, the last one filled up with zeros. Every
block is mixed into the eight words of state together with the number of bytes
seen so far, and the last block is marked as such.

## Main definitions

* `Blake2b.compress`: Mixes one block into the state.
* `Blake2b.digest`: The digest of a byte string.
* `longDigest`: A digest of any length.
-/

namespace Passforge.Hash

namespace Blake2b

/-- The state words of the hash function. -/
abbrev State : Type := Vector UInt64 8

/-- The initial words. -/
def initial : State :=
  #v[0x6a09e667f3bcc908, 0xbb67ae8584caa73b, 0x3c6ef372fe94f82b, 0xa54ff53a5f1d36f1,
    0x510e527fade682d1, 0x9b05688c2b3e6c1f, 0x1f83d9abfb41bd6b, 0x5be0cd19137e2179]

/-- The order in which a round takes the words of a block. -/
def schedule : List (List Nat) :=
  let rounds := [
    [0, 1, 2, 3, 4, 5, 6, 7, 8, 9, 10, 11, 12, 13, 14, 15],
    [14, 10, 4, 8, 9, 15, 13, 6, 1, 12, 0, 2, 11, 7, 5, 3],
    [11, 8, 12, 0, 5, 2, 15, 13, 10, 14, 3, 6, 7, 1, 9, 4],
    [7, 9, 3, 1, 13, 12, 11, 14, 2, 6, 5, 10, 4, 0, 15, 8],
    [9, 0, 5, 7, 2, 4, 10, 15, 14, 1, 11, 12, 6, 8, 3, 13],
    [2, 12, 6, 10, 0, 11, 8, 3, 4, 13, 7, 5, 15, 14, 1, 9],
    [12, 5, 1, 15, 14, 13, 4, 10, 0, 7, 6, 3, 9, 2, 8, 11],
    [13, 11, 7, 14, 12, 1, 3, 9, 5, 0, 15, 4, 8, 6, 2, 10],
    [6, 15, 14, 9, 11, 3, 0, 8, 12, 2, 13, 7, 1, 4, 10, 5],
    [10, 2, 8, 4, 7, 6, 1, 5, 15, 11, 9, 14, 3, 12, 13, 0]]
  rounds ++ rounds.take 2

/-- The four words each mixing step of a round works on. -/
def lanes : List (Nat × Nat × Nat × Nat) :=
  [(0, 4, 8, 12), (1, 5, 9, 13), (2, 6, 10, 14), (3, 7, 11, 15),
    (0, 5, 10, 15), (1, 6, 11, 12), (2, 7, 8, 13), (3, 4, 9, 14)]

/-- Mixes two message words into four working words. -/
def mix (v : Array UInt64) (lane : Nat × Nat × Nat × Nat) (x y : UInt64) : Array UInt64 :=
  let (ia, ib, ic, id) := lane
  let a := v.getD ia 0
  let b := v.getD ib 0
  let c := v.getD ic 0
  let d := v.getD id 0
  let a := a + b + x
  let d := rotateRight (d ^^^ a) 32
  let c := c + d
  let b := rotateRight (b ^^^ c) 24
  let a := a + b + y
  let d := rotateRight (d ^^^ a) 16
  let c := c + d
  let b := rotateRight (b ^^^ c) 63
  (((v.setIfInBounds ia a).setIfInBounds ib b).setIfInBounds ic c).setIfInBounds id d

/-- One round: the mixing steps in turn, each with the next two message words of
    the order. -/
def round (message : Array UInt64) (v : Array UInt64) (order : List Nat) : Array UInt64 :=
  (lanes.zipIdx).foldl (fun v (lane, i) =>
    mix v lane (message.getD (order.getD (2 * i) 0) 0)
      (message.getD (order.getD (2 * i + 1) 0) 0)) v

/-- Mixes the block at `offset` into the state, `seen` bytes having been taken
    with it. -/
def compress (h : State) (data : ByteArray) (offset seen : Nat) (last : Bool) : State :=
  let message := ((List.range 16).map fun i => wordAt data (offset + 8 * i)).toArray
  let v := h.toArray ++ initial.toArray
  let v := v.setIfInBounds 12 (v.getD 12 0 ^^^ UInt64.ofNat seen)
  let v := v.setIfInBounds 13 (v.getD 13 0 ^^^ UInt64.ofNat (seen / Number.twoTo 64))
  let v := if last then v.setIfInBounds 14 (v.getD 14 0 ^^^ 0xffffffffffffffff) else v
  let v := schedule.foldl (round message) v
  Vector.ofFn fun i => h[i] ^^^ v.getD i 0 ^^^ v.getD (i + 8) 0

/-- How many bytes a block has. -/
def blockSize : Nat := 128

/-- The state after all data: every block but the last in order, then the last
    one. -/
def absorb (h : State) (data : ByteArray) : State :=
  let full := (data.size - 1) / blockSize
  let h := (List.range full).foldl (fun h i =>
    compress h data (blockSize * i) (blockSize * (i + 1)) false) h
  compress h data (blockSize * full) data.size true

/-- The digest of `size` bytes, at most 64. -/
def digest (size : Nat) (data : List UInt8) : List UInt8 :=
  let h := initial.set 0 (initial[0] ^^^ 0x01010000 ^^^ UInt64.ofNat size)
  ((absorb h ⟨data.toArray⟩).toList.flatMap wordBytes).take size

end Blake2b

/-- Half digests strung together until the rest fits one digest. -/
def chainedDigest (size : Nat) (data : List UInt8) : List UInt8 :=
  if size ≤ 64 then Blake2b.digest size data
  else
    let next := Blake2b.digest 64 data
    next.take 32 ++ chainedDigest (size - 32) next
termination_by size

/-- A digest of any size, which is hashed along with the data. -/
def longDigest (size : Nat) (data : List UInt8) : List UInt8 :=
  chainedDigest size (lengthBytes size ++ data)

end Passforge.Hash
