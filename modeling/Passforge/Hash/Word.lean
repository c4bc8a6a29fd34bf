/-!
# Words and Bytes

Hash functions work on 64-bit words but take and give bytes. Words are spelled
low byte first.

## Main definitions

* `wordBytes`: The eight bytes of a word.
* `wordAt`: The word at a place in a byte string, missing bytes counting as
  zero.
* `lengthBytes`: A number in four bytes.
* `rotateRight`: Rotation of a word.
-/

namespace Passforge.Hash

/-- The eight bytes of a word, low byte first. -/
def wordBytes (w : UInt64) : List UInt8 :=
  [w.toUInt8, (w >>> 8).toUInt8, (w >>> 16).toUInt8, (w >>> 24).toUInt8,
    (w >>> 32).toUInt8, (w >>> 40).toUInt8, (w >>> 48).toUInt8, (w >>> 56).toUInt8]

/-- The byte at a place, zero past the end. -/
def byteAt (data : ByteArray) (i : Nat) : UInt64 :=
  if h : i < data.size then data[i].toUInt64 else 0

/-- The word at a place, bytes past the end counting as zero. -/
def wordAt (data : ByteArray) (i : Nat) : UInt64 :=
  byteAt data i ||| (byteAt data (i + 1) <<< 8) ||| (byteAt data (i + 2) <<< 16) |||
    (byteAt data (i + 3) <<< 24) ||| (byteAt data (i + 4) <<< 32) |||
    (byteAt data (i + 5) <<< 40) ||| (byteAt data (i + 6) <<< 48) |||
    (byteAt data (i + 7) <<< 56)

/-- A number in four bytes, low byte first; higher digits are lost. -/
def lengthBytes (n : Nat) : List UInt8 :=
  [UInt8.ofNat n, UInt8.ofNat (n / 256), UInt8.ofNat (n / 65536), UInt8.ofNat (n / 16777216)]

/-- A word rotated to the right by `n` bits, `n` from 1 to 63. -/
@[inline] def rotateRight (w n : UInt64) : UInt64 :=
  (w >>> n) ||| (w <<< (64 - n))

end Passforge.Hash
