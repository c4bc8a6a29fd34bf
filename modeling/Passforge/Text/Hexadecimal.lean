/-!
# Hexadecimal Digits

Hexadecimal numerals of a fixed width, as escapes in quoted text use them, and
the value of a digit.

## Main definitions

* `lowerHex`, `upperHex`: A number in a fixed count of digits, high digit first.
* `hexValue?`: The value of a digit of either case.
* `hexNumber?`: The number that digits of either case stand for.
-/

namespace Passforge.Text

/-- The digit for `n % 16`, letters in lower case. -/
def lowerHexDigit (n : Nat) : Char :=
  if n % 16 < 10 then Char.ofNat (48 + n % 16) else Char.ofNat (87 + n % 16)

/-- The digit for `n % 16`, letters in upper case. -/
def upperHexDigit (n : Nat) : Char :=
  if n % 16 < 10 then Char.ofNat (48 + n % 16) else Char.ofNat (55 + n % 16)

/-- The last `width` digits of `n`, letters in lower case. -/
def lowerHex : Nat → Nat → List Char
  | 0, _ => []
  | width + 1, n => lowerHex width (n / 16) ++ [lowerHexDigit n]

/-- The last `width` digits of `n`, letters in upper case. -/
def upperHex : Nat → Nat → List Char
  | 0, _ => []
  | width + 1, n => upperHex width (n / 16) ++ [upperHexDigit n]

/-- The value of a hexadecimal digit. -/
def hexValue? (c : Char) : Option Nat :=
  if '0' ≤ c && c ≤ '9' then some (c.toNat - 48)
  else if 'a' ≤ c && c ≤ 'f' then some (c.toNat - 87)
  else if 'A' ≤ c && c ≤ 'F' then some (c.toNat - 55)
  else none

/-- The number that hexadecimal digits stand for. -/
def hexNumber? (digits : List Char) : Option Nat :=
  digits.foldlM (fun n c => (hexValue? c).map (n * 16 + ·)) 0

end Passforge.Text
