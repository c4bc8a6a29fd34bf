import Passforge.Number.Literal
import Passforge.Toml.Document

/-!
# Numbers, Dates and Times of Configuration Files

A number or a date is first cut off by the characters it can hold and then read
as a whole. Two or four leading digits before a colon or a dash announce a time
or a date; everything else is a number, an integer unless it holds a point or an
exponent.

Integers have 64 bits. A real number is rounded to the nearest 64-bit value; one
too great for that is refused, one too small becomes zero.

## Main definitions

* `integer?`, `real?`, `moment?`: Reads a whole piece of text.
* `number`: A number, date or time and the characters after it.
-/

namespace Passforge.Toml

/-- A decimal digit. -/
def isDigit (c : Char) : Bool :=
  '0' ≤ c && c ≤ '9'

/-- A digit of a number with a base mark, or an underscore between digits. -/
def isMarkedDigit (base : Nat) (c : Char) : Bool :=
  c == '_' || (Number.digitValue? c).any (· < base)

/-- The base that a mark after a leading zero stands for. -/
def markedBase? : Char → Option Nat
  | 'x' => some 16
  | 'o' => some 8
  | 'b' => some 2
  | _ => none

/-- Takes underscores away, each of which must stand between two other
    characters of which the one before is a digit. -/
def withoutUnderscores (afterDigit : Bool) : List Char → Option (List Char)
  | [] => some []
  | ['_'] => none
  | '_' :: rest => if afterDigit then withoutUnderscores false rest else none
  | c :: rest => (withoutUnderscores (c != '+' && c != '-') rest).map (c :: ·)

/-- The magnitude of an integer with a base mark. -/
def markedInteger? (base : Nat) (digits : List Char) : Option Int := do
  match ← withoutUnderscores false digits with
  | [] => none
  | digits =>
    let n ← (Number.readDigits base false 0 digits).toOption
    (Number.signed false n).toOption

/-- A decimal integer, without needless zeros in front. -/
def integer? (cs : List Char) : Option Int := do
  let cs ← withoutUnderscores false cs
  let (negative, digits) := Number.splitSign cs
  match digits with
  | '0' :: _ :: _ => none
  | _ =>
    let n ← (Number.decimalNat digits).toOption
    (Number.signed negative n).toOption

/-- No underscore stands next to the point or the exponent mark. -/
def pointsApart : List Char → Bool
  | a :: b :: rest =>
    !(a == '_' && (b == '.' || b == 'e' || b == 'E')) &&
      !((a == '.' || a == 'e' || a == 'E') && b == '_') && pointsApart (b :: rest)
  | _ => true

/-- The decimal exponents beyond which a number is too great or too small for 64
    bits. -/
def exponentReach : Int := 400

/-- The value `digits · 10^exponent`; nothing if it is too great. -/
def scaled? (negative : Bool) (digits : List Char) (exponent : Int) : Option Number.Binary64 :=
  let significant := digits.dropWhile (· == '0')
  let n := significant.foldl (fun n c => n * 10 + (c.toNat - 48)) 0
  let reach := exponent + significant.length
  let value :=
    if n == 0 || reach < -exponentReach then Number.Binary64.ofRatio negative 0 1
    else if exponentReach < reach then .infinite negative
    else if 0 ≤ exponent then Number.Binary64.ofRatio negative (n * Number.tenTo exponent.toNat) 1
    else Number.Binary64.ofRatio negative n (Number.tenTo (-exponent).toNat)
  match value with
  | .infinite _ => none
  | value => some value

/-- The exponent of a real number, from its mark on. -/
def exponent? : List Char → Option Int
  | [] => some 0
  | mark :: rest =>
    if mark == 'e' || mark == 'E' then
      let (negative, digits) := Number.splitSign rest
      if digits.isEmpty || digits.any (!isDigit ·) then none
      else
        let n : Nat := digits.foldl (fun n c => n * 10 + (c.toNat - 48)) 0
        some (if negative then -n else n)
    else none

/-- A real number without its sign. -/
def unsignedReal? (negative : Bool) (cs : List Char) : Option Number.Binary64 :=
  let whole := cs.takeWhile isDigit
  match whole, cs.dropWhile isDigit with
  | [], ['i', 'n', 'f'] => some (.infinite negative)
  | [], ['n', 'a', 'n'] => some .nan
  | [], _ => none
  | '0' :: _ :: _, _ => none
  | whole, '.' :: rest =>
    let fraction := rest.takeWhile isDigit
    if fraction.isEmpty then none
    else do
      let e ← exponent? (rest.dropWhile isDigit)
      scaled? negative (whole ++ fraction) (e - fraction.length)
  | whole, rest => do scaled? negative whole (← exponent? rest)

/-- A real number. -/
def real? (cs : List Char) : Option Number.Binary64 := do
  if !pointsApart cs then none
  let cs ← withoutUnderscores false cs
  let (negative, cs) := Number.splitSign cs
  unsignedReal? negative cs

/-- The number that two digits stand for. -/
def twoDigits? (a b : Char) : Option Nat :=
  if isDigit a && isDigit b then some ((a.toNat - 48) * 10 + (b.toNat - 48)) else none

/-- The days of a month. -/
def daysIn (year month : Nat) : Nat :=
  if month == 2 then
    if year % 4 == 0 && (year % 100 != 0 || year % 400 == 0) then 29 else 28
  else if month == 4 || month == 6 || month == 9 || month == 11 then 30
  else 31

/-- The characters after a date that exists. -/
def afterDate : List Char → Option (List Char)
  | a :: b :: c :: d :: '-' :: e :: f :: '-' :: g :: h :: rest => do
    let year := (← twoDigits? a b) * 100 + (← twoDigits? c d)
    let month ← twoDigits? e f
    let day ← twoDigits? g h
    if 1 ≤ month ∧ month ≤ 12 ∧ 1 ≤ day ∧ day ≤ daysIn year month then some rest else none
  | _ => none

/-- The characters after a time of day. A minute may have a leap second, and a
    second a fraction. -/
def afterTime : List Char → Option (List Char)
  | a :: b :: ':' :: c :: d :: ':' :: e :: f :: rest => do
    let hour ← twoDigits? a b
    let minute ← twoDigits? c d
    let second ← twoDigits? e f
    if 23 < hour ∨ 59 < minute ∨ 60 < second then none
    else
      match rest with
      | '.' :: g :: rest => if isDigit g then some (rest.dropWhile isDigit) else none
      | ['.'] => none
      | rest => some rest
  | _ => none

/-- The characters after a date and a time of day. -/
def afterDateTime (cs : List Char) : Option (List Char) := do
  match ← afterDate cs with
  | c :: rest => if c == 'T' || c == 't' || c == ' ' then afterTime rest else none
  | [] => none

/-- The distance to universal time. -/
def isOffset : List Char → Bool
  | [c] => c == 'Z' || c == 'z'
  | [sign, a, b, ':', c, d] =>
    (sign == '+' || sign == '-') && (twoDigits? a b).any (· ≤ 23) && (twoDigits? c d).any (· ≤ 59)
  | _ => false

/-- A date or time of a kind is well formed. -/
def isMoment : MomentKind → List Char → Bool
  | .localDate, cs => afterDate cs == some []
  | .localTime, cs => afterTime cs == some []
  | .localDateTime, cs => afterDateTime cs == some []
  | .offsetDateTime, cs => (afterDateTime cs).any isOffset

/-- What a piece of text that starts like a date or time has: a dash, a dash
    behind the date, a sign or letter of an offset, and a mark of a time. -/
def momentKind (cs : List Char) : MomentKind :=
  let hasTime := cs.any fun c => c == 'T' || c == 't' || c == ':' || c == '.' || c == ' '
  let hasOffset := (cs.drop 8).contains '-' || cs.any fun c => c == '+' || c == 'Z' || c == 'z'
  if hasTime then
    if cs.contains '-' then (if hasOffset then .offsetDateTime else .localDateTime) else .localTime
  else .localDate

/-- A character of a date or time, the space between them apart. -/
def isMomentChar (c : Char) : Bool :=
  isDigit c || c == '-' || c == ':' || c == '.' || c == '+' || c == 'T' || c == 't' || c == 'Z' ||
    c == 'z'

/-- Cuts off a date or time. One space may stand in it, before a digit. -/
def spanMoment (cs : List Char) : List Char × List Char :=
  let front := cs.takeWhile isMomentChar
  match cs.dropWhile isMomentChar with
  | ' ' :: c :: rest =>
    if isDigit c then
      (front ++ ' ' :: c :: rest.takeWhile isMomentChar, rest.dropWhile isMomentChar)
    else (front, ' ' :: c :: rest)
  | rest => (front, rest)

/-- The characters announce a date or time: two digits and a colon, or four
    digits and a dash. -/
def announcesMoment : List Char → Bool
  | a :: b :: ':' :: _ => isDigit a && isDigit b
  | a :: b :: c :: d :: '-' :: _ => isDigit a && isDigit b && isDigit c && isDigit d
  | _ => false

/-- A character of a decimal number. -/
def isNumberChar (c : Char) : Bool :=
  isDigit c || c == '+' || c == '-' || c == '_' || c == '.' || c == 'e' || c == 'E'

/-- A decimal number, infinity or not-a-number, and the characters after it. -/
def decimalNumber (cs : List Char) : Option (Value × List Char) :=
  let front := cs.takeWhile isNumberChar
  match cs.dropWhile isNumberChar with
  | 'i' :: 'n' :: 'f' :: rest => (real? (front ++ ['i', 'n', 'f'])).map fun x => (.real x, rest)
  | 'n' :: 'a' :: 'n' :: rest => (real? (front ++ ['n', 'a', 'n'])).map fun x => (.real x, rest)
  | rest =>
    if front.any fun c => c == '.' || c == 'e' || c == 'E' then
      (real? front).map fun x => (.real x, rest)
    else (integer? front).map fun n => (.integer n, rest)

/-- A number, date or time, and the characters after it. -/
def number (cs : List Char) : Option (Value × List Char) :=
  if announcesMoment cs then
    let (front, rest) := spanMoment cs
    let kind := momentKind front
    if isMoment kind front then some (.moment kind (String.ofList front), rest) else none
  else
    match cs with
    | '0' :: mark :: rest =>
      match markedBase? mark with
      | some base =>
        (markedInteger? base (rest.takeWhile (isMarkedDigit base))).map fun n =>
          (.integer n, rest.dropWhile (isMarkedDigit base))
      | none => decimalNumber cs
    | _ => decimalNumber cs

end Passforge.Toml
