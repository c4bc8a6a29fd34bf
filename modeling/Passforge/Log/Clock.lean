/-!
# The Time of a Log Line

The moment an event is logged, in universal time to the second. The date is
counted in days from the first of March of the year zero, so that the leap day
ends a year and the lengths of the months repeat every five.

## Main definitions

* `Date.ofDays`: The date a number of days after the start of 1970.
* `timeText`: A moment as log lines show it.
-/

namespace Passforge.Log

/-- A day of the calendar. -/
structure Date where
  year : Nat
  month : Nat
  day : Nat

/-- The days from the first of March of the year zero to the start of 1970. -/
def epochDay : Nat := 719468

/-- The date a number of days after the start of 1970. -/
def Date.ofDays (days : Nat) : Date :=
  let n := days + epochDay
  -- Four hundred years, the period of the calendar, have 146097 days.
  let within := n % 146097
  let year := (within - within / 1460 + within / 36524 - within / 146096) / 365
  let day := within - (365 * year + year / 4 - year / 100)
  let month := (5 * day + 2) / 153
  let inNextYear := 10 ≤ month
  { year := n / 146097 * 400 + year + (if inNextYear then 1 else 0)
    month := if inNextYear then month - 9 else month + 3
    day := day - (153 * month + 2) / 5 + 1 }

/-- A number with zeros in front up to a width. -/
def zeroPadded (width n : Nat) : String :=
  let digits := Nat.toDigits 10 n
  String.ofList (List.replicate (width - digits.length) '0' ++ digits)

/-- The moment a number of seconds after the start of 1970, as log lines show
    it. -/
def timeText (seconds : Nat) : String :=
  let date := Date.ofDays (seconds / 86400)
  zeroPadded 4 date.year ++ "-" ++ zeroPadded 2 date.month ++ "-" ++ zeroPadded 2 date.day ++ "T" ++
    zeroPadded 2 (seconds / 3600 % 24) ++ ":" ++ zeroPadded 2 (seconds / 60 % 60) ++ ":" ++
    zeroPadded 2 (seconds % 60) ++ "Z"

end Passforge.Log
