import Passforge.Number.Literal
import Passforge.Text.Case

/-!
# Log Levels

A level is a small number. Seven of them name the usual severities, six means no
level at all and seven means that nothing is logged; the others are allowed and
go by their number.

A level is written by name in any case, or as a number that fits eight bits.

## Main definitions

* `Level`: The number of a level, with the named ones.
* `Level.text`: The name of a level, or its number.
* `Level.parse`: The level a text stands for.
* `LevelError`: Why a text stands for none.
-/

namespace Passforge.Log

/-- The number of a level. -/
abbrev Level : Type := Int

namespace Level

/-- The most detailed events. -/
def trace : Level := -1
/-- Events for developers. -/
def debug : Level := 0
/-- Events of ordinary operation. -/
def info : Level := 1
/-- Something that may be wrong. -/
def warn : Level := 2
/-- Something that is wrong. -/
def error : Level := 3
/-- Something that ends the program. -/
def fatal : Level := 4
/-- Something that ends the program at once. -/
def panic : Level := 5
/-- An event without a level. -/
def unleveled : Level := 6
/-- Nothing is logged. -/
def disabled : Level := 7

/-- The name of a level; unnamed levels go by their number, and no level has no
    text. -/
def text (l : Level) : String :=
  match l with
  | -1 => "trace"
  | 0 => "debug"
  | 1 => "info"
  | 2 => "warn"
  | 3 => "error"
  | 4 => "fatal"
  | 5 => "panic"
  | 6 => ""
  | 7 => "disabled"
  | n => toString n

/-- The levels that have a name, in the order they are tried. -/
def named : List Level :=
  [trace, debug, info, warn, error, fatal, panic, disabled, unleveled]

end Level

/-- Why a text stands for no level. -/
inductive LevelError where
  | unknown (given : String)
  | outOfBounds (number : Int)

/-- The text of the error. -/
def LevelError.message : LevelError → String
  | .unknown given => "Unknown Level String: '" ++ given ++ "', defaulting to NoLevel"
  | .outOfBounds number => s!"Out-Of-Bounds Level: '{number}', defaulting to NoLevel"

/-- The level a text stands for. -/
def Level.parse (given : String) : Except LevelError Level :=
  match Level.named.find? fun l => Text.sameFolded given l.text with
  | some l => .ok l
  | none =>
    match Number.decimalInt given with
    | .error _ => .error (.unknown given)
    | .ok n => if -128 ≤ n ∧ n ≤ 127 then .ok n else .error (.outOfBounds n)

end Passforge.Log
