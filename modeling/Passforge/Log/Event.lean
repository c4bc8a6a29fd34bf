import Passforge.Log.Level
import Passforge.Number.Written
import Passforge.Text.Hexadecimal

/-!
# Log Events

An event has a level, fields in the order they were added, perhaps an error, and
a message. Written out it becomes a list of members, in which the same key may
stand more than once: level first, then what the logger adds to every event, the
event's own fields and error, the time, the place, and the message last.

The plain form of an event is one line with an object of these members.

## Main definitions

* `FieldValue`: A text, an integer, or a real number.
* `Event`: What is logged.
* `Stamp`: What the logger adds to an event.
* `Event.members`: All members, in order.
* `objectLine`: The members as an object on a line.
-/

namespace Passforge.Log

/-- The value of a field. -/
inductive FieldValue where
  | text (s : String)
  | integer (n : Int)
  | real (x : Number.Binary64)

/-- Something to be logged. -/
structure Event where
  level : Level
  fields : List (String × FieldValue) := []
  error : Option String := none
  message : String := ""

/-- What the logger adds to every event. -/
structure Stamp where
  app : Option String
  time : String
  caller : Option String

/-- A member for a text that may be missing. -/
def optionalMember (key : String) : Option String → List (String × FieldValue)
  | some s => [(key, .text s)]
  | none => []

/-- The members of an event, in order. -/
def Event.members (e : Event) (stamp : Stamp) : List (String × FieldValue) :=
  (if e.level == Level.unleveled then [] else [("level", .text e.level.text)]) ++
    optionalMember "app" stamp.app ++ e.fields ++ optionalMember "error" e.error ++
    [("time", .text stamp.time)] ++ optionalMember "caller" stamp.caller ++
    (if e.message.isEmpty then [] else [("message", .text e.message)])

/-- A character inside a text of a log line. -/
def escapeLogChar (c : Char) : List Char :=
  match c with
  | '"' => ['\\', '"']
  | '\\' => ['\\', '\\']
  | '\x08' => ['\\', 'b']
  | '\x0c' => ['\\', 'f']
  | '\n' => ['\\', 'n']
  | '\r' => ['\\', 'r']
  | '\t' => ['\\', 't']
  | c =>
    if c.toNat < 0x20 || c.toNat == 0x7F then '\\' :: 'u' :: Text.lowerHex 4 c.toNat else [c]

/-- A text of a log line in its quotes. -/
def logText (s : String) : String :=
  String.ofList ('"' :: s.toList.flatMap escapeLogChar ++ ['"'])

/-- A number as a log line shows it. Values that are no numbers are shown as
    text. -/
def realText : Number.Binary64 → String
  | .nan => "\"NaN\""
  | .infinite negative => if negative then "\"-Inf\"" else "\"+Inf\""
  | x => Number.logStyle.write x

/-- A value as a log line shows it. -/
def FieldValue.line : FieldValue → String
  | .text s => logText s
  | .integer n => toString n
  | .real x => realText x

/-- The members as an object on a line of its own. -/
def objectLine (members : List (String × FieldValue)) : String :=
  "\x7b" ++ ",".intercalate (members.map fun m => logText m.1 ++ ":" ++ m.2.line) ++ "\x7d\n"

end Passforge.Log
