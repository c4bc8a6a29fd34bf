import Passforge.Log.Event
import Passforge.Text.Piece
import Passforge.Text.Quoted
import Passforge.Text.Upper

/-!
# Readable Log Lines

The form of an event meant for people: time, level, place and message, and then
the remaining fields sorted by key, an error before the others. Of members with
the same key the last counts.

Colours set the parts apart. Every coloured part is wrapped in its own escape
sequence, and without colours only the text remains.

## Main definitions

* `Palette`: Whether colours are used.
* `levelTag`: The three letters for a level.
* `readableLine`: The whole line.
-/

namespace Passforge.Log

/-- Whether parts are coloured. -/
structure Palette where
  coloured : Bool

/-- The palette that a switch against colours leaves: any text but the empty one
    turns them off. -/
def Palette.ofSwitch (switch : String) : Palette :=
  ⟨switch == ""⟩

/-- A text in a colour; colour zero is none. -/
def Palette.paint (p : Palette) (colour : Nat) (s : String) : String :=
  if p.coloured && colour != 0 then s!"\x1b[{colour}m" ++ s ++ "\x1b[0m" else s

/-- The codes of the colours in use. -/
def bold : Nat := 1
def red : Nat := 31
def green : Nat := 32
def yellow : Nat := 33
def blue : Nat := 34
def cyan : Nat := 36
def grey : Nat := 90

/-- The value of a member, the last one if there are several. -/
def lastValue? (members : List (String × FieldValue)) (key : String) : Option FieldValue :=
  members.reverse.lookup key

/-- A value as text without quotes. -/
def FieldValue.bare : FieldValue → String
  | .text s => s
  | v => v.line

/-- The first three bytes of a level's text in upper case. -/
def clipLevel (s : String) : String :=
  if s.isEmpty then "???"
  else String.ofList ((Text.lenientChars (s.toUTF8.extract 0 3)).map Text.upper)

/-- The three letters and the colour of a named severity. -/
def severityTag? (l : Level) : Option (String × Nat) :=
  match l with
  | -1 => some ("TRC", blue)
  | 0 => some ("DBG", 0)
  | 1 => some ("INF", green)
  | 2 => some ("WRN", yellow)
  | 3 => some ("ERR", red)
  | 4 => some ("FTL", red)
  | 5 => some ("PNC", red)
  | _ => none

/-- The part of the line that shows the level. -/
def levelTag (p : Palette) : Option FieldValue → String
  | none => "???"
  | some (.text s) =>
    match Level.parse s with
    | .error _ => clipLevel s
    | .ok l =>
      match severityTag? l with
      | some (tag, colour) => p.paint colour tag
      | none => clipLevel s
  | some v => clipLevel v.bare

/-- The level is one whose message stands out. -/
def isProminent : Option FieldValue → Bool
  | some (.text s) => ["info", "warn", "error", "fatal", "panic"].contains s
  | _ => false

/-- The part of the line that shows the message. -/
def messagePart (p : Palette) (level message : Option FieldValue) : String :=
  match message with
  | none => ""
  | some v =>
    if v.bare.isEmpty then "" else if isProminent level then p.paint bold v.bare else v.bare

/-- The part of the line that shows the place. -/
def callerPart (p : Palette) : Option FieldValue → String
  | some (.text s) => if s.isEmpty then "" else p.paint bold s ++ p.paint cyan " >"
  | _ => ""

/-- A character that makes a value appear in quotes. -/
def needsQuotes (c : Char) : Bool :=
  c.toNat < 0x21 || 0x7e < c.toNat || c == '\\' || c == '"'

/-- The value of a field as the line shows it. -/
def shownValue : FieldValue → String
  | .text s => if s.toList.any needsQuotes then Text.quote s else s
  | v => v.line

/-- A field with its value; an error's value stands out. -/
def fieldPart (p : Palette) (key : String) (value : FieldValue) : String :=
  p.paint cyan (key ++ "=") ++
    if key == "error" then p.paint red (p.paint bold (shownValue value)) else shownValue value

/-- Inserts a key into increasing keys, unless it is there already. -/
def insertKey (key : String) : List String → List String
  | [] => [key]
  | k :: rest =>
    if key == k then k :: rest else if key < k then key :: k :: rest else k :: insertKey key rest

/-- The members that have a place of their own at the start of a line. -/
def headKeys : List String := ["level", "time", "message", "caller"]

/-- The keys shown after the message: sorted, and if there is an error, it comes
    first and a field without a name is left out. -/
def shownKeys (members : List (String × FieldValue)) : List String :=
  let keys := ((members.map (·.1)).filter
    (!headKeys.contains ·)).foldr insertKey []
  if keys.contains "error" then "error" :: keys.filter fun k => k != "error" && k != "" else keys

/-- The readable line of an event's members. -/
def readableLine (p : Palette) (members : List (String × FieldValue)) : String :=
  let value := lastValue? members
  let time := match value "time" with
    | some v => p.paint grey v.bare
    | none => ""
  let parts := [time, levelTag p (value "level"), callerPart p (value "caller"),
    messagePart p (value "level") (value "message")].filter (!·.isEmpty)
  let fields := (shownKeys members).filterMap fun k => (value k).map (fieldPart p k)
  " ".intercalate (parts ++ fields) ++ "\n"

end Passforge.Log
