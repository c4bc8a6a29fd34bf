import Passforge.Json.Parser
import Passforge.Number.Literal
import Passforge.Settings.Key
import Passforge.Text.Case

/-!
# Overriding Settings

A text in object notation can override any of the settings: an object whose
fields are the sections and settings. Fields are found without regard to case;
what is not named, or named with a null, stays as it is; what is named twice
takes the later value; what nobody knows is ignored. A value of the wrong kind
anywhere spoils the whole override.

## Main definitions

* `assign`: One setting.
* `mergeSection`: The members of a section.
* `Settings.override`: The whole text.
-/

namespace Passforge

/-- A value as one of the kind asked for. Only an integer written as one is a
    number here. -/
def scalarOf : Kind → Json.Value → Option Scalar
  | .text, .text s => some (.text s)
  | .number, .number written =>
    (Number.decimalInt (String.ofList written)).toOption.map Scalar.number
  | .flag, .boolean b => some (.flag b)
  | _, _ => none

/-- Gives a setting a value; a null changes nothing. -/
def assign (s : Settings) (l : Setting) : Json.Value → Option Settings
  | .null => some s
  | v => (scalarOf l.kind v).map (s.set l)

/-- Merges one member of a section. `inner` merges the members of a section
    inside it. -/
def mergeMember (inner : Section → Settings → List (String × Json.Value) → Option Settings)
    (home : Section) (s : Settings) (member : String × Json.Value) : Option Settings :=
  match home.settings.find? fun l => Text.sameFolded member.1 l.field with
  | some l => assign s l member.2
  | none =>
    match home.children.find? fun c => Text.sameFolded member.1 c.field with
    | some child =>
      match member.2 with
      | .null => some s
      | .object members => inner child s members
      | _ => none
    | none => some s

/-- Merges the members of a section and of the sections inside it, down to a
    depth. -/
def mergeSection : (depth : Nat) → Section → Settings → List (String × Json.Value) →
    Option Settings
  | 0, _, s, _ => some s
  | depth + 1, home, s, members => members.foldlM (mergeMember (mergeSection depth) home) s

/-- Merges a value as a whole. -/
def Settings.merge (s : Settings) : Json.Value → Option Settings
  | .null => some s
  | .object members => mergeSection sectionDepth .root s members
  | _ => none

/-- Overrides settings by a text. -/
def Settings.override (s : Settings) (text : String) : Option Settings := do
  s.merge (← Json.Value.parse text)

end Passforge
