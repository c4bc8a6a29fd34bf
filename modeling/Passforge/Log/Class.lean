import Passforge.Log.Level

/-!
# Classes of Log Files

Log files are split by level: the trace level and the warn level have a file
each, everything above a warning shares the error file, events without a level
included, and all else goes to the info file. Only the level that switches
logging off belongs to no file.

## Main definitions

* `FileClass`: The four classes.
* `FileClass.ofLevel?`: The class of a level.
* `ByClass`: Something for each class.
-/

namespace Passforge.Log

/-- The four kinds of log file. -/
inductive FileClass where
  | error | info | trace | warn
  deriving DecidableEq

/-- The file that events of a level go to. -/
def FileClass.ofLevel? (l : Level) : Option FileClass :=
  if l = Level.disabled then none
  else if l = Level.trace then some .trace
  else if l = Level.warn then some .warn
  else if Level.warn < l then some .error
  else some .info

/-- Something for each class of log file. -/
structure ByClass (α : Type) where
  error : α
  info : α
  trace : α
  warn : α

namespace ByClass

/-- What belongs to a class. -/
def get {α : Type} (b : ByClass α) : FileClass → α
  | .error => b.error
  | .info => b.info
  | .trace => b.trace
  | .warn => b.warn

/-- Replaces what belongs to a class. -/
def set {α : Type} (b : ByClass α) (c : FileClass) (a : α) : ByClass α :=
  match c with
  | .error => { b with error := a }
  | .info => { b with info := a }
  | .trace => { b with trace := a }
  | .warn => { b with warn := a }

/-- Adds a text to the one its level selects: the texts afterwards and how many
    bytes were added. -/
def append (b : ByClass String) (l : Level) (text : String) : ByClass String × Nat :=
  match FileClass.ofLevel? l with
  | none => (b, 0)
  | some c => (b.set c (b.get c ++ text), text.utf8ByteSize)

end ByClass

end Passforge.Log
