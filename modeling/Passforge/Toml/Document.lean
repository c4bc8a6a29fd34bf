import Passforge.Number.Binary64

/-!
# Configuration Documents

What a configuration file says: a value at each of a number of paths. A document
is kept flat, as the list of its entries in the order they were made, so that
looking a path up is looking it up in that list. A table is an entry of its own
beside the entries below it.

A path may be given a value once. Tables come about in three ways, by a header,
on the way to something deeper in a header, or on the way to something deeper in
a dotted key, and which of them may still be extended depends on the way. A
table written inside braces is closed for good.

## Main definitions

* `Value`: What stands at a path.
* `Document`: Paths with their values.
* `Document.bind`: Gives a path a value.
* `Document.openTable`, `Document.openElement`: What a header does.
-/

namespace Passforge.Toml

/-- Which parts a date or time has. -/
inductive MomentKind where
  | offsetDateTime
  | localDateTime
  | localDate
  | localTime
  deriving DecidableEq

/-- How a table came about. -/
inductive Origin where
  /-- On the way to something deeper in a header. -/
  | implied
  /-- By a header of its own. -/
  | header
  /-- On the way to something deeper in a dotted key. -/
  | dotted
  deriving DecidableEq

/-- What stands at a path. -/
inductive Value where
  | text (s : String)
  | integer (n : Int)
  | real (x : Number.Binary64)
  | boolean (b : Bool)
  /-- A date or time as it is written. -/
  | moment (kind : MomentKind) (written : String)
  | array (elements : List Value)
  /-- A table in braces with all entries below it. -/
  | inline (entries : List (List String × Value))
  /-- A table whose entries stand beside it. -/
  | table (origin : Origin)
  /-- A list of tables made by headers; the entries of the last one stand beside
      it. -/
  | elements

/-- The names that lead to a value. -/
abbrev Path : Type := List String

/-- Everything a configuration file says. -/
abbrev Document : Type := List (Path × Value)

namespace Document

/-- A document that says nothing. -/
def empty : Document := []

/-- Replaces what stands at a path. -/
def replace (d : Document) (p : Path) (v : Value) : Document :=
  d.map fun entry => if entry.1 == p then (p, v) else entry

/-- Makes the tables on the way from `base` along a dotted key, all but the last
    name of it. A table with a header of its own is not extended from
    elsewhere. -/
def dottedWay (d : Document) (base : Path) : Path → Option Document
  | [] => some d
  | [_] => some d
  | name :: rest =>
    let here := base ++ [name]
    match d.lookup here with
    | none => dottedWay (d ++ [(here, .table .dotted)]) here rest
    | some (.table .implied) => dottedWay d here rest
    | some (.table .dotted) => dottedWay d here rest
    | some _ => none

/-- Gives a path below `base` a value; it must not have one. -/
def bind (d : Document) (base key : Path) (v : Value) : Option Document := do
  let d ← d.dottedWay base key
  let here := base ++ key
  if (d.lookup here).isSome then none
  else
    match v with
    | .inline entries => some (d ++ (here, v) :: entries.map fun (p, w) => (here ++ p, w))
    | _ => some (d ++ [(here, v)])

/-- The document of a table in braces. -/
def ofMembers (members : List (Path × Value)) : Option Document :=
  members.foldlM (fun d (key, v) => d.bind [] key v) empty

/-- Makes the tables on the way to the last name of a header. -/
def headerWay (d : Document) (base : Path) : Path → Option Document
  | [] => some d
  | [_] => some d
  | name :: rest =>
    let here := base ++ [name]
    match d.lookup here with
    | none => headerWay (d ++ [(here, .table .implied)]) here rest
    | some (.table _) => headerWay d here rest
    | some .elements => headerWay d here rest
    | some _ => none

/-- Opens the table of a header. It must be new, or implied by deeper headers so
    far. -/
def openTable (d : Document) (p : Path) : Option Document := do
  let d ← d.headerWay [] p
  match d.lookup p with
  | none => some (d ++ [(p, .table .header)])
  | some (.table .implied) => some (d.replace p (.table .header))
  | some _ => none

/-- Opens the next table of a list of tables. What the one before it held is out
    of reach from now on. -/
def openElement (d : Document) (p : Path) : Option Document := do
  let d ← d.headerWay [] p
  match d.lookup p with
  | none => some (d ++ [(p, .elements)])
  | some .elements => some (d.filter fun entry => entry.1 == p || !p.isPrefixOf entry.1)
  | some _ => none

end Document

end Passforge.Toml
