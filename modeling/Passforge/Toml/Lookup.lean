import Passforge.Text.Case
import Passforge.Toml.Document

/-!
# Looking Up Settings in a Document

Keys are looked up without regard to case, and a name that holds dots, as a
quoted key can, counts for the nested names it spells. Of two keys that differ
in case only, the one in lower case gives way.

## Main definitions

* `Document.lowered`: The document with all names in lower case.
* `Document.search`: What stands at a path, in any of its dotted spellings.
-/

namespace Passforge.Toml

/-- The value has named entries. -/
def Value.isTable : Value → Bool
  | .inline _ => true
  | .table _ => true
  | _ => false

namespace Document

/-- Some entry spells the name in lower case at position `i` of the path with a
    capital. -/
def givesWayAt (d : Document) (p : Path) (i : Nat) : Bool :=
  match p[i]? with
  | none => false
  | some name =>
    d.any fun (q, _) =>
      q.take i == p.take i && (q[i]?).any fun other => other != name && Text.lower other == name

/-- The path gives way to another one that differs from it in case only. -/
def givesWay (d : Document) (p : Path) : Bool :=
  (List.range p.length).any (d.givesWayAt p)

/-- The document with all names in lower case. -/
def lowered (d : Document) : Document :=
  (d.filter fun (p, _) => !d.givesWay p).map fun (p, v) => (p.map Text.lower, v)

/-- What stands below `base` at names that may be joined by dots, trying long
    joints first. At most `steps` steps down are taken. -/
def searchBelow (d : Document) : (steps : Nat) → (base names : Path) → Option Value
  | 0, _, _ => none
  | steps + 1, base, names =>
    (List.range names.length).reverse.findSome? fun k =>
      let here := base ++ [".".intercalate (names.take (k + 1))]
      match d.lookup here with
      | none => none
      | some v =>
        if k + 1 == names.length then some v
        else if v.isTable then searchBelow d steps here (names.drop (k + 1))
        else none

/-- What stands at a path, in any of its dotted spellings. -/
def search (d : Document) (path : Path) : Option Value :=
  d.searchBelow path.length [] path

end Document

end Passforge.Toml
