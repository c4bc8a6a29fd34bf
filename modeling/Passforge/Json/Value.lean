/-!
# Object Notation

The values of the common object notation. Numbers are kept as they are written,
because whether one is an integer depends on how it is written; the members of
an object are kept in order, with repetitions.

## Main definitions

* `Value`: A value.
-/

namespace Passforge.Json

/-- A value. -/
inductive Value where
  | null
  | boolean (b : Bool)
  | number (written : List Char)
  | text (s : String)
  | array (elements : List Value)
  | object (members : List (String × Value))

end Passforge.Json
