import Passforge.Number.Written
import Passforge.Sink

/-!
# Metric Families

Counters are published as families: a name, a line of help, and one number for
each combination of label values. A family's text is a block of its own, and a
family with no number at all has none. Blocks are written in the order of the
families' names, each in one piece, so a sink that runs out of room holds whole
blocks only.

## Main definitions

* `Sample`: A number under label values.
* `Family`: Samples under a name.
* `Family.block`: The text of a family.
* `publish`: Writes families to a sink, or reports why it could not.
-/

namespace Passforge.Metrics

/-- A counter's value under its labels, given as names and values. -/
structure Sample where
  labels : List (String × String)
  value : UInt64

/-- The counters that share a name. -/
structure Family where
  name : String
  help : String
  samples : List Sample

/-- A character inside a label value. -/
def escapeLabelChar : Char → List Char
  | '\\' => ['\\', '\\']
  | '\n' => ['\\', 'n']
  | '"' => ['\\', '"']
  | c => [c]

/-- A label value as it stands between its quotes. -/
def escapeLabel (value : String) : String :=
  String.ofList (value.toList.flatMap escapeLabelChar)

/-- The labels of a sample in braces; nothing if there are none. -/
def labelText : List (String × String) → String
  | [] => ""
  | labels =>
    "\x7b" ++ ",".intercalate (labels.map fun l => l.1 ++ "=\"" ++ escapeLabel l.2 ++ "\"") ++
      "\x7d"

/-- The line of a sample. -/
def Sample.line (name : String) (s : Sample) : String :=
  name ++ labelText s.labels ++ " " ++ Number.counterText s.value.toNat ++ "\n"

/-- The text of a family: help, type, and a line for each sample. The help is
    written as it is, since no help text holds a backslash or a line break,
    which would have to be escaped. -/
def Family.block (f : Family) : String :=
  "# HELP " ++ f.name ++ " " ++ f.help ++ "\n" ++ "# TYPE " ++ f.name ++ " counter\n" ++
    String.join (f.samples.map (Sample.line f.name))

/-- The blocks of the families that have samples, given in the order of their
    names. -/
def blocks (families : List Family) : List String :=
  (families.filter (!·.samples.isEmpty)).map Family.block

/-- Why families could not be written. -/
inductive PublishError where
  /-- The families could not be collected. -/
  | gather (cause : String)
  /-- The sink refused a block. -/
  | encode (cause : String)

/-- The text of the error. -/
def PublishError.message : PublishError → String
  | .gather cause => "failed to gather metrics: " ++ cause
  | .encode cause => "failed to encode metrics: " ++ cause

/-- Writes the collected families, block by block, until the sink refuses
    one. -/
def publish (families : Except String (List Family)) (sink : Sink) :
    Sink × Except PublishError Unit :=
  match families with
  | .error cause => (sink, .error (.gather cause))
  | .ok families =>
    match sink.putAll (blocks families) with
    | (sink, true) => (sink, .ok ())
    | (sink, false) => (sink, .error (.encode sink.refusal))

/-- Adds one to the count of a label value, keeping the values in increasing
    order. -/
def bump (value : String) : List (String × UInt64) → List (String × UInt64)
  | [] => [(value, 1)]
  | (v, n) :: rest =>
    if value == v then (v, n + 1) :: rest
    else if value < v then (value, 1) :: (v, n) :: rest
    else (v, n) :: bump value rest

end Passforge.Metrics
