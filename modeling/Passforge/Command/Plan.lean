import Passforge.Alphabet.Preset
import Passforge.Command.Line
import Passforge.Draw.Supply
import Passforge.Number.Literal
import Passforge.Number.Written
import Passforge.Session
import Passforge.Settings.Basic

/-!
# Planning What to Generate

What the flags and the settings together ask for, before anything random
happens: the alphabet, the length, the source, and what has to be announced. A
flag counts for more than a setting, and given characters for more than presets,
except that presets given by a flag replace characters that are only configured.

A length that can not be read, or a negative one, is replaced by the configured
length, and that is announced.

## Main definitions

* `Choice`: The flags of the generating command.
* `chooseAlphabet`: The alphabet.
* `chooseLength`: The length, and what to announce about it.
* `chooseDrawer`: The source, and what to announce about it.
* `Plan`, `Plan.make`: All of it.
-/

namespace Passforge.Command

/-- What the flags of the generating command say; nothing for those that are not
    given. -/
structure Choice where
  alphabet : Option String
  charset : Option String
  unique : Option Bool
  seed : Option Nat
  count : Int
  hash : Bool
  metrics : Bool

/-- How many strings are generated if nothing is said about it. -/
def standardCount : Int := 1

/-- The choice that flags express. -/
def Choice.ofParsed (p : Parsed) : Choice where
  alphabet := p.text? .alphabet
  charset := p.text? .charset
  unique := p.truth? .unique
  seed := p.natural? .seed
  count := (p.integer? .count).getD standardCount
  hash := p.isOn .hash
  metrics := p.isOn .metrics

/-- The characters to use, empty if presets are to be used. -/
def chooseCharset (c : Choice) (g : GeneratorSettings) : String :=
  match c.charset, c.alphabet with
  | some given, _ => given
  | none, some _ => ""
  | none, none => g.charset

/-- The alphabet to use. -/
def chooseAlphabet (c : Choice) (g : GeneratorSettings) : Except SpecError Alphabet := do
  let charset := chooseCharset c g
  let chars ←
    if charset != "" then .ok (Alphabet.ofText charset)
    else Alphabet.parse (c.alphabet.getD g.alphabet)
  return if c.unique.getD g.unique then chars.unique else chars

/-- What is announced about an alphabet that favours some characters. -/
def duplicateWarning (a : Alphabet) : List Log.Event :=
  if a.hasDuplicates then
    [{ level := Log.Level.warn
       fields := [("alphabet", .text a.toText)]
       message := "alphabet has duplicate characters, the distribution is biased" }]
  else []

/-- What is announced about a seed. -/
def seedWarning (seed : Nat) : Log.Event where
  level := Log.Level.warn
  fields := [("seed", .integer seed)]
  message := "seeded source, output is reproducible"

/-- The source to use, and what is announced about it. Without a seed, the
    seeded source takes the fresh one. -/
def chooseDrawer (c : Choice) (g : GeneratorSettings) (freshSeed : Nat) : Drawer × List Log.Event :=
  match c.seed with
  | some seed => (.seeded (.ofSeed (BitVec.ofNat 64 seed)), [seedWarning seed])
  | none =>
    if g.source == "math" then (.seeded (.ofSeed (BitVec.ofNat 64 freshSeed)), [])
    else (.buffered .empty, [])

/-- The length an argument gives, if it gives one. -/
def lengthOf? (argument : String) : Option Int :=
  match Number.decimalInt argument with
  | .ok n => if n < 0 then none else some n
  | .error _ => none

/-- What is announced about an argument that gives no length. -/
def lengthWarning (argument : String) (default : Int) : Log.Event where
  level := Log.Level.warn
  fields := [("length", .text argument), ("default", .integer default)]
  message := "invalid length, using default"

/-- The length to use, and what is announced about it. -/
def chooseLength (arguments : List String) (default : Int) : Int × List Log.Event :=
  match arguments with
  | [] => (default, [])
  | argument :: _ =>
    match lengthOf? argument with
    | some n => (n, [])
    | none => (default, [lengthWarning argument default])

/-- What is announced before generating. -/
def startEvent (r : Request) (count : Int) : Log.Event where
  level := Log.Level.info
  fields := [("length", .integer r.length), ("count", .integer count), ("entropy", .real r.entropy)]
  message := "generating"

/-- What is to be generated, and what is announced about it. -/
structure Plan where
  request : Request
  drawer : Drawer
  announcements : List Log.Event

/-- Why nothing can be generated. -/
inductive PlanError where
  | count (given : Int)
  | alphabet (cause : SpecError)

/-- The wording of the reason. -/
def PlanError.message : PlanError → String
  | .count given =>
    "count " ++ String.ofList (Number.signedDigits given) ++ ": count must be at least 1"
  | .alphabet cause => cause.message

/-- The plan for flags, settings and arguments. -/
def Plan.make (c : Choice) (g : GeneratorSettings) (freshSeed : Nat) (arguments : List String) :
    Except PlanError Plan :=
  if c.count < 1 then .error (.count c.count)
  else
    match chooseAlphabet c g with
    | .error cause => .error (.alphabet cause)
    | .ok alphabet =>
      let (drawer, seedEvents) := chooseDrawer c g freshSeed
      let (length, lengthEvents) := chooseLength arguments g.defaultLength
      let request : Request := ⟨alphabet, length⟩
      .ok ⟨request, drawer,
        duplicateWarning alphabet ++ seedEvents ++ lengthEvents ++ [startEvent request c.count]⟩

end Passforge.Command
