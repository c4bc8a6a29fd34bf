import Passforge.Command.Help
import Passforge.Command.Plan
import Passforge.Hash.Stored
import Passforge.Settings.Dump
import Passforge.Settings.Load

/-!
# Running a Command

The whole program as a function: from the words on the command line, the disk,
the environment and a random stream to what is written to the two output streams
and to the disk, and whether it succeeded.

Results go to the first stream only; everything else, log lines, counters and
the final error, goes to the second. Settings are loaded and logging is set up
before a command does anything, but after its flags and arguments are checked;
help needs neither.

## Main definitions

* `Invocation`: Everything a run depends on.
* `Stage`: What a run changes.
* `Failure`: Why a run fails, with its wording.
* `generateStrings`, `listAlphabets`, `printSettings`: The commands.
* `Invocation.run`: The whole run.
-/

namespace Passforge.Command

/-- Everything a run depends on. -/
structure Invocation where
  words : List String
  disk : Storage.Disk
  environment : Environment
  entropy : Entropy
  /-- The seed of a seeded source that was given none. -/
  freshSeed : Nat
  hashParameters : Hash.HashParameters
  output : Sink
  diagnostics : Sink
  time : String
  caller : String

/-- What a run changes: the first output stream, and a session whose journal
    writes to the second. -/
structure Stage where
  output : Sink
  session : Session Supply

/-- Why a run fails. -/
inductive Failure where
  | flag (e : FlagError)
  | arguments (e : ArgumentError)
  | load (e : LoadError)
  | logging (e : Log.ConfigureError)
  | plan (e : PlanError)
  | rejected (r : Rejection)
  | output (cause : String)
  | publish (e : Metrics.PublishError)

/-- The wording of a failure. -/
def Failure.message : Failure → String
  | .flag e => e.message
  | .arguments e => e.message
  | .load e => e.message
  | .logging e => e.message
  | .plan e => e.message
  | .rejected r => r.message
  | .output cause => "failed to write output: " ++ cause
  | .publish e => e.message

/-- A step of a run: it may halt, and it may fail. -/
abbrev Step (α : Type) : Type :=
  ExceptT Failure (ExceptT Halt (StateM Stage)) α

namespace Stage

/-- Changes the journal. -/
def withJournal (s : Stage) (f : Log.Journal → Log.Journal) : Stage :=
  { s with session := { s.session with journal := f s.session.journal } }

/-- Writes to the second stream; a refusal goes unnoticed. -/
def report (s : Stage) (text : String) : Stage :=
  s.withJournal fun j => { j with console := (j.console.put text).1 }

end Stage

/-- Writes a result. -/
def write (text : String) : Step Unit := do
  let s ← get
  match s.output.put text with
  | (sink, true) => set { s with output := sink }
  | (sink, false) => throw (.output sink.refusal)

/-- Logs an event. -/
def log (e : Log.Event) : Step Unit :=
  modify fun s => s.withJournal fun j => j.log e

/-- Loads the settings and sets up logging. -/
def prepare (i : Invocation) (c : Command) (p : Parsed) : Step Settings := do
  let directory := (p.text? .config).getD standardDirectory
  let loaded ←
    match Settings.load i.disk i.environment directory with
    | (_, some e) => throw (.load e)
    | (s, none) => pure s
  let settings :=
    match p.text? .logLevel with
    | some level => { loaded with log := { loaded.log with level } }
    | none => loaded
  let s ← get
  match s.session.journal.configure settings.log with
  | (_, .error e) => throw (.logging e)
  | (journal, .ok ()) =>
    set (s.withJournal fun _ => journal)
    log
      { level := Log.Level.debug
        fields := [("config", .text directory), ("command", .text c.name)]
        message := "config loaded" }
    return settings

/-- The hash of a string, with a salt from the stream that the source draws
    from. -/
def hashString (p : Hash.HashParameters) (text : String) : Step String :=
  ExceptT.lift
    (Run.within (fun s : Stage => s.session.supply.entropy)
      (fun entropy s =>
        { s with session := { s.session with supply := { s.session.supply with entropy } } })
      (Hash.hashPassword p text.toUTF8.toList))

/-- Generates a string and writes it, with its hash if that is asked for. -/
def writeRecord (g : Generator) (r : Request) (hash : Option Hash.HashParameters) : Step Unit := do
  let served ← ExceptT.lift
    (Run.within (fun s : Stage => s.session) (fun session s => { s with session })
      (g.serve Supply.source r))
  match served with
  | .error rejection => throw (.rejected rejection)
  | .ok text =>
    match hash with
    | none => write (text ++ "\n")
    | some p => do
      let line ← hashString p text
      write (text ++ "\t" ++ line ++ "\n")

/-- Generates and writes a number of strings. -/
def writeRecords (g : Generator) (r : Request) (hash : Option Hash.HashParameters) :
    (count : Nat) → Step Unit
  | 0 => pure ()
  | count + 1 => do
    writeRecord g r hash
    writeRecords g r hash count

/-- Writes the counters to the second stream. -/
def publishCounters : Step Unit := do
  let s ← get
  match Metrics.publish (.ok s.session.board.families) s.session.journal.console with
  | (console, result) =>
    set (s.withJournal fun j => { j with console })
    match result with
    | .ok () => pure ()
    | .error e => throw (.publish e)

/-- Generates strings. -/
def generateStrings (i : Invocation) (settings : Settings) (p : Parsed) : Step Unit := do
  let choice := Choice.ofParsed p
  match Plan.make choice settings.generator i.freshSeed p.arguments with
  | .error e => throw (.plan e)
  | .ok plan =>
    plan.announcements.forM log
    modify fun s =>
      { s with session :=
        { s.session with supply := { s.session.supply with drawer := plan.drawer } } }
    writeRecords (.ofMaximum settings.generator.maxLength) plan.request
      (if choice.hash then some i.hashParameters else none) choice.count.toNat
    if choice.metrics then publishCounters

/-- The line about a preset: its name, how many characters it has, and which. -/
def presetLine (p : Preset) : String :=
  let size := String.ofList (Number.digitsOf p.alphabet.size)
  padded 9 p.name ++ " " ++ String.ofList (List.replicate (3 - size.length) ' ') ++ size ++ "  " ++
    p.alphabet.toText ++ "\n"

/-- Lists the presets. -/
def listAlphabets : Step Unit :=
  Preset.all.forM fun p => write (presetLine p)

/-- Prints the settings. -/
def printSettings (settings : Settings) (p : Parsed) : Step Unit :=
  write (if p.isOn .json then settings.toJson else settings.toToml)

/-- Explains a command. A stream that refuses the text goes unnoticed. -/
def explain (c : Command) : Step Unit :=
  modify fun s => { s with output := (s.output.put (helpText c)).1 }

/-- Does what a command with these flags and arguments is for. -/
def perform (i : Invocation) (c : Command) (p : Parsed) : Step Unit := do
  if p.isOn .help then explain c
  else if c = .help then explain (find p.arguments).1
  else
    match c.checkArguments p.arguments with
    | some e => throw (.arguments e)
    | none =>
      let settings ← prepare i c p
      match c with
      | .alphabets => listAlphabets
      | .config => printSettings settings p
      | _ => generateStrings i settings p

/-- Makes sense of the words and does what they say. -/
def obey (i : Invocation) : Step Unit := do
  let (c, words) := find i.words
  match parse c.flags words with
  | .error e => throw (.flag e)
  | .ok p => perform i c p

/-- What a run starts with. -/
def Invocation.stage (i : Invocation) : Stage where
  output := i.output
  session :=
    { supply := ⟨i.entropy, .buffered .empty⟩
      board := .registered .zero
      journal := .initial
        { time := i.time, caller := i.caller, palette := .ofSwitch (i.environment "NO_COLOR") }
        i.diagnostics i.disk }

/-- How a run ends. -/
inductive Ending where
  | success
  | failure (f : Failure)
  | halt (h : Halt)

/-- The whole run. A failure is reported on the second stream, a halt is not. -/
def Invocation.run (i : Invocation) : Ending × Stage :=
  match (obey i) i.stage with
  | (.error h, s) => (.halt h, s)
  | (.ok (.error f), s) => (.failure f, s.report ("Error: " ++ f.message ++ "\n"))
  | (.ok (.ok ()), s) => (.success, s)

end Passforge.Command
