import Passforge.Log.Console
import Passforge.Log.File
import Passforge.Metrics.Family
import Passforge.Sink

/-!
# The Journal

Logging as a whole: the level below which nothing is logged, the logger that
writes events, the count of log statements, and the places the lines go to.

Configuring the journal checks everything before it changes anything. The count
of statements starts with the first successful configuration and keeps the
service name it had then. If the directory for the log files cannot be made, the
logger configured before reports it, under the new level, and the new logger
does without files.

An event below the level is dropped. Any other is counted, then written to the
console and to the log file of its class; a refusal is reported on the console,
the first one only.

## Main definitions

* `Logger`: How events are written.
* `Journal`: The state of logging.
* `Journal.log`: Logs an event.
* `Journal.configure`: Puts log settings into effect.
* `ConfigureError`: Why settings cannot be put into effect.
-/

namespace Passforge.Log

open Storage

/-- The form of lines on the console. -/
inductive ConsoleForm where
  | object
  | readable
  deriving DecidableEq

/-- How events are written. -/
structure Logger where
  /-- The application every event names. -/
  app : Option String
  /-- Events say where they were logged. -/
  showsCaller : Bool
  /-- Events count as statements. -/
  counts : Bool
  console : Option ConsoleForm
  files : Option (ByClass LogFile)

/-- The logger before any configuration: objects on the console. -/
def Logger.initial : Logger := ⟨none, false, false, some .object, none⟩

/-- How many statements were logged at each level, under a service name. -/
structure StatementCount where
  service : String
  byLevel : List (String × UInt64)

/-- What the surroundings contribute to log lines. -/
structure Surroundings where
  time : String
  caller : String
  palette : Palette

/-- The state of logging. -/
structure Journal where
  surroundings : Surroundings
  threshold : Level
  logger : Logger
  statements : Option StatementCount
  /-- Refused writes are reported. -/
  reportsRefusals : Bool
  /-- Errors carry their origin. -/
  tracesErrors : Bool
  console : Sink
  disk : Disk

namespace Journal

/-- The journal before any configuration. -/
def initial (surroundings : Surroundings) (console : Sink) (disk : Disk) : Journal where
  surroundings
  threshold := Level.debug
  logger := .initial
  statements := none
  reportsRefusals := false
  tracesErrors := false
  console
  disk

/-- Events of this level are logged. -/
def admits (j : Journal) (l : Level) : Bool :=
  j.threshold ≤ l && Level.trace ≤ l && l != Level.disabled

/-- Counts a statement, unless it has no level or nothing counts yet. -/
def count (j : Journal) (l : Level) : Journal :=
  if j.logger.counts && l != Level.unleveled then
    { j with statements := j.statements.map fun c =>
        { c with byLevel := Metrics.bump l.text c.byLevel } }
  else j

/-- What is added to events. -/
def stamp (j : Journal) : Stamp where
  app := j.logger.app
  time := j.surroundings.time
  caller := if j.logger.showsCaller then some j.surroundings.caller else none

/-- Writes members to the console, in the logger's form; the reason if that was
    refused. -/
def writeConsole (j : Journal) (members : List (String × FieldValue)) : Journal × Option String :=
  match j.logger.console with
  | none => (j, none)
  | some form =>
    let line := match form with
      | .object => objectLine members
      | .readable => readableLine j.surroundings.palette members
    match j.console.put line with
    | (console, true) => ({ j with console }, none)
    | (console, false) => ({ j with console }, some console.refusal)

/-- Writes members to the log file of a level; the reason if that was
    refused. -/
def writeFile (j : Journal) (l : Level) (members : List (String × FieldValue)) :
    Journal × Option String :=
  match j.logger.files, FileClass.ofLevel? l with
  | some files, some c =>
    match (files.get c).write j.disk (objectLine members) with
    | (disk, file, result) =>
      ({ j with disk, logger := { j.logger with files := some (files.set c file) } },
        match result with
        | .ok () => none
        | .error reason => some reason)
  | _, _ => (j, none)

/-- Logs an event. -/
def log (j : Journal) (e : Event) : Journal :=
  if j.admits e.level then
    let j := j.count e.level
    let members := e.members j.stamp
    let (j, first) := j.writeConsole members
    let (j, second) := j.writeFile e.level members
    match first.or second with
    | none => j
    | some reason =>
      { j with console :=
          (j.console.put ("zerolog: could not write event: " ++ reason ++ "\n")).1 }
  else j

end Journal

/-- Why log settings cannot be put into effect. -/
inductive ConfigureError where
  | level (given : String) (cause : LevelError)
  | noServiceName
  | noAppName

/-- The text of the error. -/
def ConfigureError.message : ConfigureError → String
  | .level given cause => "loglevel " ++ given ++ " is not supported: " ++ cause.message
  | .noServiceName => "config Log.ServiceName can not be empty"
  | .noAppName => "config Log.AppName can not be empty"

namespace Journal

/-- The level of log settings that can be put into effect. -/
def checkSettings (s : LogSettings) : Except ConfigureError Level :=
  match Level.parse s.level with
  | .error cause => .error (.level s.level cause)
  | .ok level =>
    if s.serviceName.isEmpty then .error .noServiceName
    else if s.appName.isEmpty then .error .noAppName
    else .ok level

/-- Makes the directory for log files; if it cannot be made, the current logger
    reports that. -/
def prepareFiles (j : Journal) (s : FileSettings) : Journal × Option (ByClass LogFile) :=
  if !s.enabled then (j, none)
  else match j.disk.makeDirectories s.path with
    | .ok disk => ({ j with disk }, some (openFiles s))
    | .error t =>
      (j.log { level := Level.error,
               fields := [("error", .text t.message), ("path", .text s.path)],
               message := "can't create log directory" }, none)

/-- Puts log settings into effect, if they can be. -/
def configure (j : Journal) (s : LogSettings) : Journal × Except ConfigureError Unit :=
  match checkSettings s with
  | .error e => (j, .error e)
  | .ok level =>
    let j := { j with
      threshold := level
      reportsRefusals := true
      tracesErrors := j.tracesErrors || level == Level.trace
      statements := some (j.statements.getD ⟨s.serviceName, []⟩) }
    let (j, files) := j.prepareFiles s.file
    let logger : Logger :=
      { app := some s.appName
        showsCaller := s.reportCaller
        counts := true
        console := if s.console.enabled then
          some (if s.console.readable then .readable else .object) else none
        files }
    ({ j with logger }, .ok ())

/-- The published count of statements. -/
def families (j : Journal) : List Metrics.Family :=
  match j.statements with
  | none => []
  | some c =>
    [⟨"log_statements_total", "Number of log statements, differentiated by log level.",
      c.byLevel.map fun l => ⟨[("level", l.1), ("service", c.service)], l.2⟩⟩]

end Journal

end Passforge.Log
