import Passforge.Log.Class
import Passforge.Settings.Basic

/-!
# Names of the Settings

Every single setting, the section it belongs to and the names it goes by: its
key in a configuration file, its field in an override, its environment variable.
Whatever treats all settings alike (layers, overrides, dumps) goes through this
list, so that none of them can forget one.

## Main definitions

* `Section`: The groups of settings.
* `Setting`: The single settings, with `Setting.kind` for what values they take.
* `Scalar`: A value of a setting.
* `Settings.get`, `Settings.set`: One setting of all.
-/

namespace Passforge

/-- A group of settings. -/
inductive Section where
  | root | log | console | file | generator
  deriving DecidableEq

/-- A part of the settings of a log file. -/
inductive RollingPart where
  | name | maxSize | maxBackups | maxAge
  deriving DecidableEq

/-- A single setting. -/
inductive Setting where
  | title
  | level | reportCaller | appName | serviceName
  | consoleEnabled | consoleReadable
  | fileEnabled | filePath
  | rolling (c : Log.FileClass) (part : RollingPart)
  | defaultLength | maxLength | alphabet | charset | source | unique
  deriving DecidableEq

/-- What values a setting takes. -/
inductive Kind where
  | text | number | flag
  deriving DecidableEq

/-- A value of a setting. -/
inductive Scalar where
  | text (s : String)
  | number (n : Int)
  | flag (b : Bool)
  deriving DecidableEq

/-- The kind of a value. -/
def Scalar.kind : Scalar → Kind
  | .text _ => .text
  | .number _ => .number
  | .flag _ => .flag

/-- The value of a kind that says nothing. -/
def Kind.zero : Kind → Scalar
  | .text => .text ""
  | .number => .number 0
  | .flag => .flag false

namespace Section

/-- All sections, in the order they are written. -/
def all : List Section := [.root, .log, .console, .file, .generator]

/-- The sections inside a section. -/
def children : Section → List Section
  | .root => [.log, .generator]
  | .log => [.console, .file]
  | _ => []

/-- The names that lead to a section in a file. -/
def path : Section → List String
  | .root => []
  | .log => ["log"]
  | .console => ["log", "console"]
  | .file => ["log", "file"]
  | .generator => ["generator"]

/-- The field of a section in an override. -/
def field : Section → String
  | .root => ""
  | .log => "Log"
  | .console => "Console"
  | .file => "File"
  | .generator => "Generator"

/-- The sections around a section that a file names, the nearest first. -/
def around : Section → List Section
  | .console => [.log]
  | .file => [.log]
  | _ => []

end Section

/-- How deep sections are nested, the outermost included. -/
def sectionDepth : Nat := 3

/-- All classes of log files, in the order they are written. -/
def rollingClasses : List Log.FileClass := [.error, .info, .trace, .warn]

/-- All parts of the settings of a log file, in the order they are written. -/
def rollingParts : List RollingPart := [.name, .maxSize, .maxBackups, .maxAge]

/-- The settings of a section itself, in the order they are written. -/
def Section.settings : Section → List Setting
  | .root => [.title]
  | .log => [.level, .reportCaller, .appName, .serviceName]
  | .console => [.consoleEnabled, .consoleReadable]
  | .file => .fileEnabled :: .filePath ::
      rollingClasses.flatMap fun c => rollingParts.map fun p => .rolling c p
  | .generator => [.defaultLength, .maxLength, .alphabet, .charset, .source, .unique]

namespace RollingPart

/-- What stands behind the class in the key of a log file's setting. -/
def key : RollingPart → String
  | .name => ""
  | .maxSize => "MaxSize"
  | .maxBackups => "MaxBackups"
  | .maxAge => "MaxAge"

/-- What stands behind the class in the field of a log file's setting. -/
def field : RollingPart → String
  | .name => "Log"
  | p => p.key

end RollingPart

/-- The name of a class in keys. -/
def classKey : Log.FileClass → String
  | .error => "error"
  | .info => "info"
  | .trace => "trace"
  | .warn => "warn"

/-- The name of a class in fields. -/
def classField : Log.FileClass → String
  | .error => "Error"
  | .info => "Info"
  | .trace => "Trace"
  | .warn => "Warn"

namespace Setting

/-- The section a setting belongs to. -/
def home : Setting → Section
  | .title => .root
  | .level => .log
  | .reportCaller => .log
  | .appName => .log
  | .serviceName => .log
  | .consoleEnabled => .console
  | .consoleReadable => .console
  | .fileEnabled => .file
  | .filePath => .file
  | .rolling _ _ => .file
  | _ => .generator

/-- What values a setting takes. -/
def kind : Setting → Kind
  | .reportCaller => .flag
  | .consoleEnabled => .flag
  | .consoleReadable => .flag
  | .fileEnabled => .flag
  | .unique => .flag
  | .defaultLength => .number
  | .maxLength => .number
  | .rolling _ .name => .text
  | .rolling _ _ => .number
  | _ => .text

/-- The key of a setting in its section. -/
def key : Setting → String
  | .title => "title"
  | .level => "logLevel"
  | .reportCaller => "reportCaller"
  | .appName => "appName"
  | .serviceName => "serviceName"
  | .consoleEnabled => "enabled"
  | .consoleReadable => "useConsoleWriter"
  | .fileEnabled => "enabled"
  | .filePath => "path"
  | .rolling c p => classKey c ++ p.key
  | .defaultLength => "defaultLength"
  | .maxLength => "maxLength"
  | .alphabet => "alphabet"
  | .charset => "charset"
  | .source => "source"
  | .unique => "unique"

/-- The field of a setting in an override. -/
def field : Setting → String
  | .title => "Title"
  | .level => "LogLevel"
  | .reportCaller => "ReportCaller"
  | .appName => "AppName"
  | .serviceName => "ServiceName"
  | .consoleEnabled => "Enabled"
  | .consoleReadable => "UseConsoleWriter"
  | .fileEnabled => "Enabled"
  | .filePath => "Path"
  | .rolling c p => classField c ++ p.field
  | .defaultLength => "DefaultLength"
  | .maxLength => "MaxLength"
  | .alphabet => "Alphabet"
  | .charset => "Charset"
  | .source => "Source"
  | .unique => "Unique"

/-- All names that lead to a setting. -/
def path (l : Setting) : List String :=
  l.home.path ++ [l.key]

end Setting

/-- The name of the environment variable for a path. -/
def variableName (path : List String) : String :=
  "PWGEN_" ++ ("_".intercalate path).map Char.toUpper

/-- The environment variable of a setting. -/
def Setting.variable (l : Setting) : String :=
  variableName l.path

/-- The environment variable that hides a section. -/
def Section.variable (s : Section) : String :=
  variableName s.path

/-- One part of the settings of a log file. -/
def RollingSettings.get (r : RollingSettings) : RollingPart → Scalar
  | .name => .text r.name
  | .maxSize => .number r.maxSize
  | .maxBackups => .number r.maxBackups
  | .maxAge => .number r.maxAge

/-- Replaces one part of the settings of a log file. -/
def RollingSettings.set (r : RollingSettings) : RollingPart → Scalar → RollingSettings
  | .name, .text s => { r with name := s }
  | .maxSize, .number n => { r with maxSize := n }
  | .maxBackups, .number n => { r with maxBackups := n }
  | .maxAge, .number n => { r with maxAge := n }
  | _, _ => r

/-- The settings of the log file of a class. -/
def FileSettings.rolling (f : FileSettings) : Log.FileClass → RollingSettings
  | .error => f.error
  | .info => f.info
  | .trace => f.trace
  | .warn => f.warn

/-- Replaces the settings of the log file of a class. -/
def FileSettings.setRolling (f : FileSettings) (c : Log.FileClass) (r : RollingSettings) :
    FileSettings :=
  match c with
  | .error => { f with error := r }
  | .info => { f with info := r }
  | .trace => { f with trace := r }
  | .warn => { f with warn := r }

namespace Settings

/-- The value of a setting. -/
def get (s : Settings) : Setting → Scalar
  | .title => .text s.title
  | .level => .text s.log.level
  | .reportCaller => .flag s.log.reportCaller
  | .appName => .text s.log.appName
  | .serviceName => .text s.log.serviceName
  | .consoleEnabled => .flag s.log.console.enabled
  | .consoleReadable => .flag s.log.console.readable
  | .fileEnabled => .flag s.log.file.enabled
  | .filePath => .text s.log.file.path
  | .rolling c p => (s.log.file.rolling c).get p
  | .defaultLength => .number s.generator.defaultLength
  | .maxLength => .number s.generator.maxLength
  | .alphabet => .text s.generator.alphabet
  | .charset => .text s.generator.charset
  | .source => .text s.generator.source
  | .unique => .flag s.generator.unique

/-- Replaces the settings of the console. -/
def setConsole (s : Settings) (c : ConsoleSettings) : Settings :=
  { s with log := { s.log with console := c } }

/-- Replaces the settings of the log files. -/
def setFile (s : Settings) (f : FileSettings) : Settings :=
  { s with log := { s.log with file := f } }

/-- Replaces the value of a setting; a value of another kind changes nothing. -/
def set (s : Settings) : Setting → Scalar → Settings
  | .title, .text t => { s with title := t }
  | .level, .text t => { s with log := { s.log with level := t } }
  | .reportCaller, .flag b => { s with log := { s.log with reportCaller := b } }
  | .appName, .text t => { s with log := { s.log with appName := t } }
  | .serviceName, .text t => { s with log := { s.log with serviceName := t } }
  | .consoleEnabled, .flag b => s.setConsole { s.log.console with enabled := b }
  | .consoleReadable, .flag b => s.setConsole { s.log.console with readable := b }
  | .fileEnabled, .flag b => s.setFile { s.log.file with enabled := b }
  | .filePath, .text t => s.setFile { s.log.file with path := t }
  | .rolling c p, v => s.setFile (s.log.file.setRolling c ((s.log.file.rolling c).set p v))
  | .defaultLength, .number n => { s with generator := { s.generator with defaultLength := n } }
  | .maxLength, .number n => { s with generator := { s.generator with maxLength := n } }
  | .alphabet, .text t => { s with generator := { s.generator with alphabet := t } }
  | .charset, .text t => { s with generator := { s.generator with charset := t } }
  | .source, .text t => { s with generator := { s.generator with source := t } }
  | .unique, .flag b => { s with generator := { s.generator with unique := b } }
  | _, _ => s

/-- Settings with the given values, everything else saying nothing. -/
def ofValues (values : List (Setting × Scalar)) : Settings :=
  values.foldl (fun s (l, v) => s.set l v) zero

end Settings

end Passforge
