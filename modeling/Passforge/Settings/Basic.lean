import Passforge.Generator

/-!
# Settings

Everything that can be configured: a title, where and what to log, and how to
generate. Numbers are 64-bit integers wherever they come from, so they are plain
integers here.

Log files are split by level into four classes, each with a name and limits of
its own.

## Main definitions

* `Settings`: All settings, in the order they are written.
* `Settings.zero`: Every number zero, every text empty, every flag off.
* `Settings.standard`: What holds when nothing is configured.
-/

namespace Passforge

/-- How log lines go to the console. -/
structure ConsoleSettings where
  enabled : Bool
  /-- Readable lines instead of objects. -/
  readable : Bool
  deriving DecidableEq

/-- A log file of one class. -/
structure RollingSettings where
  name : String
  maxSize : Int
  maxBackups : Int
  maxAge : Int
  deriving DecidableEq

/-- The log files. -/
structure FileSettings where
  enabled : Bool
  path : String
  error : RollingSettings
  info : RollingSettings
  trace : RollingSettings
  warn : RollingSettings
  deriving DecidableEq

/-- What is logged and where to. -/
structure LogSettings where
  level : String
  reportCaller : Bool
  appName : String
  serviceName : String
  console : ConsoleSettings
  file : FileSettings
  deriving DecidableEq

/-- How strings are generated. -/
structure GeneratorSettings where
  defaultLength : Int
  maxLength : Int
  alphabet : String
  charset : String
  source : String
  unique : Bool
  deriving DecidableEq

/-- All settings. -/
structure Settings where
  title : String
  log : LogSettings
  generator : GeneratorSettings
  deriving DecidableEq

/-- A log file without name and limits. -/
def RollingSettings.zero : RollingSettings := ⟨"", 0, 0, 0⟩

/-- The usual limits of a log file. -/
def RollingSettings.standard (name : String) : RollingSettings := ⟨name, 10, 3, 28⟩

/-- No console. -/
def ConsoleSettings.zero : ConsoleSettings := ⟨false, false⟩

/-- No log files. -/
def FileSettings.zero : FileSettings := ⟨false, "", .zero, .zero, .zero, .zero⟩

/-- Nothing configured about logging. -/
def LogSettings.zero : LogSettings := ⟨"", false, "", "", .zero, .zero⟩

/-- Nothing configured about generating. -/
def GeneratorSettings.zero : GeneratorSettings := ⟨0, 0, "", "", "", false⟩

namespace Settings

/-- Every number zero, every text empty, every flag off. -/
def zero : Settings := ⟨"", .zero, .zero⟩

/-- What holds when nothing is configured. -/
def standard : Settings where
  title := "pwgen"
  log :=
    { level := "warn"
      reportCaller := false
      appName := "pwgen"
      serviceName := "pwgen"
      console := ⟨true, true⟩
      file := ⟨false, "./log", .standard "error.log", .standard "info.log",
        .standard "trace.log", .standard "warn.log"⟩ }
  generator :=
    { defaultLength := standardLength
      maxLength := standardMaximum
      alphabet := "upper"
      charset := ""
      source := "crypto"
      unique := false }

end Settings

end Passforge
