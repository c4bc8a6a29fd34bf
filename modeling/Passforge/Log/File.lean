import Passforge.Log.Class
import Passforge.Settings.Basic
import Passforge.Storage.Disk

/-!
# Log Files

A log file is opened when its first line arrives. A file that exists already is
appended to, whoever else writes to it. A file that has to be made is written
from its own position on, which is the same thing as long as nobody else writes
to it.

A line longer than the file may ever be is refused before anything is opened.

Rotation is left out. A file that a line would take past its limit is renamed
and begun anew, and old files are removed by number and age; here a file just
grows, so what is said of log files is about those that stay within their
limits.

## Main definitions

* `LogFile`: A file, its limit, and how it is open.
* `LogFile.write`: Writes a line, or says why not.
* `openFiles`: The log files of all classes, none open yet.
-/

namespace Passforge.Log

open Storage

/-- How an open file is written to. -/
inductive Handle where
  /-- At the end, wherever that is. -/
  | atEnd (place : Location)
  /-- From this offset on. -/
  | atOffset (place : Location) (offset : Nat)

/-- A log file. -/
structure LogFile where
  path : String
  /-- The largest size in bytes. -/
  limit : Int
  handle : Option Handle

/-- The bytes of a megabyte. -/
def megabyte : Int := 1048576

/-- A size in megabytes as a 64-bit number of bytes. Zero stands for a
    hundred. -/
def sizeLimit (megabytes : Int) : Int :=
  if megabytes = 0 then 100 * megabyte else (Int64.ofInt (megabytes * megabyte)).toInt

namespace LogFile

/-- The log file of a class inside a directory. -/
def ofSettings (directory : String) (s : RollingSettings) : LogFile :=
  ⟨joinPath directory s.name, sizeLimit s.maxSize, none⟩

/-- Makes the file and the directories above it. -/
def create (d : Disk) (path : String) : Except String (Disk × Handle) :=
  match d.makeDirectories (parentPath path) with
  | .error t => .error ("can't make directories for new logfile: " ++ t.message)
  | .ok d =>
    match d.createFile path with
    | .error t => .error ("can't open new logfile: " ++ t.message)
    | .ok (d, place) => .ok (d, .atOffset place 0)

/-- Opens the file: at its end if it exists, newly made otherwise. -/
def openFile (d : Disk) (path : String) : Except String (Disk × Handle) :=
  match d.locate path with
  | .ok (place, .file _) => .ok (d, .atEnd place)
  | .ok (_, .directory) => create d path
  | .error .missing => create d path
  | .error t =>
    .error ("error getting log file info: " ++ PathTrouble.message ⟨"stat", path, t⟩)

/-- Writes through a handle. -/
def writeThrough (d : Disk) (bytes : ByteArray) : Handle → Disk × Handle
  | .atEnd place => (d.writeAt place (d.contentAt place).size bytes, .atEnd place)
  | .atOffset place offset =>
    (d.writeAt place offset bytes, .atOffset place (offset + bytes.size))

/-- Writes a line: the disk and the file afterwards, or the file untouched and
    the reason. -/
def write (f : LogFile) (d : Disk) (line : String) : Disk × LogFile × Except String Unit :=
  let bytes := line.toUTF8
  if f.limit < bytes.size then
    (d, f, .error s!"write length {bytes.size} exceeds maximum file size {f.limit}")
  else
    let opened : Except String (Disk × Handle) := match f.handle with
      | some h => .ok (d, h)
      | none => openFile d f.path
    match opened with
    | .error reason => (d, f, .error reason)
    | .ok (d, h) =>
      let (d, h) := writeThrough d bytes h
      (d, { f with handle := some h }, .ok ())

end LogFile

/-- The log files of all classes, none of them open. -/
def openFiles (s : FileSettings) : ByClass LogFile where
  error := .ofSettings s.path s.error
  info := .ofSettings s.path s.info
  trace := .ofSettings s.path s.trace
  warn := .ofSettings s.path s.warn

end Passforge.Log
