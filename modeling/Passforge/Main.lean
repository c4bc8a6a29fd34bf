import Passforge.Command.Run
import Passforge.Log.Clock
import Std.Time.DateTime.Timestamp

/-!
# The Program

The thin layer between the operating system and `Invocation.run`: it collects
the words, the environment, the files a run can look at and random bytes, and
puts what the run gives back on the streams and the disk. Nothing is decided
here.

A run is a function, so it can be repeated: it starts with a pool of random
bytes, and if it read past the end of the pool it is repeated with a longer one
that starts with the same bytes.
-/

namespace Passforge

open Command Storage

/-- The environment variables a run can look at. -/
def variableNames : List String :=
  (Section.all.flatMap fun s => s.variable :: s.settings.map Setting.variable) ++
    [overrideVariable, "NO_COLOR"]

/-- Collects the environment. -/
def readEnvironment : IO Environment := do
  let entries ← variableNames.filterMapM fun name => do
    return (← IO.getEnv name).map fun value => (name, value)
  return Environment.ofList entries

/-- The text of a location as a path. -/
def pathOf : Location → String
  | "/" :: parts => "/" ++ "/".intercalate parts
  | parts => "/".intercalate parts

/-- What the operating system has at a location that lies in a directory. -/
def nodeAt (l : Location) : IO (Option Node) := do
  try return some (.file (← IO.FS.readBinFile (pathOf l)))
  catch
    | .inappropriateType _ _ _ => return some .directory
    | _ => return none

/-- Adds what the operating system has at a path, and above it, to a disk. -/
def observe (d : Disk) (path : String) : IO Disk := do
  let start := if isRooted path then ["/"] else []
  let parts := splitPath (cleanPath path)
  (List.range parts.length).foldlM (fun d n => do
    if !d.hasDirectory (start ++ parts.take n) then return d
    let l := start ++ parts.take (n + 1)
    match ← nodeAt l with
    | some node => return d.put l node
    | none => return d) d

/-- The log files that settings name, with their directory. -/
def logPaths (s : Settings) : List String :=
  let file := s.log.file
  file.path :: [file.error, file.info, file.trace, file.warn].map fun r => joinPath file.path r.name

/-- The part of the disk a run can look at. -/
def readDisk (words : List String) (env : Environment) : IO Disk := do
  let (command, words) := find words
  let directory := match parse command.flags words with
    | .ok p => (p.text? .config).getD standardDirectory
    | .error _ => standardDirectory
  let disk ← observe .empty (configPath directory)
  let settings := (Settings.load disk env directory).1
  if settings.log.file.enabled then (logPaths settings).foldlM observe disk else return disk

/-- Carries the differences between two disks out. -/
def writeDisk (before after : Disk) : IO Unit :=
  after.nodes.forM fun (l, node) => do
    match node, before.node? l with
    | .directory, some .directory => return
    | .directory, _ => IO.FS.createDirAll (pathOf l)
    | .file content, some (.file old) =>
      if content.data != old.data then IO.FS.writeBinFile (pathOf l) content
    | .file content, _ => IO.FS.writeBinFile (pathOf l) content

/-- A stream that starts with the given bytes. -/
def poolEntropy (pool : ByteArray) : Entropy where
  byteAt i := pool.data.getD i 0
  position := 0
  patience := 65536

/-- How many random bytes a run starts with. -/
def firstPool : USize := 65536

/-- Runs with ever longer pools until the bytes suffice. -/
partial def runWithPool (make : Entropy → Invocation) (pool : ByteArray) : IO (Ending × Stage) := do
  let (ending, stage) := (make (poolEntropy pool)).run
  if stage.session.supply.entropy.position ≤ pool.size then return (ending, stage)
  else runWithPool make (pool ++ (← IO.getRandomBytes pool.size.toUSize))

/-- The usual cost of hashing. -/
def standardHash : Hash.HashParameters := ⟨⟨65536, 1, 4⟩, 16, 32⟩

end Passforge

open Passforge Command in
def main (words : List String) : IO UInt32 := do
  let env ← readEnvironment
  let disk ← readDisk words env
  let now ← Std.Time.Timestamp.now
  let seed ← IO.getRandomBytes 8
  let make (entropy : Entropy) : Invocation :=
    { words, disk, environment := env, entropy
      freshSeed := Buffer.littleEndian seed.toList
      hashParameters := standardHash
      output := .unlimited, diagnostics := .unlimited
      time := Log.timeText now.toSecondsSinceUnixEpoch.val.toNat, caller := program }
  let (ending, stage) ← runWithPool make (← IO.getRandomBytes firstPool)
  writeDisk disk stage.session.journal.disk
  (← IO.getStdout).putStr stage.output.taken
  (← IO.getStderr).putStr stage.session.journal.console.taken
  match ending with
  | .success => return 0
  | .failure _ => return 1
  | .halt (.fault f) =>
    (← IO.getStderr).putStr ("panic: " ++ f.message ++ "\n")
    return 2
  | .halt .endless => return 2
