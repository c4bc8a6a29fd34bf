import Passforge.Storage.Path

/-!
# The Disk

The files and directories the program can see. A location is the list of names
that leads there from the working directory; a location outside it starts with
the name `/`, under which nothing exists but what the program itself makes.

Looking a path up follows it part by part: every part but the last must be a
directory, `..` leads to the directory above, and a slash at the end demands a
directory. Each failure has the wording of the operating system.

## Main definitions

* `Disk`: What exists, by location.
* `Trouble`: Why an operation failed, with `PathTrouble` naming operation and
  path.
* `Disk.locate`: Follows a path.
* `Disk.makeDirectory`, `Disk.makeDirectories`: Makes one directory, or all that
  are missing.
* `Disk.readFile`: A whole file.
* `Disk.createFile`, `Disk.writeAt`: Makes an empty file, overwrites from an
  offset.
-/

namespace Passforge.Storage

/-- The names that lead to a file or directory. -/
abbrev Location : Type := List String

/-- What exists at a location. -/
inductive Node where
  | directory
  | file (content : ByteArray)

/-- The node is a directory. -/
def Node.isDirectory : Node → Bool
  | .directory => true
  | .file _ => false

/-- Everything that exists below the working directory, which itself always
    does. -/
structure Disk where
  nodes : List (Location × Node)

/-- Why the operating system refuses. -/
inductive Trouble where
  | missing
  | notDirectory
  | isDirectory
  | taken
  | nameTooLong
  | invalid
  deriving DecidableEq

/-- The wording of a refusal. -/
def Trouble.message : Trouble → String
  | .missing => "no such file or directory"
  | .notDirectory => "not a directory"
  | .isDirectory => "is a directory"
  | .taken => "file exists"
  | .nameTooLong => "file name too long"
  | .invalid => "invalid argument"

/-- A refusal with the operation and the path it was about. -/
structure PathTrouble where
  operation : String
  path : String
  trouble : Trouble

/-- The wording of a refusal. -/
def PathTrouble.message (t : PathTrouble) : String :=
  t.operation ++ " " ++ t.path ++ ": " ++ t.trouble.message

namespace Disk

/-- An empty working directory. -/
def empty : Disk := ⟨[]⟩

/-- What exists at a location. The working directory and the root are always
    there. -/
def node? (d : Disk) (l : Location) : Option Node :=
  if l == [] || l == ["/"] then some .directory else d.nodes.lookup l

/-- There is a directory at a location. -/
def hasDirectory (d : Disk) (l : Location) : Bool :=
  (d.node? l).any Node.isDirectory

/-- The disk with something at a location, in place of what was there. -/
def put (d : Disk) (l : Location) (n : Node) : Disk :=
  if d.nodes.any (·.1 == l) then
    ⟨d.nodes.map fun entry => if entry.1 == l then (l, n) else entry⟩
  else ⟨d.nodes ++ [(l, n)]⟩

/-- The location above; the root is above the working directory and above
    itself. -/
def above (l : Location) : Location :=
  if l.length ≤ 1 then (if l == [] || l == ["/"] then ["/"] else []) else l.dropLast

/-- The longest name of a single part, in bytes. -/
def partLimit : Nat := 255

/-- The shortest path that is too long, in bytes. -/
def pathLimit : Nat := 4096

/-- Follows parts from a location. -/
def walk (d : Disk) : Location → List String → Except Trouble Location
  | l, [] => .ok l
  | l, part :: rest =>
    if !d.hasDirectory l then .error .notDirectory
    else if part == "." then walk d l rest
    else if part == ".." then walk d (above l) rest
    else if partLimit < part.utf8ByteSize then .error .nameTooLong
    else if (d.node? (l ++ [part])).isNone then .error .missing
    else walk d (l ++ [part]) rest

/-- Where a path starts. -/
def start (path : String) : Location :=
  if isRooted path then ["/"] else []

/-- The path demands a directory: it ends with a slash or a part `.`. -/
def demandsDirectory (path : String) : Bool :=
  match path.toList.reverse with
  | '/' :: _ => true
  | ['.'] => true
  | '.' :: '/' :: _ => true
  | _ => false

/-- A path that no lookup can use. -/
def unusable? (path : String) : Option Trouble :=
  if path.toList.contains '\x00' then some .invalid
  else if path.isEmpty then some .missing
  else if pathLimit ≤ path.utf8ByteSize then some .nameTooLong
  else none

/-- Follows a path to what it names. -/
def locate (d : Disk) (path : String) : Except Trouble (Location × Node) :=
  match unusable? path with
  | some t => .error t
  | none => do
    let l ← d.walk (start path) (splitPath path)
    match d.node? l with
    | none => .error .missing
    | some n =>
      if !n.isDirectory && demandsDirectory path then .error .notDirectory else .ok (l, n)

/-- Where a new entry of this path would go: the directory it lies in, which
    must exist, and its name. -/
def newEntry (d : Disk) (path : String) : Except Trouble (Location × String) :=
  match unusable? path with
  | some t => .error t
  | none =>
    match (splitPath path).reverse with
    | [] => .error .taken
    | name :: before => do
      let l ← d.walk (start path) before.reverse
      if !d.hasDirectory l then .error .notDirectory
      else if name == "." || name == ".." then .error .taken
      else if partLimit < name.utf8ByteSize then .error .nameTooLong
      else .ok (l, name)

/-- Makes a directory whose parent exists. -/
def makeDirectory (d : Disk) (path : String) : Except Trouble Disk := do
  let (l, name) ← d.newEntry path
  if (d.node? (l ++ [name])).isSome then .error .taken
  else .ok (d.put (l ++ [name]) .directory)

/-- What stands before the last part of a path and the slash before it, if that
    is more than the root. -/
def beforeLast? (path : String) : Option String :=
  let trimmed := path.toList.reverse.dropWhile (· == '/')
  match trimmed.dropWhile (· != '/') with
  | '/' :: c :: rest => some (String.ofList (c :: rest).reverse)
  | _ => none

/-- Makes a directory and every missing one above it, looking at no more than
    `depth` of them. -/
def makeWithin (d : Disk) (path : String) : (depth : Nat) → Except PathTrouble Disk
  | 0 => .ok d
  | depth + 1 =>
    match d.locate path with
    | .ok (_, .directory) => .ok d
    | .ok (_, .file _) => .error ⟨"mkdir", path, .notDirectory⟩
    | .error _ => do
      let d ← match beforeLast? path with
        | some parent => makeWithin d parent depth
        | none => .ok d
      match d.makeDirectory path with
      | .ok d => .ok d
      | .error t =>
        match d.locate path with
        | .ok (_, .directory) => .ok d
        | _ => .error ⟨"mkdir", path, t⟩

/-- Makes a directory and every missing one above it. -/
def makeDirectories (d : Disk) (path : String) : Except PathTrouble Disk :=
  -- Every step up shortens the path.
  d.makeWithin path (path.length + 1)

/-- The content of a file. -/
def readFile (d : Disk) (path : String) : Except PathTrouble ByteArray :=
  match d.locate path with
  | .error t => .error ⟨"open", path, t⟩
  | .ok (_, .directory) => .error ⟨"read", path, .isDirectory⟩
  | .ok (_, .file content) => .ok content

/-- Makes an empty file, or empties the one that is there. -/
def createFile (d : Disk) (path : String) : Except PathTrouble (Disk × Location) :=
  match d.newEntry path with
  | .error .taken => .error ⟨"open", path, .isDirectory⟩
  | .error t => .error ⟨"open", path, t⟩
  | .ok (l, name) =>
    if d.hasDirectory (l ++ [name]) || demandsDirectory path then
      .error ⟨"open", path, .isDirectory⟩
    else .ok (d.put (l ++ [name]) (.file .empty), l ++ [name])

/-- The content of the file at a location; empty if there is none. -/
def contentAt (d : Disk) (l : Location) : ByteArray :=
  match d.node? l with
  | some (.file content) => content
  | _ => .empty

/-- Content overwritten from an offset on; a gap before the offset is filled
    with zeros. -/
def overwrite (content : ByteArray) (offset : Nat) (bytes : ByteArray) : ByteArray :=
  let padded := content ++ ⟨Array.replicate (offset - content.size) 0⟩
  padded.extract 0 offset ++ bytes ++ padded.extract (offset + bytes.size) padded.size

/-- Overwrites the file at a location from an offset on. -/
def writeAt (d : Disk) (l : Location) (offset : Nat) (bytes : ByteArray) : Disk :=
  d.put l (.file (overwrite (d.contentAt l) offset bytes))

/-- The files below the working directory, with their paths. -/
def files (d : Disk) : List (String × ByteArray) :=
  d.nodes.filterMap fun (l, n) =>
    match l, n with
    | "/" :: _, _ => none
    | l, .file content => some ("/".intercalate l, content)
    | _, .directory => none

end Disk

end Passforge.Storage
