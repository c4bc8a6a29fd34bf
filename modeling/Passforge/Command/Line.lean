import Passforge.Command.Basic

/-!
# The Command Line

Making sense of the words on the command line, in two passes. The first finds
the command: it is named by the first word that is neither a flag nor the value
of one, and without such a name it is to generate. The second reads the flags,
which may stand before and behind arguments, until two dashes end them.

The first pass does not know the commands' own flags yet, so it takes every flag
but the truth flags of the generating command to have a value in the next word.
Only the first word it finds counts, and a flag right before the last word hides
that word.

## Main definitions

* `find`: The command, and the words without its name.
* `Parsed`: The flags given, and the arguments.
* `parse`: Reads the flags.
-/

namespace Passforge.Command

/-- The word starts like a flag. -/
def isFlagWord (s : String) : Bool :=
  s.startsWith "-"

/-- The first pass takes the word's value to stand in the next word. -/
def takesNext (s : String) : Bool :=
  let isTruth (f : Flag) : Bool := f.kind = .truth && f != .help
  let known := Command.generate.flags
  if s.toList.contains '=' then false
  else if s.startsWith "--" then !known.any fun f => isTruth f && "--" ++ f.name == s
  else isFlagWord s && s.utf8ByteSize == 2 &&
    !known.any fun f => isTruth f && f.short?.any fun c => "-" ++ c.toString == s

/-- The first word that may name a command. -/
def firstWord? : List String → Option String
  | [] => none
  | s :: rest =>
    if s == "--" then none
    else if takesNext s then
      match rest with
      | _ :: next :: more => firstWord? (next :: more)
      | _ => none
    else if s != "" && !isFlagWord s then some s
    else firstWord? rest

/-- The words without the first that is `name` and neither a flag nor the value
    of one. -/
def withoutName (name : String) : List String → List String
  | [] => []
  | s :: rest =>
    if s == "--" then s :: rest
    else if takesNext s then
      match rest with
      | v :: more => s :: v :: withoutName name more
      | [] => [s]
    else if !isFlagWord s && s == name then rest
    else s :: withoutName name rest

/-- The command that is meant, and the words without its name. -/
def find (words : List String) : Command × List String :=
  match (firstWord? words).bind ofName? with
  | some c => (c, withoutName c.name words)
  | none => (.generate, words)

/-- The values that a word gives to flags, and whether the next word belongs to
    it. -/
structure WordReading where
  values : List (Flag × FlagValue)
  usesNext : Bool

/-- Reads a word of the form `--name` or `--name=value`. -/
def readLong (known : List Flag) (word : String) (next : Option String) :
    Except FlagError WordReading :=
  let body := word.toList.drop 2
  let name := String.ofList (body.takeWhile (· != '='))
  if name == "" || isFlagWord name then .error (.nameless word)
  else
    match known.find? (·.name == name) with
    | none => .error (.unknown name)
    | some f =>
      match body.dropWhile (· != '=') with
      | _ :: value => do return ⟨[← f.read (String.ofList value)], false⟩
      | [] =>
        if f.kind = .truth then do return ⟨[← f.read "true"], false⟩
        else
          match next with
          | some value => do return ⟨[← f.read value], true⟩
          | none => .error (.missing word)

/-- Letters that are meant for a test runner. -/
def isTestWord (letters : List Char) : Bool :=
  "test.".toList.isPrefixOf letters

/-- Reads the letters of a word with one dash. A truth flag may be followed by
    further letters; what follows any other letter is its value. Letters for a
    test runner are passed over. -/
def readShort (known : List Flag) (next : Option String) : List Char → Except FlagError WordReading
  | [] => .ok ⟨[], false⟩
  | c :: rest =>
    if isTestWord (c :: rest) then .ok ⟨[], false⟩
    else
      match known.find? (·.short? == some c) with
      | none => .error (.unknownShort (Text.leadingByte c) (String.ofList (c :: rest)))
      | some f =>
        match rest with
        | '=' :: d :: more => do return ⟨[← f.read (String.ofList (d :: more))], false⟩
        | rest =>
          if f.kind = .truth then do
            let v ← f.read "true"
            let others ← readShort known next rest
            return { others with values := v :: others.values }
          else
            match rest with
            | _ :: _ => do return ⟨[← f.read (String.ofList rest)], false⟩
            | [] =>
              match next with
              | some value => do return ⟨[← f.read value], true⟩
              | none => .error (.missingShort c (String.ofList [c]))

/-- The flags given, in order, and the arguments. -/
structure Parsed where
  given : List (Flag × FlagValue)
  arguments : List String

/-- Reads words with the flags a command knows. -/
def parse (known : List Flag) : List String → Except FlagError Parsed
  | [] => .ok ⟨[], []⟩
  | s :: rest =>
    if s == "--" then .ok ⟨[], rest⟩
    else if s == "-" || !isFlagWord s then do
      let p ← parse known rest
      return { p with arguments := s :: p.arguments }
    else do
      let reading ←
        if s.startsWith "--" then readLong known s rest.head?
        else readShort known rest.head? (s.toList.drop 1)
      let p ←
        match reading.usesNext, rest with
        | true, _ :: more => parse known more
        | _, rest => parse known rest
      return { p with given := reading.values ++ p.given }

namespace Parsed

/-- The value given to a flag, the last one if there are several. -/
def value? (p : Parsed) (f : Flag) : Option FlagValue :=
  p.given.reverse.lookup f

/-- The text given to a flag. -/
def text? (p : Parsed) (f : Flag) : Option String :=
  match p.value? f with
  | some (.text s) => some s
  | _ => none

/-- The integer given to a flag. -/
def integer? (p : Parsed) (f : Flag) : Option Int :=
  match p.value? f with
  | some (.integer n) => some n
  | _ => none

/-- The natural number given to a flag. -/
def natural? (p : Parsed) (f : Flag) : Option Nat :=
  match p.value? f with
  | some (.natural n) => some n
  | _ => none

/-- The truth value given to a flag. -/
def truth? (p : Parsed) (f : Flag) : Option Bool :=
  match p.value? f with
  | some (.truth b) => some b
  | _ => none

/-- A flag that is off unless it is given as true. -/
def isOn (p : Parsed) (f : Flag) : Bool :=
  (p.truth? f).getD false

end Parsed

end Passforge.Command
