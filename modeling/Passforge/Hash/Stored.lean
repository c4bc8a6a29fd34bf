import Passforge.Draw.Entropy
import Passforge.Hash.Argon2id
import Passforge.Hash.Base64
import Passforge.Number.Power
import Passforge.Text.Blank

/-!
# Stored Hashes

A stored hash is a line of text that holds all it takes to check a password: the
function, its version, the cost parameters, the salt and the key.

Reading one is lenient where the numbers are concerned: blanks may stand before
a number, and whatever follows the last number of a part is ignored. The parts
are checked in order, and the first that fails decides the error.

## Main definitions

* `StoredHash`: Cost parameters, salt and key.
* `StoredHash.text`: The line.
* `StoredHash.parse`: The stored hash a line holds, or the first thing wrong
  with it.
* `HashParameters`: What hashing a password needs.
* `hashPassword`: A stored hash with a fresh salt.
* `verifyPassword`: Whether a password belongs to a stored hash.
-/

namespace Passforge.Hash

/-- What is kept of a password. -/
structure StoredHash where
  cost : CostParameters
  salt : List UInt8
  key : List UInt8
  deriving DecidableEq

/-- Why a line is no stored hash. -/
inductive StoredHashError where
  /-- Not six parts. -/
  | format
  /-- Another function. -/
  | variant
  /-- A number that cannot be read. -/
  | number
  /-- Another version. -/
  | version
  /-- Salt or key that is not base64, with the place. -/
  | encoding (place : Nat)
  deriving DecidableEq

/-- The text of the error. -/
def StoredHashError.message : StoredHashError → String
  | .format => "argon2id: hash is not in the correct format"
  | .variant => "argon2id: incompatible variant of argon2"
  | .number => "number can not be read"
  | .version => "argon2id: incompatible version of argon2"
  | .encoding place => s!"illegal base64 data at input byte {place}"

/-- The version of the function. -/
def functionVersion : Nat := 19

namespace StoredHash

/-- A stored hash as a line of text. -/
def text (h : StoredHash) : String :=
  s!"$argon2id$v={functionVersion}$m={h.cost.memory},t={h.cost.passes},p={h.cost.lanes}$" ++
    String.ofList (Base64.encode h.salt) ++ "$" ++ String.ofList (Base64.encode h.key)

/-- What follows a fixed text. -/
def expect : (fixed : List Char) → List Char → Except StoredHashError (List Char)
  | [], cs => .ok cs
  | f :: fixed, c :: cs => if f == c then expect fixed cs else .error .number
  | _ :: _, [] => .error .number

/-- What follows blanks; a line break is not among them. -/
def skipBlanks : List Char → Except StoredHashError (List Char)
  | [] => .ok []
  | c :: rest =>
    if c == '\n' then .error .number
    else if Text.isBlank c then skipBlanks rest
    else .ok (c :: rest)

/-- A number below `bound` made of digits, and what follows them. -/
def readNat (bound : Nat) (cs : List Char) : Except StoredHashError (Nat × List Char) :=
  let digits := cs.takeWhile Char.isDigit
  let n := digits.foldl (fun n c => 10 * n + (c.toNat - 48)) 0
  if digits.isEmpty || bound ≤ n then .error .number
  else .ok (n, cs.dropWhile Char.isDigit)

/-- A number with an optional sign that fits 64 bits. -/
def readInt (cs : List Char) : Except StoredHashError Int :=
  match cs with
  | '-' :: rest => (fun r => -(r.1 : Int)) <$> readNat (Number.twoTo 63 + 1) rest
  | '+' :: rest => (fun r => (r.1 : Int)) <$> readNat (Number.twoTo 63) rest
  | cs => (fun r => (r.1 : Int)) <$> readNat (Number.twoTo 63) cs

/-- The version part. -/
def readVersion (cs : List Char) : Except StoredHashError Int := do
  readInt (← skipBlanks (← expect ['v', '='] cs))

/-- A number after a fixed text and blanks. -/
def readField (fixed : List Char) (bound : Nat) (cs : List Char) :
    Except StoredHashError (Nat × List Char) := do
  readNat bound (← skipBlanks (← expect fixed cs))

/-- The part with the cost parameters. -/
def readCost (cs : List Char) : Except StoredHashError CostParameters := do
  let (memory, cs) ← readField ['m', '='] (Number.twoTo 32) cs
  let (passes, cs) ← readField [',', 't', '='] (Number.twoTo 32) cs
  let (lanes, _) ← readField [',', 'p', '='] (Number.twoTo 8) cs
  return ⟨memory, passes, lanes⟩

/-- The bytes of a part in base64. -/
def readBytes (cs : List Char) : Except StoredHashError (List UInt8) :=
  match Base64.decode cs with
  | .ok bytes => .ok bytes
  | .error place => .error (.encoding place)

/-- The stored hash a line holds, or the first thing wrong with it. -/
def parse (line : String) : Except StoredHashError StoredHash :=
  match line.toList.splitOn '$' with
  | [_, function, version, cost, salt, key] => do
    if function != "argon2id".toList then .error .variant
    if (← readVersion version) != functionVersion then .error .version
    let cost ← readCost cost
    let salt ← readBytes salt
    let key ← readBytes key
    return ⟨cost, salt, key⟩
  | _ => .error .format

end StoredHash

/-- What hashing a password needs. -/
structure HashParameters where
  cost : CostParameters
  saltLength : Nat
  keyLength : Nat

/-- Hashes a password with a salt from the random stream. -/
def hashPassword (p : HashParameters) (password : List UInt8) : Run Entropy String := do
  let salt ← Entropy.read p.saltLength
  match deriveKey p.cost password salt p.keyLength with
  | .error f => Run.fault f
  | .ok key => return StoredHash.text ⟨p.cost, salt, key⟩

/-- Why a password could not be checked. -/
def verifyContext : String := "failed to compare password and hash: "

/-- Whether a password belongs to a stored hash. The outer result is a fault of
    the derivation, the inner one an error in the line. -/
def verifyPassword (password : List UInt8) (line : String) :
    Except Fault (Except StoredHashError Bool) :=
  match StoredHash.parse line with
  | .error e => .ok (.error e)
  | .ok h =>
    match deriveKey h.cost password h.salt h.key.length with
    | .error f => .error f
    | .ok key => .ok (.ok (key == h.key))

end Passforge.Hash
