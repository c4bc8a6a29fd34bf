/-!
# Sinks

Where output goes. A sink takes a text as a whole or refuses it as a whole: one
with a limit refuses whatever would carry the total past it, and a sink without
a limit takes everything. A refusal leaves what was taken before untouched.

## Main definitions

* `Sink`: The text taken so far, the limit in bytes, and the words of a refusal.
* `Sink.put`: Offers a text.
* `Sink.putAll`: Offers texts in turn until one is refused.
-/

namespace Passforge

/-- A place for output. -/
structure Sink where
  /-- How many bytes fit, if there is a limit. -/
  limit : Option Nat
  /-- What a refusal is reported as. -/
  refusal : String
  /-- Everything taken so far. -/
  taken : String

namespace Sink

/-- A sink that takes everything. -/
def unlimited : Sink := ⟨none, "", ""⟩

/-- A sink that takes up to `limit` bytes. -/
def ofLimit (limit : Nat) : Sink := ⟨some limit, "writer is full", ""⟩

/-- A device with no room: only the empty text fits. -/
def full : Sink := ⟨some 0, "write /dev/full: no space left on device", ""⟩

/-- The text still fits. -/
def fits (s : Sink) (text : String) : Bool :=
  match s.limit with
  | none => true
  | some limit => s.taken.utf8ByteSize + text.utf8ByteSize ≤ limit

/-- Offers a text: the sink afterwards, and whether the text was taken. -/
def put (s : Sink) (text : String) : Sink × Bool :=
  if s.fits text then ({ s with taken := s.taken ++ text }, true) else (s, false)

/-- Offers texts in turn until one is refused. -/
def putAll (s : Sink) : List String → Sink × Bool
  | [] => (s, true)
  | text :: rest =>
    match s.put text with
    | (s, true) => putAll s rest
    | (s, false) => (s, false)

end Sink

end Passforge
