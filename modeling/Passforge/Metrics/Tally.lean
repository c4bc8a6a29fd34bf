import Passforge.Fault
import Passforge.Generator
import Passforge.Metrics.Family
import Passforge.Number.Binary64

/-!
# Counting Requests

What a generator counts: the strings it made, their characters, and the requests
it refused, by reason. Counters are 64-bit and wrap; an amount added to one is
rounded to a floating-point number first, and a negative amount is a fault.

Counters are only published when a registry knows them. A registry knows one set
of counters at most, so registering a second set is a fault and leaves
everything as it was.

## Main definitions

* `Tally`: The counters, with `Tally.generated` and `Tally.rejected`.
* `Board`: No counters, counters nobody publishes, or registered counters.
* `Board.families`: What the registry publishes.
-/

namespace Passforge.Metrics

/-- The counters of a generator. -/
structure Tally where
  strings : UInt64
  characters : UInt64
  /-- Refused requests by reason, in increasing order of the reasons. -/
  rejections : List (String × UInt64)

namespace Tally

/-- Nothing counted yet. -/
def zero : Tally := ⟨0, 0, []⟩

/-- Counts a string. A negative length is a fault, found after the string was
    counted. -/
def generated (t : Tally) (length : Int) : Tally × Except Fault Unit :=
  let t := { t with strings := t.strings + 1 }
  if length < 0 then (t, .error .counterDecrease)
  else
    let amount := UInt64.ofNat (Number.roundToBinary64 length.toNat)
    ({ t with characters := t.characters + amount }, .ok ())

/-- Counts a refusal. -/
def rejected (t : Tally) (reason : String) : Tally :=
  { t with rejections := bump reason t.rejections }

/-- Counts the outcome of a request for `length` characters. -/
def account (t : Tally) (length : Int) : Except Rejection String → Tally
  | .ok _ => (t.generated length).1
  | .error rejection => t.rejected rejection.reason

/-- The published families, in the order of their names. -/
def families (t : Tally) : List Family :=
  [⟨"pwgen_generated_characters_total", "Number of generated characters over all strings.",
      [⟨[], t.characters⟩]⟩,
    ⟨"pwgen_generated_strings_total", "Number of generated strings.", [⟨[], t.strings⟩]⟩,
    ⟨"pwgen_rejected_requests_total",
      "Number of generation requests rejected, differentiated by reason.",
      t.rejections.map fun r => ⟨[("reason", r.1)], r.2⟩⟩]

end Tally

/-- The counters in use and whether the registry knows them. -/
inductive Board where
  /-- Nothing is counted. -/
  | absent
  /-- Counters that no registry knows. -/
  | loose (t : Tally)
  /-- Counters of the registry. -/
  | registered (t : Tally)

namespace Board

/-- Counts a string. -/
def generated (length : Int) : Run Board Unit := do
  match ← get with
  | .absent => return
  | .loose t => settle .loose (t.generated length)
  | .registered t => settle .registered (t.generated length)
where
  /-- Keeps the counters and passes on a fault. -/
  settle (wrap : Tally → Board) (result : Tally × Except Fault Unit) : Run Board Unit := do
    set (wrap result.1)
    match result.2 with
    | .ok () => return
    | .error f => Run.fault f

/-- Counts a refusal. -/
def rejected (b : Board) (reason : String) : Board :=
  match b with
  | .absent => .absent
  | .loose t => .loose (t.rejected reason)
  | .registered t => .registered (t.rejected reason)

/-- Counts the outcome of a request. -/
def account (b : Board) (length : Int) (outcome : Except Rejection String) : Board :=
  match b with
  | .absent => .absent
  | .loose t => .loose (t.account length outcome)
  | .registered t => .registered (t.account length outcome)

/-- Registers a fresh set of counters; a registry that has one already
    faults. -/
def renew : Run Board Unit := do
  match ← get with
  | .registered _ => Run.fault .duplicateCounters
  | _ => set (Board.registered .zero)

/-- What the registry publishes. -/
def families : Board → List Family
  | .registered t => t.families
  | _ => []

end Board

end Passforge.Metrics
