import Passforge.Proofs.Generating

/-!
# How Steps Fail

The steps of a generating run and the failures they can end in. A turn fails
because its request is refused or because its line can not be written, and what
comes after the turns fails because the counters can not be published. No turn
fails for lack of a plan, which was made before.

A step *fails by* a set of failures if it ends in no other one. Sequencing keeps
this, so it is shown for the single steps and put together along the loop.

## Main definitions

* `Step.FailsBy`: The step ends in no other failure.

## Theorems

* `Step.FailsBy.bind`, `Step.FailsBy.mono`: Sequences of steps, larger sets.
* `writeRecord_failsBy`, `writeRecords_failsBy`: How turns fail.
* `finish_failsBy`: How the end of a run fails.
* `turns_failsBy`: How a run with a plan fails.
-/

namespace Passforge.Command

namespace Step

variable {α β : Type} {P Q : Failure → Prop}

/-- If the step fails, the failure is one of these. -/
def FailsBy (P : Failure → Prop) (x : Step α) : Prop :=
  ∀ (s : Stage) (f : Failure), (x s).1 = .ok (.error f) → P f

theorem FailsBy.mono {x : Step α} (h : x.FailsBy P) (hPQ : ∀ f, P f → Q f) : x.FailsBy Q := by
  intro s f hf
  exact hPQ f (h s f hf)

theorem FailsBy.bind {x : Step α} {f : α → Step β} (hx : x.FailsBy P)
    (hf : ∀ a, (f a).FailsBy P) : (x >>= f).FailsBy P := by
  intro s e he
  rcases h : x s with ⟨halt | e' | a, s'⟩
  · rw [bind_of_halt h] at he
    cases he
  · rw [bind_of_failure h] at he
    cases he
    exact hx s e (by rw [h])
  · rw [bind_of_ok h] at he
    exact hf a s' e he

end Step

open Step

/-- The output refused a line. -/
def Failure.IsOutput (f : Failure) : Prop :=
  ∃ cause, f = .output cause

theorem write_failsBy (text : String) : (write text).FailsBy Failure.IsOutput := by
  intro s f hf
  rw [write_eq] at hf
  split at hf
  · cases hf
  · cases hf
    exact ⟨_, rfl⟩

theorem writeText_failsBy (hash : Option Hash.HashParameters) (text : String) :
    (writeText hash text).FailsBy Failure.IsOutput := by
  rcases hash with _ | p
  · exact write_failsBy _
  · intro s f hf
    rcases hfault : Hash.keyFault? p.cost p.keyLength with _ | fault
    · obtain ⟨line, -, hs⟩ := writeText_of_line hfault text s
      rw [hs] at hf
      exact write_failsBy _ _ f hf
    · rw [writeText_of_fault hfault] at hf
      cases hf

/-- A turn fails because its request is refused, or because its line is. -/
def Failure.EndsTurn (g : Generator) (r : Request) (f : Failure) : Prop :=
  f.IsOutput ∨ ∃ rejection, g.check r = some rejection ∧ f = .rejected rejection

theorem writeRecord_failsBy (g : Generator) (r : Request) (hash : Option Hash.HashParameters) :
    (writeRecord g r hash).FailsBy (Failure.EndsTurn g r) := by
  intro s f hf
  rcases hgen : g.generate Supply.source r s.session.supply with ⟨halt | rejection | text, supply⟩
  · rw [writeRecord_of_halt hgen] at hf
    cases hf
  -- What generating refuses, the check refuses.
  · have hcheck := generate_rejects_iff.mp (congrArg Prod.fst hgen)
    rw [writeRecord_of_rejection hcheck] at hf
    cases hf
    exact .inr ⟨rejection, hcheck, rfl⟩
  · rw [writeRecord_of_text hgen] at hf
    exact .inl (writeText_failsBy hash text _ f hf)

theorem writeRecords_failsBy (g : Generator) (r : Request) (hash : Option Hash.HashParameters)
    (count : Nat) : (writeRecords g r hash count).FailsBy (Failure.EndsTurn g r) := by
  induction count with
  | zero =>
      intro s f hf
      cases hf
  | succ count ih => exact (writeRecord_failsBy g r hash).bind fun _ => ih

theorem finish_failsBy (metrics : Bool) :
    (if metrics then publishCounters else pure () : Step Unit).FailsBy
      fun f => ∃ e, f = .publish e := by
  intro s f hf
  cases metrics with
  | false => cases hf
  | true =>
      rw [if_pos rfl, publishCounters_eq] at hf
      generalize (Metrics.publish _ _).2 = result at hf
      cases result with
      | error e =>
          cases hf
          exact ⟨e, rfl⟩
      | ok => cases hf

/-- With a plan, a run fails as a turn does, or because the counters can not be
    published. -/
theorem turns_failsBy (g : Generator) (r : Request) (hash : Option Hash.HashParameters)
    (count : Nat) (metrics : Bool) :
    (writeRecords g r hash count >>= fun _ =>
      if metrics then publishCounters else pure () : Step Unit).FailsBy
        fun f => f.EndsTurn g r ∨ ∃ e, f = .publish e :=
  ((writeRecords_failsBy g r hash count).mono fun _ => .inl).bind fun _ =>
    (finish_failsBy metrics).mono fun _ => .inr

end Passforge.Command
