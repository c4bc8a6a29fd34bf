import Passforge.Proofs.Generating
import Passforge.Proofs.Planning

/-!
# Secrets Leave No Trace

What a run generates depends on its random stream, and on the seed it picks
itself if it is told to draw from the seeded source. Apart from the results
nothing else does: not what is written to the second stream, not the log files,
not the counters, and not whether and why the run fails.

The statement compares two runs, so everything here does. Two stages are
*alike* if they differ in their random bytes, in the state of the source and in
the results written, and in nothing else. Two steps *mirror* each other if they
lead from alike stages to alike stages with the same failure or fault, unless
one of them never ends. Mirroring is kept by sequencing, so it is shown for the
small steps first and then put together along the text of the program, with an
induction only where the program loops.

The first stream has to be steady: it takes every text, or it is full from the
start. On a device that fills up in the middle it would depend on the length of
the results in bytes which of them fails.

## Main definitions

* `Sink.Steady`: The sink takes every text, or is full.
* `Stage.Alike`: Stages that differ in secrets and results only.
* `Step.Agree`: Outcomes that differ in secrets and results only.
* `Step.Mirrors`: Steps that agree from alike stages.
* `Invocation.withSecrets`: The invocation with another stream and seed.

## Theorems

* `Step.Mirrors.bind`: Mirroring is kept by sequencing.
* `mirrors_writeRecord`: A turn gives away nothing of the string.
* `mirrors_writeRecords`: Neither does a number of turns.
* `mirrors_obey`: Neither does a whole command.
* `serve_traces`: The traces of a request are the same with any two sources.
* `secrets_leave_no_trace`: Two runs on different secrets differ in their
  results only.
-/

namespace Passforge

namespace Sink

/-- The sink takes every text, or it is full. -/
def Steady (s : Sink) : Prop :=
  ∀ limit ∈ s.limit, s.taken.utf8ByteSize = limit

theorem fits_of_steady {s : Sink} (h : s.Steady) (text : String) :
    s.fits text = true ↔ s.limit = none ∨ text = "" := by
  unfold fits
  rcases hl : s.limit with _ | limit
  · simp only [true_or]
  · have hfull := h limit hl
    simp only [decide_eq_true_eq, reduceCtorEq, false_or, hfull]
    rw [← String.utf8ByteSize_eq_zero_iff]
    omega

/-- Steady sinks with the same limit and the same words of refusal. -/
structure Alike (s t : Sink) : Prop where
  limit : s.limit = t.limit
  refusal : s.refusal = t.refusal
  steady : s.Steady
  steady' : t.Steady

theorem steady_put {s : Sink} (h : s.Steady) (text : String) : (s.put text).1.Steady := by
  unfold put
  by_cases hfits : s.fits text = true
  · rw [if_pos hfits]
    -- A full sink takes the empty text only, and stays as it is.
    rcases (fits_of_steady h text).mp hfits with hlimit | rfl
    · intro limit hl
      rw [hlimit] at hl
      cases hl
    · intro limit hl
      simp only [String.append_empty]
      exact h limit hl
  · rw [if_neg hfits]
    exact h

/-- Alike sinks both take their text or both refuse it, if none of the texts is
    empty or both are. -/
theorem Alike.put {s t : Sink} (h : s.Alike t) {a b : String} (hab : a = "" ↔ b = "") :
    (s.put a).2 = (t.put b).2 ∧ (s.put a).1.Alike (t.put b).1 := by
  have hfits : s.fits a = true ↔ t.fits b = true := by
    rw [fits_of_steady h.steady, fits_of_steady h.steady', h.limit, hab]
  refine ⟨?_, ?_, ?_, steady_put h.steady a, steady_put h.steady' b⟩
  · unfold Sink.put
    by_cases hs : s.fits a = true
    · rw [if_pos hs, if_pos (hfits.mp hs)]
    · rw [if_neg hs, if_neg fun ht => hs (hfits.mpr ht)]
  · rw [put_limit, put_limit, h.limit]
  · rw [put_refusal, put_refusal, h.refusal]

end Sink

namespace Command

/-- The stages differ in their random bytes, in the state of the source and in
    the results written, and in nothing else. -/
structure Stage.Alike (s t : Stage) : Prop where
  output : s.output.Alike t.output
  board : s.session.board = t.session.board
  journal : s.session.journal = t.session.journal
  native : s.session.supply.Native
  native' : t.session.supply.Native

namespace Step

variable {α β γ δ : Type}

/-- The outcomes agree on failures and faults, on values as `R` says, and leave
    alike stages; or one of them never ends. -/
inductive Agree (R : α → β → Prop) :
    Except Halt (Except Failure α) × Stage → Except Halt (Except Failure β) × Stage → Prop where
  | value {a : α} {b : β} {s t : Stage} (hab : R a b) (h : s.Alike t) :
      Agree R (.ok (.ok a), s) (.ok (.ok b), t)
  | failure {f : Failure} {s t : Stage} (h : s.Alike t) :
      Agree R (.ok (.error f), s) (.ok (.error f), t)
  | fault {f : Fault} {s t : Stage} (h : s.Alike t) :
      Agree R (.error (.fault f), s) (.error (.fault f), t)
  | endless {s : Stage} {y : Except Halt (Except Failure β) × Stage} :
      Agree R (.error .endless, s) y
  | endless' {x : Except Halt (Except Failure α) × Stage} {t : Stage} :
      Agree R x (.error .endless, t)

/-- From alike stages the steps agree. -/
def Mirrors (R : α → β → Prop) (x : Step α) (y : Step β) : Prop :=
  ∀ s t : Stage, s.Alike t → Agree R (x s) (y t)

theorem Mirrors.pure {R : α → β → Prop} {a : α} {b : β} (h : R a b) :
    Mirrors R (pure a : Step α) (pure b) :=
  fun _ _ hst => .value h hst

theorem Mirrors.throw (R : α → β → Prop) (f : Failure) :
    Mirrors R (throw f : Step α) (throw f) :=
  fun _ _ hst => .failure hst

theorem Mirrors.modify {m m' : Stage → Stage} (h : ∀ s t : Stage, s.Alike t → (m s).Alike (m' t)) :
    Mirrors Eq (modify m : Step PUnit) (modify m') :=
  fun s t hst => .value rfl (h s t hst)

theorem Agree.bind {R : α → β → Prop} {Q : γ → δ → Prop} {x : Step α} {y : Step β}
    {f : α → Step γ} {g : β → Step δ} {s t : Stage} (h : Agree R (x s) (y t))
    (hfg : ∀ a b, R a b → Mirrors Q (f a) (g b)) : Agree Q ((x >>= f) s) ((y >>= g) t) := by
  generalize hx : x s = rx at h
  generalize hy : y t = ry at h
  cases h with
  | value hab hst =>
      rw [bind_of_ok hx, bind_of_ok hy]
      exact hfg _ _ hab _ _ hst
  | failure hst =>
      rw [bind_of_failure hx, bind_of_failure hy]
      exact .failure hst
  | fault hst =>
      rw [bind_of_halt hx, bind_of_halt hy]
      exact .fault hst
  | endless =>
      rw [bind_of_halt hx]
      exact .endless
  | endless' =>
      rw [bind_of_halt hy]
      exact .endless'

theorem Mirrors.bind {R : α → β → Prop} {Q : γ → δ → Prop} {x : Step α} {y : Step β}
    {f : α → Step γ} {g : β → Step δ} (h : Mirrors R x y)
    (hfg : ∀ a b, R a b → Mirrors Q (f a) (g b)) : Mirrors Q (x >>= f) (y >>= g) :=
  fun s t hst => (h s t hst).bind hfg

theorem Mirrors.forM {ι : Type} {f g : ι → Step PUnit} (h : ∀ i, Mirrors Eq (f i) (g i))
    (is : List ι) : Mirrors Eq (is.forM f) (is.forM g) := by
  induction is with
  | nil => exact .pure rfl
  | cons i is ih => exact (h i).bind fun _ _ _ => ih

end Step

open Step

theorem Stage.Alike.withJournal {s t : Stage} (h : s.Alike t) (f : Log.Journal → Log.Journal) :
    (s.withJournal f).Alike (t.withJournal f) where
  output := h.output
  board := h.board
  journal := congrArg f h.journal
  native := h.native
  native' := h.native'

theorem Stage.Alike.report {s t : Stage} (h : s.Alike t) (text : String) :
    (s.report text).Alike (t.report text) :=
  h.withJournal fun j => { j with console := (j.console.put text).1 }

theorem mirrors_write {a b : String} (hab : a = "" ↔ b = "") :
    Mirrors Eq (write a) (write b) := by
  intro s t h
  rcases h.output.put hab with ⟨htaken, hsinks⟩
  unfold write
  rw [get_bind, get_bind]
  rcases hs : s.output.put a with ⟨sink, _ | _⟩
  · rcases ht : t.output.put b with ⟨sink', _ | _⟩
    -- A refusal says nothing about the text refused.
    · rw [hs, ht] at hsinks
      have hrefusal : sink.refusal = sink'.refusal := hsinks.refusal
      simp only [hrefusal]
      exact Mirrors.throw Eq _ s t h
    · rw [hs, ht] at htaken
      cases htaken
  · rcases ht : t.output.put b with ⟨sink', _ | _⟩
    · rw [hs, ht] at htaken
      cases htaken
    · rw [hs, ht] at hsinks
      exact .value rfl { h with output := hsinks }

/-- Loading the settings looks at the disk and the environment only. -/
theorem mirrors_prepare {i j : Invocation} (c : Command) (p : Parsed) (hdisk : i.disk = j.disk)
    (henv : i.environment = j.environment) : Mirrors Eq (prepare i c p) (prepare j c p) := by
  intro s t h
  rcases hload : Settings.load i.disk i.environment ((p.text? .config).getD standardDirectory)
    with ⟨loaded, _ | e⟩
  · rw [prepare_of_load hload, prepare_of_load (hdisk ▸ henv ▸ hload), h.journal]
    rcases t.session.journal.configure (p.levelled loaded).log with ⟨journal, e | ⟨⟩⟩
    · exact .failure h
    · exact .value rfl (h.withJournal fun _ => journal.log (loadedEvent c p))
  · rw [prepare_of_error hload, prepare_of_error (hdisk ▸ henv ▸ hload)]
    exact .failure h

theorem Stage.Alike.refused {s t : Stage} (h : s.Alike t) (rejection : Rejection) :
    (s.refused rejection).Alike (t.refused rejection) where
  output := h.output
  board := congrArg (·.rejected rejection.reason) h.board
  journal := h.journal
  native := h.native
  native' := h.native'

/-- The traces of a served request are those of its length and alphabet. -/
theorem Stage.Alike.served {s t : Stage} (h : s.Alike t) (r : Request) {supply supply' : Supply}
    (hs : supply.Native) (ht : supply'.Native) :
    (s.served r supply).Alike (t.served r supply') where
  output := h.output
  board := congrArg (·.served r.length) h.board
  journal := congrArg (·.log r.event) h.journal
  native := hs
  native' := ht

theorem Stage.Alike.salted {s t : Stage} (h : s.Alike t) (length : Nat) :
    (s.salted length).Alike (t.salted length) where
  output := h.output
  board := h.board
  journal := h.journal
  native := h.native
  native' := h.native'

/-- Whatever the strings are, writing them goes the same way: whether there is
    a hash depends on its parameters, and no line is empty. -/
theorem mirrors_writeText (hash : Option Hash.HashParameters) (a b : String) :
    Mirrors Eq (writeText hash a) (writeText hash b) := by
  have hline (x y : String) : x ++ "\n" = "" ↔ y ++ "\n" = "" := by simp
  rcases hash with _ | p
  · exact mirrors_write (hline a b)
  · intro s t h
    rcases hfault : Hash.keyFault? p.cost p.keyLength with _ | f
    · rcases writeText_of_line hfault a s with ⟨la, -, hs⟩
      rcases writeText_of_line hfault b t with ⟨lb, -, ht⟩
      rw [hs, ht]
      exact mirrors_write (hline _ _) _ _ (h.salted p.saltLength)
    · rw [writeText_of_fault hfault, writeText_of_fault hfault]
      exact .fault (h.salted p.saltLength)

theorem mirrors_writeRecord (g : Generator) (r : Request) (hash : Option Hash.HashParameters) :
    Mirrors Eq (writeRecord g r hash) (writeRecord g r hash) := by
  intro s t h
  rcases hc : g.check r with _ | rejection
  -- The request is the same, so it is refused on both sides or on none; an
  -- endless draw on one side settles the case, whatever the other side does.
  · rcases writeRecord_native hc hash h.native with
      ⟨s', hs, -⟩ | ⟨a, supply, -, hnative, hs⟩
    · rw [hs]
      exact .endless
    rcases writeRecord_native hc hash h.native' with
      ⟨t', ht, -⟩ | ⟨b, supply', -, hnative', ht⟩
    · rw [ht]
      exact .endless'
    · rw [hs, ht]
      exact mirrors_writeText hash a b _ _ (h.served r hnative hnative')
  · rw [writeRecord_of_rejection hc, writeRecord_of_rejection hc]
    exact .failure (h.refused rejection)

theorem mirrors_writeRecords (g : Generator) (r : Request) (hash : Option Hash.HashParameters)
    (count : Nat) : Mirrors Eq (writeRecords g r hash count) (writeRecords g r hash count) := by
  induction count with
  | zero => exact .pure rfl
  | succ count ih => exact (mirrors_writeRecord g r hash).bind fun _ _ _ => ih

theorem mirrors_publishCounters : Mirrors Eq publishCounters publishCounters := by
  intro s t h
  rw [publishCounters_eq, publishCounters_eq, h.board, h.journal]
  rcases Metrics.publish (.ok t.session.board.families) t.session.journal.console
    with ⟨console, e | ⟨⟩⟩
  · exact .failure (h.withJournal fun j => { j with console })
  · exact .value rfl (h.withJournal fun j => { j with console })

/-- Plans that differ in the seed picked lead to alike stages again. -/
theorem Stage.Alike.planned {s t : Stage} (h : s.Alike t) (c : Choice) (g : GeneratorSettings)
    (seed seed' : Nat) (arguments : List String) (a : Alphabet) :
    (s.planned (.ofAlphabet c g seed arguments a)).Alike
      (t.planned (.ofAlphabet c g seed' arguments a)) where
  output := h.output
  board := h.board
  journal := by
    unfold Stage.planned Plan.ofAlphabet Stage.withJournal
    simp only [chooseDrawer_events c g seed seed', h.journal]
  native := chooseDrawer_ne_listed c g seed
  native' := chooseDrawer_ne_listed c g seed'

/-- The invocation with another random stream and another fresh seed. -/
def Invocation.withSecrets (i : Invocation) (entropy : Entropy) (freshSeed : Nat) : Invocation :=
  { i with entropy, freshSeed }

section Commands

variable (i : Invocation) (e e' : Entropy) (seed seed' : Nat)

theorem mirrors_generateStrings (settings : Settings) (p : Parsed) :
    Mirrors Eq (generateStrings (i.withSecrets e seed) settings p)
      (generateStrings (i.withSecrets e' seed') settings p) := by
  intro s t h
  by_cases hcount : (Choice.ofParsed p).count < 1
  · rw [generateStrings_of_error (Plan.make_of_count hcount),
      generateStrings_of_error (Plan.make_of_count hcount)]
    exact .failure h
  rcases halphabet : chooseAlphabet (.ofParsed p) settings.generator with cause | a
  · rw [generateStrings_of_error (Plan.make_of_error hcount halphabet),
      generateStrings_of_error (Plan.make_of_error hcount halphabet)]
    exact .failure h
  · rw [generateStrings_of_plan (Plan.make_of_alphabet hcount halphabet),
      generateStrings_of_plan (Plan.make_of_alphabet hcount halphabet)]
    rw [Plan.ofAlphabet_request, Plan.ofAlphabet_request]
    have hstages := h.planned (.ofParsed p) settings.generator seed seed' p.arguments a
    refine Agree.bind (mirrors_writeRecords _ _ _ _ _ _ hstages) fun _ _ _ => ?_
    split
    · exact mirrors_publishCounters
    · exact .pure rfl

theorem mirrors_listAlphabets : Mirrors Eq listAlphabets listAlphabets :=
  .forM (fun _ => mirrors_write Iff.rfl) Preset.all

theorem mirrors_explain (c : Command) : Mirrors Eq (explain c) (explain c) :=
  .modify fun _ _ h => { h with output := (h.output.put Iff.rfl).2 }

theorem mirrors_perform (c : Command) (p : Parsed) :
    Mirrors Eq (perform (i.withSecrets e seed) c p) (perform (i.withSecrets e' seed') c p) := by
  unfold perform
  split
  · exact mirrors_explain c
  split
  · exact mirrors_explain _
  split
  · exact .throw _ _
  · have hprepare : Mirrors Eq (prepare (i.withSecrets e seed) c p)
        (prepare (i.withSecrets e' seed') c p) := mirrors_prepare c p rfl rfl
    refine hprepare.bind ?_
    rintro settings _ rfl
    cases c with
    | alphabets => exact mirrors_listAlphabets
    | config => exact mirrors_write Iff.rfl
    | _ => exact mirrors_generateStrings i e e' seed seed' settings p

theorem mirrors_obey :
    Mirrors Eq (obey (i.withSecrets e seed)) (obey (i.withSecrets e' seed')) := by
  unfold obey Invocation.withSecrets
  simp only
  rcases parse (find i.words).1.flags (find i.words).2 with f | p
  · exact .throw _ _
  · exact mirrors_perform i e e' seed seed' (find i.words).1 p

theorem Invocation.stage_alike (hsteady : i.output.Steady) :
    (i.withSecrets e seed).stage.Alike (i.withSecrets e' seed').stage where
  output := ⟨rfl, rfl, hsteady, hsteady⟩
  board := rfl
  journal := rfl
  native l := by simp [Invocation.stage]
  native' l := by simp [Invocation.stage]

/-- Two runs on different secrets end alike, or one of them does not end. -/
theorem run_alike (hsteady : i.output.Steady) (hx : (i.withSecrets e seed).run.1.ends = true)
    (hy : (i.withSecrets e' seed').run.1.ends = true) :
    (i.withSecrets e seed).run.1 = (i.withSecrets e' seed').run.1 ∧
      (i.withSecrets e seed).run.2.Alike (i.withSecrets e' seed').run.2 := by
  have hagree := mirrors_obey i e e' seed seed' _ _ (i.stage_alike e e' seed seed' hsteady)
  unfold Invocation.run at hx hy ⊢
  generalize obey (i.withSecrets e seed) (i.withSecrets e seed).stage = x at hagree hx ⊢
  generalize obey (i.withSecrets e' seed') (i.withSecrets e' seed').stage = y at hagree hy ⊢
  -- A failure is reported with its words, which are the same on both sides.
  cases hagree with
  | value _ h => exact ⟨rfl, h⟩
  | failure h => exact ⟨rfl, h.report _⟩
  | fault h => exact ⟨rfl, h⟩
  | endless => cases hx
  | endless' => cases hy

end Commands

/-- The traces of a request are the same with any two sources that stay in
    range. -/
theorem serve_traces {σ τ : Type} {A : Source σ} {B : Source τ} (hA : A.StaysInRange)
    (hB : B.StaysInRange) (g : Generator) (r : Request) (s : Session σ) (t : Session τ)
    (hboard : s.board = t.board) (hjournal : s.journal = t.journal) :
    (g.serve A r s).1 = .error .endless ∨ (g.serve B r t).1 = .error .endless ∨
      (∀ rejection, (g.serve A r s).1 = .ok (.error rejection) ↔
          (g.serve B r t).1 = .ok (.error rejection)) ∧
        (g.serve A r s).2.board = (g.serve B r t).2.board ∧
        (g.serve A r s).2.journal = (g.serve B r t).2.journal := by
  rcases hA.soundOn.serve_cases g r s trivial with
    ⟨rejection, hc, hs⟩ | ⟨hc, s', -, ⟨a, -, hs⟩ | hs⟩
  · rcases hB.soundOn.serve_cases g r t trivial with
      ⟨rejection', hc', ht⟩ | ⟨hc', -⟩
    · rw [hc, Option.some.injEq] at hc'
      subst hc'
      rw [hs, ht]
      exact .inr (.inr ⟨fun _ => Iff.rfl, congrArg (·.rejected rejection.reason) hboard, hjournal⟩)
    · rw [hc] at hc'
      cases hc'
  · rcases hB.soundOn.serve_cases g r t trivial with
      ⟨rejection', hc', -⟩ | ⟨-, t', -, ⟨b, -, ht⟩ | ht⟩
    · rw [hc] at hc'
      cases hc'
    · rw [hs, ht]
      refine .inr (.inr ⟨fun rejection => ?_, congrArg (·.served r.length) hboard,
        congrArg (·.log r.event) hjournal⟩)
      simp
    · exact .inr (.inl (by rw [ht]))
  · exact .inl (by rw [hs])

/-- Secrets leave no trace. Take two runs that differ in the random stream and
    in the fresh seed only, that both come to an end, and whose first stream
    takes every text or none. They end in the same way, with the same error if
    there is one; they leave the same journal, that is, the same text on the
    second stream, the same log files and the same count of log statements; and
    they leave the same counters. The same holds of a single request: with any
    two sources that stay in range it is refused for the same reason or served,
    and it leaves the same counters and the same journal. -/
theorem secrets_leave_no_trace :
    (∀ (i : Invocation) (e e' : Entropy) (seed seed' : Nat), i.output.Steady →
      let x := (i.withSecrets e seed).run
      let y := (i.withSecrets e' seed').run
      x.1.ends = true → y.1.ends = true →
        x.1 = y.1 ∧ x.2.session.journal = y.2.session.journal ∧
          x.2.session.board = y.2.session.board) ∧
    ∀ (σ τ : Type) (A : Source σ) (B : Source τ), A.StaysInRange → B.StaysInRange →
      ∀ (g : Generator) (r : Request) (s : Session σ) (t : Session τ),
        s.board = t.board → s.journal = t.journal →
        let x := g.serve A r s
        let y := g.serve B r t
        x.1 ≠ .error .endless → y.1 ≠ .error .endless →
          (∀ rejection, x.1 = .ok (.error rejection) ↔ y.1 = .ok (.error rejection)) ∧
          x.2.board = y.2.board ∧ x.2.journal = y.2.journal := by
  constructor
  · intro i e e' seed seed' hsteady x y hx hy
    rcases run_alike i e e' seed seed' hsteady hx hy with ⟨hending, halike⟩
    exact ⟨hending, halike.journal, halike.board⟩
  · intro σ τ A B hA hB g r s t hboard hjournal x y hx hy
    rcases serve_traces hA hB g r s t hboard hjournal with h | h | h
    · exact absurd h hx
    · exact absurd h hy
    · exact h

/-- Two hashed strings and the counters, on two streams: the results differ, and
    nothing else does. A request served by the buffered source and by the seeded
    one leaves the same journal. -/
theorem secrets_leave_no_trace_hashing :
    let i : Invocation :=
      { words := ["--metrics", "--hash", "-n", "2", "3"], disk := .empty,
        environment := fun _ => "", entropy := ⟨UInt8.ofNat, 0, 600⟩, freshSeed := 0,
        hashParameters := ⟨⟨8, 1, 1⟩, 4, 4⟩, output := .unlimited, diagnostics := .unlimited,
        time := "", caller := "" }
    let x := (i.withSecrets ⟨UInt8.ofNat, 0, 600⟩ 0).run
    let y := (i.withSecrets ⟨fun n => UInt8.ofNat (n + 7), 3, 600⟩ 1).run
    let r : Request := ⟨Preset.hex.alphabet, 3⟩
    let buffered : Session Reservoir :=
      ⟨⟨i.entropy, .empty⟩, .registered .zero, i.stage.session.journal⟩
    let seeded : Session SeededState :=
      ⟨.ofSeed 1, .registered .zero, i.stage.session.journal⟩
    (x.1.ends = true ∧ y.1.ends = true ∧ x.2.output.taken ≠ y.2.output.taken ∧
      x.2.session.journal = y.2.session.journal ∧ x.2.session.board = y.2.session.board) ∧
    (Generator.serve ⟨0⟩ Buffer.source r buffered).2.journal
      = (Generator.serve ⟨0⟩ SeededState.source r seeded).2.journal := by
  intro i x y r buffered seeded
  have hsteady : i.output.Steady := fun limit h => (by cases h)
  have hx : x.1.ends = true := by decide +kernel
  have hy : y.1.ends = true := by decide +kernel
  have hresults : x.2.output.taken ≠ y.2.output.taken := by decide +kernel
  have hbuffered : (Generator.serve ⟨0⟩ Buffer.source r buffered).1.toOption.isSome = true := by
    decide +kernel
  have hseeded : (Generator.serve ⟨0⟩ SeededState.source r seeded).1.toOption.isSome = true := by
    decide +kernel
  refine ⟨⟨hx, hy, hresults, (secrets_leave_no_trace.1 i _ _ 0 1 hsteady hx hy).2⟩, ?_⟩
  refine (secrets_leave_no_trace.2 _ _ _ _ Buffer.source_staysInRange
    SeededState.source_staysInRange ⟨0⟩ r buffered seeded rfl rfl ?_ ?_).2.2
  · intro h
    rw [h] at hbuffered
    cases hbuffered
  · intro h
    rw [h] at hseeded
    cases hseeded

end Command

end Passforge
