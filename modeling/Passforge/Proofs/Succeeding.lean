import Passforge.Proofs.Interference

/-!
# Runs That Succeed

What is known of a generating run once it has succeeded. Its words asked for
strings, so it began, it had a plan, every turn succeeded, and so did the end.
A turn that succeeds has drawn a string and written its entry, and nothing else
went to the first stream.

`Turn` holds all of this for one turn, and `Turns` for a row of them together
with their entries. Whatever a successful run comes to is then an induction on
its turns, in which the program does not show up any more.

Two runs are compared by the flags they were given. Flags that agree but for
the values of one of them lead to the same settings and to the same choice,
apart from what that one flag says.

## Main definitions

* `Asks`: Words that ask for strings, and what was read of them.
* `Turn`: A turn that succeeds, with its entry.
* `Turns`: A row of turns that succeed, with their entries.

## Theorems

* `Step.bind_success`: Both parts of a step that succeeds do.
* `exists_turn`, `exists_turns`: The entries of turns that succeed.
* `Turns.taken`: What a row of turns writes.
* `Invocation.begins_of_success`: A run that succeeds has begun.
* `generateStrings_success`: What a run that succeeds went through.
* `Invocation.Begins.congr`: Two runs that begin alike.
-/

namespace Passforge.Command

/-- The words ask for strings and not for help, and this is what was read of
    them. -/
structure Asks (words : List String) (flags : Parsed) : Prop where
  read : ∃ rest, find words = (.generate, rest) ∧
    parse Command.generate.flags rest = .ok flags
  help : flags.isOn .help = false

/-- Whether a run has succeeded can be computed. -/
instance Ending.decidableEqSuccess : (e : Ending) → Decidable (e = .success)
  | .success => isTrue rfl
  | .failure _ => isFalse nofun
  | .halt _ => isFalse nofun

section Success

variable {α β : Type} {s s' : Stage}

/-- Both parts of a step that succeeds do. -/
theorem Step.bind_success {x : Step α} {f : α → Step β} {b : β}
    (h : (x >>= f) s = (.ok (.ok b), s')) :
    ∃ a s₁, x s = (.ok (.ok a), s₁) ∧ f a s₁ = (.ok (.ok b), s') := by
  rcases hx : x s with ⟨e | e | a, s₁⟩
  · rw [bind_of_halt hx] at h
    cases h
  · rw [bind_of_failure hx] at h
    cases h
  · rw [bind_of_ok hx] at h
    exact ⟨a, s₁, rfl, h⟩

theorem write_success {text : String} (h : write text s = (.ok (.ok ()), s')) :
    s' = s.wrote text := by
  rw [write_eq] at h
  split at h
  · cases h
    rfl
  · cases h

theorem Invocation.run_success {i : Invocation} (h : i.run.1 = .success) :
    obey i i.stage = (.ok (.ok ()), i.run.2) := by
  unfold Invocation.run at h ⊢
  rcases hobey : obey i i.stage with ⟨e | f | ⟨⟩, s⟩
  · rw [hobey] at h
    cases h
  · rw [hobey] at h
    cases h
  · rfl

theorem Invocation.run_of_obey {i : Invocation} (h : obey i i.stage = (.ok (.ok ()), s)) :
    i.run = (.success, s) := by
  unfold Invocation.run
  rw [h]

end Success

section Turns

variable {g : Generator} {r : Request} {hash : Option Hash.HashParameters} {s s' : Stage}

/-- A turn that succeeds leads from `s` to `s'` and writes the entry `e`. The
    source is left as drawing the string leaves it, since salts are taken from
    the stream behind it. -/
structure Turn (g : Generator) (r : Request) (hash : Option Hash.HashParameters) (s : Stage)
    (e : Entry) (s' : Stage) : Prop where
  entry : e.Drawn g r hash
  drawn : ∃ supply, g.generate Supply.source r s.session.supply = (.ok (.ok e.text), supply) ∧
    s'.session.supply.drawer = supply.drawer
  taken : s'.output.taken = s.output.taken ++ e.shown
  board : s'.session.board = s.session.board.served r.length

theorem exists_turn (h : writeRecord g r hash s = (.ok (.ok ()), s')) :
    ∃ e, Turn g r hash s e s' := by
  -- Only with a string does a turn come to write anything.
  rcases hgen : g.generate Supply.source r s.session.supply with ⟨halt | rejection | text, supply⟩
  · rw [writeRecord_of_halt hgen] at h
    cases h
  · rw [writeRecord_of_rejection (generate_rejects_iff.mp (congrArg Prod.fst hgen))] at h
    cases h
  rw [writeRecord_of_text hgen] at h
  rcases hash with _ | p
  · obtain rfl := write_success h
    exact ⟨⟨text, none⟩, .plain hgen, ⟨supply, hgen, rfl⟩, rfl, rfl⟩
  · rcases hfault : Hash.keyFault? p.cost p.keyLength with _ | fault
    · obtain ⟨line, hline, hwrite⟩ := writeText_of_line hfault text (s.served r supply)
      rw [hwrite] at h
      obtain rfl := write_success h
      exact ⟨⟨text, some line⟩, .hashed hgen hline, ⟨supply, hgen, rfl⟩, rfl, rfl⟩
    · rw [writeText_of_fault hfault] at h
      cases h

/-- A row of turns that succeed leads from one stage to another and writes these
    entries. -/
inductive Turns (g : Generator) (r : Request) (hash : Option Hash.HashParameters) :
    Stage → List Entry → Stage → Prop where
  | nil (s : Stage) : Turns g r hash s [] s
  | cons {s s₁ s₂ : Stage} {e : Entry} {es : List Entry} (first : Turn g r hash s e s₁)
      (rest : Turns g r hash s₁ es s₂) : Turns g r hash s (e :: es) s₂

theorem exists_turns {count : Nat} (h : writeRecords g r hash count s = (.ok (.ok ()), s')) :
    ∃ es, es.length = count ∧ Turns g r hash s es s' := by
  induction count generalizing s with
  | zero =>
      cases h
      exact ⟨[], rfl, .nil _⟩
  | succ count ih =>
      obtain ⟨⟨⟩, s₁, hfirst, hrest⟩ := Step.bind_success h
      obtain ⟨e, hturn⟩ := exists_turn hfirst
      obtain ⟨es, hlength, hturns⟩ := ih hrest
      exact ⟨e :: es, congrArg (· + 1) hlength, .cons hturn hturns⟩

namespace Turns

variable {es : List Entry}

theorem append {s'' : Stage} {es' : List Entry} (h : Turns g r hash s es s')
    (h' : Turns g r hash s' es' s'') : Turns g r hash s (es ++ es') s'' := by
  induction h with
  | nil s => exact h'
  | cons first rest ih => exact .cons first (ih h')

/-- The entries are written one behind the other. -/
theorem taken (h : Turns g r hash s es s') :
    s'.output.taken = s.output.taken ++ String.join (es.map Entry.shown) := by
  induction h with
  | nil s => simp
  | cons first rest ih =>
      rw [ih, first.taken, List.map_cons, String.join_cons, String.append_assoc]

theorem drawn (h : Turns g r hash s es s') : ∀ e ∈ es, e.Drawn g r hash := by
  induction h with
  | nil s => simp
  | cons first rest ih => exact List.forall_mem_cons.mpr ⟨first.entry, ih⟩

/-- Counters that are published stay so. -/
theorem registered (h : Turns g r hash s es s') {t : Metrics.Tally}
    (hs : s.session.board = .registered t) : ∃ t', s'.session.board = .registered t' := by
  induction h generalizing t with
  | nil s => exact ⟨t, hs⟩
  | cons first rest ih => exact ih (first.board.trans (congrArg (·.served r.length) hs))

end Turns

theorem Entry.Drawn.isSome_hash {e : Entry} (h : e.Drawn g r hash) :
    e.hash.isSome = hash.isSome := by
  cases h <;> rfl

end Turns

section Runs

variable {i j : Invocation} {flags flags' : Parsed} {settings : Settings} {s s' : Stage}

/-- A run that succeeds has begun. -/
theorem Invocation.begins_of_success (hasks : Asks i.words flags) (h : i.run.1 = .success) :
    ∃ settings s, i.Begins flags settings s := by
  obtain ⟨rest, hfind, hparse⟩ := hasks.read
  have hflags : ∀ p, parse Command.generate.flags rest = .ok p → p = flags := by
    intro p hp
    rw [hparse, Except.ok.injEq] at hp
    exact hp.symm
  rcases obey_cases hfind fun p hp => hflags p hp ▸ hasks.help with
    ⟨f, -, hobey⟩ | ⟨p, settings, s, hbegins⟩
  · rw [Invocation.run_success h] at hobey
    cases hobey
  · obtain ⟨rest', hfind', hparse'⟩ := hbegins.words
    rw [hfind, Prod.mk.injEq] at hfind'
    obtain rfl := hflags p (hfind'.2 ▸ hparse')
    exact ⟨settings, s, hbegins⟩

/-- A generating command that succeeds had a plan, went through all its turns,
    and came to its end. -/
theorem generateStrings_success (h : generateStrings i settings flags s = (.ok (.ok ()), s')) :
    ∃ a s₁, 1 ≤ (Choice.ofParsed flags).count ∧
      chooseAlphabet (.ofParsed flags) settings.generator = .ok a ∧
      writeRecords (.ofMaximum settings.generator.maxLength)
        ⟨a, (chooseLength flags.arguments settings.generator.defaultLength).1⟩
        (if (Choice.ofParsed flags).hash then some i.hashParameters else none)
        (Choice.ofParsed flags).count.toNat
        (s.planned (.ofAlphabet (.ofParsed flags) settings.generator i.freshSeed flags.arguments a))
          = (.ok (.ok ()), s₁) ∧
      (if (Choice.ofParsed flags).metrics then publishCounters else pure () : Step Unit) s₁
        = (.ok (.ok ()), s') := by
  by_cases hcount : (Choice.ofParsed flags).count < 1
  · rw [generateStrings_of_error (Plan.make_of_count hcount)] at h
    cases h
  rcases ha : chooseAlphabet (.ofParsed flags) settings.generator with e | a
  · rw [generateStrings_of_error (Plan.make_of_error hcount ha)] at h
    cases h
  · rw [generateStrings_of_plan (Plan.make_of_alphabet hcount ha)] at h
    obtain ⟨⟨⟩, s₁, hturns, hfinish⟩ := Step.bind_success h
    exact ⟨a, s₁, by omega, rfl, hturns, hfinish⟩

theorem Invocation.Begins.output (h : i.Begins flags settings s) : s.output = i.output := by
  obtain ⟨-, journal, -, -, rfl⟩ := h.loaded
  rfl

end Runs

section Flags

variable {p q : Parsed} {f : Flag}

/-- Loading the settings looks at two flags only. -/
theorem prepare_congr {i j : Invocation} (hdisk : i.disk = j.disk)
    (henvironment : i.environment = j.environment) (h : p.without f = q.without f)
    (hconfig : Flag.config ≠ f) (hlevel : Flag.logLevel ≠ f) (c : Command) :
    prepare i c p = prepare j c q := by
  unfold prepare
  simp only [hdisk, henvironment, Parsed.text?_congr h hconfig, Parsed.text?_congr h hlevel]

/-- A run begins as another one does that differs in one flag. -/
theorem Invocation.Begins.congr {i j : Invocation} {settings : Settings} {s : Stage}
    (hj : j.Begins q settings s) (hi : Asks i.words p) (hdisk : i.disk = j.disk)
    (henvironment : i.environment = j.environment) (hstage : i.stage = j.stage)
    (h : p.without f = q.without f) (hconfig : Flag.config ≠ f) (hlevel : Flag.logLevel ≠ f) :
    i.Begins p settings s where
  words := hi.read
  help := hi.help
  arguments := by
    rw [Parsed.arguments_congr h]
    exact hj.arguments
  prepared := by
    rw [prepare_congr hdisk henvironment h hconfig hlevel, hstage]
    exact hj.prepared

end Flags

end Passforge.Command
