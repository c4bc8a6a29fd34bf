import Passforge.Proofs.Output
import Passforge.Proofs.Secrecy

/-!
# Logging Leaves Results Alone

The journal is written to at every turn of a run and read by none of them. So
two runs that differ in their log settings write the same results and end the
same way, whatever is logged, in which form and to which files.

The statement compares two runs. Two stages are *beside* each other if they
differ in their journals only. A step that does not look at the journal goes the
same way from both and leaves them beside each other. Publishing the counters is
the one step that looks: it shares the second stream with the log. There the
counters can not be told from log lines as long as the stream takes every text,
or is full from the start. This much about the two streams is carried along as a
condition `C`, which any number of lines must leave in force.

What is on the first stream is followed by itself. Every turn adds an entry of a
string that was generated, or nothing, so there is no place for a log line.

## Main definitions

* `Stage.Beside`: Stages that differ in their journals only.
* `Step.Ignores`: A step goes the same way whatever the journal is.
* `Step.Writes`: A step writes a number of entries and nothing else.
* `Parsed.without`: What was read, without the values given to a flag.
* `Parsed.unlevelled`: The flags without those for the level of the log.
* `Choice.taking`: A choice, with what a flag says taken from another one.
* `Invocation.Akin`: Invocations that differ in words, settings and stamps.

## Theorems

* `Metrics.publish_of_alike`: How the counters fare on alike streams.
* `writeRecord_ignores`, `writeRecords_ignores`: Turns do not look at the journal.
* `finish_ignores`: Neither does the end of a run, on a stream that is steady.
* `writeRecords_writes`: A number of turns writes at most that many entries.
* `Choice.ofParsed_congr`: Choices of flags that agree but for one.
* `log_settings_leave_results`: Two runs that differ in their log settings.
-/

namespace Passforge

namespace Sink

theorem keeps_alike (s : Sink) : Keeps s.Alike := by
  intro t text h
  refine ⟨?_, ?_, h.steady, steady_put h.steady' text⟩
  · rw [put_limit, h.limit]
  · rw [put_refusal, h.refusal]

theorem Alike.join {d s t : Sink} (hs : d.Alike s) (ht : d.Alike t) : s.Alike t :=
  ⟨hs.limit.symm.trans ht.limit, hs.refusal.symm.trans ht.refusal, hs.steady', ht.steady'⟩

/-- Alike sinks take the same texts of a list. -/
theorem Alike.putAll {s t : Sink} (h : s.Alike t) (texts : List String) :
    (s.putAll texts).2 = (t.putAll texts).2 ∧ (s.putAll texts).1.Alike (t.putAll texts).1 := by
  induction texts generalizing s t with
  | nil => exact ⟨rfl, h⟩
  | cons text rest ih =>
      unfold Sink.putAll
      obtain ⟨htaken, halike⟩ := h.put (a := text) Iff.rfl
      rcases hs : s.put text with ⟨s', _ | _⟩
      · rcases ht : t.put text with ⟨t', _ | _⟩
        · rw [hs, ht] at halike
          exact ⟨rfl, halike⟩
        · rw [hs, ht] at htaken
          cases htaken
      · rcases ht : t.put text with ⟨t', _ | _⟩
        · rw [hs, ht] at htaken
          cases htaken
        · rw [hs, ht] at halike
          exact ih halike

end Sink

/-- Families are published on both of two alike sinks, or refused in the same
    words. -/
theorem Metrics.publish_of_alike {s t : Sink} (h : s.Alike t)
    (families : Except String (List Family)) :
    (publish families s).2 = (publish families t).2 := by
  rcases families with cause | families
  · rfl
  · obtain ⟨htaken, halike⟩ := h.putAll (blocks families)
    unfold publish
    simp only
    rcases hs : s.putAll (blocks families) with ⟨s', _ | _⟩
    · rcases ht : t.putAll (blocks families) with ⟨t', _ | _⟩
      · rw [hs, ht] at halike
        have hrefusal : s'.refusal = t'.refusal := halike.refusal
        simp only [hrefusal]
      · rw [hs, ht] at htaken
        cases htaken
    · rcases ht : t.putAll (blocks families) with ⟨t', _ | _⟩
      · rw [hs, ht] at htaken
        cases htaken
      · rfl

namespace Command

/-- The stages differ in their journals only, and the condition is in force on
    the second stream of each. -/
structure Stage.Beside (C : Sink → Prop) (s t : Stage) : Prop where
  output : s.output = t.output
  supply : s.session.supply = t.session.supply
  board : s.session.board = t.session.board
  console : C s.session.journal.console
  console' : C t.session.journal.console

namespace Step

variable {α β : Type} {C : Sink → Prop}

/-- From stages beside each other the step goes the same way and leads to stages
    beside each other. -/
def Ignores (C : Sink → Prop) (x : Step α) : Prop :=
  ∀ s t : Stage, s.Beside C t → (x s).1 = (x t).1 ∧ (x s).2.Beside C (x t).2

theorem Ignores.pure (a : α) : Ignores C (pure a : Step α) :=
  fun _ _ h => ⟨rfl, h⟩

theorem Ignores.bind {x : Step α} {f : α → Step β} (hx : x.Ignores C)
    (hf : ∀ a, (f a).Ignores C) : (x >>= f).Ignores C := by
  intro s t h
  obtain ⟨hresult, hbeside⟩ := hx s t h
  rcases hs : x s with ⟨e | e | a, s'⟩
  all_goals
    rcases ht : x t with ⟨result, t'⟩
    rw [hs, ht] at hresult hbeside
    cases hresult
  · rw [bind_of_halt hs, bind_of_halt ht]
    exact ⟨rfl, hbeside⟩
  · rw [bind_of_failure hs, bind_of_failure ht]
    exact ⟨rfl, hbeside⟩
  · rw [bind_of_ok hs, bind_of_ok ht]
    exact hf a s' t' hbeside

end Step

open Step

section Turns

variable {C : Sink → Prop} {s t : Stage}

theorem Stage.Beside.served (hC : Sink.Keeps C) (h : s.Beside C t) (r : Request)
    (supply : Supply) : (s.served r supply).Beside C (t.served r supply) where
  output := h.output
  supply := rfl
  board := congrArg (·.served r.length) h.board
  console := Log.Journal.log_keeps hC _ _ h.console
  console' := Log.Journal.log_keeps hC _ _ h.console'

theorem Stage.Beside.refused (h : s.Beside C t) (rejection : Rejection) :
    (s.refused rejection).Beside C (t.refused rejection) :=
  { h with board := congrArg (·.rejected rejection.reason) h.board }

theorem Stage.Beside.salted (h : s.Beside C t) (length : Nat) :
    (s.salted length).Beside C (t.salted length) :=
  { h with supply := by simp only [Stage.salted, h.supply] }

theorem Stage.Beside.planned (hC : Sink.Keeps C) (h : s.Beside C t) (plan : Plan) :
    (s.planned plan).Beside C (t.planned plan) where
  output := h.output
  supply := congrArg (fun supply : Supply => { supply with drawer := plan.drawer }) h.supply
  board := h.board
  console := Log.Journal.foldl_log_keeps hC _ _ h.console
  console' := Log.Journal.foldl_log_keeps hC _ _ h.console'

theorem write_ignores (text : String) : (write text).Ignores C := by
  intro s t h
  rw [write_eq, write_eq, h.output]
  split
  · exact ⟨rfl, { h with output := rfl }⟩
  · exact ⟨rfl, h⟩

theorem writeText_ignores (hash : Option Hash.HashParameters) (text : String) :
    (writeText hash text).Ignores C := by
  rcases hash with _ | p
  · exact write_ignores _
  · refine Ignores.bind ?_ fun line => write_ignores _
    -- The salt comes from the supply, which is the same.
    intro s t h
    have hsalt : s.salt p.saltLength = t.salt p.saltLength := by
      unfold Stage.salt
      rw [h.supply]
    rw [hashString_eq, hashString_eq, hsalt]
    exact ⟨rfl, h.salted p.saltLength⟩

theorem writeRecord_ignores (hC : Sink.Keeps C) (g : Generator) (r : Request)
    (hash : Option Hash.HashParameters) : (writeRecord g r hash).Ignores C := by
  intro s t h
  -- Drawing looks at the supply only, so it goes one of three ways on both sides.
  rcases hs : g.generate Supply.source r s.session.supply with ⟨halt | rejection | text, supply⟩
  all_goals
    have ht := hs
    rw [h.supply] at ht
  · rw [writeRecord_of_halt hs, writeRecord_of_halt ht]
    exact ⟨rfl, { h with supply := rfl }⟩
  · have hcheck := generate_rejects_iff.mp (congrArg Prod.fst hs)
    rw [writeRecord_of_rejection hcheck, writeRecord_of_rejection hcheck]
    exact ⟨rfl, h.refused rejection⟩
  · rw [writeRecord_of_text hs, writeRecord_of_text ht]
    exact writeText_ignores hash text _ _ (h.served hC r supply)

theorem writeRecords_ignores (hC : Sink.Keeps C) (g : Generator) (r : Request)
    (hash : Option Hash.HashParameters) (count : Nat) :
    (writeRecords g r hash count).Ignores C := by
  induction count with
  | zero => exact .pure ()
  | succ count ih => exact (writeRecord_ignores hC g r hash).bind fun _ => ih

/-- The end of a run goes the same way, as far as the second streams are alike. -/
theorem finish_ignores (hC : Sink.Keeps C) (metrics : Bool)
    (halike : metrics = true → ∀ c c', C c → C c' → c.Alike c') :
    (if metrics then publishCounters else pure () : Step Unit).Ignores C := by
  cases metrics with
  | false => exact .pure ()
  | true =>
      intro s t h
      have hpublished (sink : Sink) (hsink : C sink) :
          C (Metrics.publish (.ok t.session.board.families) sink).1 := by
        rw [Metrics.publish_fst]
        exact hC.putAll hsink _
      rw [if_pos rfl, publishCounters_eq, publishCounters_eq, h.board,
        Metrics.publish_of_alike (halike rfl _ _ h.console h.console')]
      exact ⟨rfl, { h with
        board := h.board
        console := hpublished _ h.console
        console' := hpublished _ h.console' }⟩

end Turns

section Entries

variable {α β : Type} {P : Entry → Prop} {m n : Nat}

/-- Whatever becomes of the step, it has written entries of a kind, no more than
    `n` of them, and nothing else. -/
def Step.Writes (P : Entry → Prop) (n : Nat) (x : Step α) : Prop :=
  ∀ s : Stage, ∃ es : List Entry, es.length ≤ n ∧ (∀ e ∈ es, P e) ∧
    (x s).2.output.taken = s.output.taken ++ String.join (es.map Entry.shown)

theorem Step.Writes.bind {x : Step α} {f : α → Step β} (hx : x.Writes P m)
    (hf : ∀ a, (f a).Writes P n) : (x >>= f).Writes P (m + n) := by
  intro s
  obtain ⟨es, hlength, hall, htaken⟩ := hx s
  rcases hs : x s with ⟨e | e | a, s'⟩
  all_goals rw [hs] at htaken
  · rw [bind_of_halt hs]
    exact ⟨es, by omega, hall, htaken⟩
  · rw [bind_of_failure hs]
    exact ⟨es, by omega, hall, htaken⟩
  · rw [bind_of_ok hs]
    obtain ⟨more, hlength', hall', htaken'⟩ := hf a s'
    refine ⟨es ++ more, ?_, ?_, ?_⟩
    · rw [List.length_append]
      omega
    · intro e he
      exact (List.mem_append.mp he).elim (hall e) (hall' e)
    · rw [htaken', htaken, List.map_append, String.join_append, String.append_assoc]

/-- What comes last and leaves the first stream alone does not count. -/
theorem Step.bind_output {x : Step α} {f : α → Step β} {s : Stage}
    (h : ∀ a s, (f a s).2.output = s.output) : ((x >>= f) s).2.output = (x s).2.output := by
  rcases hs : x s with ⟨e | e | a, s'⟩
  · rw [bind_of_halt hs]
  · rw [bind_of_failure hs]
  · rw [bind_of_ok hs]
    exact h a s'

/-- The entry holds a string that generating gave, and a hash of it if that was
    asked for. -/
inductive Entry.Drawn (g : Generator) (r : Request) : Option Hash.HashParameters → Entry → Prop
  | plain {text : String} {supply supply' : Supply}
      (h : g.generate Supply.source r supply = (.ok (.ok text), supply')) :
      Drawn g r none ⟨text, none⟩
  | hashed {p : Hash.HashParameters} {text line : String} {salt : List UInt8}
      {supply supply' : Supply}
      (h : g.generate Supply.source r supply = (.ok (.ok text), supply'))
      (hline : hashWith p text.toUTF8.toList salt = .ok line) :
      Drawn g r (some p) ⟨text, some line⟩

theorem write_writes {e : Entry} (he : P e) : (write e.shown).Writes P 1 := by
  intro s
  rw [write_eq]
  split
  · exact ⟨[e], by simp, by simpa using he, by simp⟩
  · exact ⟨[], by simp, by simp, by simp⟩

theorem writeRecord_writes (g : Generator) (r : Request) (hash : Option Hash.HashParameters) :
    (writeRecord g r hash).Writes (Entry.Drawn g r hash) 1 := by
  intro s
  rcases hs : g.generate Supply.source r s.session.supply with ⟨halt | rejection | text, supply⟩
  · rw [writeRecord_of_halt hs]
    exact ⟨[], by simp, by simp, by simp⟩
  · have hcheck := generate_rejects_iff.mp (congrArg Prod.fst hs)
    rw [writeRecord_of_rejection hcheck]
    exact ⟨[], by simp, by simp, by simp [Stage.refused]⟩
  · rw [writeRecord_of_text hs]
    rcases hash with _ | p
    · exact write_writes (e := ⟨text, none⟩) (.plain hs) (s.served r supply)
    · rcases hfault : Hash.keyFault? p.cost p.keyLength with _ | fault
      · obtain ⟨line, hline, hwrite⟩ := writeText_of_line hfault text (s.served r supply)
        rw [hwrite]
        exact write_writes (e := ⟨text, some line⟩) (.hashed hs hline) _
      · rw [writeText_of_fault hfault]
        exact ⟨[], by simp, by simp, by simp [Stage.salted, Stage.served]⟩

theorem writeRecords_writes (g : Generator) (r : Request) (hash : Option Hash.HashParameters)
    (count : Nat) : (writeRecords g r hash count).Writes (Entry.Drawn g r hash) count := by
  induction count with
  | zero =>
      intro s
      refine ⟨[], Nat.le_refl 0, by simp, ?_⟩
      change s.output.taken = s.output.taken ++ ""
      simp
  | succ count ih =>
      have hturns := (writeRecord_writes g r hash).bind fun _ => ih
      rw [Nat.add_comm 1 count] at hturns
      exact hturns

theorem finish_output (metrics : Bool) (s : Stage) :
    ((if metrics then publishCounters else pure () : Step Unit) s).2.output = s.output := by
  obtain ⟨result, journal, hfinish⟩ := finish_cases metrics s
  rw [hfinish]
  rfl

end Entries

/-- What was read, without the values given to a flag. -/
def Parsed.without (p : Parsed) (f : Flag) : Parsed :=
  { p with given := p.given.filter fun given => given.1 != f }

theorem Parsed.value?_without (p : Parsed) {f g : Flag} (hg : g ≠ f) :
    (p.without f).value? g = p.value? g := by
  unfold Parsed.value? without
  simp only
  rw [← List.filter_reverse]
  induction p.given.reverse with
  | nil => rfl
  | cons given rest ih =>
      obtain ⟨flag, value⟩ := given
      rw [List.lookup_cons, ← ih, List.filter_cons]
      by_cases hflag : flag = f
      · have hother : (g == f) = false := by simpa using hg
        simp [hflag, hother]
      · simp [hflag, List.lookup_cons]

/-- The flags without those that give the level of the log. -/
def Parsed.unlevelled (p : Parsed) : Parsed :=
  p.without .logLevel

section Flags

variable {p q : Parsed} {f : Flag}

theorem Parsed.value?_congr (h : p.without f = q.without f) {g : Flag} (hg : g ≠ f) :
    p.value? g = q.value? g := by
  rw [← p.value?_without hg, h, q.value?_without hg]

theorem Parsed.text?_congr (h : p.without f = q.without f) {g : Flag} (hg : g ≠ f) :
    p.text? g = q.text? g := by
  unfold text?
  rw [value?_congr h hg]

theorem Parsed.arguments_congr (h : p.without f = q.without f) : p.arguments = q.arguments := by
  change (p.without f).arguments = (q.without f).arguments
  rw [h]

/-- A choice, with what a flag says taken from another one. -/
def Choice.taking (c : Choice) (f : Flag) (other : Choice) : Choice :=
  match f with
  | .alphabet => { c with alphabet := other.alphabet }
  | .charset => { c with charset := other.charset }
  | .unique => { c with unique := other.unique }
  | .seed => { c with seed := other.seed }
  | .count => { c with count := other.count }
  | .hash => { c with hash := other.hash }
  | .metrics => { c with metrics := other.metrics }
  | .config | .help | .json | .logLevel => c

/-- Flags that agree but for one make choices that agree but for what it says. -/
theorem Choice.ofParsed_congr (h : p.without f = q.without f) :
    ofParsed p = (ofParsed q).taking f (ofParsed p) := by
  have hvalue (g : Flag) (hg : g ≠ f) : p.value? g = q.value? g := Parsed.value?_congr h hg
  unfold ofParsed Parsed.isOn Parsed.text? Parsed.truth? Parsed.natural? Parsed.integer?
  cases f <;> simp [taking, hvalue]

end Flags

/-- The invocations draw from the same stream and write to the same sinks. They
    may differ in their words, in the settings found on the disk and in the
    environment, and in what log lines are stamped with. -/
structure Invocation.Akin (i j : Invocation) : Prop where
  entropy : i.entropy = j.entropy
  freshSeed : i.freshSeed = j.freshSeed
  hashParameters : i.hashParameters = j.hashParameters
  output : i.output = j.output
  diagnostics : i.diagnostics = j.diagnostics

section Runs

variable {C : Sink → Prop} {i j : Invocation} {flags flags' : Parsed}
  {settings settings' : Settings} {s t : Stage}

/-- A run begins beside any other that is akin to it. -/
theorem Invocation.Begins.beside (hC : Sink.Keeps C) (hakin : i.Akin j) (h : C i.diagnostics)
    (hi : i.Begins flags settings s) (hj : j.Begins flags' settings' t) : s.Beside C t := by
  have hconsole := hi.console hC h
  have hconsole' := hj.console hC (hakin.diagnostics ▸ h)
  obtain ⟨-, journal, -, -, rfl⟩ := hi.loaded
  obtain ⟨-, journal', -, -, rfl⟩ := hj.loaded
  exact
    { output := hakin.output
      supply := congrArg (fun entropy => Supply.mk entropy (.buffered .empty)) hakin.entropy
      board := rfl
      console := hconsole
      console' := hconsole' }

/-- The generating command looks at the generator's part of the settings. -/
theorem generateStrings_congr (hakin : i.Akin j) (hflags : flags.unlevelled = flags'.unlevelled)
    (hgenerator : settings.generator = settings'.generator) :
    generateStrings i settings flags = generateStrings j settings' flags' := by
  have hchoice : Choice.ofParsed flags = Choice.ofParsed flags' := Choice.ofParsed_congr hflags
  have harguments := Parsed.arguments_congr hflags
  unfold generateStrings
  simp only [hchoice, harguments, hgenerator, hakin.freshSeed, hakin.hashParameters]

/-- The generating command fails to plan, or it plans and goes through its
    turns. -/
theorem generateStrings_ignores (hC : Sink.Keeps C) (i : Invocation) (settings : Settings)
    (halike : (Choice.ofParsed flags).metrics = true → ∀ c c', C c → C c' → c.Alike c') :
    (generateStrings i settings flags).Ignores C := by
  intro s t h
  rcases hplan : Plan.make (.ofParsed flags) settings.generator i.freshSeed flags.arguments
    with e | plan
  · rw [generateStrings_of_error hplan, generateStrings_of_error hplan]
    exact ⟨rfl, h⟩
  · rw [generateStrings_of_plan hplan, generateStrings_of_plan hplan]
    exact (writeRecords_ignores hC _ _ _ _).bind (fun _ => finish_ignores hC _ halike) _ _
      (h.planned hC plan)

/-- Whatever the second streams are like, the results are the same. -/
theorem generateStrings_output (i : Invocation) (settings : Settings) (flags : Parsed)
    (h : s.Beside (fun _ => True) t) :
    (generateStrings i settings flags s).2.output
      = (generateStrings i settings flags t).2.output := by
  rcases hplan : Plan.make (.ofParsed flags) settings.generator i.freshSeed flags.arguments
    with e | plan
  · rw [generateStrings_of_error hplan, generateStrings_of_error hplan]
    exact h.output
  · rw [generateStrings_of_plan hplan, generateStrings_of_plan hplan,
      Step.bind_output fun _ => finish_output _, Step.bind_output fun _ => finish_output _]
    have hplanned := h.planned Sink.keeps_true plan
    exact (writeRecords_ignores Sink.keeps_true _ _ _ _ _ _ hplanned).2.output

/-- The results are entries of strings that were generated, for the alphabet and
    the length that flags and settings give. -/
theorem generateStrings_writes (i : Invocation) (settings : Settings) (flags : Parsed) :
    (generateStrings i settings flags).Writes (fun e => ∃ a,
        chooseAlphabet (.ofParsed flags) settings.generator = .ok a ∧
        e.Drawn (.ofMaximum settings.generator.maxLength)
          ⟨a, (chooseLength flags.arguments settings.generator.defaultLength).1⟩
          (if (Choice.ofParsed flags).hash then some i.hashParameters else none))
      (Choice.ofParsed flags).count.toNat := by
  intro s
  by_cases hcount : (Choice.ofParsed flags).count < 1
  · rw [generateStrings_of_error (Plan.make_of_count hcount)]
    exact ⟨[], by simp, by simp, by simp⟩
  rcases ha : chooseAlphabet (.ofParsed flags) settings.generator with e | a
  · rw [generateStrings_of_error (Plan.make_of_error hcount ha)]
    exact ⟨[], by simp, by simp, by simp⟩
  · rw [generateStrings_of_plan (Plan.make_of_alphabet hcount ha), Plan.ofAlphabet_request,
      Step.bind_output fun _ => finish_output _]
    obtain ⟨es, hlength, hall, htaken⟩ := writeRecords_writes
      (.ofMaximum settings.generator.maxLength)
      ⟨a, (chooseLength flags.arguments settings.generator.defaultLength).1⟩
      (if (Choice.ofParsed flags).hash then some i.hashParameters else none)
      (Choice.ofParsed flags).count.toNat
      (s.planned (.ofAlphabet (.ofParsed flags) settings.generator i.freshSeed flags.arguments a))
    exact ⟨es, hlength, fun e he => ⟨a, rfl, hall e he⟩, htaken⟩

theorem run_output (hi : i.Begins flags settings s) :
    i.run.2.output = (generateStrings i settings flags s).2.output := by
  unfold Invocation.run
  rw [obey_of_begins hi]
  rcases generateStrings i settings flags s with ⟨e | e | ⟨⟩, s'⟩ <;> rfl

/-- Runs whose generating goes the same way end the same way. -/
theorem run_ending (hi : i.Begins flags settings s) (hj : j.Begins flags' settings' t)
    (h : (generateStrings i settings flags s).1 = (generateStrings j settings' flags' t).1) :
    i.run.1 = j.run.1 := by
  unfold Invocation.run
  rw [obey_of_begins hi, obey_of_begins hj]
  rcases hs : generateStrings i settings flags s with ⟨e | e | ⟨⟩, s'⟩
  all_goals
    rcases ht : generateStrings j settings' flags' t with ⟨result, t'⟩
    rw [hs, ht] at h
    cases h
    rfl

end Runs

/-- Logging leaves results alone. Take two runs that generate strings and get
    past loading their settings. They may differ in the level given for the log,
    in where and with what else their settings are found and in the log settings
    among them; they have the other flags and arguments, the generator's
    settings, the random stream and the two sinks in common. Then the first
    stream takes the same text in both, and both end in the same way, with the
    same error if there is one, provided that the counters are not to be
    published or the stream they share with the log is steady.

    And nothing of the log is on the first stream. With any other journal in
    place, such as one that logs nothing or one that logs everything, it would
    hold the same text; and that text consists of entries of strings that were
    generated, not more of them than were asked for. -/
theorem log_settings_leave_results (i j : Invocation) (flags flags' : Parsed)
    (settings settings' : Settings) (s t : Stage) (hi : i.Begins flags settings s)
    (hj : j.Begins flags' settings' t) (hakin : i.Akin j)
    (hflags : flags.unlevelled = flags'.unlevelled)
    (hgenerator : settings.generator = settings'.generator) :
    i.run.2.output = j.run.2.output ∧
      (((Choice.ofParsed flags).metrics = true → i.diagnostics.Steady) → i.run.1 = j.run.1) ∧
      (∀ journal, (generateStrings i settings flags (i.stage.withJournal fun _ => journal)).2.output
        = i.run.2.output) ∧
      ∃ es : List Entry, es.length ≤ (Choice.ofParsed flags).count.toNat ∧
        (∀ e ∈ es, ∃ a, chooseAlphabet (.ofParsed flags) settings.generator = .ok a ∧
          e.Drawn (.ofMaximum settings.generator.maxLength)
            ⟨a, (chooseLength flags.arguments settings.generator.defaultLength).1⟩
            (if (Choice.ofParsed flags).hash then some i.hashParameters else none)) ∧
        i.run.2.output.taken = i.output.taken ++ String.join (es.map Entry.shown) := by
  have hcongr := generateStrings_congr hakin hflags hgenerator
  have houtput : s.output = i.output := by
    obtain ⟨-, journal, -, -, rfl⟩ := hi.loaded
    rfl
  refine ⟨?_, fun hsteady => run_ending hi hj ?_, fun journal => ?_, ?_⟩
  · rw [run_output hi, run_output hj, ← hcongr]
    exact generateStrings_output i settings flags (hi.beside Sink.keeps_true hakin trivial hj)
  · rw [← hcongr]
    -- Of the second streams it matters only how the counters fare on them.
    let C (c : Sink) : Prop := (Choice.ofParsed flags).metrics = true → i.diagnostics.Alike c
    have hC : Sink.Keeps C := fun c text h hmetrics =>
      Sink.keeps_alike i.diagnostics c text (h hmetrics)
    have hd : C i.diagnostics := fun hmetrics =>
      ⟨rfl, rfl, hsteady hmetrics, hsteady hmetrics⟩
    refine (generateStrings_ignores hC i settings (fun hmetrics c c' h h' => ?_) s t
      (hi.beside hC hakin hd hj)).1
    exact (h hmetrics).join (h' hmetrics)
  · rw [run_output hi]
    refine generateStrings_output i settings flags ?_
    obtain ⟨-, own, -, -, rfl⟩ := hi.loaded
    exact ⟨rfl, rfl, rfl, trivial, trivial⟩
  · obtain ⟨es, hlength, hall, htaken⟩ := generateStrings_writes i settings flags s
    exact ⟨es, hlength, hall, by rw [run_output hi, htaken, houtput]⟩

/-- A run that logs at the standard level and one that logs everything, both of
    which publish the counters. -/
theorem log_settings_leave_results_at_trace :
    let i (words : List String) : Invocation :=
      { words, disk := .empty, environment := fun _ => "", entropy := ⟨UInt8.ofNat, 0, 600⟩,
        freshSeed := 0, hashParameters := ⟨⟨8, 1, 1⟩, 4, 4⟩, output := .unlimited,
        diagnostics := .unlimited, time := "", caller := "" }
    let x := i ["--metrics", "--hash", "3"]
    let y := i ["--metrics", "--log-level", "trace", "--hash", "3"]
    let flags : Parsed := ⟨[(.metrics, .truth true), (.hash, .truth true)], ["3"]⟩
    let flags' : Parsed :=
      ⟨[(.metrics, .truth true), (.logLevel, .text "trace"), (.hash, .truth true)], ["3"]⟩
    ∃ settings settings' s t, x.Begins flags settings s ∧ y.Begins flags' settings' t ∧
      x.Akin y ∧ flags.unlevelled = flags'.unlevelled ∧
      settings.generator = settings'.generator ∧ x.diagnostics.Steady ∧
      x.run.2.output = y.run.2.output ∧ x.run.1 = y.run.1 := by
  intro i x y flags flags'
  have hparse : parse Command.generate.flags x.words = .ok flags :=
    parse_of_given (by decide +kernel)
  have hparse' : parse Command.generate.flags y.words = .ok flags' :=
    parse_of_given (by decide +kernel)
  obtain ⟨settings, s, hx, -⟩ := x.exists_begins (fun _ => true) (by decide +kernel) hparse
    (by decide) (by decide) (by decide +kernel)
  obtain ⟨settings', t, hy, -⟩ := y.exists_begins (fun _ => true) (by decide +kernel) hparse'
    (by decide) (by decide) (by decide +kernel)
  -- Neither of the two has settings of its own, so both have the standard ones.
  have hgenerator : settings.generator = settings'.generator := by
    obtain ⟨loaded, -, hload, hgenerator, -⟩ := hx.loaded
    obtain ⟨loaded', -, hload', hgenerator', -⟩ := hy.loaded
    have hboth : (loaded, none) = (loaded', none) := hload.symm.trans hload'
    rw [hgenerator, hgenerator', (Prod.mk.inj hboth).1]
  have hakin : x.Akin y := ⟨rfl, rfl, rfl, rfl, rfl⟩
  have hflags : flags.unlevelled = flags'.unlevelled := rfl
  have hsteady : x.diagnostics.Steady := fun limit h => (by cases h)
  obtain ⟨houtput, hending, -⟩ := log_settings_leave_results x y flags flags' settings settings'
    s t hx hy hakin hflags hgenerator
  exact ⟨settings, settings', s, t, hx, hy, hakin, hflags, hgenerator, hsteady, houtput,
    hending fun _ => hsteady⟩

end Command

end Passforge
