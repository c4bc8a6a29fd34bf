import Passforge.Proofs.Planning
import Passforge.Proofs.Streams

/-!
# All or Nothing on the First Stream

Strings are written as they are generated, and yet a run that fails has written
none of them, as long as both streams take every text. What can stop a turn, a
refused request or hash parameters that allow no key, does not depend on the
turn: it stops the first one or none of them. So there are two loops to follow.
One that is *hindered* ends in its first turn, before anything is written. One
that is not writes an entry in every turn, unless a draw never ends.

What comes before the loop writes to the second stream only, and so does what
comes after it. On a stream that takes every text publishing the counters can
not fail.

A stage is *open* if both of its streams take every text and its source is one
of the program's own. Every step of a run keeps an open stage open.

## Main definitions

* `Entry`: A string with its hash, as it is written.
* `Entry.Genuine`: The string answers the request, and the hash belongs to it.
* `Stage.Open`: The streams take every text.
* `Hindered`: No turn can succeed.
* `Stops`: A step does not succeed and writes nothing.

## Theorems

* `writeRecord_of_hindered`: A hindered turn stops.
* `writeRecord_of_free`: Any other turn writes an entry.
* `writeRecords_of_free`: A loop of them writes that many.
* `generateStrings_cases`: What the generating command can do.
* `output_all_or_nothing`: The first stream holds all entries or none.
-/

namespace Passforge

/-- What is drawn from an alphabet that comes from text is in the alphabet. -/
theorem Request.Meets.contains {r : Request} {text : String} (h : r.Meets text)
    (ha : r.alphabet.FromText) :
    ∀ c ∈ text.toList, r.alphabet.contains (Symbol.ofChar c) = true := by
  intro c hc
  rcases h.drawn c hc with ⟨sym, hmem, rfl⟩
  rw [Symbol.ofChar_toChar sym (ha.isScalar _ sym hmem), Alphabet.contains_iff]
  exact hmem

namespace Command

/-- A string, with its hash if that was asked for. -/
structure Entry where
  text : String
  hash : Option String

namespace Entry

/-- The line that is written. -/
def shown (e : Entry) : String :=
  match e.hash with
  | none => e.text ++ "\n"
  | some line => e.text ++ "\t" ++ line ++ "\n"

/-- The string has the length asked for and characters of the alphabet only. It
    has a hash if that was asked for, and the hash is the string's own and can
    not be mistaken for the end of an entry. -/
structure Genuine (a : Alphabet) (length : Int) (hashed : Bool) (e : Entry) : Prop where
  length : (e.text.length : Int) = length
  drawn : ∀ c ∈ e.text.toList, a.contains (Symbol.ofChar c) = true
  hashed : e.hash.isSome = hashed
  plain : ∀ line ∈ e.hash, ∀ c ∈ line.toList, c ≠ '\t' ∧ c ≠ '\n'
  verified : ∀ line ∈ e.hash, Hash.verifyPassword e.text.toUTF8.toList line = .ok (.ok true)

end Entry

/-- Both streams take every text, and the source is one of the program's own. -/
structure Stage.Open (s : Stage) : Prop where
  output : s.output.limit = none
  console : s.session.journal.console.limit = none
  native : s.session.supply.Native

namespace Stage.Open

variable {s : Stage}

theorem served (hs : s.Open) (r : Request) {supply : Supply} (hsupply : supply.Native) :
    (s.served r supply).Open where
  output := hs.output
  console := Log.Journal.log_keeps (Sink.keeps_limit none) _ _ hs.console
  native := hsupply

theorem salted (hs : s.Open) (length : Nat) : (s.salted length).Open :=
  ⟨hs.output, hs.console, hs.native⟩

theorem planned (hs : s.Open) (c : Choice) (g : GeneratorSettings) (seed : Nat)
    (arguments : List String) (a : Alphabet) :
    (s.planned (.ofAlphabet c g seed arguments a)).Open where
  output := hs.output
  console := Log.Journal.foldl_log_keeps (Sink.keeps_limit none) _ _ hs.console
  native := chooseDrawer_ne_listed c g seed

end Stage.Open

/-- Something stands in the way of every turn. -/
def Hindered (g : Generator) (r : Request) (hash : Option Hash.HashParameters) : Prop :=
  g.check r ≠ none ∨ ∃ p ∈ hash, Hash.keyFault? p.cost p.keyLength ≠ none

/-- The step fails or halts, and the first stream is left as `sink`. -/
inductive Stops (sink : Sink) : Except Halt (Except Failure Unit) × Stage → Prop where
  | failure {f : Failure} {s : Stage} (hf : ∀ e, f ≠ .publish e) (h : s.output = sink) :
      Stops sink (.ok (.error f), s)
  | halt {e : Halt} {s : Stage} (h : s.output = sink) : Stops sink (.error e, s)

theorem Stops.bind {x : Step Unit} {f : Unit → Step Unit} {sink : Sink} {s : Stage}
    (h : Stops sink (x s)) : Stops sink ((x >>= f) s) := by
  generalize hx : x s = result at h
  cases h with
  | failure hf houtput =>
      rw [Step.bind_of_failure hx]
      exact .failure hf houtput
  | halt houtput =>
      rw [Step.bind_of_halt hx]
      exact .halt houtput

section Turns

variable {g : Generator} {r : Request} {hash : Option Hash.HashParameters} {s : Stage}

/-- A hindered turn stops: the request is refused, or a string is drawn and
    there is no key for it, or a draw never ends. -/
theorem writeRecord_of_hindered (h : Hindered g r hash) (hs : s.Open) :
    Stops s.output (writeRecord g r hash s) := by
  rcases hc : g.check r with _ | rejection
  · rcases writeRecord_native hc hash hs.native with
      ⟨s', hstep, houtput⟩ | ⟨text, supply, -, -, hstep⟩
    · rw [hstep]
      exact .halt houtput
    · rcases h with h | ⟨p, rfl, hp⟩
      · exact absurd hc h
      · rcases Option.ne_none_iff_exists'.mp hp with ⟨f, hf⟩
        rw [hstep, writeText_of_fault hf]
        exact .halt rfl
  · rw [writeRecord_of_rejection hc]
    exact .failure (by simp) rfl

/-- A hindered loop does not get past its first turn. -/
theorem writeRecords_of_hindered (h : Hindered g r hash) {count : Nat} (hcount : count ≠ 0)
    (hs : s.Open) : Stops s.output (writeRecords g r hash count s) := by
  rcases Nat.exists_eq_succ_of_ne_zero hcount with ⟨rest, rfl⟩
  exact (writeRecord_of_hindered h hs).bind

/-- The stage after a text was written. -/
def Stage.wrote (s : Stage) (text : String) : Stage :=
  { s with output := { s.output with taken := s.output.taken ++ text } }

theorem Stage.Open.wrote (hs : s.Open) (text : String) : (s.wrote text).Open :=
  ⟨hs.output, hs.console, hs.native⟩

theorem write_of_open (hs : s.Open) (text : String) :
    write text s = (.ok (.ok ()), s.wrote text) := by
  unfold write
  rw [Step.get_bind, Sink.put_of_unlimited hs.output]
  rfl

/-- A turn that nothing hinders writes a genuine entry, unless a draw never
    ends. -/
theorem writeRecord_of_free (h : ¬ Hindered g r hash) (hfits : ∀ p ∈ hash, p.cost.Fits)
    (ha : r.alphabet.FromText) (hs : s.Open) :
    (∃ s', writeRecord g r hash s = (.error .endless, s')) ∨
      ∃ (e : Entry) (s' : Stage), e.Genuine r.alphabet r.length hash.isSome ∧ s'.Open ∧
        s'.output.taken = s.output.taken ++ e.shown ∧
        writeRecord g r hash s = (.ok (.ok ()), s') := by
  have hc : g.check r = none := by
    by_contra hc
    exact h (.inl hc)
  rcases writeRecord_native hc hash hs.native with
    ⟨s', hstep, -⟩ | ⟨text, supply, hmeets, hnative, hstep⟩
  · exact .inl ⟨s', hstep⟩
  have hserved := hs.served r hnative
  rw [hstep]
  rcases hash with _ | p
  · refine .inr ⟨⟨text, none⟩, _, ?_, hserved.wrote _, rfl, write_of_open hserved _⟩
    exact ⟨hmeets.length, hmeets.contains ha, rfl, (by simp), (by simp)⟩
  · have hkey : Hash.keyFault? p.cost p.keyLength = none := by
      by_contra hkey
      exact h (.inr ⟨p, rfl, hkey⟩)
    rcases writeText_of_line hkey text (s.served r supply) with ⟨line, hline, hwrite⟩
    have hsalted := hserved.salted p.saltLength
    rw [hwrite]
    refine .inr ⟨⟨text, some line⟩, _, ?_, hsalted.wrote _, rfl, write_of_open hsalted _⟩
    refine ⟨hmeets.length, hmeets.contains ha, rfl, ?_, ?_⟩
    · rintro _ ⟨⟩
      exact Hash.hashWith_plain hline
    · rintro _ ⟨⟩
      exact Hash.hashWith_verifies (hfits p rfl) hline

/-- By induction on the number of turns: each of them writes its entry behind
    those of the turns before. -/
theorem writeRecords_of_free (h : ¬ Hindered g r hash) (hfits : ∀ p ∈ hash, p.cost.Fits)
    (ha : r.alphabet.FromText) (count : Nat) (hs : s.Open) :
    (∃ s', writeRecords g r hash count s = (.error .endless, s')) ∨
      ∃ (es : List Entry) (s' : Stage), es.length = count ∧
        (∀ e ∈ es, e.Genuine r.alphabet r.length hash.isSome) ∧ s'.Open ∧
        s'.output.taken = s.output.taken ++ String.join (es.map Entry.shown) ∧
        writeRecords g r hash count s = (.ok (.ok ()), s') := by
  induction count generalizing s with
  | zero => exact .inr ⟨[], s, rfl, (by simp), hs, (by simp), rfl⟩
  | succ count ih =>
      rcases writeRecord_of_free h hfits ha hs with
        ⟨s', hstep⟩ | ⟨e, s₁, hgenuine, hopen, htaken, hstep⟩
      · exact .inl ⟨s', Step.bind_of_halt hstep⟩
      rw [writeRecords, Step.bind_of_ok hstep]
      rcases ih hopen with hendless | ⟨es, s', hlength, hall, hopen', htaken', hsteps⟩
      · exact .inl hendless
      -- The entries of the later turns stand behind that of the first.
      · refine .inr ⟨e :: es, s', (by rw [List.length_cons, hlength]), ?_, hopen', ?_, hsteps⟩
        · rintro e' (_ | ⟨_, he'⟩)
          · exact hgenuine
          · exact hall e' he'
        · rw [htaken', htaken, List.map_cons, String.join_cons, String.append_assoc]

end Turns

/-- On a stream that takes every text the counters can be published. -/
theorem finish_of_open (metrics : Bool) {s : Stage} (hs : s.Open) :
    ∃ journal, (if metrics then publishCounters else pure () : Step Unit) s
      = (.ok (.ok ()), s.withJournal fun _ => journal) := by
  cases metrics with
  | false => exact ⟨s.session.journal, rfl⟩
  | true =>
      rw [if_pos rfl, publishCounters_eq, Metrics.publish_of_unlimited _ hs.console]
      exact ⟨_, rfl⟩

/-- The generating command stops without writing, or never ends, or writes all
    of its entries. -/
theorem generateStrings_cases (i : Invocation) (settings : Settings) (flags : Parsed) {s : Stage}
    (hs : s.Open) (hfits : i.hashParameters.cost.Fits) :
    Stops s.output (generateStrings i settings flags s) ∨
      (∃ s', generateStrings i settings flags s = (.error .endless, s')) ∨
      ∃ (a : Alphabet) (es : List Entry) (s' : Stage),
        chooseAlphabet (.ofParsed flags) settings.generator = .ok a ∧
        (es.length : Int) = (Choice.ofParsed flags).count ∧
        (∀ e ∈ es, e.Genuine a (chooseLength flags.arguments settings.generator.defaultLength).1
          (flags.isOn .hash)) ∧
        s'.output.taken = s.output.taken ++ String.join (es.map Entry.shown) ∧
        generateStrings i settings flags s = (.ok (.ok ()), s') := by
  by_cases hcount : (Choice.ofParsed flags).count < 1
  · rw [generateStrings_of_error (Plan.make_of_count hcount)]
    exact .inl (.failure (by simp) rfl)
  rcases ha : chooseAlphabet (.ofParsed flags) settings.generator with cause | a
  · rw [generateStrings_of_error (Plan.make_of_error hcount ha)]
    exact .inl (.failure (by simp) rfl)
  rw [generateStrings_of_plan (Plan.make_of_alphabet hcount ha), Plan.ofAlphabet_request]
  have hopen := hs.planned (.ofParsed flags) settings.generator i.freshSeed flags.arguments a
  have hallfit : ∀ p ∈ (if flags.isOn .hash then some i.hashParameters else none),
      p.cost.Fits := by
    intro p hp
    rw [Option.mem_def, Option.ite_none_right_eq_some, Option.some.injEq] at hp
    rw [← hp.2]
    exact hfits
  -- Whether a turn is hindered is settled before the first one.
  by_cases hhindered : Hindered (.ofMaximum settings.generator.maxLength)
      ⟨a, (chooseLength flags.arguments settings.generator.defaultLength).1⟩
      (if flags.isOn .hash then some i.hashParameters else none)
  · exact .inl (writeRecords_of_hindered hhindered (by omega) hopen).bind
  · rcases writeRecords_of_free hhindered hallfit (chooseAlphabet_fromText ha)
      (Choice.ofParsed flags).count.toNat hopen with
      ⟨s', hsteps⟩ | ⟨es, s₁, hlength, hall, hopen₁, htaken, hsteps⟩
    · exact .inr (.inl ⟨s', Step.bind_of_halt hsteps⟩)
    · rcases finish_of_open (Choice.ofParsed flags).metrics hopen₁ with ⟨journal, hfinish⟩
      refine .inr (.inr ⟨a, es, s₁.withJournal fun _ => journal, rfl, (by omega), ?_, htaken,
        (Step.bind_of_ok hsteps).trans hfinish⟩)
      have hsome : (if flags.isOn .hash then some i.hashParameters else none).isSome
          = flags.isOn .hash := by
        cases flags.isOn .hash <;> rfl
      rw [hsome] at hall
      exact hall

/-- A run that begins has written nothing to the first stream yet. -/
theorem Invocation.Begins.isOpen {i : Invocation} {flags : Parsed} {settings : Settings}
    {s : Stage} (h : i.Begins flags settings s) (hout : i.output.limit = none)
    (herr : i.diagnostics.limit = none) : s.Open ∧ s.output = i.output := by
  have hconsole := h.console (Sink.keeps_limit none) herr
  rcases h.loaded with ⟨-, journal, -, -, rfl⟩
  exact ⟨⟨hout, hconsole, fun l => (by simp [Invocation.stage, Stage.withJournal])⟩, rfl⟩

theorem run_of_stops {i : Invocation} (h : Stops i.output (obey i i.stage)) :
    i.run.1 ≠ .success ∧ i.run.2.output = i.output ∧ ∀ e, i.run.1 ≠ .failure (.publish e) := by
  unfold Invocation.run
  generalize obey i i.stage = result at h
  cases h with
  | failure hf houtput => exact ⟨(by simp), houtput, fun e => (by simp [hf e])⟩
  | halt houtput => exact ⟨(by simp), houtput, (by simp)⟩

/-- The first stream is all or nothing. Of a run that is to generate strings,
    whose streams take every text and whose draws come to an end, one that
    fails or faults has written nothing; and one that succeeds has written as
    many entries as were asked for and nothing else, each of them a string of
    the length and from the alphabet that flags and settings give, with a hash
    that it belongs to if hashes were asked for. Publishing the counters is
    nothing it can fail by. -/
theorem output_all_or_nothing (i : Invocation) (words : List String)
    (hfind : find i.words = (.generate, words))
    (hhelp : ∀ flags, parse Command.generate.flags words = .ok flags → flags.isOn .help = false)
    (hfits : i.hashParameters.cost.Fits) (hout : i.output.limit = none)
    (herr : i.diagnostics.limit = none) (hends : i.run.1.ends = true) :
    (i.run.1 ≠ .success → i.run.2.output = i.output) ∧
      (i.run.1 = .success → ∃ (flags : Parsed) (settings : Settings) (a : Alphabet)
          (es : List Entry),
        parse Command.generate.flags words = .ok flags ∧
        Settings.load i.disk i.environment ((flags.text? .config).getD standardDirectory)
          = (settings, none) ∧
        chooseAlphabet (.ofParsed flags) settings.generator = .ok a ∧
        (es.length : Int) = (Choice.ofParsed flags).count ∧
        (∀ e ∈ es, e.Genuine a (chooseLength flags.arguments settings.generator.defaultLength).1
          (flags.isOn .hash)) ∧
        i.run.2.output.taken = i.output.taken ++ String.join (es.map Entry.shown)) ∧
      ∀ e, i.run.1 ≠ .failure (.publish e) := by
  rcases obey_cases hfind hhelp with ⟨f, hf, hobey⟩ | ⟨flags, settings, s, hbegins⟩
  · rcases run_of_stops (i := i) (by rw [hobey]; exact .failure hf rfl) with
      ⟨hfails, houtput, hpublish⟩
    exact ⟨fun _ => houtput, fun h => absurd h hfails, hpublish⟩
  rcases hbegins.isOpen hout herr with ⟨hopen, houtput⟩
  rcases generateStrings_cases i settings flags hopen hfits with
    hstops | ⟨s', hendless⟩ | ⟨a, es, s', ha, hlength, hall, htaken, hsteps⟩
  · rw [← obey_of_begins hbegins, houtput] at hstops
    rcases run_of_stops hstops with ⟨hfails, houtput, hpublish⟩
    exact ⟨fun _ => houtput, fun h => absurd h hfails, hpublish⟩
  · rw [← obey_of_begins hbegins] at hendless
    unfold Invocation.run at hends
    rw [hendless] at hends
    cases hends
  · rw [← obey_of_begins hbegins] at hsteps
    have hrun : i.run = (.success, s') := by
      unfold Invocation.run
      rw [hsteps]
    rcases hbegins.words with ⟨words', hfind', hparse⟩
    rw [hfind, Prod.mk.injEq] at hfind'
    rcases hbegins.loaded with ⟨loaded, -, hload, hgenerator, -⟩
    rw [hgenerator] at ha hall
    rw [houtput] at htaken
    rw [hrun]
    exact ⟨fun h => absurd rfl h, fun _ => ⟨flags, loaded, a, es, hfind'.2 ▸ hparse, hload, ha,
      hlength, hall, htaken⟩, (by simp)⟩

/-- Two hashed strings of three characters, once with hash parameters that work
    and once with some that allow no key. -/
theorem output_all_or_nothing_hashing :
    let i (passes : Nat) : Invocation :=
      { words := ["--metrics", "--hash", "-n", "2", "3"], disk := .empty,
        environment := fun _ => "", entropy := ⟨UInt8.ofNat, 0, 600⟩, freshSeed := 0,
        hashParameters := ⟨⟨8, passes, 1⟩, 4, 4⟩, output := .unlimited, diagnostics := .unlimited,
        time := "", caller := "" }
    (∃ (a : Alphabet) (es : List Entry), es.length = 2 ∧ (∀ e ∈ es, e.Genuine a 3 true) ∧
        (i 1).run.2.output.taken = String.join (es.map Entry.shown)) ∧
      (i 0).run.2.output.taken = "" := by
  intro i
  let words := ["--metrics", "--hash", "-n", "2", "3"]
  let flags : Parsed :=
    ⟨[(.metrics, .truth true), (.hash, .truth true), (.count, .integer 2)], ["3"]⟩
  have hparse : parse Command.generate.flags words = .ok flags :=
    parse_of_given (by decide +kernel)
  have hfind (passes : Nat) : find (i passes).words = (.generate, words) := by
    change find words = (.generate, words)
    decide +kernel
  have hhelp : ∀ p, parse Command.generate.flags words = .ok p → p.isOn .help = false := by
    intro p hp
    rw [hparse, Except.ok.injEq] at hp
    rw [← hp]
    decide
  have hall (passes : Nat) (hpasses : passes < 2 ^ 32) := output_all_or_nothing (i passes) words
    (hfind passes) hhelp ⟨show 8 < 2 ^ 32 by decide, hpasses, show 1 < 2 ^ 8 by decide⟩ rfl rfl
  have hends : (i 1).run.1.ends = true ∧ (i 0).run.1.ends = true := by decide +kernel
  have hworks : (match (i 1).run.1 with | .success => true | _ => false) = true := by
    decide +kernel
  have hfaults : (match (i 0).run.1 with | .success => true | _ => false) = false := by
    decide +kernel
  constructor
  · have hsuccess : (i 1).run.1 = .success := by
      generalize (i 1).run.1 = ending at hworks
      cases ending with
      | success => rfl
      | _ => cases hworks
    rcases (hall 1 (by decide) hends.1).2.1 hsuccess with
      ⟨p, settings, a, es, hp, -, -, hcount, hgenuine, htaken⟩
    rw [hparse, Except.ok.injEq] at hp
    subst hp
    have htwo : (Choice.ofParsed flags).count = 2 := by decide
    have hthree : (chooseLength flags.arguments settings.generator.defaultLength).1 = 3 := by rfl
    rw [hthree] at hgenuine
    exact ⟨a, es, by omega, hgenuine, htaken⟩
  · have hfails : (i 0).run.1 ≠ .success := by
      intro h
      rw [h] at hfaults
      cases hfaults
    rw [(hall 0 (by decide) hends.2).1 hfails]
    rfl

end Command

end Passforge
