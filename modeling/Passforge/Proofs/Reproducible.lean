import Passforge.Proofs.Succeeding

/-!
# Reproducible Runs

A run with a seed gives the strings of that seed. The source it draws from is
started from the seed and from nothing else, each draw leads to the next state
whatever the random stream is, and between two strings nobody else draws from
it: a salt is taken from the stream behind the source, not from the source. So
the strings are those that `seededTexts` names, a function of the seed, the
alphabet, the length and the number of strings.

That a source does inside a supply what it does alone is said by `Run.Tracks`:
a run on a state, and the same run on a state that contains it. Whatever is
built from draws alone then tracks as well, since tracking is kept by
sequencing.

## Main definitions

* `Run.Tracks`: A run does on a larger state what another does on a part of it.
* `seededTexts`: The strings of a seed.
* `Entry.unhashed`: The entry without its hash.

## Theorems

* `Run.Tracks.bind`: Tracking is kept by sequencing.
* `drawString_tracks`: Strings track if the draws do.
* `Turn.seeded`, `Turns.seeded`: Turns with a seeded source.
* `Invocation.run_seeded`: What a run with a seed writes.
* `seed_fixes_strings`: Neither hashes nor random bytes change the strings.
-/

namespace Passforge

section Tracking

variable {σ τ α β : Type} {f : σ → τ}

/-- The run `y` does on `f s` what `x` does on `s`. -/
def Run.Tracks (f : σ → τ) (x : Run σ α) (y : Run τ α) : Prop :=
  ∀ s, y (f s) = ((x s).1, f (x s).2)

theorem Run.Tracks.pure (a : α) : Tracks f (pure a) (pure a) :=
  fun _ => rfl

theorem Run.Tracks.throw (e : Halt) : Tracks f (throw e : Run σ α) (throw e) :=
  fun _ => rfl

/-- Tracking is kept by sequencing. -/
theorem Run.Tracks.bind {x : Run σ α} {y : Run τ α} {g : α → Run σ β} {k : α → Run τ β}
    (h : Tracks f x y) (hg : ∀ a, Tracks f (g a) (k a)) : Tracks f (x >>= g) (y >>= k) := by
  intro s
  rcases hx : x s with ⟨e | a, s'⟩
  · have hy : y (f s) = (.error e, f s') := by rw [h s, hx]
    rw [bind_of_error hx, bind_of_error hy]
  · have hy : y (f s) = (.ok a, f s') := by rw [h s, hx]
    rw [bind_of_ok hx, bind_of_ok hy]
    exact hg a s'

variable {source : Source σ} {source' : Source τ}

theorem drawChar_tracks (h : ∀ bound, Run.Tracks f (source.draw bound) (source'.draw bound))
    (a : Alphabet) : Run.Tracks f (drawChar source a) (drawChar source' a) := by
  refine (h a.size).bind fun index => ?_
  rcases a.symbolAt index with e | s
  · exact .throw _
  · exact .pure _

theorem drawChars_tracks (h : ∀ bound, Run.Tracks f (source.draw bound) (source'.draw bound))
    (a : Alphabet) (count : Nat) (drawn : List Char) :
    Run.Tracks f (drawChars source a count drawn) (drawChars source' a count drawn) := by
  induction count generalizing drawn with
  | zero => exact .pure _
  | succ count ih => exact (drawChar_tracks h a).bind fun c => ih (c :: drawn)

/-- Strings track if the draws do. -/
theorem drawString_tracks (h : ∀ bound, Run.Tracks f (source.draw bound) (source'.draw bound))
    (a : Alphabet) (length : Nat) :
    Run.Tracks f (drawString source a length) (drawString source' a length) :=
  (drawChars_tracks h a length []).bind fun _ => .pure _

end Tracking

/-- A request that is served has a string drawn for it. -/
theorem drawString_of_generate {σ : Type} {g : Generator} {source : Source σ} {r : Request}
    {s s' : σ} {text : String} (h : g.generate source r s = (.ok (.ok text), s')) :
    drawString source r.alphabet r.length.toNat s = (.ok text, s') := by
  rcases hc : g.check r with _ | rejection
  · unfold Generator.generate at h
    rw [hc] at h
    simp only at h
    rcases hd : drawString source r.alphabet r.length.toNat s with ⟨e | text', s₁⟩
    · rw [Run.bind_of_error hd] at h
      cases h
    · rw [Run.bind_of_ok hd] at h
      cases h
      rfl
  · rw [generate_of_rejection g source r rejection hc] at h
    cases h

/-- A seeded source does in a supply what it does alone, and leaves the stream
    as it is. -/
theorem Supply.source_tracks (e : Entropy) (bound : Int) :
    Run.Tracks (fun d => ⟨e, .seeded d⟩) (SeededState.source.draw bound)
      (Supply.source.draw bound) :=
  fun d => draw_of_seeded e d bound rfl

/-- The strings of a seed: so many of them, drawn one after the other. -/
def seededTexts (seed : Nat) (a : Alphabet) (length : Int) (count : Nat) :
    Except Halt (List String) :=
  ((List.replicate count ()).mapM (fun _ => drawString SeededState.source a length.toNat)
    (.ofSeed (BitVec.ofNat 64 seed))).1

namespace Command

/-- The entry without its hash. -/
def Entry.unhashed (e : Entry) : Entry :=
  ⟨e.text, none⟩

section Turns

variable {g : Generator} {r : Request} {hash : Option Hash.HashParameters} {s s' : Stage}

/-- A turn with a seeded source draws its string from that source, and so leaves
    it, whether it hashes the string or not. -/
theorem Turn.seeded {e : Entry} (h : Turn g r hash s e s') {d : SeededState}
    (hs : s.session.supply.drawer = .seeded d) :
    ∃ d', drawString SeededState.source r.alphabet r.length.toNat d = (.ok e.text, d') ∧
      s'.session.supply.drawer = .seeded d' := by
  -- The string is drawn from the supply, and the supply holds nothing but the seeded source
  -- and the stream behind it.
  obtain ⟨supply, hgenerate, hdrawer⟩ := h.drawn
  have hsupply : s.session.supply = ⟨s.session.supply.entropy, .seeded d⟩ := by rw [← hs]
  have hdrawn := drawString_of_generate hgenerate
  rw [hsupply, drawString_tracks (Supply.source_tracks _) r.alphabet r.length.toNat d,
    Prod.mk.injEq] at hdrawn
  refine ⟨_, Prod.ext hdrawn.1 rfl, ?_⟩
  rw [hdrawer, ← hdrawn.2]

theorem Turns.seeded {es : List Entry} (h : Turns g r hash s es s') {d : SeededState}
    (hs : s.session.supply.drawer = .seeded d) :
    ∃ d', (List.replicate es.length ()).mapM
      (fun _ => drawString SeededState.source r.alphabet r.length.toNat) d
        = (.ok (es.map Entry.text), d') := by
  induction h generalizing d with
  | nil s => exact ⟨d, rfl⟩
  | cons first rest ih =>
      obtain ⟨d₁, hdrawn, hs₁⟩ := first.seeded hs
      obtain ⟨d', hrest⟩ := ih hs₁
      exact ⟨d', Run.mapM_cons_of_ok hdrawn hrest⟩

end Turns

/-- A run with a seed that succeeds writes the strings of that seed, with hashes
    if they were asked for. -/
theorem Invocation.run_seeded {i : Invocation} {flags : Parsed} {seed : Nat}
    (hasks : Asks i.words flags) (hseed : flags.natural? .seed = some seed)
    (hsuccess : i.run.1 = .success) :
    ∃ (settings : Settings) (a : Alphabet) (es : List Entry),
      Settings.load i.disk i.environment ((flags.text? .config).getD standardDirectory)
        = (settings, none) ∧
      chooseAlphabet (.ofParsed flags) settings.generator = .ok a ∧
      seededTexts seed a (chooseLength flags.arguments settings.generator.defaultLength).1
        (Choice.ofParsed flags).count.toNat = .ok (es.map Entry.text) ∧
      (∀ e ∈ es, e.hash.isSome = flags.isOn .hash) ∧
      i.run.2.output.taken = i.output.taken ++ String.join (es.map Entry.shown) := by
  obtain ⟨settings, s, hbegins⟩ := begins_of_success hasks hsuccess
  have hobey := run_success hsuccess
  rw [obey_of_begins hbegins] at hobey
  obtain ⟨a, u, -, ha, hturns, hfinish⟩ := generateStrings_success hobey
  obtain ⟨es, hlength, hes⟩ := exists_turns hturns
  obtain ⟨loaded, journal, hload, hgenerator, -⟩ := hbegins.loaded
  have hdrawer : (s.planned (.ofAlphabet (.ofParsed flags) settings.generator i.freshSeed
      flags.arguments a)).session.supply.drawer = .seeded (.ofSeed (BitVec.ofNat 64 seed)) := by
    have hchosen : (Choice.ofParsed flags).seed = some seed := hseed
    change (chooseDrawer (.ofParsed flags) settings.generator i.freshSeed).1 = _
    unfold chooseDrawer
    rw [hchosen]
  obtain ⟨d', htexts⟩ := hes.seeded hdrawer
  rw [hgenerator] at ha htexts
  refine ⟨loaded, a, es, hload, ha, ?_, ?_, ?_⟩
  · unfold seededTexts
    rw [← hlength, htexts]
  · intro e he
    rw [(hes.drawn e he).isSome_hash]
    change (if flags.isOn .hash then some i.hashParameters else none).isSome = _
    cases flags.isOn .hash <;> rfl
  · have houtput := finish_output (Choice.ofParsed flags).metrics u
    rw [hfinish] at houtput
    rw [houtput, hes.taken, ← hbegins.output]
    rfl

/-- Neither hashes nor random bytes change the strings of a seed. Take two runs
    with the same seed on the same disk and environment, whose flags and
    arguments agree but for whether hashes are asked for. They may differ in all
    else, the random stream in particular. If both succeed, their strings are
    the same ones: those of the seed, for the alphabet and the length that flags
    and settings give. The results are the entries of these strings, and so what
    is written without hashes is what is written with them, less the hash of
    each entry. -/
theorem seed_fixes_strings (i j : Invocation) (flags flags' : Parsed) (seed : Nat)
    (hi : Asks i.words flags) (hj : Asks j.words flags') (hdisk : i.disk = j.disk)
    (henvironment : i.environment = j.environment)
    (hflags : flags.without .hash = flags'.without .hash)
    (hseed : flags.natural? .seed = some seed) (hsuccess : i.run.1 = .success)
    (hsuccess' : j.run.1 = .success) :
    ∃ (settings : Settings) (a : Alphabet) (es es' : List Entry),
      Settings.load i.disk i.environment ((flags.text? .config).getD standardDirectory)
        = (settings, none) ∧
      chooseAlphabet (.ofParsed flags) settings.generator = .ok a ∧
      seededTexts seed a (chooseLength flags.arguments settings.generator.defaultLength).1
        (Choice.ofParsed flags).count.toNat = .ok (es.map Entry.text) ∧
      es.map Entry.unhashed = es'.map Entry.unhashed ∧
      (∀ e ∈ es, e.hash.isSome = flags.isOn .hash) ∧
      (∀ e ∈ es', e.hash.isSome = flags'.isOn .hash) ∧
      i.run.2.output.taken = i.output.taken ++ String.join (es.map Entry.shown) ∧
      j.run.2.output.taken = j.output.taken ++ String.join (es'.map Entry.shown) ∧
      (flags.isOn .hash = false → i.run.2.output.taken
        = i.output.taken ++ String.join (es'.map fun e => e.unhashed.shown)) := by
  have hseed' : flags'.natural? .seed = some seed := by
    rw [← hseed]
    unfold Parsed.natural?
    rw [Parsed.value?_congr hflags (by decide)]
  obtain ⟨settings, a, es, hload, ha, htexts, hhash, htaken⟩ :=
    Invocation.run_seeded hi hseed hsuccess
  obtain ⟨settings', a', es', hload', ha', htexts', hhash', htaken'⟩ :=
    Invocation.run_seeded hj hseed' hsuccess'
  -- Both runs are asked for the same strings.
  rw [← hdisk, ← henvironment, ← Parsed.text?_congr hflags (by decide), hload, Prod.mk.injEq]
    at hload'
  obtain ⟨rfl, -⟩ := hload'
  have hchoice : Choice.ofParsed flags
      = { Choice.ofParsed flags' with hash := (Choice.ofParsed flags).hash } :=
    Choice.ofParsed_congr hflags
  have hsame : a = a' := by
    rw [hchoice] at ha
    exact Except.ok.inj (ha.symm.trans ha')
  have hsameTexts : es.map Entry.text = es'.map Entry.text := by
    rw [Parsed.arguments_congr hflags, hchoice, hsame] at htexts
    exact Except.ok.inj (htexts.symm.trans htexts')
  have hunhashed : es.map Entry.unhashed = es'.map Entry.unhashed := by
    have := congrArg (List.map (Entry.mk · none)) hsameTexts
    rwa [List.map_map, List.map_map] at this
  refine ⟨settings, a, es, es', hload, ha, htexts, hunhashed, hhash, hhash', htaken, htaken', ?_⟩
  intro hplain
  -- Without hashes, an entry is what is left of it without its hash.
  have hshown : es.map Entry.shown = (es.map Entry.unhashed).map Entry.shown := by
    rw [List.map_map]
    refine List.map_congr_left fun e he => ?_
    have hnone := hhash e he
    rw [hplain, Option.isSome_eq_false_iff, Option.isNone_iff_eq_none] at hnone
    rw [Function.comp_apply, Entry.unhashed, ← hnone]
  rw [htaken, hshown, hunhashed, List.map_map]
  rfl

/-- Two strings of the seed 7, once without hashes and once with them, from
    random streams that differ. -/
theorem seed_fixes_strings_hashing :
    let i (words : List String) (bytes : Nat → UInt8) : Invocation :=
      { words, disk := .empty, environment := fun _ => "", entropy := ⟨bytes, 0, 600⟩,
        freshSeed := 0, hashParameters := ⟨⟨8, 1, 1⟩, 4, 4⟩, output := .unlimited,
        diagnostics := .unlimited, time := "", caller := "" }
    let x := i ["--seed", "7", "-n", "2", "5"] UInt8.ofNat
    let y := i ["--seed", "7", "--hash", "-n", "2", "5"] fun n => UInt8.ofNat (3 * n)
    let flags : Parsed := ⟨[(.seed, .natural 7), (.count, .integer 2)], ["5"]⟩
    let flags' : Parsed :=
      ⟨[(.seed, .natural 7), (.hash, .truth true), (.count, .integer 2)], ["5"]⟩
    Asks x.words flags ∧ Asks y.words flags' ∧ flags.without .hash = flags'.without .hash ∧
      flags.natural? .seed = some 7 ∧ x.run.1 = .success ∧ y.run.1 = .success ∧
      ∃ es : List Entry, (∀ e ∈ es, e.hash.isSome = true) ∧
        y.run.2.output.taken = String.join (es.map Entry.shown) ∧
        x.run.2.output.taken = String.join (es.map fun e => e.unhashed.shown) := by
  intro i x y flags flags'
  have hx : Asks x.words flags :=
    ⟨⟨x.words, by decide +kernel, parse_of_given (by decide +kernel)⟩, by decide⟩
  have hy : Asks y.words flags' :=
    ⟨⟨y.words, by decide +kernel, parse_of_given (by decide +kernel)⟩, by decide⟩
  have hsuccess : x.run.1 = .success := by decide +kernel
  have hsuccess' : y.run.1 = .success := by decide +kernel
  obtain ⟨settings, a, es, es', -, -, -, -, -, hhash, -, htaken, hplain⟩ :=
    seed_fixes_strings x y flags flags' 7 hx hy rfl rfl rfl (by decide) hsuccess hsuccess'
  exact ⟨hx, hy, rfl, by decide, hsuccess, hsuccess', es', hhash,
    htaken.trans (String.empty_append ..), (hplain (by decide)).trans (String.empty_append ..)⟩

end Command

end Passforge
