import Passforge.Proofs.Generation
import Passforge.Proofs.Separation
import Passforge.Proofs.Step

/-!
# Records and the Random Bytes Behind Them

A run that generates hashed strings writes one record a string. This module
follows such a run through the uses of `Proofs.Provenance`: each record is
a row of draws, one a character, and then a hash call, all of them on the one
stream of the run.

A run may stop anywhere, and then the stream has been used for a record that
was never written. So a run is described by the records it wrote and the uses
after them, `Written`, and a run that succeeds has no uses after its records.

`positions_never_shared` puts the two together. It speaks of any sources and
hash calls on one stream, and of every run that asks for hashed strings.

## Main definitions

* `World.supply`: The only source of a world, as a run holds it.
* `Record`: The answers behind a string, and the line of its hash.
* `Written`: The records written and the uses made between two stages.
* `Invocation.Hashing`: The words ask for hashed strings from the stream.

## Theorems

* `generate_supply`: Generating a string is a row of draws.
* `writeRecord_cases`: One record is written, or the output stays.
* `writeRecords_written`: What writing a number of records does.
* `run_written`: What a run that asks for hashed strings does.
* `positions_never_shared`: No position of the stream is looked at twice.
-/

namespace Passforge

namespace World

/-- The only source of a world, as a run holds it. -/
def supply (w : World Unit) : Supply :=
  ⟨w.entropy, .buffered (w.buffer ())⟩

theorem draw_supply (w : World Unit) (bound : Int) :
    ∃ x w', w.step (.draw () bound) = (.drawn x, w') ∧
      Supply.source.draw bound w.supply = (x, w'.supply) := by
  rcases h : Buffer.source.draw bound ⟨w.entropy, w.buffer ()⟩ with ⟨x, r⟩
  refine ⟨x, _, step_draw h, ?_⟩
  change Supply.drawBuffered (w.buffer ()) bound w.supply = _
  simp only [Supply.drawBuffered, supply, h, Function.update_self]

/-- Draws on the supply of a run are draws on the source of its world. -/
theorem run_of_answers (w : World Unit) (n : Nat) (xs : List Int) (s' : Supply)
    (h : Supply.source.Answers n w.supply xs s') :
    ∃ w', s' = w'.supply ∧ w.run (xs.map fun _ => .draw () n)
      = (xs.map fun x => .drawn (.ok x), w') := by
  induction xs generalizing w with
  | nil =>
      cases h.1
      exact ⟨w, rfl, rfl⟩
  | cons x xs ih =>
      rcases (Source.answers_cons_iff _ n _ s' x xs).mp h with ⟨s₁, hd, -, hs⟩
      rcases draw_supply w n with ⟨y, w₁, hstep, hdraw⟩
      rw [hdraw] at hd
      cases hd
      rcases ih w₁ hs with ⟨w', rfl, hrun⟩
      refine ⟨w', rfl, ?_⟩
      rw [List.map_cons, run, hstep, hrun, List.map_cons]

end World

/-- Generating a string is a row of draws on the source of the world: none for
    a rejected request, one for each character, or some that end in a halt. -/
theorem generate_supply (g : Generator) (r : Request) (w : World Unit) :
    (∃ rejection, g.generate Supply.source r w.supply = (.ok (.error rejection), w.supply)) ∨
      (∃ (xs : List Int) (w' : World Unit), g.generate Supply.source r w.supply
          = (.ok (.ok (String.ofList (xs.map r.alphabet.shown))), w'.supply) ∧
        w.run (xs.map fun _ => .draw () r.alphabet.size)
          = (xs.map fun x => .drawn (.ok x), w')) ∨
      ∃ (us : List (Use Unit)) (e : Halt),
        g.generate Supply.source r w.supply = (.error e, (w.run us).2.supply) := by
  rcases hc : g.check r with _ | rejection
  · rcases Supply.source.exists_answers r.alphabet.size r.length.toNat w.supply with
      ⟨xs, s₁, hxs, hlen | ⟨hlt, hstop⟩⟩
    · rcases w.run_of_answers r.alphabet.size xs s₁ hxs with ⟨w', rfl, hrun⟩
      exact .inr (.inl ⟨xs, w', generate_of_answers g _ r hc _ _ xs hxs hlen, hrun⟩)
    -- The draw that stops the row is one more use.
    · rcases w.run_of_answers r.alphabet.size xs s₁ hxs with ⟨w₁, rfl, hrun⟩
      rcases w₁.draw_supply r.alphabet.size with ⟨y, w₂, hstep, hdraw⟩
      have hall : (w.run ((xs.map fun _ => .draw () r.alphabet.size)
          ++ [.draw () r.alphabet.size])).2 = w₂ := by
        rw [World.run_append, hrun, World.run, hstep]
        rfl
      rcases hstop with ⟨x, s₂, hd, hx⟩ | ⟨e, s₂, hd⟩
      · have hgen := generate_of_stray g _ r hc _ _ s₂ xs x hxs hlt hd hx
        rw [hdraw] at hd
        cases hd
        rw [← hall] at hgen
        exact .inr (.inr ⟨_, _, hgen⟩)
      · have hgen := generate_of_halt g _ r hc _ _ s₂ xs e hxs hlt hd
        rw [hdraw] at hd
        cases hd
        rw [← hall] at hgen
        exact .inr (.inr ⟨_, _, hgen⟩)
  · exact .inl ⟨rejection, generate_of_rejection g _ r rejection hc _⟩

namespace Command

/-- What a written record comes from: the answers that its characters show,
    and the line of its hash. -/
structure Record where
  answers : List Int
  line : String

namespace Record

/-- The string of the record. -/
def text (a : Alphabet) (r : Record) : String :=
  String.ofList (r.answers.map a.shown)

/-- The record as it is written. -/
def written (a : Alphabet) (r : Record) : String :=
  r.text a ++ "\t" ++ r.line ++ "\n"

/-- The uses of the stream that make the record: a draw for each character and
    then a hash call. -/
def uses (a : Alphabet) (p : Hash.HashParameters) (r : Record) : List (Use Unit) :=
  r.answers.map (fun _ => .draw () a.size) ++ [.hash p (r.text a).toUTF8.toList]

/-- What comes of these uses. -/
def outcomes (r : Record) : List Outcome :=
  r.answers.map (fun x => .drawn (.ok x)) ++ [.hashed (.ok r.line)]

end Record

/-- A result is written at the end of the output, or the output refuses it. -/
theorem write_cases (text : String) (s : Stage) :
    (∃ s', write text s = (.ok (.ok ()), s') ∧ s'.output.taken = s.output.taken ++ text ∧
        s'.session = s.session) ∨
      ∃ e, write text s = (.ok (.error e), s) := by
  unfold write
  rw [Step.get_bind]
  unfold Sink.put
  by_cases h : s.output.fits text = true
  · rw [if_pos h]
    exact .inl ⟨_, rfl, rfl, rfl⟩
  · rw [if_neg h]
    exact .inr ⟨_, rfl⟩

/-- Hashing a string for a run is a hash call on its world. -/
theorem hashString_cases (p : Hash.HashParameters) (text : String) (s : Stage) (w : World Unit)
    (hs : s.session.supply = w.supply) :
    ∃ s' w', s'.output = s.output ∧ s'.session.supply = w'.supply ∧
      ((∃ line, hashString p text s = (.ok (.ok line), s') ∧
          w.step (.hash p text.toUTF8.toList) = (.hashed (.ok line), w')) ∨
        ∃ e, hashString p text s = (.error e, s') ∧
          w.step (.hash p text.toUTF8.toList) = (.hashed (.error e), w')) := by
  have hentropy : s.session.supply.entropy = w.entropy := by rw [hs]; rfl
  rcases h : Hash.hashPassword p text.toUTF8.toList w.entropy with ⟨e | line, entropy⟩
  · refine ⟨{ s with session := { s.session with supply :=
      { s.session.supply with entropy } } }, { w with entropy }, rfl, by rw [hs]; rfl,
      .inr ⟨e, ?_, by simp only [World.step, h]⟩⟩
    exact Step.lift_of_error (by rw [Run.within_apply, hentropy, h])
  · refine ⟨{ s with session := { s.session with supply :=
      { s.session.supply with entropy } } }, { w with entropy }, rfl, by rw [hs]; rfl,
      .inl ⟨line, ?_, by simp only [World.step, h]⟩⟩
    exact Step.lift_of_ok (by rw [Run.within_apply, hentropy, h])

/-- One turn of a generating run: a record is written, with the uses that make
    it; or the run stops, and the output stays. -/
theorem writeRecord_cases (g : Generator) (r : Request) (p : Hash.HashParameters) (s : Stage)
    (w : World Unit) (hs : s.session.supply = w.supply) :
    (∃ (record : Record) (s' : Stage) (w' : World Unit),
        writeRecord g r (some p) s = (.ok (.ok ()), s') ∧
        s'.output.taken = s.output.taken ++ record.written r.alphabet ∧
        s'.session.supply = w'.supply ∧
        w.run (record.uses r.alphabet p) = (record.outcomes, w')) ∨
      ∃ us : List (Use Unit), (writeRecord g r (some p) s).1 ≠ .ok (.ok ()) ∧
        (writeRecord g r (some p) s).2.output = s.output ∧
        (writeRecord g r (some p) s).2.session.supply = (w.run us).2.supply := by
  rcases hserve : g.serve Supply.source r s.session with ⟨outcome, session⟩
  have hgen := serve_eq_generate g Supply.source r s.session
  rw [hserve, hs] at hgen
  have hwithin : Run.within (fun s : Stage => s.session) (fun session s => { s with session })
      (g.serve Supply.source r) s = (outcome, { s with session }) := by
    rw [Run.within_apply, hserve]
  unfold writeRecord
  -- No string, a string, or a halt in the middle of one.
  rcases generate_supply g r w with ⟨rejection, h⟩ | ⟨xs, w₁, h, hrun⟩ | ⟨us, e, h⟩
  · rw [h] at hgen
    rcases hgen with ⟨rfl, hsupply⟩
    rw [Step.bind_of_ok (Step.lift_of_ok hwithin)]
    exact .inr ⟨[], (by intro hc; cases hc), rfl, hsupply⟩
  · rw [h] at hgen
    rcases hgen with ⟨rfl, hsupply⟩
    rw [Step.bind_of_ok (Step.lift_of_ok hwithin)]
    simp only
    rcases hashString_cases p (String.ofList (xs.map r.alphabet.shown)) { s with session } w₁
      hsupply with ⟨s₂, w₂, houtput, hsupply₂, ⟨line, hline, hstep⟩ | ⟨e, he, hstep⟩⟩
    -- The uses made so far are those of a whole record.
    · have huses : w.run ((Record.mk xs line).uses r.alphabet p)
          = ((Record.mk xs line).outcomes, w₂) := by
        unfold Record.uses Record.outcomes Record.text
        rw [World.run_append, hrun, World.run, hstep]
        rfl
      rw [Step.bind_of_ok hline]
      rcases write_cases (String.ofList (xs.map r.alphabet.shown) ++ "\t" ++ line ++ "\n") s₂ with
        ⟨s₃, hwrite, htaken, hsession⟩ | ⟨e, hwrite⟩
      · refine .inl ⟨⟨xs, line⟩, s₃, w₂, hwrite, ?_, ?_, huses⟩
        · rw [htaken, houtput]
          rfl
        · rw [hsession, hsupply₂]
      · rw [hwrite]
        refine .inr ⟨(Record.mk xs line).uses r.alphabet p, (by intro hc; cases hc), houtput, ?_⟩
        rw [huses, hsupply₂]
    -- A salt that was read for a hash that came to nothing counts, too.
    · rw [Step.bind_of_halt he]
      refine .inr ⟨(xs.map fun _ => .draw () r.alphabet.size) ++
        [.hash p (String.ofList (xs.map r.alphabet.shown)).toUTF8.toList],
        (by intro hc; cases hc), houtput, ?_⟩
      rw [World.run_append, hrun, World.run, hstep, hsupply₂]
      rfl
  · rw [h] at hgen
    rcases hgen with ⟨rfl, hsupply⟩
    rw [Step.bind_of_halt (Step.lift_of_error hwithin)]
    exact .inr ⟨us, (by intro hc; cases hc), rfl, hsupply⟩

/-- Between two stages the records were written, each made by its uses of the
    stream, and after them the stream was used as `rest` says. -/
structure Written (a : Alphabet) (p : Hash.HashParameters) (w : World Unit) (s s' : Stage)
    (records : List Record) (rest : List (Use Unit)) : Prop where
  /-- The output grew by the records. -/
  output : s'.output.taken = s.output.taken ++ String.join (records.map (·.written a))
  /-- The uses of the records had the answers and lines that were written. -/
  outcomes : (w.run (records.flatMap (·.uses a p))).1 = records.flatMap (·.outcomes)
  /-- The stream and the source are left as all the uses leave them. -/
  supply : s'.session.supply = (w.run (records.flatMap (·.uses a p) ++ rest)).2.supply

namespace Written

variable {a : Alphabet} {p : Hash.HashParameters} {w w₁ : World Unit} {s s₁ s' : Stage}
  {records : List Record} {rest : List (Use Unit)}

/-- Nothing is written, and the stream may have been used. -/
theorem nil (houtput : s'.output = s.output) (hsupply : s'.session.supply = (w.run rest).2.supply) :
    Written a p w s s' [] rest where
  output := by rw [houtput, List.map_nil, String.join_nil, String.append_empty]
  outcomes := rfl
  supply := hsupply

/-- One more record in front. -/
theorem cons {record : Record} (htaken : s₁.output.taken = s.output.taken ++ record.written a)
    (hrun : w.run (record.uses a p) = (record.outcomes, w₁))
    (h : Written a p w₁ s₁ s' records rest) : Written a p w s s' (record :: records) rest where
  output := by
    rw [h.output, htaken, List.map_cons, String.join_cons, String.append_assoc]
  outcomes := by
    rw [List.flatMap_cons, List.flatMap_cons, World.run_append, hrun]
    simp only [h.outcomes]
  supply := by
    rw [List.flatMap_cons, List.append_assoc, World.run_append, hrun]
    exact h.supply

/-- What else happens before and after makes no difference. -/
theorem congr {s₀ s₂ : Stage} (h : Written a p w s s' records rest) (hbefore : s₀.output = s.output)
    (hafter : s₂.output = s'.output) (hsupply : s₂.session.supply = s'.session.supply) :
    Written a p w s₀ s₂ records rest where
  output := by rw [hafter, hbefore, h.output]
  outcomes := h.outcomes
  supply := by rw [hsupply, h.supply]

end Written

/-- Writing a number of records, by induction on how many. If all goes well
    there are that many, and the stream is used for nothing else. -/
theorem writeRecords_written (g : Generator) (r : Request) (p : Hash.HashParameters) (count : Nat)
    (s : Stage) (w : World Unit) (hs : s.session.supply = w.supply) :
    ∃ records rest,
      Written r.alphabet p w s (writeRecords g r (some p) count s).2 records rest ∧
      ((writeRecords g r (some p) count s).1 = .ok (.ok ()) →
        records.length = count ∧ rest = []) := by
  induction count generalizing s w with
  | zero => exact ⟨[], [], .nil rfl hs, fun _ => ⟨rfl, rfl⟩⟩
  | succ k ih =>
      rw [writeRecords]
      rcases writeRecord_cases g r p s w hs with
        ⟨record, s₁, w₁, hstep, htaken, hsupply, hrun⟩ | ⟨us, hstop, houtput, hsupply⟩
      · rw [Step.bind_of_ok hstep]
        rcases ih s₁ w₁ hsupply with ⟨records, rest, hwritten, hend⟩
        refine ⟨record :: records, rest, hwritten.cons htaken hrun, fun hok => ?_⟩
        rcases hend hok with ⟨hlen, hrest⟩
        exact ⟨by rw [List.length_cons, hlen], hrest⟩
      -- A record that is not written ends the loop.
      · rcases h : writeRecord g r (some p) s with ⟨e | e | ⟨⟩, s₁⟩
        · rw [h] at houtput hsupply
          rw [Step.bind_of_halt h]
          exact ⟨[], us, .nil houtput hsupply, fun hc => (by cases hc)⟩
        · rw [h] at houtput hsupply
          rw [Step.bind_of_failure h]
          exact ⟨[], us, .nil houtput hsupply, fun hc => (by cases hc)⟩
        · rw [h] at hstop
          exact absurd rfl hstop

/-- The drawer of a plan without a seed, when the settings do not ask for the
    seeded source. -/
theorem drawer_of_make (c : Choice) (g : GeneratorSettings) (freshSeed : Nat)
    (arguments : List String) (plan : Plan) (hseed : c.seed = none) (hsource : g.source ≠ "math")
    (h : Plan.make c g freshSeed arguments = .ok plan) : plan.drawer = .buffered .empty := by
  have hdrawer : chooseDrawer c g freshSeed = (.buffered .empty, []) := by
    unfold chooseDrawer
    rw [hseed]
    simp only [if_neg (show ¬ (g.source == "math") = true by rw [beq_iff_eq]; exact hsource)]
  unfold Plan.make at h
  by_cases hcount : c.count < 1
  · rw [if_pos hcount] at h
    cases h
  · rw [if_neg hcount, hdrawer] at h
    rcases halphabet : chooseAlphabet c g with e | alphabet
    · rw [halphabet] at h
      cases h
    · rw [halphabet] at h
      cases h
      rfl

/-- Generating hashed strings from the stream. -/
theorem generateStrings_written (i : Invocation) (settings : Settings) (flags : Parsed) (s : Stage)
    (hhash : flags.isOn .hash = true) (hseed : flags.natural? .seed = none)
    (hsource : settings.generator.source ≠ "math")
    (hs : s.session.supply = (World.fresh i.entropy).supply) :
    ∃ a records rest, Written a i.hashParameters (World.fresh i.entropy) s
        (generateStrings i settings flags s).2 records rest ∧
      ((generateStrings i settings flags s).1 = .ok (.ok ()) →
        records.length = (Choice.ofParsed flags).count.toNat ∧ rest = []) := by
  rcases hplan : Plan.make (.ofParsed flags) settings.generator i.freshSeed flags.arguments
    with e | plan
  · rw [generateStrings_of_error hplan]
    exact ⟨⟨[]⟩, [], [], .nil rfl hs, fun hc => (by cases hc)⟩
  · have hparameters : (if (Choice.ofParsed flags).hash then some i.hashParameters else none)
        = some i.hashParameters := if_pos hhash
    have hplanned : (s.planned plan).session.supply = (World.fresh i.entropy).supply := by
      have hdrawer := drawer_of_make _ _ _ _ plan hseed hsource hplan
      unfold Stage.planned
      simp only [hdrawer]
      exact congrArg (fun supply => Supply.mk supply.entropy (.buffered .empty)) hs
    rcases writeRecords_written (.ofMaximum settings.generator.maxLength) plan.request
      i.hashParameters (Choice.ofParsed flags).count.toNat (s.planned plan) _ hplanned
      with ⟨records, rest, hwritten, hend⟩
    refine ⟨plan.request.alphabet, records, rest, ?_⟩
    rw [generateStrings_of_plan hplan, hparameters]
    rcases hloop : writeRecords (.ofMaximum settings.generator.maxLength) plan.request
      (some i.hashParameters) (Choice.ofParsed flags).count.toNat (s.planned plan)
      with ⟨e | e | ⟨⟩, s₁⟩
    · rw [hloop] at hwritten
      rw [Step.bind_of_halt hloop]
      exact ⟨hwritten.congr rfl rfl rfl, fun hc => (by cases hc)⟩
    · rw [hloop] at hwritten
      rw [Step.bind_of_failure hloop]
      exact ⟨hwritten.congr rfl rfl rfl, fun hc => (by cases hc)⟩
    · rw [hloop] at hwritten hend
      rw [Step.bind_of_ok hloop]
      -- Counters are published after the last record, to the second stream.
      rcases finish_cases (Choice.ofParsed flags).metrics s₁ with ⟨result, journal, hfinish⟩
      rw [hfinish]
      exact ⟨hwritten.congr rfl rfl rfl, fun _ => hend rfl⟩

/-- The words ask for hashed strings, with a source that draws from the
    stream. -/
structure Invocation.Hashing (i : Invocation) (flags : Parsed) : Prop where
  words : ∃ words, find i.words = (.generate, words) ∧
    parse Command.generate.flags words = .ok flags
  help : flags.isOn .help = false
  hash : flags.isOn .hash = true
  seed : flags.natural? .seed = none
  source : ∀ settings, Settings.load i.disk i.environment
    ((flags.text? .config).getD standardDirectory) = (settings, none) →
      settings.generator.source ≠ "math"

/-- Obeying such words. Until the settings are loaded and the flags and
    arguments are checked nothing happens to the output or the stream. -/
theorem obey_written (i : Invocation) (flags : Parsed) (h : i.Hashing flags) :
    ∃ a records rest, Written a i.hashParameters (World.fresh i.entropy) i.stage
        (obey i i.stage).2 records rest ∧
      ((obey i i.stage).1 = .ok (.ok ()) →
        records.length = (Choice.ofParsed flags).count.toNat ∧ rest = []) := by
  rcases h.words with ⟨words, hfind, hparse⟩
  have hobey : obey i i.stage = perform i .generate flags i.stage := by
    unfold obey
    simp only [hfind, hparse]
  have hstart : i.stage.session.supply = (World.fresh i.entropy).supply := rfl
  rw [hobey]
  unfold perform
  simp only [h.help, Bool.false_eq_true, if_false, reduceCtorEq]
  rcases Command.generate.checkArguments flags.arguments with _ | e
  · simp only
    rcases prepare_cases i .generate flags i.stage with
      ⟨e, hprepare⟩ | ⟨loaded, settings, journal, hload, hgenerator, hprepare⟩
    · rw [Step.bind_of_failure hprepare]
      exact ⟨⟨[]⟩, [], [], .nil rfl hstart, fun hc => (by cases hc)⟩
    · rw [Step.bind_of_ok hprepare]
      have hsource : settings.generator.source ≠ "math" := by
        rw [hgenerator]
        exact h.source loaded hload
      rcases generateStrings_written i settings flags (i.stage.withJournal fun _ => journal)
        h.hash h.seed hsource hstart with ⟨a, records, rest, hwritten, hend⟩
      exact ⟨a, records, rest, hwritten.congr rfl rfl rfl, hend⟩
  · exact ⟨⟨[]⟩, [], [], .nil rfl hstart, fun hc => (by cases hc)⟩

theorem run_written (i : Invocation) (flags : Parsed) (h : i.Hashing flags) :
    ∃ a records rest, Written a i.hashParameters (World.fresh i.entropy) i.stage i.run.2
        records rest ∧
      (i.run.1 = .success →
        records.length = (Choice.ofParsed flags).count.toNat ∧ rest = []) := by
  rcases obey_written i flags h with ⟨a, records, rest, hwritten, hend⟩
  refine ⟨a, records, rest, ?_⟩
  unfold Invocation.run
  -- Reporting a failure goes to the second stream.
  rcases hobey : obey i i.stage with ⟨e | e | ⟨⟩, s⟩
  · rw [hobey] at hwritten
    exact ⟨hwritten, fun hc => (by cases hc)⟩
  · rw [hobey] at hwritten
    exact ⟨hwritten.congr rfl rfl rfl, fun hc => (by cases hc)⟩
  · rw [hobey] at hwritten hend
    exact ⟨hwritten, fun _ => hend rfl⟩

/-- No position of the random stream is looked at twice. Whatever draws on
    whichever sources and whatever hash calls share a stream, the positions they
    look at decide what comes of them, no two of them look at the same one, and
    each source goes forward only. A run that asks for hashed strings is a list
    of such uses, the records it writes being what comes of them; so no position
    that decided a character is one of a salt. -/
theorem positions_never_shared :
    (∀ (ι : Type) [DecidableEq ι] (e : Entropy) (us : List (Use ι)),
        Separate e us (positions e us)) ∧
      ∀ (i : Invocation) (flags : Parsed), i.Hashing flags →
        ∃ (a : Alphabet) (records : List Record) (rest : List (Use Unit)),
          Written a i.hashParameters (World.fresh i.entropy) i.stage i.run.2 records rest ∧
          (i.run.1 = .success →
            records.length = (Choice.ofParsed flags).count.toNat ∧ rest = []) ∧
          let us := records.flatMap (·.uses a i.hashParameters) ++ rest
          ∀ drawn ∈ us.zip (positions i.entropy us), ∀ hashed ∈ us.zip (positions i.entropy us),
            drawn.1.reader = some () → hashed.1.reader = none → drawn.2.Disjoint hashed.2 := by
  refine ⟨fun ι _ e us => separate_positions e us, fun i flags h => ?_⟩
  rcases run_written i flags h with ⟨a, records, rest, hwritten, hend⟩
  refine ⟨a, records, rest, hwritten, hend, fun drawn hd hashed hh hdraw hhash => ?_⟩
  refine positions_disjoint i.entropy _ drawn hashed hd hh ?_
  rw [hdraw, hhash]
  exact Option.some_ne_none ()

/-- A run without settings that is asked for one hashed string. -/
theorem positions_never_shared_by_hash :
    let i : Invocation :=
      { words := ["--hash"], disk := .empty, environment := fun _ => "",
        entropy := ⟨UInt8.ofNat, 0, 600⟩, freshSeed := 0, hashParameters := ⟨⟨8, 1, 1⟩, 16, 32⟩,
        output := .unlimited, diagnostics := .unlimited, time := "", caller := "" }
    let flags : Parsed := ⟨[(.hash, .truth true)], []⟩
    i.Hashing flags ∧
      ∃ (a : Alphabet) (records : List Record) (rest : List (Use Unit)),
        Written a i.hashParameters (World.fresh i.entropy) i.stage i.run.2 records rest ∧
        (i.run.1 = .success → records.length = 1 ∧ rest = []) := by
  intro i flags
  have hload : (Settings.load .empty (fun _ => "") standardDirectory).1.generator.source
      = "crypto" := by decide +kernel
  have hgiven : (parse Command.generate.flags ["--hash"]).toOption.map
      (fun p => (p.given, p.arguments)) = some ([(.hash, .truth true)], []) := by decide +kernel
  have hparse : parse Command.generate.flags ["--hash"] = .ok flags := by
    rcases h : parse Command.generate.flags ["--hash"] with e | ⟨given, arguments⟩
    · rw [h] at hgiven
      cases hgiven
    · rw [h] at hgiven
      cases hgiven
      rfl
  have hashing : i.Hashing flags :=
    { words := ⟨["--hash"], by decide +kernel, hparse⟩
      help := by decide
      hash := by decide
      seed := by decide
      source := fun settings h => by
        rw [show (flags.text? .config).getD standardDirectory = standardDirectory by decide] at h
        rw [show Settings.load .empty (fun _ => "") standardDirectory = (settings, none) from h]
          at hload
        rw [show settings.generator.source = "crypto" from hload]
        decide }
  rcases positions_never_shared.2 i flags hashing with ⟨a, records, rest, hwritten, hend, _⟩
  exact ⟨hashing, a, records, rest, hwritten, hend⟩

end Command

end Passforge
