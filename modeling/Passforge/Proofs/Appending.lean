import Passforge.Proofs.Succeeding

/-!
# Asking for More Strings

A run that is asked for more strings does what one that is asked for fewer does,
and then goes on. Turns follow one another without looking at how many are to
come, so the first of them write the same entries in both runs, whatever the
source they draw from and whoever else reads the random stream in between.

The number of strings is told in one other place: it is announced in the log.
So the two runs have different journals from then on, and they go on beside each
other as runs with different log settings do.

Both runs come to an end. The end of the shorter one could fail where that of
the longer one does not, since their counters are different texts. On a second
stream that takes every text it can not, and on a full one the longer run would
have failed.

## Main definitions

* `Invocation.saying`: The invocation with other words.

## Theorems

* `Metrics.limit_of_publish`: Counters that are published on a steady stream.
* `writeRecords_add`: A number of turns, and then some more.
* `Stage.beside_planned`: Plans that differ in their announcements.
* `finish_of_success`: Where one run comes to its end, the other does.
* `larger_count_appends`: A larger number of strings appends to the results.
-/

namespace Passforge

/-- A block has lines even if its family has no samples. -/
theorem Metrics.Family.block_ne_empty (f : Family) : f.block ≠ "" := by
  unfold block
  intro h
  have hsize := congrArg String.utf8ByteSize h
  simp at hsize

/-- A steady sink on which something was published takes every text. -/
theorem Metrics.limit_of_publish {families : List Family} {s : Sink} (hs : s.Steady)
    (hblocks : blocks families ≠ []) (h : (publish (.ok families) s).2 = .ok ()) :
    s.limit = none := by
  rcases hfamilies : families.filter (!·.samples.isEmpty) with _ | ⟨f, rest⟩
  · exact absurd (by rw [blocks, hfamilies, List.map_nil]) hblocks
  have hfirst : blocks families = f.block :: rest.map Family.block := by
    rw [blocks, hfamilies, List.map_cons]
  unfold publish at h
  simp only [hfirst, Sink.putAll] at h
  by_cases hfits : s.fits f.block = true
  · exact ((Sink.fits_of_steady hs f.block).mp hfits).resolve_right f.block_ne_empty
  -- The first block is refused, and that is reported.
  · unfold Sink.put at h
    rw [if_neg hfits] at h
    cases h

theorem Metrics.Tally.blocks_ne_nil (t : Tally) : blocks t.families ≠ [] :=
  List.cons_ne_nil _ _

namespace Command

/-- The invocation with other words. -/
def Invocation.saying (i : Invocation) (words : List String) : Invocation :=
  { i with words }

section Turns

variable {C : Sink → Prop} {s : Stage}

/-- A number of turns, and then some more. -/
theorem writeRecords_add (g : Generator) (r : Request) (hash : Option Hash.HashParameters)
    (m n : Nat) : writeRecords g r hash (m + n)
      = writeRecords g r hash m >>= fun _ => writeRecords g r hash n := by
  induction m with
  | zero =>
      rw [Nat.zero_add, writeRecords, pure_bind]
  | succ m ih =>
      rw [Nat.succ_add, writeRecords, writeRecords, ih, bind_assoc]

/-- Plans that differ in their announcements lead to stages beside each other. -/
theorem Stage.beside_planned (hC : Sink.Keeps C) (hs : C s.session.journal.console)
    (plan plan' : Plan) (h : plan.drawer = plan'.drawer) :
    (s.planned plan).Beside C (s.planned plan') where
  output := rfl
  supply := congrArg (fun drawer => { s.session.supply with drawer }) h
  board := rfl
  console := Log.Journal.foldl_log_keeps hC _ _ hs
  console' := Log.Journal.foldl_log_keeps hC _ _ hs

/-- Where a run comes to its end, so does another one whose second stream is
    alike. -/
theorem finish_of_success {metrics : Bool} {d : Sink} {t : Metrics.Tally} {u u' v : Stage}
    (hu : metrics = true → d.Alike u.session.journal.console)
    (hv : metrics = true → d.Alike v.session.journal.console)
    (hboard : u.session.board = .registered t)
    (h : (if metrics then publishCounters else pure () : Step Unit) u = (.ok (.ok ()), u')) :
    ∃ v', (if metrics then publishCounters else pure () : Step Unit) v = (.ok (.ok ()), v') ∧
      v'.output = v.output := by
  cases metrics with
  | false => exact ⟨v, rfl, rfl⟩
  | true =>
      rw [if_pos rfl, publishCounters_eq, hboard, Prod.mk.injEq, Except.ok.injEq] at h
      have hpublished :
          (Metrics.publish (.ok t.families) u.session.journal.console).2 = .ok () := by
        rcases hresult : (Metrics.publish (.ok t.families) u.session.journal.console).2
          with e | ⟨⟩
        · have hfailed := h.1
          rw [show Metrics.Board.families (.registered t) = t.families from rfl, hresult] at hfailed
          cases hfailed
        · rfl
      have hlimit := Metrics.limit_of_publish (hu rfl).steady' t.blocks_ne_nil hpublished
      have hlimit' : v.session.journal.console.limit = none :=
        (hv rfl).limit.symm.trans ((hu rfl).limit.trans hlimit)
      rw [if_pos rfl, publishCounters_eq, Metrics.publish_of_unlimited _ hlimit']
      exact ⟨_, rfl, rfl⟩

/-- The first turns of a longer row lead from a stage beside to a stage beside,
    and write the first entries. -/
theorem writeRecords_appends (hC : Sink.Keeps C) {g : Generator} {r : Request}
    {hash : Option Hash.HashParameters} {m n : Nat} {t t' : Stage} (hst : s.Beside C t)
    (h : writeRecords g r hash (m + n) t = (.ok (.ok ()), t')) :
    ∃ es es' s', es.length = m ∧ es'.length = n ∧ Turns g r hash t (es ++ es') t' ∧
      writeRecords g r hash m s = (.ok (.ok ()), s') ∧
      s'.output.taken = s.output.taken ++ String.join (es.map Entry.shown) ∧
      C s'.session.journal.console ∧ C t'.session.journal.console := by
  rw [writeRecords_add] at h
  obtain ⟨⟨⟩, t₁, hfirst, hrest⟩ := Step.bind_success h
  obtain ⟨es, hlength, hes⟩ := exists_turns hfirst
  obtain ⟨es', hlength', hes'⟩ := exists_turns hrest
  obtain ⟨hresult, hbeside⟩ := writeRecords_ignores hC g r hash m s t hst
  rcases hs : writeRecords g r hash m s with ⟨result, s'⟩
  rw [hs, hfirst] at hresult hbeside
  cases hresult
  -- Beside itself, the longer row keeps the condition in force to its end.
  have hself : t₁.Beside C t₁ := ⟨rfl, rfl, rfl, hbeside.console', hbeside.console'⟩
  have hend := (writeRecords_ignores hC g r hash n t₁ t₁ hself).2.console
  rw [hrest] at hend
  refine ⟨es, es', s', hlength, hlength', hes.append hes', rfl, ?_, hbeside.console, hend⟩
  rw [hbeside.output, hst.output]
  exact hes.taken

end Turns

/-- The generating command, asked for fewer strings than it can give. -/
theorem generateStrings_appends {i : Invocation} {settings : Settings} {flags flags' : Parsed}
    {s t : Stage} {d : Sink} (hflags : flags.without .count = flags'.without .count)
    (hpos : 1 ≤ (Choice.ofParsed flags).count)
    (hle : (Choice.ofParsed flags).count ≤ (Choice.ofParsed flags').count)
    (hboard : s.session.board = .registered .zero)
    (hconsole : (Choice.ofParsed flags').metrics = true → d.Alike s.session.journal.console)
    (h : generateStrings i settings flags' s = (.ok (.ok ()), t)) :
    ∃ (a : Alphabet) (es es' : List Entry) (s' : Stage),
      chooseAlphabet (.ofParsed flags') settings.generator = .ok a ∧
      es.length = (Choice.ofParsed flags).count.toNat ∧
      ((es ++ es').length : Int) = (Choice.ofParsed flags').count ∧
      (∀ e ∈ es ++ es', e.Drawn (.ofMaximum settings.generator.maxLength)
        ⟨a, (chooseLength flags'.arguments settings.generator.defaultLength).1⟩
        (if (Choice.ofParsed flags').hash then some i.hashParameters else none)) ∧
      t.output.taken = s.output.taken ++ String.join ((es ++ es').map Entry.shown) ∧
      s'.output.taken = s.output.taken ++ String.join (es.map Entry.shown) ∧
      generateStrings i settings flags s = (.ok (.ok ()), s') := by
  obtain ⟨a, u, -, ha, hturns, hfinish⟩ := generateStrings_success h
  obtain ⟨more, hmore⟩ : ∃ more, (Choice.ofParsed flags').count.toNat
      = (Choice.ofParsed flags).count.toNat + more := Nat.exists_eq_add_of_le (by omega)
  rw [hmore] at hturns
  -- Of the second streams it matters only how the counters fare on them.
  have hC : Sink.Keeps fun c => (Choice.ofParsed flags').metrics = true → d.Alike c :=
    fun c text h hmetrics => Sink.keeps_alike d c text (h hmetrics)
  -- Asking for fewer leads to another announcement, and to the same request and source.
  have hchoice : Choice.ofParsed flags
      = { Choice.ofParsed flags' with count := (Choice.ofParsed flags).count } :=
    Choice.ofParsed_congr hflags
  have harguments := Parsed.arguments_congr hflags
  have hplanned := Stage.beside_planned hC hconsole
    (.ofAlphabet { Choice.ofParsed flags' with count := (Choice.ofParsed flags).count }
      settings.generator i.freshSeed flags'.arguments a)
    (.ofAlphabet (.ofParsed flags') settings.generator i.freshSeed flags'.arguments a) rfl
  obtain ⟨es, es', v, hlength, hlength', hes, hv, htaken, hvconsole, huconsole⟩ :=
    writeRecords_appends hC hplanned hturns
  obtain ⟨tally, hregistered⟩ := hes.registered hboard
  obtain ⟨v', hv', houtput⟩ := finish_of_success huconsole hvconsole hregistered hfinish
  have hcount : (Choice.ofParsed flags').count = ((es ++ es').length : Int) := by
    rw [List.length_append, hlength, hlength']
    omega
  have houtput' : t.output = u.output := by
    have := finish_output (Choice.ofParsed flags').metrics u
    rwa [hfinish] at this
  have hshort : generateStrings i settings flags s = (.ok (.ok ()), v') := by
    have ha' : chooseAlphabet (.ofParsed flags) settings.generator = .ok a := by
      rw [hchoice]
      exact ha
    rw [generateStrings_of_plan (Plan.make_of_alphabet (by omega) ha'), Plan.ofAlphabet_request,
      harguments, hchoice]
    exact (Step.bind_of_ok hv).trans hv'
  refine ⟨a, es, es', v', ha, hlength, hcount.symm, hes.drawn, ?_, ?_, hshort⟩
  · rw [houtput', hes.taken]
    rfl
  · rw [houtput, htaken]
    rfl

/-- Asking for more strings only appends. Take one invocation and two ways to
    ask for strings that agree in all flags and arguments but for the number of
    strings. If the run that is asked for more succeeds, so does the one that is
    asked for fewer. The results of the first are that many entries, each of a
    string that was generated, with its hash if that was asked for; those of the
    second are the first ones among them, as many as it was asked for. If the
    counters are to be published, the second stream is to take every text or
    none. -/
theorem larger_count_appends (i : Invocation) (few many : List String) (flags flags' : Parsed)
    (hfew : Asks few flags) (hmany : Asks many flags')
    (hflags : flags.without .count = flags'.without .count)
    (hpos : 1 ≤ (Choice.ofParsed flags).count)
    (hle : (Choice.ofParsed flags).count ≤ (Choice.ofParsed flags').count)
    (hsteady : (Choice.ofParsed flags').metrics = true → i.diagnostics.Steady)
    (hsuccess : (i.saying many).run.1 = .success) :
    (i.saying few).run.1 = .success ∧
      ∃ (settings : Settings) (a : Alphabet) (es : List Entry),
        Settings.load i.disk i.environment ((flags'.text? .config).getD standardDirectory)
          = (settings, none) ∧
        chooseAlphabet (.ofParsed flags') settings.generator = .ok a ∧
        (es.length : Int) = (Choice.ofParsed flags').count ∧
        (∀ e ∈ es, e.Drawn (.ofMaximum settings.generator.maxLength)
          ⟨a, (chooseLength flags'.arguments settings.generator.defaultLength).1⟩
          (if (Choice.ofParsed flags').hash then some i.hashParameters else none)) ∧
        (i.saying many).run.2.output.taken
          = i.output.taken ++ String.join (es.map Entry.shown) ∧
        (i.saying few).run.2.output.taken = i.output.taken ++
          String.join ((es.take (Choice.ofParsed flags).count.toNat).map Entry.shown) ∧
        ∃ rest, (i.saying many).run.2.output.taken
          = (i.saying few).run.2.output.taken ++ rest := by
  obtain ⟨settings, s, hy⟩ := Invocation.begins_of_success hmany hsuccess
  have hx : (i.saying few).Begins flags settings s :=
    hy.congr hfew rfl rfl rfl hflags (by decide) (by decide)
  have hobey := Invocation.run_success hsuccess
  rw [obey_of_begins hy] at hobey
  obtain ⟨loaded, journal, hload, hgenerator, hs⟩ := hy.loaded
  have hboard : s.session.board = .registered .zero := by
    rw [hs]
    rfl
  have halike : (Choice.ofParsed flags').metrics = true →
      i.diagnostics.Alike s.session.journal.console := fun hmetrics =>
    hy.console (Sink.keeps_alike i.diagnostics) ⟨rfl, rfl, hsteady hmetrics, hsteady hmetrics⟩
  obtain ⟨a, es, es', s', ha, hlength, hcount, hdrawn, htaken, htaken', hshort⟩ :=
    generateStrings_appends hflags hpos hle hboard halike hobey
  have hrun : (i.saying few).run = (.success, s') :=
    Invocation.run_of_obey ((obey_of_begins hx).trans hshort)
  rw [hrun]
  rw [hgenerator] at ha hdrawn
  refine ⟨rfl, loaded, a, es ++ es', hload, ha, hcount, hdrawn, ?_, ?_,
    String.join (es'.map Entry.shown), ?_⟩
  · rw [htaken, hy.output]
    rfl
  · rw [← hlength, List.take_left, htaken', hy.output]
    rfl
  · rw [htaken, htaken', List.map_append, String.join_append, String.append_assoc]

/-- One string of three characters and three of them, each with its hash. -/
theorem larger_count_appends_hashing :
    let i : Invocation :=
      { words := [], disk := .empty, environment := fun _ => "", entropy := ⟨UInt8.ofNat, 0, 600⟩,
        freshSeed := 0, hashParameters := ⟨⟨8, 1, 1⟩, 4, 4⟩, output := .unlimited,
        diagnostics := .unlimited, time := "", caller := "" }
    let one := i.saying ["--metrics", "--hash", "-n", "1", "3"]
    let three := i.saying ["--metrics", "--hash", "-n", "3", "3"]
    let flags (count : Int) : Parsed :=
      ⟨[(.metrics, .truth true), (.hash, .truth true), (.count, .integer count)], ["3"]⟩
    Asks one.words (flags 1) ∧ Asks three.words (flags 3) ∧
      (flags 1).without .count = (flags 3).without .count ∧ i.diagnostics.Steady ∧
      three.run.1 = .success ∧ one.run.1 = .success ∧
      ∃ es : List Entry, es.length = 3 ∧
        three.run.2.output.taken = String.join (es.map Entry.shown) ∧
        one.run.2.output.taken = String.join ((es.take 1).map Entry.shown) := by
  intro i one three flags
  have hone : Asks one.words (flags 1) :=
    ⟨⟨one.words, by decide +kernel, parse_of_given (by decide +kernel)⟩, by decide⟩
  have hthree : Asks three.words (flags 3) :=
    ⟨⟨three.words, by decide +kernel, parse_of_given (by decide +kernel)⟩, by decide⟩
  have hsteady : i.diagnostics.Steady := fun limit h => (by cases h)
  have hsuccess : three.run.1 = .success := by decide +kernel
  obtain ⟨hsucceeds, settings, a, es, -, -, hlength, -, htaken, htaken', -⟩ :=
    larger_count_appends i one.words three.words (flags 1) (flags 3) hone hthree rfl (by decide)
      (by decide) (fun _ => hsteady) hsuccess
  refine ⟨hone, hthree, rfl, hsteady, hsuccess, hsucceeds, es, ?_,
    htaken.trans (String.empty_append ..), htaken'.trans (String.empty_append ..)⟩
  have hcount : (Choice.ofParsed (flags 3)).count = 3 := by decide
  omega

end Command

end Passforge
