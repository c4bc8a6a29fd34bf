import Mathlib.Data.List.TakeWhile
import Passforge.Proofs.Failing
import Passforge.Proofs.Planning

/-!
# Lists That Name Nothing

A list of presets names nothing if there is nothing but commas and blanks in
it. Two places look out for such lists. Validation trims the configured list as
a whole and finds it empty if nothing is left; reading the list cuts it at its
commas and trims every part. The two agree on lists without a comma only.

So there are settings that pass validation and name no alphabet: those without
characters of their own whose list holds a comma and otherwise blanks. A run
that relies on them fails for an empty list, and there are no others that do.
The theorems say which settings these are, on both sides.

## Theorems

* `Text.trimChars_eq_nil_iff`: Only blanks are trimmed away.
* `Alphabet.presetNames_eq_nil_iff`: A list names nothing if it holds commas and
  blanks only.
* `Alphabet.parse_eq_emptySpec_iff`: These are the lists reported as empty.
* `Settings.validate_eq_emptyAlphabet_iff`: Validation reports those without a
  comma.
* `run_emptySpec_iff`: When a run fails for an empty list.
* `validated_lists_may_be_commas`: All of it together.
-/

namespace Passforge

namespace Text

theorem trimChars_eq_nil_iff (cs : List Char) :
    trimChars cs = [] ↔ ∀ c ∈ cs, isBlank c = true := by
  unfold trimChars
  rw [List.reverse_eq_nil_iff, List.dropWhile_eq_nil_iff]
  constructor
  · intro h
    -- What is left after the blanks in front starts with no blank, so it is empty.
    rcases hfront : cs.dropWhile isBlank with _ | ⟨c, rest⟩
    · exact List.dropWhile_eq_nil_iff.mp hfront
    · have hne : cs.dropWhile isBlank ≠ [] := by simp [hfront]
      have hnot : isBlank ((cs.dropWhile isBlank).head hne) = false :=
        List.head_dropWhile_not isBlank hne
      rw [h _ (List.mem_reverse.mpr (List.head_mem hne))] at hnot
      cases hnot
  · intro h c hc
    exact h c (List.dropWhile_subset _ (List.mem_reverse.mp hc))

theorem trim_eq_empty_iff (s : String) : trim s = "" ↔ ∀ c ∈ s.toList, isBlank c = true := by
  rw [← trimChars_eq_nil_iff]
  unfold trim
  rw [← String.toList_eq_nil_iff, String.toList_ofList]

end Text

namespace Alphabet

/-- The parts of a list hold its characters but for the commas. -/
theorem forall_splitOn_iff (p : Char → Prop) (cs : List Char) :
    (∀ s ∈ cs.splitOn ',', ∀ c ∈ s, p c) ↔ ∀ c ∈ cs, c = ',' ∨ p c := by
  induction cs with
  | nil => simp
  | cons c rest ih =>
      rw [List.forall_mem_cons, ← ih, List.splitOn_cons_eq_if_modifyHead]
      by_cases hc : c = ','
      · simp [hc]
      · rw [if_neg (by simpa using hc)]
        -- The first part of the rest grows by this character.
        obtain ⟨s, more, hmore⟩ := List.exists_cons_of_ne_nil (List.splitOn_ne_nil ',' rest)
        rw [hmore]
        simp [hc, and_assoc]

/-- A list names nothing if it holds commas and blanks only. -/
theorem presetNames_eq_nil_iff (spec : String) :
    presetNames spec = [] ↔ ∀ c ∈ spec.toList, c = ',' ∨ Text.isBlank c = true := by
  rw [← forall_splitOn_iff]
  unfold presetNames
  rw [List.map_eq_nil_iff, List.filter_eq_nil_iff]
  constructor
  · intro h s hs
    have hempty := h _ (List.mem_map_of_mem hs)
    exact (Text.trimChars_eq_nil_iff s).mp (by simpa using hempty)
  · intro h s hs
    obtain ⟨s', hs', rfl⟩ := List.mem_map.mp hs
    simp [(Text.trimChars_eq_nil_iff s').mpr (h s' hs')]

/-- A name that stands for no preset is reported as such. -/
theorem mapM_ofName_ne_emptySpec (names : List String) :
    names.mapM Preset.ofName ≠ .error .emptySpec := by
  induction names with
  | nil => exact fun h => (by cases h)
  | cons name names ih =>
      rw [List.mapM_cons]
      intro h
      rcases hp : Preset.ofName name with e | p
      · rw [hp] at h
        cases h
        unfold Preset.ofName Preset.ofBytes at hp
        simp only at hp
        split at hp
        · cases hp
        · cases hp
      · rcases hm : names.mapM Preset.ofName with e | presets
        · rw [hp, hm] at h
          cases h
          exact ih hm
        · rw [hp, hm] at h
          cases h

/-- The lists reported as empty. -/
theorem parse_eq_emptySpec_iff (spec : String) :
    parse spec = .error .emptySpec ↔ ∀ c ∈ spec.toList, c = ',' ∨ Text.isBlank c = true := by
  rw [← presetNames_eq_nil_iff]
  unfold parse
  split
  · rename_i hnames
    simp [hnames]
  · rename_i hnames
    refine ⟨fun h => ?_, fun h => absurd h hnames⟩
    rcases hm : (presetNames spec).mapM Preset.ofName with e | presets
    · rw [hm] at h
      cases h
      exact absurd hm (mapM_ofName_ne_emptySpec _)
    · rw [hm] at h
      cases h

end Alphabet

/-- Valid settings have no length that is out of range. -/
theorem Settings.violations_of_valid {s : Settings} (h : s.validate = none) :
    s.generator.violations = [] := by
  unfold Settings.validate at h
  simp only at h
  split at h
  · rename_i hnone
    exact hnone
  · cases h

/-- Validation reports the lists that are blank, in settings without characters
    of their own. -/
theorem Settings.validate_eq_emptyAlphabet_iff (s : Settings) :
    s.validate = some .emptyAlphabet ↔ s.generator.violations = [] ∧ s.generator.charset = "" ∧
      ∀ c ∈ s.generator.alphabet.toList, Text.isBlank c = true := by
  rw [← Text.trim_eq_empty_iff]
  unfold Settings.validate
  simp only
  split
  · rename_i hnone
    by_cases hblank : Text.trim s.generator.alphabet = "" ∧ s.generator.charset = ""
    · simp [hnone, hblank]
    · rw [if_neg (by simpa using hblank)]
      have hnot : ¬ (s.generator.charset = "" ∧ Text.trim s.generator.alphabet = "") :=
        fun h => hblank h.symm
      split <;> simp [hnone, hnot]
  · rename_i hsome
    simp only [Option.some.injEq, reduceCtorEq, false_iff]
    exact fun h => hsome h.1

namespace Command

/-- Without flags for it the alphabet is the configured one. -/
theorem chooseAlphabet_eq_emptySpec_iff {c : Choice} (ha : c.alphabet = none)
    (hc : c.charset = none) (g : GeneratorSettings) :
    chooseAlphabet c g = .error .emptySpec ↔
      g.charset = "" ∧ ∀ c ∈ g.alphabet.toList, c = ',' ∨ Text.isBlank c = true := by
  rw [← Alphabet.parse_eq_emptySpec_iff]
  have hcharset : chooseCharset c g = g.charset := by
    unfold chooseCharset
    rw [hc, ha]
  unfold chooseAlphabet
  simp only [hcharset, ha, Option.getD_none]
  by_cases hempty : g.charset = ""
  · rw [if_neg (by simp [hempty])]
    rcases Alphabet.parse g.alphabet with e | a
    · simp [hempty, bind, Except.bind]
    · simp [bind, Except.bind, pure, Except.pure]
  · rw [if_pos (by simpa using hempty)]
    simp [hempty, bind, Except.bind, pure, Except.pure]

/-- A run fails for an empty list if the list it plans with is one. -/
theorem run_emptySpec_iff {i : Invocation} {flags : Parsed} {settings : Settings} {s : Stage}
    (hbegins : i.Begins flags settings s) :
    i.run.1 = .failure (.plan (.alphabet .emptySpec)) ↔
      1 ≤ (Choice.ofParsed flags).count ∧
        chooseAlphabet (.ofParsed flags) settings.generator = .error .emptySpec := by
  rw [i.run_failure_iff, obey_of_begins hbegins]
  by_cases hcount : (Choice.ofParsed flags).count < 1
  · rw [generateStrings_of_error (Plan.make_of_count hcount)]
    exact ⟨fun h => (by cases h), fun h => absurd h.1 (by omega)⟩
  rcases ha : chooseAlphabet (.ofParsed flags) settings.generator with e | a
  · rw [generateStrings_of_error (Plan.make_of_error hcount ha)]
    simp only [Except.ok.injEq, Except.error.injEq, Failure.plan.injEq, PlanError.alphabet.injEq]
    exact ⟨fun h => ⟨by omega, h⟩, fun h => h.2⟩
  -- With a plan no failure is one of planning any more.
  · rw [generateStrings_of_plan (Plan.make_of_alphabet hcount ha)]
    refine ⟨fun h => ?_, fun h => (by cases h.2)⟩
    rcases turns_failsBy _ _ _ _ _ _ _ h with (⟨_, hf⟩ | ⟨_, -, hf⟩) | ⟨_, hf⟩ <;> cases hf

/-- Validation does not find every list that names nothing. Take a run whose
    settings are valid and whose flags choose neither a list nor characters. It
    fails for an empty list if it is to write something, the settings name no
    characters, and there is a comma in the list and otherwise nothing but
    commas and blanks; in every other case it does not. For validation reports
    a list of blanks, whereas reading it finds nothing in a list of blanks and
    commas. -/
theorem validated_lists_may_be_commas (i : Invocation) (flags : Parsed) (settings : Settings)
    (s : Stage) (hbegins : i.Begins flags settings s)
    (halphabet : (Choice.ofParsed flags).alphabet = none)
    (hcharset : (Choice.ofParsed flags).charset = none) :
    (i.run.1 = .failure (.plan (.alphabet .emptySpec)) ↔
        1 ≤ (Choice.ofParsed flags).count ∧ settings.generator.charset = "" ∧
          ',' ∈ settings.generator.alphabet.toList ∧
          ∀ c ∈ settings.generator.alphabet.toList, c = ',' ∨ Text.isBlank c = true) ∧
      (∀ given : Settings, given.validate = some .emptyAlphabet ↔
        given.generator.violations = [] ∧ given.generator.charset = "" ∧
          ∀ c ∈ given.generator.alphabet.toList, Text.isBlank c = true) ∧
      ∀ spec : String, Alphabet.parse spec = .error .emptySpec ↔
        ∀ c ∈ spec.toList, c = ',' ∨ Text.isBlank c = true := by
  refine ⟨?_, Settings.validate_eq_emptyAlphabet_iff, Alphabet.parse_eq_emptySpec_iff⟩
  rw [run_emptySpec_iff hbegins, chooseAlphabet_eq_emptySpec_iff halphabet hcharset]
  refine ⟨fun ⟨hcount, hnone, hall⟩ => ⟨hcount, hnone, ?_, hall⟩,
    fun ⟨hcount, hnone, _, hall⟩ => ⟨hcount, hnone, hall⟩⟩
  -- Without a comma the list would be blank, and these settings would not have been loaded.
  obtain ⟨loaded, journal, hload, hgenerator, -⟩ := hbegins.loaded
  have hvalid := Settings.validate_of_load hload
  rw [hgenerator] at hnone hall ⊢
  by_contra hcomma
  have hreported : loaded.validate = some .emptyAlphabet := by
    refine (Settings.validate_eq_emptyAlphabet_iff loaded).mpr
      ⟨Settings.violations_of_valid hvalid, hnone, fun c hc => ?_⟩
    exact (hall c hc).resolve_left fun h => hcomma (h ▸ hc)
  rw [hvalid] at hreported
  cases hreported

/-- A run without settings relies on the standard list, which names alphabets. -/
theorem validated_lists_may_be_commas_at_standard :
    let i : Invocation :=
      { words := [], disk := .empty, environment := fun _ => "",
        entropy := ⟨UInt8.ofNat, 0, 600⟩, freshSeed := 0, hashParameters := ⟨⟨8, 1, 1⟩, 16, 32⟩,
        output := .unlimited, diagnostics := .unlimited, time := "", caller := "" }
    let flags : Parsed := ⟨[], []⟩
    ∃ settings s, i.Begins flags settings s ∧ (Choice.ofParsed flags).alphabet = none ∧
      (Choice.ofParsed flags).charset = none ∧
      i.run.1 ≠ .failure (.plan (.alphabet .emptySpec)) := by
  intro i flags
  have hparse : parse Command.generate.flags [] = .ok flags := parse_of_given (by decide +kernel)
  let named (settings : Settings) : Bool :=
    !settings.generator.alphabet.toList.all fun c => c == ',' || Text.isBlank c
  obtain ⟨settings, s, hbegins, hnamed⟩ := i.exists_begins named (by decide +kernel) hparse
    (by decide) (by decide) (by decide +kernel)
  refine ⟨settings, s, hbegins, rfl, rfl, fun h => ?_⟩
  have hfails := (validated_lists_may_be_commas i flags settings s hbegins rfl rfl).1
  obtain ⟨-, -, -, hall⟩ := hfails.mp h
  have hnothing : settings.generator.alphabet.toList.all (fun c => c == ',' || Text.isBlank c)
      = true := List.all_eq_true.mpr fun c hc => by simpa using hall c hc
  simp [named, hnothing] at hnamed

/-- A configured list of a single comma passes validation, and the run fails for
    an empty list. -/
theorem comma_is_valid_and_empty :
    let i : Invocation :=
      { words := [], disk := .empty,
        environment := fun name => if name == "PWGEN_GENERATOR_ALPHABET" then "," else "",
        entropy := ⟨UInt8.ofNat, 0, 600⟩, freshSeed := 0, hashParameters := ⟨⟨8, 1, 1⟩, 16, 32⟩,
        output := .unlimited, diagnostics := .unlimited, time := "", caller := "" }
    (Settings.load i.disk i.environment standardDirectory).2 = none ∧
      i.run.1 = .failure (.plan (.alphabet .emptySpec)) := by
  intro i
  have hparse : parse Command.generate.flags [] = .ok ⟨[], []⟩ :=
    parse_of_given (by decide +kernel)
  let comma (settings : Settings) : Bool :=
    settings.generator.charset == "" && settings.generator.alphabet == ","
  obtain ⟨settings, s, hbegins, hcomma⟩ := i.exists_begins comma (by decide +kernel) hparse
    (by decide) (by decide) (by decide +kernel)
  obtain ⟨loaded, journal, hload, -⟩ := hbegins.loaded
  refine ⟨congrArg Prod.snd hload, (run_emptySpec_iff hbegins).mpr ⟨by decide, ?_⟩⟩
  simp only [comma, Bool.and_eq_true, beq_iff_eq] at hcomma
  refine (chooseAlphabet_eq_emptySpec_iff rfl rfl _).mpr ⟨hcomma.1, ?_⟩
  rw [hcomma.2]
  simp

end Command

end Passforge
