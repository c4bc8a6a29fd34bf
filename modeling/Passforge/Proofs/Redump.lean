import Passforge.Proofs.Generating
import Passforge.Proofs.Planning
import Passforge.Proofs.Range
import Passforge.Proofs.TomlDump

/-!
# Settings Printed Again

A run that prints its settings writes a text from which a later run prints the
same text again. The settings a run prints are those it loaded, with the level
of a flag if there is one, so they fit 64 bits and read back. They were good
enough for the first run, and nothing that could have stopped it, neither
validation nor setting up the log, looks at anything but the settings.

## Main definitions

* `Invocation.Prints`: The words ask for the settings.

## Theorems

* `obey_of_prints`: Such a run loads the settings and writes them.
* `run_of_prints`: It succeeds if the settings can be put into effect.
* `of_run_success`: If it succeeds, they could be.
* `dumped_settings_read_back`: Dumped settings are loaded and printed again.
-/

namespace Passforge.Command

theorem Parsed.levelled_fits (p : Parsed) {loaded : Settings} (h : loaded.Fits) :
    (p.levelled loaded).Fits := by
  unfold levelled
  split
  · rename_i level _
    exact h.set .level (v := .text level) (fun n hn => by cases hn)
  · exact h

theorem Parsed.levelled_validate (p : Parsed) (loaded : Settings) :
    (p.levelled loaded).validate = loaded.validate := by
  unfold levelled
  split <;> rfl

/-- The words ask for the settings, and not for help. -/
structure Invocation.Prints (i : Invocation) (flags : Parsed) : Prop where
  words : ∃ words, find i.words = (.config, words) ∧
    parse Command.config.flags words = .ok flags
  help : flags.isOn .help = false
  arguments : Command.config.checkArguments flags.arguments = none

section Printing

variable {i : Invocation} {flags : Parsed} {loaded : Settings}

theorem obey_of_prints (h : i.Prints flags) :
    obey i = prepare i .config flags >>= fun settings => printSettings settings flags := by
  rcases h.words with ⟨words, hfind, hparse⟩
  unfold obey
  simp only [hfind, hparse]
  unfold perform
  refine (if_neg (by rw [h.help]; decide)).trans ((if_neg (by decide)).trans ?_)
  rw [h.arguments]

theorem configure_of_checked {s : LogSettings} {level : Log.Level}
    (h : Log.Journal.checkSettings s = .ok level) (j : Log.Journal) :
    ∃ journal, j.configure s = (journal, .ok ()) := by
  unfold Log.Journal.configure
  rw [h]
  exact ⟨_, rfl⟩

theorem checked_of_configure {s : LogSettings} {j journal : Log.Journal}
    (h : j.configure s = (journal, .ok ())) : ∃ level, Log.Journal.checkSettings s = .ok level := by
  unfold Log.Journal.configure at h
  split at h
  · cases h
  · rename_i level hlevel
    exact ⟨level, hlevel⟩

/-- A run succeeds if the settings can be put into effect and written. -/
theorem run_of_prints (h : i.Prints flags) (hjson : flags.isOn .json = false)
    (hload : Settings.load i.disk i.environment ((flags.text? .config).getD standardDirectory)
      = (loaded, none)) {level : Log.Level}
    (hlog : Log.Journal.checkSettings (flags.levelled loaded).log = .ok level)
    (hfits : i.output.fits (flags.levelled loaded).toToml = true) :
    i.run.1 = .success ∧
      i.run.2.output.taken = i.output.taken ++ (flags.levelled loaded).toToml := by
  obtain ⟨journal, hconfigure⟩ := configure_of_checked hlog i.stage.session.journal
  have hprepare := prepare_of_load (c := .config) hload i.stage
  simp only [hconfigure] at hprepare
  have hobey := congrFun (obey_of_prints h) i.stage
  rw [Step.bind_of_ok hprepare, printSettings, hjson, write_eq] at hobey
  unfold Invocation.run
  rw [hobey]
  simp only [Bool.false_eq_true, if_false]
  rw [if_pos (show Sink.fits (Stage.output _) _ = true from hfits)]
  exact ⟨rfl, rfl⟩

/-- If it succeeds, they could be, and they are what is written. -/
theorem of_run_success (h : i.Prints flags) (hjson : flags.isOn .json = false)
    (hsuccess : i.run.1 = .success) :
    ∃ loaded level,
      Settings.load i.disk i.environment ((flags.text? .config).getD standardDirectory)
        = (loaded, none) ∧
      Log.Journal.checkSettings (flags.levelled loaded).log = .ok level ∧
      i.run.2.output.taken = i.output.taken ++ (flags.levelled loaded).toToml := by
  have hobey := congrFun (obey_of_prints h) i.stage
  -- Each way to fail would end the run otherwise.
  have hnot (f : Failure) (s : Stage) : obey i i.stage ≠ (.ok (.error f), s) := by
    intro hfailure
    unfold Invocation.run at hsuccess
    rw [hfailure] at hsuccess
    cases hsuccess
  rcases hload : Settings.load i.disk i.environment ((flags.text? .config).getD standardDirectory)
    with ⟨loaded, _ | e⟩
  · have hprepare := prepare_of_load (c := .config) hload i.stage
    rcases hconfigure : i.stage.session.journal.configure (flags.levelled loaded).log
      with ⟨journal, e | ⟨⟩⟩
    · simp only [hconfigure] at hprepare
      exact absurd (hobey.trans (Step.bind_of_failure hprepare)) (hnot _ _)
    · obtain ⟨level, hlevel⟩ := checked_of_configure hconfigure
      by_cases hfits : i.output.fits (flags.levelled loaded).toToml = true
      · exact ⟨loaded, level, rfl, hlevel, (run_of_prints h hjson hload hlevel hfits).2⟩
      · simp only [hconfigure] at hprepare
        rw [Step.bind_of_ok hprepare, printSettings, hjson, write_eq] at hobey
        simp only [Bool.false_eq_true, if_false] at hobey
        rw [if_neg (show ¬ Sink.fits (Stage.output _) _ = true from hfits)] at hobey
        exact absurd hobey (hnot _ _)
  · exact absurd (hobey.trans (Step.bind_of_failure (prepare_of_error hload i.stage))) (hnot _ _)

end Printing

/-- Dumped settings are loaded again, and printed settings are printed again.
    Settings of any text and any number of 64 bits, valid or not, are loaded
    from a file that holds just their dump if none of the program's variables
    is set, and no error is reported but that they are not valid if they are
    not. So the text one run prints makes the next one print it again. -/
theorem dumped_settings_read_back :
    (∀ (s : Settings) (disk : Storage.Disk) (env : Environment) (directory : String), s.Fits →
      disk.readFile (configPath directory) = .ok s.toToml.toUTF8 → env.SetsNothing →
      Settings.load disk env directory = (s, s.validate.map LoadError.invalid) ∧
        ((Settings.load disk env directory).2 = none ↔ s.validate = none)) ∧
    ∀ (i i' : Invocation) (flags flags' : Parsed) (text : String),
      i.Prints flags → flags.isOn .json = false → i.run.1 = .success →
      i.run.2.output.taken = i.output.taken ++ text →
      i'.Prints flags' → flags'.isOn .json = false → flags'.text? .logLevel = none →
      i'.disk.readFile (configPath ((flags'.text? .config).getD standardDirectory))
        = .ok text.toUTF8 →
      i'.environment.SetsNothing → i'.output.limit = none →
      i'.run.1 = .success ∧ i'.run.2.output.taken = i'.output.taken ++ text := by
  constructor
  · intro s disk env directory hs hfile henv
    have hload := load_toToml hs hfile henv
    rw [hload]
    exact ⟨rfl, Option.map_eq_none_iff⟩
  · intro i i' flags flags' text hi hjson hsuccess htext hi' hjson' hlevel hfile henv hlimit
    obtain ⟨loaded, level, hload, hlog, htaken⟩ := of_run_success hi hjson hsuccess
    obtain rfl : text = (flags.levelled loaded).toToml :=
      (String.append_right_inj _).mp (htext.symm.trans htaken)
    -- What was printed fits 64 bits, and it is valid since the run succeeded.
    have hfits : (flags.levelled loaded).Fits := by
      have hloaded := load_fits i.disk i.environment ((flags.text? .config).getD standardDirectory)
      rw [hload] at hloaded
      exact flags.levelled_fits hloaded
    have hload' := load_toToml hfits hfile henv
    rw [flags.levelled_validate, Settings.validate_of_load hload] at hload'
    have hsame : flags'.levelled (flags.levelled loaded) = flags.levelled loaded := by
      rw [Parsed.levelled, hlevel]
    have hroom : i'.output.fits (flags.levelled loaded).toToml = true := by
      unfold Sink.fits
      rw [hlimit]
    rw [← hsame] at hlog hroom
    have hrun := run_of_prints hi' hjson' hload' hlog hroom
    rw [hsame] at hrun
    exact hrun

/-- Texts of every awkward kind and the ends of the range, in settings that are
    not valid; and a run that prints a level of its own, printed again. -/
theorem dumped_settings_read_back_at_extremes :
    let s : Settings := { Settings.standard with
      title := "it's \"so\"\\\n\t\x00\x7f"
      log := { Settings.standard.log with
        appName := ""
        file := { Settings.standard.log.file with
          error := ⟨"''", -9223372036854775808, 9223372036854775807, 0⟩ } }
      generator := { Settings.standard.generator with defaultLength := -1 } }
    let debug : Settings :=
      { Settings.standard with log := { Settings.standard.log with level := "debug" } }
    let i (words : List String) (file : Settings) : Invocation :=
      { words, disk := diskHolding file.toToml.toUTF8, environment := fun _ => "",
        entropy := ⟨UInt8.ofNat, 0, 600⟩, freshSeed := 0, hashParameters := ⟨⟨8, 1, 1⟩, 16, 32⟩,
        output := .unlimited, diagnostics := .unlimited, time := "", caller := "" }
    Settings.load (diskHolding s.toToml.toUTF8) (fun _ => "") ""
        = (s, some (.invalid (.violations [.negativeDefaultLength]))) ∧
      (i ["config", "--log-level", "debug"] .standard).run.1 = .success ∧
      (i ["config", "--log-level", "debug"] .standard).run.2.output.taken = debug.toToml ∧
      (i ["config"] debug).run.1 = .success ∧
      (i ["config"] debug).run.2.output.taken = debug.toToml := by
  intro s debug i
  have hs : s.Fits := by decide +kernel
  have hinvalid : s.validate = some (.violations [.negativeDefaultLength]) := by decide +kernel
  have hunset : Environment.SetsNothing fun _ => "" := fun _ => rfl
  have hread := dumped_settings_read_back.1 s (diskHolding s.toToml.toUTF8) (fun _ => "") "" hs
    (readFile_diskHolding _) hunset
  rw [hinvalid] at hread
  let flags : Parsed := ⟨[(.logLevel, .text "debug")], []⟩
  have hprints : (i ["config", "--log-level", "debug"] .standard).Prints flags :=
    ⟨⟨["--log-level", "debug"], by decide +kernel, parse_of_given (by decide +kernel)⟩, by decide,
      by decide⟩
  have hprints' : (i ["config"] debug).Prints ⟨[], []⟩ :=
    ⟨⟨[], by decide +kernel, parse_of_given (by decide +kernel)⟩, by decide, by decide⟩
  have hfile (file : Settings) : (diskHolding file.toToml.toUTF8).readFile
      (configPath standardDirectory) = .ok file.toToml.toUTF8 := by
    have hdirectory : configPath standardDirectory = configPath "" := by decide +kernel
    rw [hdirectory, readFile_diskHolding]
  have hload := load_toToml Settings.standard_fits (hfile .standard) hunset
  have hvalid : Settings.standard.validate = none := by decide +kernel
  rw [hvalid] at hload
  have hchecked : (Log.Journal.checkSettings (flags.levelled .standard).log).toOption.isSome
      = true := by decide +kernel
  rcases hlog : Log.Journal.checkSettings (flags.levelled .standard).log with e | level
  · rw [hlog] at hchecked
    cases hchecked
  have hfirst := run_of_prints hprints (by decide) hload hlog rfl
  have hagain := dumped_settings_read_back.2 _ _ flags ⟨[], []⟩ debug.toToml hprints (by decide)
    hfirst.1 hfirst.2 hprints' (by decide) (by decide) (hfile debug) hunset rfl
  have hstart (words : List String) (file : Settings) : (i words file).output.taken = "" := rfl
  rw [hstart, String.empty_append] at hfirst hagain
  exact ⟨hread.1, hfirst.1, hfirst.2, hagain.1, hagain.2⟩

end Passforge.Command
