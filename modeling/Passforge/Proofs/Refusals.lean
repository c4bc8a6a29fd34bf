import Passforge.Proofs.Failing
import Passforge.Proofs.Planning

/-!
# Requests That Are Refused

A generator refuses a request for three reasons, and a run can only ever meet
one of them. Once the settings are loaded and the alphabet is chosen, the
alphabet is not empty, and the length is not negative: it was given and is not
negative, or it is the configured one, which is valid. The configured length is
within the maximum as well, so what is left is a length that was given and that
exceeds the maximum.

At the level of a whole run the converse needs that nothing else fails as a
refusal does. Writing and publishing never do, whatever their outcome, and a turn
does not as long as its request is not refused (`turns_failsBy`).

## Main definitions

* `Excessive`: A length was given, and it exceeds the maximum.

## Theorems

* `check_eq_some_iff`: The request of a run is refused if it is excessive.
* `check_of_default`: The configured length is never refused.
* `run_rejected_iff`: A run is refused if its request is.
* `only_excessive_lengths_refused`: The only refusal a run can meet.
-/

namespace Passforge.Command

/-- The first argument is a number that is not negative, there is a maximum, and
    the number exceeds it. This is the refusal that says so. -/
def Excessive (arguments : List String) (maximum : Int) (rejection : Rejection) : Prop :=
  ∃ argument n, arguments.head? = some argument ∧ Number.decimalInt argument = .ok n ∧ 0 ≤ n ∧
    0 < maximum ∧ maximum < n ∧ rejection = .lengthTooLarge n maximum

theorem excessive_iff {arguments : List String} {maximum : Int} {rejection : Rejection} :
    Excessive arguments maximum rejection ↔ ∃ n, arguments.head?.bind lengthOf? = some n ∧
      0 < maximum ∧ maximum < n ∧ rejection = .lengthTooLarge n maximum := by
  unfold Excessive
  simp only [Option.bind_eq_some_iff, lengthOf?_eq_some_iff]
  constructor
  · rintro ⟨argument, n, hhead, hread, hn, h⟩
    exact ⟨n, ⟨argument, hhead, hread, hn⟩, h⟩
  · rintro ⟨n, ⟨argument, hhead, hread, hn⟩, h⟩
    exact ⟨argument, n, hhead, hread, hn, h⟩

section Requests

variable {c : Choice} {s : Settings} {a : Alphabet} {arguments : List String}

/-- The request that a plan makes of an alphabet, with valid settings. -/
theorem check_eq_some_iff (hvalid : s.validate = none)
    (ha : chooseAlphabet c s.generator = .ok a) (rejection : Rejection) :
    (Generator.ofMaximum s.generator.maxLength).check
        ⟨a, (chooseLength arguments s.generator.defaultLength).1⟩ = some rejection ↔
      Excessive arguments s.generator.maxLength rejection := by
  rcases GeneratorSettings.validated hvalid with ⟨hdefault, hmax, hwithin⟩
  have hmaximum : max 0 s.generator.maxLength = s.generator.maxLength := by omega
  rw [excessive_iff]
  unfold Generator.check Generator.ofMaximum
  simp only [chooseAlphabet_isEmpty ha, Bool.false_eq_true, if_false, chooseLength_eq, hmaximum]
  rcases hlength : arguments.head?.bind lengthOf? with _ | n
  -- The configured length is neither negative nor too large.
  · rw [Option.getD_none, if_neg (by omega), if_neg (by omega)]
    simp
  · rcases Option.bind_eq_some_iff.mp hlength with ⟨argument, -, hread⟩
    have hn : 0 ≤ n := (lengthOf?_eq_some_iff.mp hread).2
    rw [Option.getD_some, if_neg (by omega)]
    by_cases hexceeds : 0 < s.generator.maxLength ∧ s.generator.maxLength < n
    · rw [if_pos hexceeds]
      simp [hexceeds, eq_comm]
    · rw [if_neg hexceeds]
      simp only [reduceCtorEq, Option.some.injEq, false_iff]
      rintro ⟨m, rfl, hpos, hlt, -⟩
      exact hexceeds ⟨hpos, hlt⟩

/-- Without a length that can be used, the configured one is, and it is not
    refused. -/
theorem check_of_default (hvalid : s.validate = none) (ha : chooseAlphabet c s.generator = .ok a)
    (hnone : ∀ argument n, arguments.head? = some argument →
      Number.decimalInt argument = .ok n → n < 0) :
    (chooseLength arguments s.generator.defaultLength).1 = s.generator.defaultLength ∧
      (Generator.ofMaximum s.generator.maxLength).check
        ⟨a, (chooseLength arguments s.generator.defaultLength).1⟩ = none := by
  have hlength : arguments.head?.bind lengthOf? = none := by
    rw [Option.eq_none_iff_forall_ne_some]
    intro n hsome
    rcases Option.bind_eq_some_iff.mp hsome with ⟨argument, hhead, hread⟩
    rcases lengthOf?_eq_some_iff.mp hread with ⟨hread, hn⟩
    have hneg := hnone argument n hhead hread
    omega
  constructor
  · rw [chooseLength_eq, hlength, Option.getD_none]
  · rw [Option.eq_none_iff_forall_ne_some]
    intro rejection hsome
    rcases excessive_iff.mp ((check_eq_some_iff hvalid ha rejection).mp hsome) with ⟨n, hn, -⟩
    rw [hlength] at hn
    cases hn

end Requests

open Step

/-- A run that has an alphabet is refused if its request is, and for the same
    reason. -/
theorem run_rejected_iff {i : Invocation} {flags : Parsed} {settings : Settings} {s : Stage}
    {a : Alphabet} (hbegins : i.Begins flags settings s)
    (hcount : 1 ≤ (Choice.ofParsed flags).count)
    (ha : chooseAlphabet (.ofParsed flags) settings.generator = .ok a) (rejection : Rejection) :
    i.run.1 = .failure (.rejected rejection) ↔
      (Generator.ofMaximum settings.generator.maxLength).check
        ⟨a, (chooseLength flags.arguments settings.generator.defaultLength).1⟩
          = some rejection := by
  rw [i.run_failure_iff, obey_of_begins hbegins,
    generateStrings_of_plan (Plan.make_of_alphabet (by omega) ha), Plan.ofAlphabet_request]
  rcases hc : (Generator.ofMaximum settings.generator.maxLength).check
    ⟨a, (chooseLength flags.arguments settings.generator.defaultLength).1⟩ with _ | rejection'
  -- A request that passes the check is not refused in any turn.
  · refine ⟨fun h => ?_, fun h => (by cases h)⟩
    rcases turns_failsBy _ _ _ _ _ _ _ h with (⟨_, hf⟩ | ⟨_, hcheck, -⟩) | ⟨_, hf⟩
    · cases hf
    · rw [hc] at hcheck
      cases hcheck
    · cases hf
  -- There is a first turn, and it ends the run.
  · rcases Nat.exists_eq_succ_of_ne_zero (show (Choice.ofParsed flags).count.toNat ≠ 0 by omega)
      with ⟨count, hsucc⟩
    rw [hsucc, writeRecords, bind_of_failure (bind_of_failure (writeRecord_of_rejection hc))]
    simp

/-- The only refusal a run can meet is that of a length that was given and is
    too large. Whichever source it draws from and whatever has been drawn, the
    request of the run is refused if the argument is a number that is not
    negative and exceeds the maximum, and it is then refused as too long; the
    run as a whole fails by a refusal in the same case and with the same words.
    An argument that is missing, no number, out of range or negative stands for
    the configured length, and that one is not refused. -/
theorem only_excessive_lengths_refused (i : Invocation) (flags : Parsed) (settings : Settings)
    (s : Stage) (a : Alphabet) (hbegins : i.Begins flags settings s)
    (hcount : 1 ≤ (Choice.ofParsed flags).count)
    (ha : chooseAlphabet (.ofParsed flags) settings.generator = .ok a) :
    let g := Generator.ofMaximum settings.generator.maxLength
    let r : Request := ⟨a, (chooseLength flags.arguments settings.generator.defaultLength).1⟩
    let refused := Excessive flags.arguments settings.generator.maxLength
    (∃ plan, Plan.make (.ofParsed flags) settings.generator i.freshSeed flags.arguments
        = .ok plan ∧ plan.request = r) ∧
      (∀ (σ : Type) (source : Source σ) (session : Session σ) (rejection : Rejection),
        (g.serve source r session).1 = .ok (.error rejection) ↔ refused rejection) ∧
      (∀ rejection, i.run.1 = .failure (.rejected rejection) ↔ refused rejection) ∧
      ((∀ argument n, flags.arguments.head? = some argument →
          Number.decimalInt argument = .ok n → n < 0) →
        r.length = settings.generator.defaultLength ∧ g.check r = none) := by
  intro g r refused
  rcases hbegins.loaded with ⟨loaded, journal, hload, hgenerator, -⟩
  have hvalid := Settings.validate_of_load hload
  have hcheck (rejection : Rejection) : g.check r = some rejection ↔ refused rejection := by
    unfold g r refused
    rw [hgenerator]
    exact check_eq_some_iff hvalid (hgenerator ▸ ha) rejection
  refine ⟨⟨_, Plan.make_of_alphabet (by omega) ha, rfl⟩, fun σ source session rejection => ?_,
    fun rejection => ?_, fun hnone => ?_⟩
  · rw [(serve_eq_generate g source r session).1, generate_rejects_iff, hcheck]
  · rw [run_rejected_iff hbegins hcount ha, hcheck]
  · unfold g r
    rw [hgenerator]
    exact check_of_default hvalid (hgenerator ▸ ha) hnone

/-- A run without settings that is asked for more characters than the standard
    maximum. -/
theorem only_excessive_lengths_refused_at_5000 :
    let i : Invocation :=
      { words := ["5000"], disk := .empty, environment := fun _ => "",
        entropy := ⟨UInt8.ofNat, 0, 600⟩, freshSeed := 0, hashParameters := ⟨⟨8, 1, 1⟩, 16, 32⟩,
        output := .unlimited, diagnostics := .unlimited, time := "", caller := "" }
    let flags : Parsed := ⟨[], ["5000"]⟩
    ∃ settings s a, i.Begins flags settings s ∧ 1 ≤ (Choice.ofParsed flags).count ∧
      chooseAlphabet (.ofParsed flags) settings.generator = .ok a ∧
      i.run.1 = .failure (.rejected (.lengthTooLarge 5000 4096)) := by
  intro i flags
  have hcount : 1 ≤ (Choice.ofParsed flags).count := by decide
  have hprepares : ((prepare i .generate flags i.stage).1.toOption.bind Except.toOption).isSome
      = true := by decide +kernel
  have hparse : parse Command.generate.flags ["5000"] = .ok flags :=
    parse_of_given (by decide +kernel)
  have halphabet : (chooseAlphabet (.ofParsed flags)
      (Settings.load .empty (fun _ => "") standardDirectory).1.generator).toOption.isSome
        = true := by decide +kernel
  have hmax : (Settings.load .empty (fun _ => "") standardDirectory).1.generator.maxLength
      = 4096 := by decide +kernel
  rcases hprepare : prepare i .generate flags i.stage with ⟨e | f | settings, s⟩
  · rw [hprepare] at hprepares
    cases hprepares
  · rw [hprepare] at hprepares
    cases hprepares
  have hbegins : i.Begins flags settings s :=
    { words := ⟨["5000"], by decide +kernel, hparse⟩
      help := by decide
      arguments := by decide
      prepared := hprepare }
  rcases hbegins.loaded with ⟨loaded, journal, hload, hgenerator, -⟩
  have hdirectory : (flags.text? .config).getD standardDirectory = standardDirectory := by decide
  rw [hdirectory] at hload
  rw [show Settings.load .empty (fun _ => "") standardDirectory = (loaded, none) from hload,
    ← hgenerator] at halphabet hmax
  rcases ha : chooseAlphabet (.ofParsed flags) settings.generator with e | a
  · rw [ha] at halphabet
    cases halphabet
  refine ⟨settings, s, a, hbegins, hcount, ha, ?_⟩
  have hrefused := (only_excessive_lengths_refused i flags settings s a hbegins hcount ha).2.2.1
  refine (hrefused _).mpr ⟨"5000", 5000, rfl, by rfl, by decide, ?_⟩
  rw [hmax]
  decide

end Passforge.Command
