import Passforge.Command.Plan
import Passforge.Proofs.Decoding
import Passforge.Proofs.Symbols
import Passforge.Settings.Load

/-!
# What a Plan Asks For

A plan puts together an alphabet, a length and a source, and each of the three
comes with a guarantee. The alphabet comes from text and is never empty: given
characters are only used if there are any, bringing them into normal form does
not lose all of them, and a list of presets names at least one. The length is
the one given if it can be read and is not negative, and the configured one
otherwise. The source is one of the program's own, and the seed it picks itself
shows nowhere else in the plan.

Normal forms are followed pass by pass. A pass may join or move characters, but
none of them turns a text that is not empty into one that is.

## Main definitions

* `Plan.ofAlphabet`: The plan once its alphabet is known.

## Theorems

* `Text.Canonical.normalize_ne_nil`: A normal form is empty for the empty text
  only.
* `chooseAlphabet_isEmpty`: A plan has an alphabet that is not empty.
* `chooseAlphabet_fromText`: It comes from text.
* `chooseLength_eq`: The length given, or the configured one.
* `GeneratorSettings.validated`: What valid settings say about lengths.
* `Plan.make_of_count`, `Plan.make_of_error`, `Plan.make_of_alphabet`: The plan,
  by what the flags and settings allow.
-/

namespace Passforge

namespace Text.Canonical

theorem decompositions_ne_nil : ∀ row ∈ decompositions, row.2 ≠ [] := by decide +kernel

theorem decomposition_ne_nil (c : Char) : decomposition c ≠ [] := by
  unfold decomposition
  split
  · rename_i parts hparts
    unfold syllableParts? at hparts
    split at hparts
    · rw [Option.some.injEq] at hparts
      rw [← hparts]
      split <;> simp only [ne_eq, reduceCtorEq, not_false_eq_true]
    · cases hparts
  · rcases htable : tableDecomposition c with _ | parts
    · simp
    · unfold tableDecomposition at htable
      split at htable
      · cases htable
      · rcases Option.map_eq_some_iff.mp htable with ⟨row, hlookup, rfl⟩
        rcases List.lookup_eq_some_iff.mp hlookup with ⟨before, after, hrows, -⟩
        have hrow := decompositions_ne_nil (c.toNat, row) (by rw [hrows]; simp)
        simpa using hrow

theorem decompose_ne_nil {cs : List Char} (h : cs ≠ []) : decompose cs ≠ [] := by
  rcases cs with _ | ⟨c, rest⟩
  · exact absurd rfl h
  · simp [decompose, decomposition_ne_nil c]

theorem streamSafe_ne_nil {cs : List Char} (h : cs ≠ []) : streamSafe cs ≠ [] := by
  rcases cs with _ | ⟨c, rest⟩
  · exact absurd rfl h
  · unfold streamSafe breakRuns
    split <;> simp

theorem reorder_ne_nil {cs : List Char} (h : cs ≠ []) : reorder cs ≠ [] := by
  have hplace (c : Char) (rest : List Char) : place c rest ≠ [] := by
    rcases rest with _ | ⟨d, rest⟩
    · simp [place]
    · unfold place
      split <;> simp
  rcases cs with _ | ⟨c, rest⟩
  · exact absurd rfl h
  · exact hplace c _

theorem composeFrom_ne_nil (starter : Char) (kept cs : List Char) :
    composeFrom starter kept cs ≠ [] := by
  fun_induction composeFrom starter kept cs with
  | case1 => simp
  | case2 => simp
  | case3 starter kept c rest _ _ behind starter' kept' _ joined _ ih =>
      exact List.append_ne_nil_of_right_ne_nil behind ih
  | case4 => simp
  | case5 starter kept c rest _ _ behind starter' kept' _ _ _ ih =>
      exact List.append_ne_nil_of_right_ne_nil behind ih
  | case6 starter kept c rest _ _ ih => exact ih

theorem compose_ne_nil {cs : List Char} (h : cs ≠ []) : compose cs ≠ [] := by
  rcases cs with _ | ⟨c, rest⟩
  · exact absurd rfl h
  · unfold compose
    split
    · exact composeFrom_ne_nil c [] rest
    · simp

/-- No pass loses a whole text. -/
theorem normalize_ne_nil {cs : List Char} (h : cs ≠ []) : normalize cs ≠ [] :=
  compose_ne_nil (reorder_ne_nil (decompose_ne_nil (streamSafe_ne_nil h)))

end Text.Canonical

namespace Alphabet

/-- A text does not break off, so all of it is brought into normal form. -/
theorem ofText_eq (s : String) : ofText s = ofChars (Text.Canonical.normalize s.toList) := by
  unfold ofText ofBytes
  rw [Text.breakOff_toUTF8]
  simp only [List.map_map, List.map_nil, List.append_nil]
  exact congrArg (fun cs => ofChars (Text.Canonical.normalize cs)) (List.map_id s.toList)

theorem isEmpty_ofText {s : String} (h : s ≠ "") : (ofText s).isEmpty = false := by
  have hchars : s.toList ≠ [] := by simpa using h
  have hnormal := Text.Canonical.normalize_ne_nil hchars
  rw [ofText_eq]
  simpa [ofChars, isEmpty] using hnormal

theorem isEmpty_unique (a : Alphabet) : a.unique.isEmpty = a.isEmpty := by
  rcases a with ⟨_ | ⟨s, rest⟩⟩
  · rfl
  · rfl

/-- Only no names at all stand for no presets. -/
theorem nil_of_mapM {names : List String} (h : names.mapM Preset.ofName = .ok []) :
    names = [] := by
  rcases names with _ | ⟨name, names⟩
  · rfl
  · rw [List.mapM_cons] at h
    rcases hp : Preset.ofName name with e | p
    · rw [hp] at h
      cases h
    · rcases hm : names.mapM Preset.ofName with e | presets
      · rw [hp, hm] at h
        cases h
      · rw [hp, hm] at h
        cases h

/-- A list of presets names one, and no preset is empty. -/
theorem isEmpty_parse {spec : String} {a : Alphabet} (h : parse spec = .ok a) :
    a.isEmpty = false := by
  have hpreset (p : Preset) : p.alphabet.symbols ≠ [] := by cases p <;> decide
  unfold parse at h
  split at h
  · cases h
  · rename_i hnames
    rcases hm : (presetNames spec).mapM Preset.ofName with e | presets
    · rw [hm] at h
      cases h
    · rw [hm] at h
      cases h
      rw [isEmpty_unique]
      rcases presets with _ | ⟨p, presets⟩
      · exact absurd (nil_of_mapM hm) hnames
      · simp [isEmpty, hpreset p]

end Alphabet

/-- Valid settings have no negative length, and the usual one is within the
    limit if there is one. -/
theorem GeneratorSettings.validated {s : Settings} (h : s.validate = none) :
    0 ≤ s.generator.defaultLength ∧ 0 ≤ s.generator.maxLength ∧
      (0 < s.generator.maxLength → s.generator.defaultLength ≤ s.generator.maxLength) := by
  unfold Settings.validate at h
  simp only at h
  split at h
  · rename_i hviolations
    unfold violations at hviolations
    simp only [List.append_eq_nil_iff] at hviolations
    grind
  · cases h

/-- Settings that load without an error are valid. -/
theorem Settings.validate_of_load {disk : Storage.Disk} {env : Environment} {directory : String}
    {s : Settings} (h : Settings.load disk env directory = (s, none)) : s.validate = none := by
  unfold Settings.load at h
  split at h
  · cases h
  · rw [Prod.mk.injEq, Option.map_eq_none_iff] at h
    rw [← h.1]
    exact h.2

namespace Command

variable {c : Choice} {g : GeneratorSettings} {a : Alphabet}

/-- The alphabet of a plan is that of a text or a list, or what is left of one
    without its repetitions. -/
theorem chooseAlphabet_cases (h : chooseAlphabet c g = .ok a) :
    ∃ chars : Alphabet, chars.FromText ∧ chars.isEmpty = false ∧
      (a = chars ∨ a = chars.unique) := by
  have hchars : ∃ chars : Alphabet, chars.FromText ∧ chars.isEmpty = false ∧
      .ok a = (Except.ok (if c.unique.getD g.unique then chars.unique else chars) :
        Except SpecError Alphabet) := by
    unfold chooseAlphabet at h
    by_cases hset : (chooseCharset c g != "") = true
    · simp only [if_pos hset] at h
      exact ⟨_, .characters _, Alphabet.isEmpty_ofText (bne_iff_ne.mp hset), h.symm⟩
    · simp only [if_neg hset] at h
      rcases hparse : Alphabet.parse (c.alphabet.getD g.alphabet) with e | chars
      · rw [hparse] at h
        cases h
      · rw [hparse] at h
        exact ⟨chars, .list _ _ hparse, Alphabet.isEmpty_parse hparse, h.symm⟩
  rcases hchars with ⟨chars, htext, hempty, heq⟩
  rw [Except.ok.injEq] at heq
  refine ⟨chars, htext, hempty, ?_⟩
  split at heq
  · exact .inr heq
  · exact .inl heq

theorem chooseAlphabet_isEmpty (h : chooseAlphabet c g = .ok a) : a.isEmpty = false := by
  rcases chooseAlphabet_cases h with ⟨chars, -, hempty, rfl | rfl⟩
  · exact hempty
  · rw [Alphabet.isEmpty_unique, hempty]

theorem chooseAlphabet_fromText (h : chooseAlphabet c g = .ok a) : a.FromText := by
  rcases chooseAlphabet_cases h with ⟨chars, htext, -, rfl | rfl⟩
  · exact htext
  · exact .unique _ htext

theorem lengthOf?_eq_some_iff {argument : String} {n : Int} :
    lengthOf? argument = some n ↔ Number.decimalInt argument = .ok n ∧ 0 ≤ n := by
  unfold lengthOf?
  rcases Number.decimalInt argument with e | m
  · simp
  · simp only [Except.ok.injEq]
    split <;> grind

/-- The length is the one given, or the configured one. -/
theorem chooseLength_eq (arguments : List String) (default : Int) :
    (chooseLength arguments default).1 = (arguments.head?.bind lengthOf?).getD default := by
  rcases arguments with _ | ⟨argument, rest⟩
  · rfl
  · unfold chooseLength
    simp only [List.head?_cons, Option.bind_some]
    rcases lengthOf? argument with _ | n
    · rfl
    · rfl

/-- The fresh seed is not announced. -/
theorem chooseDrawer_events (c : Choice) (g : GeneratorSettings) (seed seed' : Nat) :
    (chooseDrawer c g seed).2 = (chooseDrawer c g seed').2 := by
  unfold chooseDrawer
  rcases c.seed with _ | given
  · simp only
    split <;> rfl
  · rfl

theorem chooseDrawer_ne_listed (c : Choice) (g : GeneratorSettings) (seed : Nat)
    (l : ListedSource) : (chooseDrawer c g seed).1 ≠ .listed l := by
  unfold chooseDrawer
  rcases c.seed with _ | given
  · simp only
    split <;> simp
  · simp

namespace Plan

/-- The plan once its alphabet is known. -/
def ofAlphabet (c : Choice) (g : GeneratorSettings) (freshSeed : Nat) (arguments : List String)
    (a : Alphabet) : Plan :=
  let request : Request := ⟨a, (chooseLength arguments g.defaultLength).1⟩
  { request
    drawer := (chooseDrawer c g freshSeed).1
    announcements := duplicateWarning a ++ (chooseDrawer c g freshSeed).2 ++
      (chooseLength arguments g.defaultLength).2 ++ [startEvent request c.count] }

variable {freshSeed : Nat} {arguments : List String}

@[simp] theorem ofAlphabet_request :
    (ofAlphabet c g freshSeed arguments a).request
      = ⟨a, (chooseLength arguments g.defaultLength).1⟩ := rfl

theorem make_of_count (h : c.count < 1) :
    make c g freshSeed arguments = .error (.count c.count) :=
  if_pos h

theorem make_of_error {e : SpecError} (hcount : ¬ c.count < 1) (h : chooseAlphabet c g = .error e) :
    make c g freshSeed arguments = .error (.alphabet e) := by
  unfold make
  rw [if_neg hcount, h]

theorem make_of_alphabet (hcount : ¬ c.count < 1) (h : chooseAlphabet c g = .ok a) :
    make c g freshSeed arguments = .ok (ofAlphabet c g freshSeed arguments a) := by
  unfold make
  rw [if_neg hcount, h]
  rfl

end Plan

end Command

end Passforge
