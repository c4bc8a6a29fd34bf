import Mathlib.Data.List.Nodup
import Passforge.Proofs.CommaLists
import Passforge.Proofs.Planning

/-!
# Which Alphabet Is Used

Characters and lists of presets can be given by flags and by settings, and four
of them together are more than are needed. Which one counts is a matter of the
flags first: characters given by a flag come before a list given by a flag, and
both come before what is configured. The one exception is that characters given
as none at all only take back the configured characters.

Once it is settled where an alphabet comes from (`Origin`), the rest does not
look at flags and settings any more, except for whether repetitions are dropped.
So whatever else is configured can not show (`chooseAlphabet_eq`).

An alphabet is announced as biased if dropping its repetitions makes it shorter.
What is left of it is a sublist without repetitions, so a sublist of the same
length is the alphabet itself, and then it has none (`hasDuplicates_iff`).

## Main definitions

* `Origin`: What an alphabet is read from, with `Origin.read`.
* `Choice.origin`: What flags and settings have it read from.
* `Choice.UsesPresets`: That is a list of presets.

## Theorems

* `Alphabet.hasDuplicates_iff`: When an alphabet counts as biased.
* `Command.Origin.read_unique`: Which alphabets have no repetitions.
* `Command.biased_announced_iff`: When that is announced.
* `Command.flags_shadow_settings`: All of it together.
-/

namespace Passforge

namespace Alphabet

/-- Dropping repetitions keeps the order. -/
theorem firsts_sublist (l : List Symbol) : (firsts l).Sublist l := by
  induction l with
  | nil => exact List.Sublist.refl []
  | cons s l ih => exact ((List.filter_sublist).trans ih).cons_cons s

theorem unique_unique (a : Alphabet) : a.unique.unique = a.unique :=
  congrArg Alphabet.mk (firsts_of_nodup (nodup_firsts a.symbols))

/-- Nothing is dropped if what is left is as long. -/
theorem unique_eq_self_iff (a : Alphabet) : a.unique = a ↔ a.hasDuplicates = false := by
  unfold hasDuplicates
  rw [bne_eq_false_iff_eq]
  constructor
  · intro h
    rw [h]
  -- A sublist of the same length leaves nothing out.
  · intro h
    exact congrArg Alphabet.mk ((firsts_sublist a.symbols).eq_of_length h)

theorem unique_eq_self_iff_nodup (a : Alphabet) : a.unique = a ↔ a.symbols.Nodup := by
  constructor
  · intro h
    rw [← h]
    exact nodup_firsts a.symbols
  · intro h
    exact congrArg Alphabet.mk (firsts_of_nodup h)

/-- An alphabet counts as biased if some symbol stands at two positions. -/
theorem hasDuplicates_iff (a : Alphabet) :
    a.hasDuplicates = true ↔
      ∃ i j, i < j ∧ j < a.size ∧ a.symbols[i]? = a.symbols[j]? := by
  rw [← Bool.not_eq_false, ← unique_eq_self_iff, unique_eq_self_iff_nodup,
    List.nodup_iff_getElem?_ne_getElem?]
  simp only [ne_eq, not_forall, not_not, exists_prop]
  rfl

end Alphabet

namespace Command

/-- What an alphabet is read from. -/
inductive Origin where
  | characters (text : String)
  | presets (spec : String)

/-- The alphabet that is read, with its repetitions dropped or not. -/
def Origin.read (unique : Bool) : Origin → Except SpecError Alphabet
  | .characters text =>
    .ok (if unique then (Alphabet.ofText text).unique else Alphabet.ofText text)
  | .presets spec =>
    (Alphabet.parse spec).map fun chars => if unique then chars.unique else chars

/-- What flags and settings have the alphabet read from. -/
def Choice.origin (c : Choice) (g : GeneratorSettings) : Origin :=
  if chooseCharset c g = "" then .presets (c.alphabet.getD g.alphabet)
  else .characters (chooseCharset c g)

/-- The alphabet is read from a list of presets: no characters are given, and
    either a list is given, or no characters are configured, or a flag says that
    there are to be none. -/
def Choice.UsesPresets (c : Choice) (g : GeneratorSettings) : Prop :=
  c.charset = some "" ∨ c.charset = none ∧ (c.alphabet ≠ none ∨ g.charset = "")

variable {c : Choice} {g : GeneratorSettings}

/-- Flags and settings matter for what the alphabet is read from and for whether
    repetitions are dropped. -/
theorem chooseAlphabet_eq (c : Choice) (g : GeneratorSettings) :
    chooseAlphabet c g = (c.origin g).read (c.unique.getD g.unique) := by
  unfold chooseAlphabet Choice.origin
  -- Whether there are characters settles which of the two readers is used.
  by_cases hcharset : chooseCharset c g = ""
  · simp only [hcharset, bne_self_eq_false, Bool.false_eq_true, if_false, if_true, Origin.read]
    rcases Alphabet.parse (c.alphabet.getD g.alphabet) with e | chars
    · rfl
    · rfl
  · simp only [bne_iff_ne, ne_eq, hcharset, not_false_eq_true, if_true, if_false, Origin.read]
    rfl

theorem origin_of_charset {given : String} (h : c.charset = some given) (hne : given ≠ "")
    (g : GeneratorSettings) : c.origin g = .characters given := by
  unfold Choice.origin chooseCharset
  simp only [h, hne, if_false]

theorem origin_of_alphabet {spec : String} (h : c.charset.getD "" = "")
    (halphabet : c.alphabet = some spec) (g : GeneratorSettings) : c.origin g = .presets spec := by
  have hcharset : chooseCharset c g = "" := by
    unfold chooseCharset
    rw [halphabet]
    rcases hc : c.charset with _ | given
    · rfl
    · rw [hc] at h
      exact h
  unfold Choice.origin
  rw [if_pos hcharset, halphabet, Option.getD_some]

theorem origin_of_no_charset (h : c.charset = some "") (halphabet : c.alphabet = none)
    (g : GeneratorSettings) : c.origin g = .presets g.alphabet := by
  unfold Choice.origin chooseCharset
  simp only [h, halphabet, if_true, Option.getD_none]

theorem origin_of_settings (h : c.charset = none) (halphabet : c.alphabet = none)
    (g : GeneratorSettings) :
    c.origin g = if g.charset = "" then .presets g.alphabet else .characters g.charset := by
  unfold Choice.origin chooseCharset
  simp only [h, halphabet, Option.getD_none]

theorem usesPresets_iff : c.UsesPresets g ↔ chooseCharset c g = "" := by
  unfold Choice.UsesPresets chooseCharset
  rcases c.charset with _ | given
  · rcases c.alphabet with _ | spec
    · simp
    · simp
  · simp

/-- Nothing stands twice in what is read from a list, or is read without
    repetitions. -/
theorem Origin.read_unique {o : Origin} {unique : Bool} {a : Alphabet}
    (h : o.read unique = .ok a) (hdropped : (∃ spec, o = .presets spec) ∨ unique = true) :
    a.unique = a := by
  rcases o with text | spec
  · have hunique : unique = true := hdropped.resolve_left fun ⟨spec, heq⟩ => by cases heq
    rw [hunique] at h
    cases h
    exact Alphabet.unique_unique _
  · obtain ⟨chars, hparse, rfl⟩ := (map_eq_ok_iff _ _ _).mp h
    obtain ⟨-, presets, -, rfl⟩ := (Alphabet.parse_eq_ok_iff spec chars).mp hparse
    -- A list is read without repetitions, so dropping them again changes nothing.
    split
    · exact Alphabet.unique_unique _
    · exact Alphabet.unique_unique _

/-- The text of the announcement that an alphabet is biased. -/
def biasMessage : String :=
  "alphabet has duplicate characters, the distribution is biased"

/-- The texts of everything else that a plan announces. -/
def otherMessages : List String :=
  ["seeded source, output is reproducible", "invalid length, using default", "generating"]

theorem message_mem_otherMessages (c : Choice) (g : GeneratorSettings) (freshSeed : Nat)
    (arguments : List String) (r : Request) {e : Log.Event}
    (he : e ∈ (chooseDrawer c g freshSeed).2 ++ (chooseLength arguments g.defaultLength).2 ++
      [startEvent r c.count]) : e.message ∈ otherMessages := by
  simp only [List.mem_append, List.mem_singleton] at he
  rcases he with (hseed | hlength) | rfl
  -- One text for each of the three places that announce something.
  · unfold chooseDrawer at hseed
    split at hseed
    · rw [List.mem_singleton.mp hseed]
      exact List.mem_cons_self
    · split at hseed <;> cases hseed
  · unfold chooseLength at hlength
    split at hlength
    · cases hlength
    · split at hlength
      · cases hlength
      · rw [List.mem_singleton.mp hlength]
        exact List.mem_cons_of_mem _ List.mem_cons_self
  · exact List.mem_cons_of_mem _ (List.mem_cons_of_mem _ List.mem_cons_self)

theorem duplicateWarning_iff (a : Alphabet) :
    (∃ e ∈ duplicateWarning a, e.message = biasMessage) ↔ a.hasDuplicates = true := by
  unfold duplicateWarning
  split
  · rename_i hbiased
    exact ⟨fun _ => hbiased, fun _ => ⟨_, List.mem_cons_self, rfl⟩⟩
  · rename_i hfair
    exact ⟨fun ⟨_, he, _⟩ => (by cases he), fun hbiased => absurd hbiased hfair⟩

/-- A plan announces a biased alphabet if it has one. -/
theorem biased_announced_iff {freshSeed : Nat} {arguments : List String} {plan : Plan}
    (h : Plan.make c g freshSeed arguments = .ok plan) :
    chooseAlphabet c g = .ok plan.request.alphabet ∧
      ((∃ e ∈ plan.announcements, e.message = biasMessage) ↔
        plan.request.alphabet.hasDuplicates = true) := by
  by_cases hcount : c.count < 1
  · rw [Plan.make_of_count hcount] at h
    cases h
  rcases ha : chooseAlphabet c g with e | a
  · rw [Plan.make_of_error hcount ha] at h
    cases h
  · rw [Plan.make_of_alphabet hcount ha, Except.ok.injEq] at h
    subst h
    refine ⟨rfl, ?_⟩
    rw [Plan.ofAlphabet_request, ← duplicateWarning_iff]
    simp only [Plan.ofAlphabet, List.append_assoc]
    constructor
    · rintro ⟨e, he, hmessage⟩
      rcases List.mem_append.mp he with hfirst | hother
      · exact ⟨e, hfirst, hmessage⟩
      -- What comes after the warning has other texts.
      · rw [← List.append_assoc] at hother
        have hmem := message_mem_otherMessages c g freshSeed arguments _ hother
        rw [hmessage] at hmem
        exact absurd hmem (by decide)
    · rintro ⟨e, he, hmessage⟩
      exact ⟨e, List.mem_append_left _ he, hmessage⟩

/-- Flags come before settings when the alphabet is chosen. Characters given by a
    flag are all that counts, apart from whether repetitions are dropped. With
    none given that way, a list given by a flag is; characters that are given as
    none at all leave the configured list; and without a flag it is what is
    configured, characters before the list. So in the first two cases nothing
    that is configured shows. An alphabet that is chosen is not empty, nothing
    stands in it twice if it was read from a list or repetitions are dropped, and
    a plan announces that it is biased exactly if something does. -/
theorem flags_shadow_settings (c : Choice) (g : GeneratorSettings) :
    -- What is chosen.
    (∀ given, c.charset = some given → given ≠ "" →
      chooseAlphabet c g = (Origin.characters given).read (c.unique.getD g.unique)) ∧
    (∀ spec, c.charset.getD "" = "" → c.alphabet = some spec →
      chooseAlphabet c g = (Origin.presets spec).read (c.unique.getD g.unique)) ∧
    (c.charset = some "" → c.alphabet = none →
      chooseAlphabet c g = (Origin.presets g.alphabet).read (c.unique.getD g.unique)) ∧
    (c.charset = none → c.alphabet = none → g.charset ≠ "" →
      chooseAlphabet c g = (Origin.characters g.charset).read (c.unique.getD g.unique)) ∧
    (c.charset = none → c.alphabet = none → g.charset = "" →
      chooseAlphabet c g = (Origin.presets g.alphabet).read (c.unique.getD g.unique)) ∧
    -- What does not show.
    (∀ (c' : Choice) (g' : GeneratorSettings), c'.unique.getD g'.unique = c.unique.getD g.unique →
      (c'.charset = c.charset → c.charset.getD "" ≠ "" →
        chooseAlphabet c' g' = chooseAlphabet c g) ∧
      (c'.charset.getD "" = "" → c.charset.getD "" = "" → c'.alphabet = c.alphabet →
        c.alphabet ≠ none → chooseAlphabet c' g' = chooseAlphabet c g)) ∧
    -- What can be said of it.
    (∀ a, chooseAlphabet c g = .ok a → 0 < a.size ∧
      (c.UsesPresets g ∨ c.unique.getD g.unique = true → a.unique = a)) ∧
    ∀ freshSeed arguments plan, Plan.make c g freshSeed arguments = .ok plan →
      chooseAlphabet c g = .ok plan.request.alphabet ∧
      ((∃ e ∈ plan.announcements, e.message = biasMessage) ↔
        ∃ i j, i < j ∧ j < plan.request.alphabet.size ∧
          plan.request.alphabet.symbols[i]? = plan.request.alphabet.symbols[j]?) := by
  refine ⟨fun given h hne => ?_, fun spec h halphabet => ?_, fun h halphabet => ?_,
    fun h halphabet hne => ?_, fun h halphabet hempty => ?_, fun c' g' hunique => ⟨?_, ?_⟩,
    fun a ha => ⟨?_, fun hdropped => ?_⟩, fun freshSeed arguments plan hplan => ?_⟩
  · rw [chooseAlphabet_eq, origin_of_charset h hne]
  · rw [chooseAlphabet_eq, origin_of_alphabet h halphabet]
  · rw [chooseAlphabet_eq, origin_of_no_charset h halphabet]
  · rw [chooseAlphabet_eq, origin_of_settings h halphabet, if_neg hne]
  · rw [chooseAlphabet_eq, origin_of_settings h halphabet, if_pos hempty]
  · intro hsame hne
    rcases hc : c.charset with _ | given
    · rw [hc] at hne
      exact absurd rfl hne
    · rw [hc] at hsame hne
      rw [chooseAlphabet_eq, chooseAlphabet_eq, hunique, origin_of_charset hc hne,
        origin_of_charset hsame hne]
  · intro hnone' hnone hsame hgiven
    obtain ⟨spec, hspec⟩ := Option.ne_none_iff_exists'.mp hgiven
    rw [chooseAlphabet_eq, chooseAlphabet_eq, hunique, origin_of_alphabet hnone hspec,
      origin_of_alphabet hnone' (hsame.trans hspec)]
  · have hempty := chooseAlphabet_isEmpty ha
    rcases a with ⟨_ | ⟨s, rest⟩⟩
    · cases hempty
    · exact Nat.succ_pos rest.length
  · rw [chooseAlphabet_eq] at ha
    refine Origin.read_unique ha (hdropped.imp_left fun hpresets => ?_)
    exact ⟨_, if_pos (usesPresets_iff.mp hpresets)⟩
  · rw [← Alphabet.hasDuplicates_iff]
    exact biased_announced_iff hplan

/-- Configured characters with a repetition, which are used and announced
    without flags, and do not show with a list given by a flag or with characters
    given as none at all. -/
theorem flags_shadow_settings_repeated :
    let g : GeneratorSettings := { Settings.standard.generator with charset := "aba" }
    let plain : Choice := ⟨none, none, none, none, 1, false, false⟩
    let listed : Choice := { plain with alphabet := some "digits,hex" }
    let cleared : Choice := { plain with charset := some "" }
    chooseAlphabet plain g = .ok (.ofText "aba") ∧
      (∃ plan, Plan.make plain g 0 [] = .ok plan ∧
        ∃ e ∈ plan.announcements, e.message = biasMessage) ∧
      chooseAlphabet listed g = chooseAlphabet listed Settings.standard.generator ∧
      chooseAlphabet cleared g = (Origin.presets "upper").read false ∧
      ∀ a, chooseAlphabet cleared g = .ok a → 0 < a.size ∧ a.unique = a := by
  intro g plain listed cleared
  obtain ⟨-, -, -, hused, -, -, -, hannounced⟩ := flags_shadow_settings plain g
  obtain ⟨-, -, -, -, -, hlisted, -⟩ :=
    flags_shadow_settings listed Settings.standard.generator
  obtain ⟨-, -, hcleared, -, -, -, hread, -⟩ := flags_shadow_settings cleared g
  have hplain : chooseAlphabet plain g = .ok (.ofText "aba") := hused rfl rfl (by decide)
  have hplan : Plan.make plain g 0 [] = .ok (.ofAlphabet plain g 0 [] (.ofText "aba")) :=
    Plan.make_of_alphabet (by decide) hplain
  refine ⟨hplain, ⟨_, hplan, ?_⟩, ?_, hcleared rfl rfl, fun a ha => ?_⟩
  · exact (hannounced 0 [] _ hplan).2.mpr ⟨0, 2, by decide, by decide +kernel⟩
  · exact (hlisted listed g rfl).2 rfl rfl rfl (by decide)
  · exact ⟨(hread a ha).1, (hread a ha).2 (.inl (.inl rfl))⟩

end Command

end Passforge
