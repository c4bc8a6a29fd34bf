import Passforge.Proofs.EmptyLists
import Passforge.Proofs.Run
import Passforge.Proofs.Trimming

/-!
# A Comma Between Two Lists

What a list of presets stands for when it is put together from two lists with a
comma between them. The names of the whole are the names of the one and then
those of the other, because cutting at commas commutes with joining. So the
first list decides as long as it is wrong, a list that names nothing adds
nothing, and two good lists stand for the symbols of both.

The last needs an argument about repetitions. The whole drops them once, from
the symbols of all presets, whereas the two lists have dropped theirs before
they are joined. Dropping early makes no difference: what is dropped is a
repetition in the whole as well, and the first of equal symbols stays where it
is relative to all others.

## Main definitions

* `Alphabet.ofPresets`: The symbols of some presets, one after the other.

## Theorems

* `Alphabet.firsts_append`: The first symbols of a concatenation.
* `Alphabet.nodup_firsts`: No symbol is left twice.
* `Alphabet.unique_append`: Repetitions may be dropped early.
* `Alphabet.presetNames_comma`: The names of a list with a comma.
* `Alphabet.parse_eq_ok_iff`, `Alphabet.parse_eq_unknown_iff`: What the names of
  a list come to.
* `Alphabet.comma_composes`: The list with a comma from its two sides.
-/

namespace Passforge

namespace Alphabet

/-- The first symbols of a concatenation are those of its first half, and of
    its second half what the first does not hold. -/
theorem firsts_append (as bs : List Symbol) :
    firsts (as ++ bs) = firsts as ++ (firsts bs).filter fun b => decide (b ∉ as) := by
  induction as with
  | nil => simp [firsts]
  | cons a as ih =>
      rw [List.cons_append, firsts, firsts, ih, List.filter_append, List.filter_filter,
        List.cons_append]
      congr 2
      refine List.filter_congr fun b _ => ?_
      -- Not among the first half means not its head and not in its tail.
      by_cases hb : b = a
      · simp [hb]
      · simp [hb]

theorem nodup_firsts (l : List Symbol) : (firsts l).Nodup := by
  induction l with
  | nil => exact List.nodup_nil
  | cons s l ih =>
      rw [firsts, List.nodup_cons]
      exact ⟨by simp, ih.filter _⟩

/-- Where no symbol stands twice, none is dropped. -/
theorem firsts_of_nodup {l : List Symbol} (h : l.Nodup) : firsts l = l := by
  induction l with
  | nil => rfl
  | cons s l ih =>
      rcases List.nodup_cons.mp h with ⟨hs, hl⟩
      rw [firsts, ih hl, List.filter_eq_self.mpr]
      intro t ht
      rw [bne_iff_ne]
      rintro rfl
      exact hs ht

/-- Repetitions may be dropped early. -/
theorem unique_append (a b : Alphabet) : (a.unique ++ b.unique).unique = (a ++ b).unique := by
  change Alphabet.mk (firsts (firsts a.symbols ++ firsts b.symbols))
    = ⟨firsts (a.symbols ++ b.symbols)⟩
  -- On both sides the second half loses what the first holds, and that is the same set.
  rw [firsts_append, firsts_append, firsts_of_nodup (nodup_firsts _),
    firsts_of_nodup (nodup_firsts _)]
  simp only [mem_firsts]

/-- The names of a list with a comma are those before it and those behind it. -/
theorem presetNames_comma (s t : String) :
    presetNames (s ++ "," ++ t) = presetNames s ++ presetNames t := by
  have hchars : (s ++ "," ++ t).toList = s.toList ++ ',' :: t.toList := by
    simp
  unfold presetNames
  rw [hchars, List.splitOn_append_cons_self, List.map_append, List.filter_append, List.map_append]

/-- The alphabet of several presets. -/
def ofPresets (presets : List Preset) : Alphabet :=
  ⟨presets.flatMap fun p => p.alphabet.symbols⟩

theorem ofPresets_append (ps qs : List Preset) :
    ofPresets (ps ++ qs) = ofPresets ps ++ ofPresets qs :=
  congrArg Alphabet.mk List.flatMap_append

/-- A list stands for what its names stand for. -/
theorem parse_congr {s t : String} (h : presetNames s = presetNames t) : parse s = parse t := by
  unfold parse
  rw [h]

/-- A list with a name stands for an alphabet if each of its names does. -/
theorem parse_eq_ok_iff (spec : String) (a : Alphabet) :
    parse spec = .ok a ↔ presetNames spec ≠ [] ∧
      ∃ presets, (presetNames spec).mapM Preset.ofName = .ok presets ∧
        a = (ofPresets presets).unique := by
  unfold parse
  split
  · rename_i hnames
    simp [hnames]
  · rename_i hnames
    rw [bind_eq_ok_iff, and_iff_right hnames]
    refine exists_congr fun presets => and_congr_right fun _ => ?_
    constructor
    · intro h
      cases h
      rfl
    · rintro rfl
      rfl

/-- It is reported for a name if one of its names is. -/
theorem parse_eq_unknown_iff (spec : String) (name : ByteArray) :
    parse spec = .error (.unknownPreset name) ↔
      (presetNames spec).mapM Preset.ofName = .error (.unknownPreset name) := by
  unfold parse
  split
  · rename_i hnames
    rw [hnames]
    constructor
    · intro h
      cases h
    · intro h
      cases h
  · rcases (presetNames spec).mapM Preset.ofName with e | presets
    · constructor
      · intro h
        cases h
        rfl
      · intro h
        cases h
        rfl
    · constructor
      · intro h
        cases h
      · intro h
        cases h

theorem mapM_append_of_error {names more : List String} {e : SpecError}
    (h : names.mapM Preset.ofName = .error e) :
    (names ++ more).mapM Preset.ofName = .error e := by
  rw [List.mapM_append, h]
  rfl

theorem mapM_append_of_ok {names more : List String} {presets : List Preset}
    (h : names.mapM Preset.ofName = .ok presets) :
    (names ++ more).mapM Preset.ofName = (presets ++ ·) <$> more.mapM Preset.ofName := by
  rw [List.mapM_append, h]
  rcases more.mapM Preset.ofName with e | found
  · rfl
  · rfl

/-- A comma composes two lists. An unknown name in the first decides, whatever
    follows; after a list that names nothing the second list counts alone. After
    a good list a second good one adds its symbols, without repeating any, one
    that names nothing changes nothing, and an unknown name in it decides. -/
theorem comma_composes (s t : String) :
    (∀ name, parse s = .error (.unknownPreset name) →
      parse (s ++ "," ++ t) = .error (.unknownPreset name)) ∧
    (parse s = .error .emptySpec → parse (s ++ "," ++ t) = parse t) ∧
    (∀ a b, parse s = .ok a → parse t = .ok b →
      parse (s ++ "," ++ t) = .ok (a ++ b).unique) ∧
    (∀ a, parse s = .ok a → parse t = .error .emptySpec → parse (s ++ "," ++ t) = .ok a) ∧
    ∀ a name, parse s = .ok a → parse t = .error (.unknownPreset name) →
      parse (s ++ "," ++ t) = .error (.unknownPreset name) := by
  have hnames := presetNames_comma s t
  have hempty : ∀ spec, parse spec = .error .emptySpec → presetNames spec = [] := by
    intro spec h
    exact (presetNames_eq_nil_iff spec).mpr ((parse_eq_emptySpec_iff spec).mp h)
  refine ⟨?_, ?_, ?_, ?_, ?_⟩
  · intro name hs
    rw [parse_eq_unknown_iff] at hs ⊢
    rw [hnames]
    exact mapM_append_of_error hs
  · intro hs
    rw [hempty s hs, List.nil_append] at hnames
    exact parse_congr hnames
  · intro a b hs ht
    rcases (parse_eq_ok_iff s a).mp hs with ⟨hne, ps, hps, rfl⟩
    rcases (parse_eq_ok_iff t b).mp ht with ⟨-, qs, hqs, rfl⟩
    refine (parse_eq_ok_iff _ _).mpr ⟨?_, ps ++ qs, ?_, ?_⟩
    · rw [hnames]
      exact List.append_ne_nil_of_left_ne_nil hne _
    · rw [hnames, mapM_append_of_ok hps, hqs]
      rfl
    · rw [unique_append, ofPresets_append]
  · intro a hs ht
    rw [hempty t ht, List.append_nil] at hnames
    rw [parse_congr hnames]
    exact hs
  · intro a name hs ht
    rcases (parse_eq_ok_iff s a).mp hs with ⟨-, ps, hps, -⟩
    rw [parse_eq_unknown_iff] at ht ⊢
    rw [hnames, mapM_append_of_ok hps, ht]
    rfl

/-- Two good lists that share symbols, with a blank entry where they meet. -/
theorem comma_composes_of_digits :
    ∃ a b, parse "Digits" = .ok a ∧ parse ", hex " = .ok b ∧
      parse ("Digits" ++ "," ++ ", hex ") = .ok (a ++ b).unique := by
  have hfirst : (parse "Digits").toOption.isSome = true := by decide +kernel
  have hsecond : (parse ", hex ").toOption.isSome = true := by decide +kernel
  rcases hs : parse "Digits" with e | a
  · rw [hs] at hfirst
    cases hfirst
  rcases ht : parse ", hex " with e | b
  · rw [ht] at hsecond
    cases hsecond
  exact ⟨a, b, rfl, rfl, (comma_composes _ _).2.2.1 a b hs ht⟩

end Alphabet

end Passforge
