import Mathlib.Data.List.Perm.Subperm
import Passforge.Generator
import Passforge.Proofs.CommaLists
import Passforge.Proofs.Rejection

/-!
# What a List of Presets Stands For

The alphabet of a list is the union of its presets. That is a statement about
membership, and about order: a symbol stands where it first appears when the
presets are written one after the other.

Of an entry only its key counts, the name without the blanks around it and in
lower case. Two lists whose entries have the same keys therefore stand for the
same symbols, and one of them is good if the other is. All the ways of writing a
list differently come down to that: `Restated` puts together reordering,
repetition, change of case, blanks around an entry and blank entries, in any
number and order.

Every preset is a part of the largest one, so an alphabet made of presets is a
part of it, too. With no repetition it has no more positions than that one,
whatever the list; and a draw from it looks at single bytes.

## Main definitions

* `Alphabet.entries`: The entries of a list that are not blank.
* `Preset.keyOf`: What counts of an entry.
* `Alphabet.Restated`: The same list, written differently.
* `Buffer.byteSource`: Draws that look at single bytes.

## Theorems

* `Alphabet.idxOf_firsts_lt_iff`: Dropping repetitions keeps the order of first
  appearance.
* `Preset.ofName_eq_ok_iff`: A name stands for what its key stands for.
* `Alphabet.parse_eq_ok_iff_entries`: The presets of a list, entry by entry.
* `Alphabet.Restated.sameKeys`: A restated list has the same keys.
* `Alphabet.parse_of_sameKeys`: What the same keys stand for.
* `Alphabet.size_of_parse`: How large the alphabet of a list is.
* `Alphabet.list_stands_for_union`: All of it together.
-/

namespace Passforge

namespace Alphabet

/-- Leaving others out does not change which of two symbols comes first. -/
theorem idxOf_filter_lt_iff (p : Symbol → Bool) (l : List Symbol) (s t : Symbol) (hs : p s = true)
    (ht : p t = true) :
    (l.filter p).idxOf s < (l.filter p).idxOf t ↔ l.idxOf s < l.idxOf t := by
  induction l with
  | nil => rfl
  | cons a l ih =>
      by_cases ha : p a = true
      · rw [List.filter_cons_of_pos ha]
        by_cases hsa : a = s
        · by_cases hta : a = t
          · simp [← hsa, ← hta]
          · simp [← hsa, List.idxOf_cons_ne _ hta]
        · by_cases hta : a = t
          · simp [← hta]
          · rw [List.idxOf_cons_ne _ hsa, List.idxOf_cons_ne _ hta, List.idxOf_cons_ne _ hsa,
              List.idxOf_cons_ne _ hta, Nat.succ_lt_succ_iff, Nat.succ_lt_succ_iff, ih]
      -- The symbol left out is neither of the two.
      · have hsa : a ≠ s := fun h => ha (h ▸ hs)
        have hta : a ≠ t := fun h => ha (h ▸ ht)
        rw [List.filter_cons_of_neg ha, ih, List.idxOf_cons_ne _ hsa, List.idxOf_cons_ne _ hta,
          Nat.succ_lt_succ_iff]

/-- Dropping repetitions keeps the order of first appearance. -/
theorem idxOf_firsts_lt_iff (l : List Symbol) (s t : Symbol) :
    (firsts l).idxOf s < (firsts l).idxOf t ↔ l.idxOf s < l.idxOf t := by
  induction l with
  | nil => rfl
  | cons a l ih =>
      rw [firsts]
      by_cases hsa : a = s
      · by_cases hta : a = t
        · simp [← hsa, ← hta]
        · simp [← hsa, List.idxOf_cons_ne _ hta]
      · by_cases hta : a = t
        · simp [← hta]
        · rw [List.idxOf_cons_ne _ hsa, List.idxOf_cons_ne _ hta, List.idxOf_cons_ne _ hsa,
            List.idxOf_cons_ne _ hta, Nat.succ_lt_succ_iff, Nat.succ_lt_succ_iff,
            idxOf_filter_lt_iff (· != a) (firsts l) s t (bne_iff_ne.mpr (Ne.symm hsa))
              (bne_iff_ne.mpr (Ne.symm hta)), ih]

end Alphabet

namespace Text

theorem capital_or_toLower_eq (c : Char) :
    (∃ n < 26, c = Char.ofNat (65 + n)) ∨ c.toLower = c := by
  by_cases hcap : c.val ≥ 'A'.val ∧ c.val ≤ 'Z'.val
  · have hlow : 65 ≤ c.toNat := UInt32.le_iff_toNat_le.mp hcap.1
    have hhigh : c.toNat ≤ 90 := UInt32.le_iff_toNat_le.mp hcap.2
    refine Or.inl ⟨c.toNat - 65, by omega, ?_⟩
    rw [Nat.add_sub_cancel' hlow, Char.ofNat_toNat]
  · exact Or.inr (dif_neg hcap)

/-- A change of case neither makes a blank nor removes one. -/
theorem isBlank_lowerChar (c : Char) : isBlank (lowerChar c) = isBlank c := by
  have hcapital : ∀ n < 26,
      isBlank (lowerChar (Char.ofNat (65 + n))) = isBlank (Char.ofNat (65 + n)) := by decide
  rcases capital_or_toLower_eq c with ⟨n, hn, rfl⟩ | hsame
  · exact hcapital n hn
  · unfold lowerChar
    rw [hsame]
    -- The two other characters with an ASCII letter for their lower case are no blanks.
    by_cases hdotted : c.toNat = 0x130
    · rw [if_pos (beq_iff_eq.mpr hdotted)]
      simp [isBlank, hdotted]
    · rw [if_neg (by simpa using hdotted)]
      by_cases hkelvin : c.toNat = 0x212A
      · rw [if_pos (beq_iff_eq.mpr hkelvin)]
        simp [isBlank, hkelvin]
      · rw [if_neg (by simpa using hkelvin)]

/-- What differs in the case of ASCII letters only has the same lower case. -/
theorem lowerChar_toLower (c : Char) : lowerChar c.toLower = lowerChar c := by
  have hcapital : ∀ n < 26,
      lowerChar (Char.ofNat (65 + n)).toLower = lowerChar (Char.ofNat (65 + n)) := by decide
  rcases capital_or_toLower_eq c with ⟨n, hn, rfl⟩ | hsame
  · exact hcapital n hn
  · rw [hsame]

end Text

namespace Preset

/-- What counts of an entry: the characters between the blanks, in lower case. -/
def keyOf (entry : List Char) : List Char :=
  (Text.trimChars entry).map Text.lowerChar

theorem keyOf_eq_nil_iff (entry : List Char) :
    keyOf entry = [] ↔ ∀ c ∈ entry, Text.isBlank c = true := by
  rw [← Text.trimChars_eq_nil_iff]
  exact List.map_eq_nil_iff

theorem keyOf_trimChars (entry : List Char) : keyOf (Text.trimChars entry) = keyOf entry := by
  unfold keyOf
  rw [Text.trimChars_trimChars]

theorem keyOf_pad (front entry back : List Char) (hfront : ∀ c ∈ front, Text.isBlank c = true)
    (hback : ∀ c ∈ back, Text.isBlank c = true) : keyOf (front ++ entry ++ back) = keyOf entry := by
  unfold keyOf
  rw [Text.trimChars_pad front entry back hfront hback]

theorem keyOf_recase {entry other : List Char}
    (h : entry.map Char.toLower = other.map Char.toLower) : keyOf entry = keyOf other := by
  have hlower : ∀ cs : List Char, cs.map Text.lowerChar
      = (cs.map Char.toLower).map Text.lowerChar := by
    intro cs
    rw [List.map_map]
    exact List.map_congr_left fun c _ => (Text.lowerChar_toLower c).symm
  -- The lower case can be taken before trimming, and there the two agree.
  unfold keyOf
  rw [← Text.trimChars_map _ Text.isBlank_lowerChar, ← Text.trimChars_map _ Text.isBlank_lowerChar,
    hlower entry, hlower other, h]

/-- A name stands for what its key stands for. -/
theorem ofName_eq_ok_iff (entry : List Char) (p : Preset) :
    ofName (String.ofList entry) = .ok p ↔ ofKey? (String.ofList (keyOf entry)) = some p := by
  have hchars : Text.lenientChars (String.ofList entry).toUTF8 = entry := by
    rw [Text.lenientChars_toUTF8, String.toList_ofList]
  unfold ofName ofBytes keyOf
  simp only [hchars]
  rcases ofKey? (String.ofList ((Text.trimChars entry).map Text.lowerChar)) with _ | q
  · simp
  · simp

/-- A list of presets holds those that the names stand for. -/
theorem mem_iff_of_forall₂ {entries : List (List Char)} {presets : List Preset}
    (h : List.Forall₂ (fun entry p => ofName (String.ofList entry) = .ok p) entries presets)
    (p : Preset) : p ∈ presets ↔ ∃ entry ∈ entries, ofName (String.ofList entry) = .ok p := by
  induction h with
  | nil => simp
  | @cons entry q entries presets hq _ ih =>
      rw [List.mem_cons, ih, List.exists_mem_cons_iff, hq, Except.ok.injEq, eq_comm]

/-- The entries name presets one by one if each of them names one. -/
theorem exists_forall₂_iff (entries : List (List Char)) :
    (∃ presets, List.Forall₂ (fun entry p => ofName (String.ofList entry) = .ok p) entries
        presets) ↔
      ∀ entry ∈ entries, ∃ p, ofName (String.ofList entry) = .ok p := by
  induction entries with
  | nil => exact ⟨fun _ entry h => absurd h List.not_mem_nil, fun _ => ⟨[], .nil⟩⟩
  | cons entry entries ih =>
      rw [List.forall_mem_cons, ← ih]
      constructor
      · rintro ⟨_, h⟩
        cases h with
        | cons hp hrest => exact ⟨⟨_, hp⟩, _, hrest⟩
      · rintro ⟨⟨p, hp⟩, presets, hrest⟩
        exact ⟨p :: presets, .cons hp hrest⟩

theorem toList_password : password.text.toList =
    upperText.toList ++ lowerText.toList ++ digitText.toList ++ symbolText.toList := by
  simp only [text, String.toList_append]

/-- The hexadecimal digits are decimal digits and small letters. -/
theorem hex_subset : hex.text.toList ⊆ lowerText.toList ++ digitText.toList := by
  -- Opened as lists the texts are compared without being decoded.
  rw [show hex.text.toList = _ from String.toList_ofList,
    show lowerText.toList = _ from String.toList_ofList,
    show digitText.toList = _ from String.toList_ofList]
  decide +kernel

/-- The characters that are hard to confuse are letters and digits. -/
theorem human_subset :
    human.text.toList ⊆ upperText.toList ++ lowerText.toList ++ digitText.toList := by
  rw [show human.text.toList = _ from String.toList_ofList,
    show upperText.toList = _ from String.toList_ofList,
    show lowerText.toList = _ from String.toList_ofList,
    show digitText.toList = _ from String.toList_ofList]
  decide +kernel

/-- Every preset is a part of the largest one. -/
theorem text_subset_password (p : Preset) : p.text.toList ⊆ password.text.toList := by
  intro c hc
  rw [toList_password]
  cases p with
  | alnum =>
      rw [text, String.toList_append, String.toList_append] at hc
      exact List.mem_append_left _ hc
  | digits => exact List.mem_append_left _ (List.mem_append_right _ hc)
  | hex =>
      rcases List.mem_append.mp (hex_subset hc) with hlower | hdigit
      · exact List.mem_append_left _ (List.mem_append_left _ (List.mem_append_right _ hlower))
      · exact List.mem_append_left _ (List.mem_append_right _ hdigit)
  | human => exact List.mem_append_left _ (human_subset hc)
  | lower => exact List.mem_append_left _ (List.mem_append_left _ (List.mem_append_right _ hc))
  | password =>
      rw [toList_password] at hc
      exact hc
  | symbols => exact List.mem_append_right _ hc
  | upper => exact List.mem_append_left _ (List.mem_append_left _ (List.mem_append_left _ hc))

theorem symbols_alphabet (p : Preset) :
    p.alphabet.symbols = p.text.toList.map Symbol.ofChar :=
  rfl

theorem mem_password (p : Preset) (s : Symbol) (hs : s ∈ p.alphabet.symbols) :
    s ∈ password.alphabet.symbols := by
  rw [symbols_alphabet] at hs ⊢
  exact List.map_subset _ p.text_subset_password hs

theorem size_password : password.alphabet.symbols.length = 88 := by
  rw [symbols_alphabet, List.length_map, toList_password,
    show upperText.toList = _ from String.toList_ofList,
    show lowerText.toList = _ from String.toList_ofList,
    show digitText.toList = _ from String.toList_ofList,
    show symbolText.toList = _ from String.toList_ofList]
  rfl

/-- Every preset starts with two different characters. -/
theorem exists_text_eq (p : Preset) : ∃ c d cs, p.text.toList = c :: d :: cs ∧ c ≠ d := by
  have hupper : ∃ cs, upperText.toList = 'A' :: 'B' :: cs := ⟨_, String.toList_ofList⟩
  rcases hupper with ⟨cs, hcs⟩
  cases p with
  | alnum =>
      refine ⟨'A', 'B', cs ++ lowerText.toList ++ digitText.toList, ?_, by decide⟩
      simp only [text, String.toList_append, hcs, List.cons_append]
  | password =>
      refine ⟨'A', 'B', cs ++ lowerText.toList ++ digitText.toList ++ symbolText.toList, ?_,
        by decide⟩
      simp only [toList_password, hcs, List.cons_append]
  | upper => exact ⟨'A', 'B', cs, hcs, by decide⟩
  | digits => exact ⟨_, _, _, String.toList_ofList, by decide⟩
  | hex => exact ⟨_, _, _, String.toList_ofList, by decide⟩
  | human => exact ⟨_, _, _, String.toList_ofList, by decide⟩
  | lower => exact ⟨_, _, _, String.toList_ofList, by decide⟩
  | symbols => exact ⟨_, _, _, String.toList_ofList, by decide⟩

/-- What holds every symbol of a preset has two positions at least. -/
theorem two_le_length (p : Preset) (l : List Symbol) (hl : p.alphabet.symbols ⊆ l) :
    2 ≤ l.length := by
  rcases p.exists_text_eq with ⟨c, d, cs, htext, hne⟩
  -- Different characters are different symbols, since a symbol shows its character.
  have hpair : [Symbol.ofChar c, Symbol.ofChar d].Nodup := by
    rw [List.nodup_cons, List.mem_singleton]
    refine ⟨fun heq => ?_, by simp⟩
    rw [← Symbol.toChar_ofChar c, heq, Symbol.toChar_ofChar] at hne
    exact hne rfl
  refine (hpair.subperm fun s hs => hl ?_).length_le
  rw [symbols_alphabet, htext, List.map_cons, List.map_cons]
  rcases List.mem_pair.mp hs with rfl | rfl
  · exact List.mem_cons_self
  · exact List.mem_cons_of_mem _ List.mem_cons_self

end Preset

namespace Alphabet

/-- The entries of a list, blank ones left out. -/
def entries (spec : String) : List (List Char) :=
  (spec.toList.splitOn ',').filter fun entry => entry.any fun c => !Text.isBlank c

theorem any_not_isBlank (entry : List Char) :
    (entry.any fun c => !Text.isBlank c) = !(Text.trimChars entry).isEmpty := by
  rw [Bool.eq_iff_iff, Bool.not_eq_true', List.isEmpty_eq_false_iff, Ne,
    Text.trimChars_eq_nil_iff, List.any_eq_true, not_forall]
  simp

theorem mem_entries_iff (spec : String) (entry : List Char) :
    entry ∈ entries spec ↔ entry ∈ spec.toList.splitOn ',' ∧ Preset.keyOf entry ≠ [] := by
  unfold entries Preset.keyOf
  rw [List.mem_filter, any_not_isBlank, Bool.not_eq_true', List.isEmpty_eq_false_iff, Ne, Ne,
    List.map_eq_nil_iff]

/-- The names of a list are its entries without the blanks around them. -/
theorem presetNames_eq (spec : String) :
    presetNames spec = (entries spec).map fun entry => String.ofList (Text.trimChars entry) := by
  unfold presetNames entries
  rw [List.filter_map, List.map_map]
  simp only [any_not_isBlank]
  rfl

theorem mapM_eq_ok_iff (names : List String) (presets : List Preset) :
    names.mapM Preset.ofName = .ok presets ↔
      List.Forall₂ (fun name p => Preset.ofName name = .ok p) names presets := by
  induction names generalizing presets with
  | nil =>
      rw [List.mapM_nil, List.forall₂_nil_left_iff]
      constructor
      · intro h
        cases h
        rfl
      · rintro rfl
        rfl
  | cons name names ih =>
      rw [List.mapM_cons, List.forall₂_cons_left_iff]
      simp only [bind_eq_ok_iff, ← ih]
      constructor
      · rintro ⟨p, hp, found, hrest, h⟩
        cases h
        exact ⟨p, found, hp, hrest, rfl⟩
      · rintro ⟨p, found, hp, hrest, rfl⟩
        exact ⟨p, hp, found, hrest, rfl⟩

/-- A list stands for an alphabet if it has an entry, and each of its entries
    names a preset. -/
theorem parse_eq_ok_iff_entries (spec : String) (a : Alphabet) :
    parse spec = .ok a ↔ entries spec ≠ [] ∧ ∃ presets,
      List.Forall₂ (fun entry p => Preset.ofName (String.ofList entry) = .ok p) (entries spec)
        presets ∧ a = (ofPresets presets).unique := by
  have htrim : ∀ entry p, Preset.ofName (String.ofList (Text.trimChars entry)) = .ok p ↔
      Preset.ofName (String.ofList entry) = .ok p := by
    intro entry p
    rw [Preset.ofName_eq_ok_iff, Preset.ofName_eq_ok_iff, Preset.keyOf_trimChars]
  rw [parse_eq_ok_iff, presetNames_eq, Ne, List.map_eq_nil_iff]
  simp only [mapM_eq_ok_iff, List.forall₂_map_left_iff, htrim, Ne]

theorem mem_unique_ofPresets (presets : List Preset) (s : Symbol) :
    s ∈ (ofPresets presets).unique.symbols ↔ ∃ p ∈ presets, s ∈ p.alphabet.symbols := by
  unfold unique ofPresets
  rw [mem_firsts, List.mem_flatMap]

/-- A symbol belongs to the alphabet of a list if it belongs to the preset of an
    entry. -/
theorem mem_iff_of_parse {spec : String} {a : Alphabet} (h : parse spec = .ok a) (s : Symbol) :
    s ∈ a.symbols ↔ ∃ entry ∈ entries spec, ∃ p, Preset.ofName (String.ofList entry) = .ok p ∧
      s ∈ p.alphabet.symbols := by
  rcases (parse_eq_ok_iff_entries spec a).mp h with ⟨-, presets, hpresets, rfl⟩
  rw [mem_unique_ofPresets]
  constructor
  · rintro ⟨p, hp, hs⟩
    rcases (Preset.mem_iff_of_forall₂ hpresets p).mp hp with ⟨entry, hentry, hname⟩
    exact ⟨entry, hentry, p, hname, hs⟩
  · rintro ⟨entry, hentry, p, hname, hs⟩
    exact ⟨p, (Preset.mem_iff_of_forall₂ hpresets p).mpr ⟨entry, hentry, hname⟩, hs⟩

/-- The same list of entries, written differently. -/
inductive Restated : (segs segs' : List (List Char)) → Prop
  | reorder (segs segs' : List (List Char)) (h : segs.Perm segs') : Restated segs segs'
  | again (segs : List (List Char)) (entry : List Char) (h : entry ∈ segs) :
      Restated segs (entry :: segs)
  | recase (segs segs' : List (List Char))
      (h : List.Forall₂ (fun entry entry' =>
        entry.map Char.toLower = entry'.map Char.toLower) segs segs') : Restated segs segs'
  | pad (segs segs' : List (List Char))
      (h : List.Forall₂ (fun entry entry' => ∃ front back, (∀ c ∈ front, Text.isBlank c = true) ∧
        (∀ c ∈ back, Text.isBlank c = true) ∧ entry' = front ++ entry ++ back) segs segs') :
      Restated segs segs'
  | blank (segs : List (List Char)) (entry : List Char) (h : ∀ c ∈ entry, Text.isBlank c = true) :
      Restated segs (entry :: segs)
  | trans (segs segs₁ segs' : List (List Char)) (first : Restated segs segs₁)
      (rest : Restated segs₁ segs') : Restated segs segs'

/-- The entries of two lists have the same keys, blank ones apart. -/
def SameKeys (segs segs' : List (List Char)) : Prop :=
  ∀ key, key ≠ [] →
    ((∃ entry ∈ segs, Preset.keyOf entry = key) ↔ ∃ entry ∈ segs', Preset.keyOf entry = key)

theorem SameKeys.of_forall₂ {segs segs' : List (List Char)}
    (h : List.Forall₂ (fun entry entry' => Preset.keyOf entry = Preset.keyOf entry') segs segs') :
    SameKeys segs segs' := by
  intro key hkey
  induction h with
  | nil => exact Iff.rfl
  | cons hhead _ ih => rw [List.exists_mem_cons_iff, List.exists_mem_cons_iff, hhead, ih]

/-- A restated list has the same keys. -/
theorem Restated.sameKeys {segs segs' : List (List Char)} (h : Restated segs segs') :
    SameKeys segs segs' := by
  induction h with
  | reorder segs segs' h =>
      intro key _
      simp only [h.mem_iff]
  | again segs entry h =>
      intro key _
      rw [List.exists_mem_cons_iff]
      constructor
      · exact Or.inr
      · rintro (hkey | hkey)
        · exact ⟨entry, h, hkey⟩
        · exact hkey
  | recase segs segs' h => exact .of_forall₂ (h.imp fun _ _ hcase => Preset.keyOf_recase hcase)
  | pad segs segs' h =>
      refine .of_forall₂ (h.imp ?_)
      rintro entry _ ⟨front, back, hfront, hback, rfl⟩
      exact (Preset.keyOf_pad front entry back hfront hback).symm
  | blank segs entry h =>
      intro key hkey
      -- The key of the new entry is empty, so it is none of those that count.
      rw [List.exists_mem_cons_iff, (Preset.keyOf_eq_nil_iff entry).mpr h]
      constructor
      · exact Or.inr
      · rintro (hnil | hkey)
        · exact absurd hnil.symm hkey
        · exact hkey
  | trans segs segs₁ segs' _ _ ih₁ ih₂ => exact fun key hkey => (ih₁ key hkey).trans (ih₂ key hkey)

/-- An entry of one list has a counterpart in the other that stands for the same
    preset. -/
theorem SameKeys.exists_entry {spec spec' : String}
    (h : SameKeys (spec.toList.splitOn ',') (spec'.toList.splitOn ',')) {entry : List Char}
    (hentry : entry ∈ entries spec) :
    ∃ entry' ∈ entries spec', ∀ p, Preset.ofName (String.ofList entry') = .ok p ↔
      Preset.ofName (String.ofList entry) = .ok p := by
  rcases (mem_entries_iff spec entry).mp hentry with ⟨hmem, hkey⟩
  rcases (h _ hkey).mp ⟨entry, hmem, rfl⟩ with ⟨entry', hmem', hkey'⟩
  rw [← hkey'] at hkey
  refine ⟨entry', (mem_entries_iff spec' entry').mpr ⟨hmem', hkey⟩, fun p => ?_⟩
  rw [Preset.ofName_eq_ok_iff, Preset.ofName_eq_ok_iff, hkey']

/-- Lists with the same keys are both good or neither, and stand for the same
    symbols. -/
theorem parse_of_sameKeys {spec spec' : String} {a : Alphabet} (ha : parse spec = .ok a)
    (h : SameKeys (spec.toList.splitOn ',') (spec'.toList.splitOn ',')) :
    ∃ a', parse spec' = .ok a' ∧ ∀ s, s ∈ a'.symbols ↔ s ∈ a.symbols := by
  have hback : SameKeys (spec'.toList.splitOn ',') (spec.toList.splitOn ',') :=
    fun key hkey => (h key hkey).symm
  rcases (parse_eq_ok_iff_entries spec a).mp ha with ⟨hne, presets, hpresets, -⟩
  -- Each entry of the other list names a preset, since its counterpart does.
  have hknown : ∀ entry' ∈ entries spec', ∃ p, Preset.ofName (String.ofList entry') = .ok p := by
    intro entry' hentry'
    rcases hback.exists_entry hentry' with ⟨entry, hentry, hsame⟩
    rcases (Preset.exists_forall₂_iff _).mp ⟨presets, hpresets⟩ entry hentry with ⟨p, hp⟩
    exact ⟨p, (hsame p).mp hp⟩
  have hne' : entries spec' ≠ [] := by
    rcases List.exists_mem_of_ne_nil _ hne with ⟨entry, hentry⟩
    rcases h.exists_entry hentry with ⟨entry', hentry', -⟩
    exact List.ne_nil_of_mem hentry'
  rcases (Preset.exists_forall₂_iff _).mpr hknown with ⟨presets', hpresets'⟩
  have ha' := (parse_eq_ok_iff_entries spec' _).mpr ⟨hne', presets', hpresets', rfl⟩
  refine ⟨_, ha', fun s => ?_⟩
  rw [mem_iff_of_parse ha', mem_iff_of_parse ha]
  constructor
  · rintro ⟨entry', hentry', p, hp, hs⟩
    rcases hback.exists_entry hentry' with ⟨entry, hentry, hsame⟩
    exact ⟨entry, hentry, p, (hsame p).mpr hp, hs⟩
  · rintro ⟨entry, hentry, p, hp, hs⟩
    rcases h.exists_entry hentry with ⟨entry', hentry', hsame⟩
    exact ⟨entry', hentry', p, (hsame p).mpr hp, hs⟩

/-- An alphabet made of presets has no more positions than the largest one, and
    no fewer than two. -/
theorem size_of_parse {spec : String} {a : Alphabet} (h : parse spec = .ok a) :
    a.symbols.Nodup ∧ 2 ≤ a.size ∧ a.size ≤ 88 := by
  have hmem := mem_iff_of_parse h
  rcases (parse_eq_ok_iff_entries spec a).mp h with ⟨hne, presets, hpresets, hunique⟩
  have hnodup : a.symbols.Nodup := by
    rw [hunique]
    exact nodup_firsts _
  refine ⟨hnodup, ?_, ?_⟩
  -- The preset of any entry is a part of the alphabet.
  · rcases List.exists_mem_of_ne_nil _ hne with ⟨entry, hentry⟩
    rcases (Preset.exists_forall₂_iff _).mp ⟨presets, hpresets⟩ entry hentry with ⟨p, hp⟩
    exact p.two_le_length a.symbols fun s hs => (hmem s).mpr ⟨entry, hentry, p, hp, hs⟩
  · have hsubset : a.symbols ⊆ Preset.password.alphabet.symbols := fun s hs => by
      rcases (hmem s).mp hs with ⟨_, _, p, _, hp⟩
      exact p.mem_password s hp
    rw [← Preset.size_password]
    exact (hnodup.subperm hsubset).length_le

end Alphabet

/-- Draws that look at single bytes, whatever the bound. -/
def Buffer.byteSource : Source Reservoir where
  draw bound := do
    let r ← get
    return (← drawByte bound.toNat r.entropy.patience : Nat)

/-- With several choices, but no more than there are bytes, the buffered source
    looks at single bytes. -/
theorem Buffer.source_draw_eq_byteSource (n : Nat) (hn : 2 ≤ n) (hle : n ≤ 256) :
    source.draw n = byteSource.draw n := by
  have hpos : ¬ (n : Int) ≤ 0 := by omega
  have hone : (n == 1) = false := beq_eq_false_iff_ne.mpr (by omega)
  unfold source byteSource choose
  simp only [if_neg hpos, Int.toNat_natCast, hone, Bool.false_eq_true, if_false, if_pos hle]
  rfl

theorem drawChars_congr {σ : Type} {source source' : Source σ} (a : Alphabet)
    (h : source.draw a.size = source'.draw a.size) (count : Nat) (drawn : List Char) :
    drawChars source a count drawn = drawChars source' a count drawn := by
  induction count generalizing drawn with
  | zero => rfl
  | succ count ih =>
      rw [drawChars, drawChars]
      simp only [drawChar, h, ih]

/-- Sources that answer draws from the alphabet alike serve a request alike. -/
theorem Generator.generate_congr {σ : Type} {source source' : Source σ} (g : Generator)
    (r : Request) (h : source.draw r.alphabet.size = source'.draw r.alphabet.size) :
    g.generate source r = g.generate source' r := by
  unfold generate drawString
  simp only [drawChars_congr r.alphabet h]

namespace Alphabet

/-- What a good list of presets stands for. The alphabet is not empty and
    repeats nothing. It holds the symbols of the presets that the entries name,
    in the order in which they first appear when these are written one after the
    other. All of them belong to the largest preset, so there are 88 positions
    at most. Writing the list differently, by reordering or repeating entries,
    by a change of case, or by blanks and blank entries, leaves it good and does
    not change the symbols. A generator that draws from the alphabet looks at
    single bytes only. -/
theorem list_stands_for_union (spec : String) (a : Alphabet) (h : parse spec = .ok a) :
    a.symbols ≠ [] ∧ a.symbols.Nodup ∧
    (∀ s, s ∈ a.symbols ↔ ∃ entry ∈ entries spec, ∃ p,
      Preset.ofName (String.ofList entry) = .ok p ∧ s ∈ p.alphabet.symbols) ∧
    (∃ presets : List Preset,
      List.Forall₂ (fun entry p => Preset.ofName (String.ofList entry) = .ok p) (entries spec)
        presets ∧
      ∀ s t, a.symbols.idxOf s < a.symbols.idxOf t ↔
        (presets.flatMap fun p => p.alphabet.symbols).idxOf s <
          (presets.flatMap fun p => p.alphabet.symbols).idxOf t) ∧
    (∀ s ∈ a.symbols, s ∈ Preset.password.alphabet.symbols) ∧ a.size ≤ 88 ∧
    (∀ spec' : String, Restated (spec.toList.splitOn ',') (spec'.toList.splitOn ',') →
      ∃ a', parse spec' = .ok a' ∧ ∀ s, s ∈ a'.symbols ↔ s ∈ a.symbols) ∧
    ∀ (g : Generator) (length : Int),
      g.generate Buffer.source ⟨a, length⟩ = g.generate Buffer.byteSource ⟨a, length⟩ := by
  rcases size_of_parse h with ⟨hnodup, htwo, hle⟩
  have hmem := mem_iff_of_parse h
  refine ⟨?_, hnodup, hmem, ?_, ?_, hle, ?_, ?_⟩
  · intro hnil
    rw [size, hnil] at htwo
    cases htwo
  · rcases (parse_eq_ok_iff_entries spec a).mp h with ⟨-, presets, hpresets, rfl⟩
    exact ⟨presets, hpresets, idxOf_firsts_lt_iff _⟩
  · intro s hs
    rcases (hmem s).mp hs with ⟨_, _, p, _, hp⟩
    exact p.mem_password s hp
  · intro spec' hrestated
    exact parse_of_sameKeys h hrestated.sameKeys
  · intro g length
    exact g.generate_congr _ (Buffer.source_draw_eq_byteSource a.size htwo (by omega))

/-- Two presets that share symbols, and the same two in another order, one of
    them capitalised, behind a blank entry. -/
theorem list_stands_for_union_restated :
    ∃ a a', parse "hex,digits" = .ok a ∧ a.size ≤ 88 ∧ parse " ,Digits,hex" = .ok a' ∧
      ∀ s, s ∈ a'.symbols ↔ s ∈ a.symbols := by
  have hgood : (parse "hex,digits").toOption.isSome = true := by decide +kernel
  have hsegs : "hex,digits".toList.splitOn ',' = ["hex".toList, "digits".toList] := by
    decide +kernel
  have hsegs' : " ,Digits,hex".toList.splitOn ',' = [[' '], "Digits".toList, "hex".toList] := by
    decide +kernel
  have hrestated : Restated ["hex".toList, "digits".toList]
      [[' '], "Digits".toList, "hex".toList] := by
    refine .trans _ ["digits".toList, "hex".toList] _ (.reorder _ _ (.swap _ _ _)) ?_
    refine .trans _ ["Digits".toList, "hex".toList] _ (.recase _ _ ?_) (.blank _ _ ?_)
    · exact .cons (by decide) (.cons rfl .nil)
    · exact List.forall_mem_singleton.mpr (by decide)
  rcases hparse : parse "hex,digits" with e | a
  · rw [hparse] at hgood
    cases hgood
  rcases list_stands_for_union "hex,digits" a hparse with ⟨-, -, -, -, -, hsize, hother, -⟩
  rcases hother " ,Digits,hex" (by rw [hsegs, hsegs']; exact hrestated) with ⟨a', ha', hsame⟩
  exact ⟨a, a', rfl, hsize, ha', hsame⟩

end Alphabet

end Passforge
