import Passforge.Alphabet.Preset

/-!
# Symbols and Characters

Which symbols stand for a character, and which alphabets hold only such
symbols. A symbol is any 32-bit number; the scalar values among them are shown
as the character they number, and everything else is shown as U+FFFD.

Alphabets that come from text hold scalar values only, whether they come from
given characters, from a preset, from a list of presets, or from dropping the
repetitions of another. `FromText` collects these ways of making an alphabet,
so that a fact about all of them is one induction.

## Main definitions

* `Symbol.IsScalar`: The symbol numbers a character.
* `Symbol.Shows`: The character a symbol is to be shown as, said without
  computing it.
* `Alphabet.FromText`: The alphabets that come from text.

## Theorems

* `Symbol.toChar_ofChar`, `Symbol.ofChar_toChar`: Characters and scalar values
  correspond.
* `Symbol.shows_toChar`: A symbol is shown as it is to be shown.
* `Alphabet.mem_firsts`: Dropping repetitions keeps the members.
* `Alphabet.FromText.isScalar`: An alphabet that comes from text holds scalar
  values.
-/

namespace Passforge

namespace Symbol

/-- The symbol is the number of a character. -/
def IsScalar (s : Symbol) : Prop :=
  0 ≤ s.toInt ∧ s.toInt.toNat.isValidChar

/-- The symbol is the number of `c`, or no number of a character and `c` is
    U+FFFD. -/
def Shows (s : Symbol) (c : Char) : Prop :=
  (s.IsScalar ∧ (c.toNat : Int) = s.toInt) ∨ (¬ s.IsScalar ∧ c = '\uFFFD')

theorem toNat_char_lt (c : Char) : c.toNat < 0x110000 := by
  rcases c.valid with h | h
  · exact Nat.lt_trans h (by decide)
  · exact h.2

theorem toInt_ofChar (c : Char) : (ofChar c).toInt = c.toNat := by
  -- Character numbers are far below the sign bit.
  have hlt := toNat_char_lt c
  unfold ofChar
  exact Int32.toInt_ofNat_of_lt (by omega)

theorem isScalar_ofChar (c : Char) : (ofChar c).IsScalar := by
  unfold IsScalar
  rw [toInt_ofChar, Int.toNat_natCast]
  exact ⟨Int.natCast_nonneg _, c.valid⟩

/-- A scalar value is shown as the character it numbers. -/
theorem toNat_toChar (s : Symbol) (h : s.IsScalar) : (s.toChar.toNat : Int) = s.toInt := by
  unfold toChar
  rw [dif_pos (show 0 ≤ s.toInt ∧ s.toInt.toNat.isValidChar from h)]
  exact Int.toNat_of_nonneg h.1

theorem toChar_ofChar (c : Char) : (ofChar c).toChar = c := by
  have h := toNat_toChar (ofChar c) (isScalar_ofChar c)
  rw [toInt_ofChar, Int.natCast_inj] at h
  exact Char.ext (UInt32.toNat_inj.mp h)

theorem ofChar_toChar (s : Symbol) (h : s.IsScalar) : ofChar s.toChar = s := by
  rw [← Int32.toInt_inj, toInt_ofChar]
  exact toNat_toChar s h

theorem shows_toChar (s : Symbol) : s.Shows s.toChar := by
  by_cases h : s.IsScalar
  · exact Or.inl ⟨h, toNat_toChar s h⟩
  · refine Or.inr ⟨h, ?_⟩
    unfold toChar
    rw [dif_neg (show ¬ (0 ≤ s.toInt ∧ s.toInt.toNat.isValidChar) from h)]
    rfl

end Symbol

namespace Alphabet

theorem mem_firsts (s : Symbol) (l : List Symbol) : s ∈ firsts l ↔ s ∈ l := by
  induction l with
  | nil => exact Iff.rfl
  | cons t l ih =>
      rw [firsts, List.mem_cons, List.mem_cons, List.mem_filter, ih]
      constructor
      · rintro (h | h)
        · exact Or.inl h
        · exact Or.inr h.1
      -- A symbol other than the first one survives the filter behind it.
      · intro h
        by_cases hst : s = t
        · exact Or.inl hst
        · exact Or.inr ⟨h.resolve_left hst, bne_iff_ne.mpr hst⟩

theorem contains_iff (a : Alphabet) (s : Symbol) : a.contains s = true ↔ s ∈ a.symbols := by
  rw [contains, List.contains_iff_mem]

/-- The alphabets that come from text. -/
inductive FromText : Alphabet → Prop
  | characters (bytes : ByteArray) : FromText (ofBytes bytes)
  | preset (name : ByteArray) (p : Preset) (h : Preset.ofBytes name = .ok p) : FromText p.alphabet
  | list (spec : String) (a : Alphabet) (h : parse spec = .ok a) : FromText a
  | unique (a : Alphabet) (h : FromText a) : FromText a.unique

theorem isScalar_of_mem_ofChars (cs : List Char) (s : Symbol) (h : s ∈ (ofChars cs).symbols) :
    s.IsScalar := by
  rcases List.mem_map.mp h with ⟨c, _, rfl⟩
  exact Symbol.isScalar_ofChar c

/-- A list of presets stands for symbols of its presets. -/
theorem mem_parse (spec : String) (a : Alphabet) (h : parse spec = .ok a) (s : Symbol)
    (hs : s ∈ a.symbols) : ∃ p : Preset, s ∈ p.alphabet.symbols := by
  unfold parse at h
  split at h
  · cases h
  · rcases hm : (presetNames spec).mapM Preset.ofName with e | presets
    · rw [hm] at h
      cases h
    · rw [hm] at h
      cases h
      rcases List.mem_flatMap.mp ((mem_firsts s _).mp hs) with ⟨p, _, hp⟩
      exact ⟨p, hp⟩

/-- An alphabet that comes from text holds scalar values only. -/
theorem FromText.isScalar (a : Alphabet) (ha : a.FromText) : ∀ s ∈ a.symbols, s.IsScalar := by
  induction ha with
  | characters bytes => exact fun s => isScalar_of_mem_ofChars _ s
  | preset name p _ => exact fun s => isScalar_of_mem_ofChars _ s
  | list spec a h =>
      intro s hs
      rcases mem_parse spec a h s hs with ⟨p, hp⟩
      exact isScalar_of_mem_ofChars _ s hp
  | unique a _ ih => exact fun s hs => ih s ((mem_firsts s a.symbols).mp hs)

end Alphabet

end Passforge
