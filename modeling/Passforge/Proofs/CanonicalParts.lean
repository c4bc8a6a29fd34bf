import Passforge.Proofs.CanonicalTables

/-!
# Characters and Their Parts

What decomposing and joining do to single characters, Hangul included. Parts
have no parts, so decomposing a text once is enough. Joining undoes decomposing
in one direction: whatever two characters are joined into has the parts of the
first and then the second.

The other direction does not hold for all characters, since some are never
joined again. Below U+0800 it holds for all that have parts but the retired ones:
the parts are a character that starts a run and marks behind it.

What joins another character extends a run of marks, so that the two are never
kept apart by the count of marks.

Syllables are numbered by their letters, so a syllable and its parts are
compared by division with remainder.

## Main definitions

* `IsStable`: A character that is its own decomposition.
* `Rejoins`: A character that is joined again from its parts.

## Theorems

* `decomposition_eq`, `decomposition_syllable`: The parts of a character.
* `isStable_of_mem_decomposition`: Parts have no parts.
* `decomposition_of_composition`: The parts of what two characters join into.
* `freshRun?_of_composition`, `mayJoin_of_composition`: What joins extends a run.
* `rejoins_of_lt`: Characters below U+0300 are joined again from their parts.
* `rejoins_or_retired`: What else there is below U+0800.
-/

namespace Passforge.Text.Canonical

/-- The character is its own decomposition. -/
def IsStable (c : Char) : Prop :=
  decomposition c = [c]

theorem IsStable.decomposition_eq {c : Char} (h : IsStable c) : decomposition c = [c] := h

theorem toNat_ofNat {n : Nat} (h : n.isValidChar) : (Char.ofNat n).toNat = n := by
  unfold Char.ofNat
  rw [dif_pos h]
  rfl

theorem syllableCount_eq : syllableCount = 11172 := rfl

/-- The number of a Hangul syllable. -/
def isSyllable (n : Nat) : Bool :=
  syllableBase ≤ n && n < syllableBase + syllableCount

theorem isPlain_iff (n : Nat) :
    isPlain n = true ↔ n < 0xAC00 ∨ 0xE000 ≤ n ∧ n < 0x110000 := by
  unfold isPlain
  rw [Bool.or_eq_true, Bool.and_eq_true, Nat.blt_eq, Nat.ble_eq, Nat.blt_eq]

theorem isValidChar_of_isPlain {n : Nat} (h : isPlain n = true) : n.isValidChar := by
  rw [isPlain_iff] at h
  exact h.imp (fun hlow => by omega) fun hhigh => by omega

theorem isSyllable_of_isPlain {n : Nat} (h : isPlain n = true) : isSyllable n = false := by
  rw [isPlain_iff] at h
  unfold isSyllable syllableBase
  rw [Bool.and_eq_false_iff, decide_eq_false_iff_not, decide_eq_false_iff_not, syllableCount_eq]
  omega

section Parts

theorem syllableParts?_eq_none {c : Char} (h : isSyllable c.toNat = false) :
    syllableParts? c = none := by
  unfold isSyllable at h
  unfold syllableParts?
  rw [h]
  exact if_neg Bool.false_ne_true

/-- A character that is no syllable has the parts that the table gives. -/
theorem decomposition_eq {c : Char} (h : isSyllable c.toNat = false) :
    decomposition c = ((partsOf? c.toNat).getD [c.toNat]).map Char.ofNat := by
  unfold decomposition
  rw [syllableParts?_eq_none h, tableDecomposition_eq]
  rcases partsOf? c.toNat with _ | parts
  · simp
  · rfl

theorem isStable_of_no_parts {c : Char} (h : isSyllable c.toNat = false)
    (hparts : partsOf? c.toNat = none) : IsStable c := by
  unfold IsStable
  rw [decomposition_eq h, hparts]
  simp

/-- The letters of Hangul are stable. -/
theorem isStable_of_letter {n : Nat} (hlow : 0x1100 ≤ n) (hhigh : n < 0x1200) :
    IsStable (Char.ofNat n) := by
  have hn : (Char.ofNat n).toNat = n := toNat_ofNat (.inl (by omega))
  refine isStable_of_no_parts ?_ ?_
  · unfold isSyllable syllableBase
    rw [hn, Bool.and_eq_false_iff, decide_eq_false_iff_not]
    omega
  · rw [hn]
    rcases hparts : partsOf? n with _ | parts
    · rfl
    · have hrow := (partsTable.fits _ (mem_of_partsOf? hparts)).2.1
      simp only at hrow
      omega

theorem isStable_joiner : IsStable joiner :=
  isStable_of_no_parts (by decide) (by decide +kernel)

end Parts

section Syllables

theorem toNat_syllable {index : Nat} (h : index < syllableCount) :
    (Char.ofNat (syllableBase + index)).toNat = syllableBase + index := by
  rw [syllableCount_eq] at h
  exact toNat_ofNat (.inl (by unfold syllableBase; omega))

theorem exists_index_of_isSyllable {c : Char} (h : isSyllable c.toNat = true) :
    ∃ index < syllableCount, c = Char.ofNat (syllableBase + index) := by
  unfold isSyllable at h
  rw [Bool.and_eq_true, decide_eq_true_iff, decide_eq_true_iff] at h
  refine ⟨c.toNat - syllableBase, by omega, ?_⟩
  rw [Nat.add_sub_cancel' h.1, Char.ofNat_toNat]

/-- The parts of the syllable with the given number. -/
theorem decomposition_syllable {index : Nat} (h : index < syllableCount) :
    decomposition (Char.ofNat (syllableBase + index))
      = Char.ofNat (0x1100 + index / 588) :: Char.ofNat (0x1161 + index % 588 / 28) ::
          if index % 28 = 0 then [] else [Char.ofNat (0x11A7 + index % 28)] := by
  have hrange : (decide (syllableBase ≤ syllableBase + index) &&
      decide (syllableBase + index < syllableBase + syllableCount)) = true := by
    rw [Bool.and_eq_true, decide_eq_true_iff, decide_eq_true_iff]
    omega
  unfold decomposition syllableParts?
  rw [toNat_syllable h, if_pos hrange, Nat.add_sub_cancel_left]
  by_cases htrail : index % 28 = 0
  · rw [if_pos htrail]
    exact if_pos (beq_iff_eq.mpr htrail)
  · rw [if_neg htrail]
    exact if_neg (by rw [beq_iff_eq]; exact htrail)

/-- A lead and a vowel form the syllable without a trail. -/
theorem decomposition_lead_vowel (lead vowel : Nat) (hlead : lead < 19) (hvowel : vowel < 21) :
    decomposition (Char.ofNat (syllableBase + (lead * 21 + vowel) * 28))
      = [Char.ofNat (0x1100 + lead), Char.ofNat (0x1161 + vowel)] := by
  rw [decomposition_syllable (by rw [syllableCount_eq]; omega), if_pos (by omega),
    show (lead * 21 + vowel) * 28 / 588 = lead by omega,
    show (lead * 21 + vowel) * 28 % 588 / 28 = vowel by omega]

/-- A trail goes behind the parts of a syllable without one. -/
theorem decomposition_trail {index trail : Nat} (h : index < syllableCount)
    (hnone : index % 28 = 0) (hpos : 0 < trail) (hlt : trail < 28) :
    decomposition (Char.ofNat (syllableBase + (index + trail)))
      = decomposition (Char.ofNat (syllableBase + index)) ++ [Char.ofNat (0x11A7 + trail)] := by
  have hcount := syllableCount_eq
  rw [decomposition_syllable h, decomposition_syllable (by omega), if_pos hnone,
    if_neg (by omega), show (index + trail) / 588 = index / 588 by omega,
    show (index + trail) % 588 / 28 = index % 588 / 28 by omega,
    show (index + trail) % 28 = trail by omega]
  rfl

/-- The parts of a syllable that two Hangul characters form. -/
theorem decomposition_of_syllable? {a b c : Char} (h : syllable? a b = some c) :
    decomposition c = decomposition a ++ [b] := by
  unfold syllable? at h
  split at h
  · rename_i hletters
    simp only [Bool.and_eq_true, decide_eq_true_eq] at hletters
    obtain ⟨⟨⟨hlead, hlead'⟩, hvowel⟩, hvowel'⟩ := hletters
    unfold leadBase at hlead
    unfold leadBase leadCount at hlead'
    unfold vowelBase at hvowel
    unfold vowelBase vowelCount at hvowel'
    have hstable : decomposition a = [a] := by
      have hletter := isStable_of_letter hlead (by omega)
      rwa [Char.ofNat_toNat] at hletter
    rw [Option.some.injEq] at h
    rw [← h, hstable]
    refine (decomposition_lead_vowel (a.toNat - 0x1100) (b.toNat - 0x1161) (by omega)
      (by omega)).trans ?_
    rw [Nat.add_sub_cancel' hlead, Nat.add_sub_cancel' hvowel, Char.ofNat_toNat, Char.ofNat_toNat]
    rfl
  · split at h
    · rename_i hletters
      simp only [Bool.and_eq_true, decide_eq_true_eq, beq_iff_eq] at hletters
      obtain ⟨⟨⟨⟨hlow, hhigh⟩, hnone⟩, htrail⟩, htrail'⟩ := hletters
      unfold trailBase at htrail
      unfold trailBase trailCount at htrail'
      obtain ⟨index, hindex, rfl⟩ := exists_index_of_isSyllable (c := a)
        (by rw [isSyllable, decide_eq_true hlow, decide_eq_true hhigh]; rfl)
      rw [toNat_syllable hindex, Nat.add_sub_cancel_left] at hnone
      rw [Option.some.injEq, toNat_syllable hindex, Nat.add_assoc] at h
      rw [← h]
      refine (decomposition_trail hindex hnone (Nat.sub_pos_of_lt htrail)
        (show b.toNat - 0x11A7 < 28 by omega)).trans ?_
      rw [Nat.add_sub_cancel' (Nat.le_of_lt htrail), Char.ofNat_toNat]
    · cases h

end Syllables

section Characters

/-- Parts have no parts. -/
theorem isStable_of_mem_decomposition {c part : Char} (h : part ∈ decomposition c) :
    IsStable part := by
  rcases hsyllable : isSyllable c.toNat with _ | _
  · rw [decomposition_eq hsyllable] at h
    obtain ⟨n, hn, rfl⟩ := List.mem_map.mp h
    rcases hparts : partsOf? c.toNat with _ | parts
    -- Without a row the character is its only part.
    · rw [hparts] at hn
      rw [List.mem_singleton.mp hn, Char.ofNat_toNat]
      exact isStable_of_no_parts hsyllable hparts
    · rw [hparts] at hn
      have hrow := mem_of_partsOf? hparts
      have hplain := List.all_eq_true.mp (partsTable.fits _ hrow).2.2.2 n hn
      have htoNat := toNat_ofNat (isValidChar_of_isPlain hplain)
      exact isStable_of_no_parts (htoNat.symm ▸ isSyllable_of_isPlain hplain)
        (htoNat.symm ▸ parts_have_no_parts _ hrow n hn)
  · obtain ⟨index, hindex, rfl⟩ := exists_index_of_isSyllable hsyllable
    rw [decomposition_syllable hindex, List.mem_cons, List.mem_cons] at h
    rw [syllableCount_eq] at hindex
    rcases h with rfl | rfl | h
    · exact isStable_of_letter (by omega) (by omega)
    · exact isStable_of_letter (by omega) (by omega)
    · by_cases htrail : index % 28 = 0
      · rw [if_pos htrail] at h
        cases h
      · rw [if_neg htrail, List.mem_singleton] at h
        rw [h]
        exact isStable_of_letter (by omega) (by omega)

/-- No character has many parts. -/
theorem length_decomposition_le (c : Char) : (decomposition c).length ≤ 4 := by
  rcases hsyllable : isSyllable c.toNat with _ | _
  · rw [decomposition_eq hsyllable, List.length_map]
    rcases hparts : partsOf? c.toNat with _ | parts
    · exact Nat.le_of_ble_eq_true rfl
    · exact (partsTable.fits _ (mem_of_partsOf? hparts)).2.2.1
  · obtain ⟨index, hindex, rfl⟩ := exists_index_of_isSyllable hsyllable
    rw [decomposition_syllable hindex]
    split
    · exact Nat.le_of_ble_eq_true rfl
    · exact Nat.le_of_ble_eq_true rfl

/-- What two characters join into has the parts of the first and then the
    second. -/
theorem decomposition_of_composition {a b c : Char} (h : composition a b = some c) :
    decomposition c = decomposition a ++ [b] := by
  unfold composition at h
  split at h
  · rename_i joined hsyllable
    rw [Option.some.injEq] at h
    exact decomposition_of_syllable? (h ▸ hsyllable)
  · obtain ⟨n, hrow, rfl⟩ := exists_row_of_tableComposition h
    obtain ⟨-, ⟨hfirst, -⟩, hjoined, hparts, -⟩ := pairTable.fits _ hrow
    simp only at hfirst hjoined hparts
    have hn := toNat_ofNat (isValidChar_of_isPlain hjoined)
    rw [decomposition_eq (hn.symm ▸ isSyllable_of_isPlain hjoined),
      decomposition_eq (isSyllable_of_isPlain hfirst), hn, hparts, Option.getD_some,
      List.map_append, List.map_cons, Char.ofNat_toNat, List.map_nil]

/-- Behind any character, one that is no Hangul letter is joined as the table
    says. -/
theorem composition_eq (a : Char) {b : Char} (h : b.toNat < 0x1100) :
    composition a b = joinedChar? a b := by
  have hnone : syllable? a b = none := by
    unfold syllable? vowelBase trailBase
    rw [if_neg, if_neg]
    · simp only [Bool.and_eq_true, decide_eq_true_eq]
      omega
    · simp only [Bool.and_eq_true, decide_eq_true_eq]
      omega
  unfold composition
  rw [hnone, tableComposition_eq]

theorem foldlM_composition_eq {marks : List Char} (h : ∀ mark ∈ marks, mark.toNat < 0x1100)
    (first : Char) : marks.foldlM composition first = marks.foldlM joinedChar? first := by
  induction marks generalizing first with
  | nil => rw [List.foldlM_nil, List.foldlM_nil]
  | cons mark marks ih =>
      rw [List.foldlM_cons, List.foldlM_cons, composition_eq first (h mark List.mem_cons_self)]
      refine bind_congr fun joined => ih (fun other hother => ?_) joined
      exact h other (List.mem_cons_of_mem mark hother)

end Characters

section Runs

theorem exists_range_of_rangeValue? {α : Type} {ranges : List (CodeRange α)} {c : Char} {value : α}
    (h : rangeValue? ranges c = some value) :
    ∃ r ∈ ranges, r.first ≤ c.toNat ∧ c.toNat ≤ r.last ∧ r.value = value := by
  obtain ⟨r, hfind, hvalue⟩ := Option.map_eq_some_iff.mp h
  have hrange := List.find?_some hfind
  rw [Bool.and_eq_true, decide_eq_true_iff, decide_eq_true_iff] at hrange
  exact ⟨r, List.mem_of_find?_eq_some hfind, hrange.1, hrange.2, hvalue⟩

theorem isStarter_of_lt {c : Char} (h : c.toNat < 0x300) : isStarter c = true :=
  beq_iff_eq.mpr (if_pos h)

theorem freshRun?_of_mark {c : Char} (h : isStarter c = false) : freshRun? c = none := by
  rw [freshRun?, h]
  exact if_neg Bool.false_ne_true

theorem isStarter_of_freshRun? {c : Char} (h : (freshRun? c).isSome = true) :
    isStarter c = true := by
  rcases hmark : isStarter c with _ | _
  · rw [freshRun?_of_mark hmark] at h
    cases h
  · rfl

theorem combiningClass_of_freshRun? {c : Char} (h : (freshRun? c).isSome = true) :
    combiningClass c = 0 :=
  beq_iff_eq.mp (isStarter_of_freshRun? h)

/-- No character starts a run with many marks in it. -/
theorem freshRun?_le {c : Char} {n : Nat} (h : freshRun? c = some n) : n ≤ 3 := by
  have hshort : ∀ r ∈ runRanges, r.value.getD 0 ≤ 3 := by decide
  unfold freshRun? at h
  split at h
  · rcases hvalue : rangeValue? runRanges c with _ | value
    · rw [hvalue] at h
      cases h
      exact Nat.zero_le 3
    · rw [hvalue] at h
      obtain ⟨r, hr, -, -, rfl⟩ := exists_range_of_rangeValue? hvalue
      have hle := hshort r hr
      rwa [show r.value = some n from h] at hle
  · cases h

/-- What extends a run comes late in the table. -/
theorem freshRun?_of_lt {c : Char} (h : c.toNat < 0x300) : (freshRun? c).isSome = true := by
  have hlate : ∀ r ∈ runRanges, r.value = none → 0x300 ≤ r.first := by decide
  rw [freshRun?, if_pos (isStarter_of_lt h)]
  rcases hvalue : rangeValue? runRanges c with _ | value
  · rfl
  · obtain ⟨r, hr, hfirst, -, rfl⟩ := exists_range_of_rangeValue? hvalue
    rcases hnone : r.value with _ | n
    · have hle := hlate r hr hnone
      omega
    · rfl

theorem freshRun?_of_isConjoining {c : Char} (h : isConjoining c = true) : freshRun? c = none := by
  have hletters : ∀ n ∈ List.range' 0x1161 21 ++ List.range' 0x11A8 27,
      freshRun? (Char.ofNat n) = none := by decide +kernel
  unfold isConjoining vowelBase vowelCount trailBase trailCount at h
  simp only [Bool.or_eq_true, Bool.and_eq_true, decide_eq_true_eq] at h
  have hmem : c.toNat ∈ List.range' 0x1161 21 ++ List.range' 0x11A8 27 := by
    rw [List.mem_append, List.mem_range'_1, List.mem_range'_1]
    omega
  have hletter := hletters c.toNat hmem
  rwa [Char.ofNat_toNat] at hletter

theorem isConjoining_of_syllable? {a b c : Char} (h : syllable? a b = some c) :
    isConjoining b = true := by
  unfold syllable? at h
  unfold isConjoining
  split at h
  · rename_i hletters
    simp only [Bool.and_eq_true, decide_eq_true_eq] at hletters
    simp [hletters]
  · split at h
    · rename_i hletters
      simp only [Bool.and_eq_true, decide_eq_true_eq] at hletters
      simp [hletters]
    · cases h

/-- A character joins another one from a row of the table or as a letter of
    Hangul. -/
theorem row_or_isConjoining_of_composition {a b c : Char} (h : composition a b = some c) :
    (∃ n, (a.toNat, b.toNat, n) ∈ pairTable.rows) ∨ isConjoining b = true := by
  unfold composition at h
  split at h
  · rename_i joined hsyllable
    exact .inr (isConjoining_of_syllable? hsyllable)
  · obtain ⟨n, hrow, -⟩ := exists_row_of_tableComposition h
    exact .inl ⟨n, hrow⟩

/-- What joins another character extends a run. -/
theorem freshRun?_of_composition {a b c : Char} (h : composition a b = some c) :
    freshRun? b = none := by
  rcases row_or_isConjoining_of_composition h with ⟨n, hrow⟩ | hletter
  · have hfresh := (pairTable.fits _ hrow).2.2.2.2
    rwa [Char.ofNat_toNat] at hfresh
  · exact freshRun?_of_isConjoining hletter

theorem mayJoin_of_composition {a b c : Char} (h : composition a b = some c) :
    mayJoin b = true := by
  unfold mayJoin
  rw [Bool.or_eq_true]
  rcases row_or_isConjoining_of_composition h with ⟨n, hrow⟩ | hletter
  · rw [compositions_eq, List.any_eq_true]
    exact .inr ⟨_, hrow, beq_iff_eq.mpr rfl⟩
  · exact .inl hletter

end Runs

section Rejoining

/-- The character is joined again from its parts: one that starts a run, and
    marks in order behind it. -/
def Rejoins (c : Char) : Prop :=
  ∃ first marks, decomposition c = first :: marks ∧ (freshRun? first).isSome = true ∧
    marks.foldlM composition first = some c ∧
    marks.Pairwise fun mark other => combiningClass mark ≤ combiningClass other

theorem rejoins_of_isStable {c : Char} (h : IsStable c) (hfresh : (freshRun? c).isSome = true) :
    Rejoins c :=
  ⟨c, [], h, hfresh, rfl, List.Pairwise.nil⟩

/-- Below U+0800 there are characters that are joined again, retired ones, and
    others that have no parts and extend a run. -/
theorem rejoins_or_retired {c : Char} (h : c.toNat < 0x800) :
    Rejoins c ∨ c ∈ retired ∨ IsStable c ∧ freshRun? c = none := by
  have hsyllable : isSyllable c.toNat = false := by
    unfold isSyllable syllableBase
    rw [Bool.and_eq_false_iff, decide_eq_false_iff_not]
    omega
  rcases hparts : partsOf? c.toNat with _ | parts
  · have hstable := isStable_of_no_parts hsyllable hparts
    rcases hfresh : freshRun? c with _ | n
    · exact .inr (.inr ⟨hstable, rfl⟩)
    · exact .inl (rejoins_of_isStable hstable (Option.isSome_of_eq_some hfresh))
  · rcases rejoined_rows _ (mem_of_partsOf? hparts) h with hretired |
      ⟨first, hfirst, hfresh, hmarks, hjoined, hordered⟩
    · rw [Char.ofNat_toNat] at hretired
      exact .inr (.inl hretired)
    · rcases parts with _ | ⟨n, marks⟩
      · cases hfirst
      · obtain rfl : n = first := Option.some.inj hfirst
        simp only [List.tail_cons, Char.ofNat_toNat] at hmarks hjoined hordered
        refine .inl ⟨Char.ofNat n, marks.map Char.ofNat, ?_, hfresh, ?_, ?_⟩
        · rw [decomposition_eq hsyllable, hparts]
          rfl
        · rw [foldlM_composition_eq, hjoined]
          intro mark hmark
          obtain ⟨m, hm, rfl⟩ := List.mem_map.mp hmark
          have hlt := hmarks m hm
          rw [toNat_ofNat (.inl (by omega))]
          exact hlt
        · rw [List.pairwise_map] at hordered ⊢
          exact hordered

/-- A character below U+0300 is joined again from its parts. -/
theorem rejoins_of_lt {c : Char} (h : c.toNat < 0x300) : Rejoins c := by
  have hlate : ∀ d ∈ retired, 0x300 ≤ d.toNat := by simp [retired]
  rcases rejoins_or_retired (Nat.lt_trans h (by decide)) with hrejoins | hretired | ⟨-, hfresh⟩
  · exact hrejoins
  · have hle := hlate c hretired
    omega
  · have hsome := freshRun?_of_lt h
    rw [hfresh] at hsome
    cases hsome

end Rejoining

end Passforge.Text.Canonical
