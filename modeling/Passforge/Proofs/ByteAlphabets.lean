import Passforge.Proofs.NormalForm
import Passforge.Proofs.Planning

/-!
# Alphabets of Raw Bytes

How near the alphabet of a byte string comes to a normal form. Bytes that break
off in the middle of a sequence are not brought into normal form from there on,
so an alphabet may hold what normalising would have replaced, and the text of
the alphabet gives another one.

This takes a character that is replaced, in the little room there is. What is
broken off is the announcing byte and two bytes more at the most
(`byteCount_le_of_breaksOff`). It shows as U+FFFD, which divides a text, so the
rest is looked at by itself. A character of one byte is its own normal form, and
so is one of two bytes, joined again from its parts, unless it is retired
(`normalize_broken`). Hence one retired character behind a byte that announces
four is the only exception, as far as the composer overlooks no starter.

## Main definitions

* `EndsInRetired`: The exception.

## Theorems

* `breakOff_append`, `append_breakOff`: Where bytes are cut.
* `normalize_broken`: What normalising does to what is broken off.
* `Alphabet.text_alphabets_nearly_normal`: When the text of an alphabet gives the
  alphabet back, and what the alphabet holds.
-/

namespace Passforge

namespace Text

section BreakingOff

/-- How many bytes the pieces have. -/
def byteCount : List Piece → Nat
  | [] => 0
  | p :: ps => p.width + byteCount ps

theorem byteCount_cons (p : Piece) (ps : List Piece) :
    byteCount (p :: ps) = p.width + byteCount ps := rfl

theorem byteCount_append (ps qs : List Piece) :
    byteCount (ps ++ qs) = byteCount ps + byteCount qs := by
  induction ps with
  | nil => exact (Nat.zero_add _).symm
  | cons p ps ih => rw [List.cons_append, byteCount_cons, byteCount_cons, ih, Nat.add_assoc]

theorem Piece.width_pos (p : Piece) : 0 < p.width := by
  cases p with
  | scalar c => exact c.utf8Size_pos
  | stray b => exact Nat.one_pos

theorem haveBytes_iff (n : Nat) (ps : List Piece) : haveBytes n ps = true ↔ n ≤ byteCount ps := by
  fun_induction haveBytes n ps with
  | case1 => exact iff_of_true rfl (Nat.zero_le _)
  | case2 n => exact iff_of_false Bool.false_ne_true (Nat.not_succ_le_zero n)
  | case3 n p rest ih =>
      rw [ih, byteCount_cons]
      omega

theorem announcedWidth_le (b : UInt8) : announcedWidth b ≤ 4 := by
  unfold announcedWidth
  split_ifs <;> decide

theorem announcedWidth_eq_four_iff (b : UInt8) : announcedWidth b = 4 ↔ 0xF0 ≤ b ∧ b < 0xF8 := by
  have hall : ∀ n < 256, announcedWidth (UInt8.ofNat n) = 4 ↔
      0xF0 ≤ UInt8.ofNat n ∧ UInt8.ofNat n < 0xF8 := by decide +kernel
  have hb := hall b.toNat b.toNat_lt
  rwa [UInt8.ofNat_toNat] at hb

/-- What breaks off is a stray byte with fewer bytes than it announces. -/
theorem breaksOff_iff (ps : List Piece) :
    breaksOff ps = true ↔
      ∃ b rest, ps = .stray b :: rest ∧ byteCount rest < announcedWidth b - 1 := by
  rcases ps with _ | ⟨c | b, rest⟩
  · exact iff_of_false Bool.false_ne_true fun ⟨_, _, h, _⟩ => nomatch h
  · exact iff_of_false Bool.false_ne_true fun ⟨_, _, h, _⟩ => nomatch h
  · have hbreaks : breaksOff (.stray b :: rest) = true ↔ byteCount rest < announcedWidth b - 1 := by
      rw [breaksOff, Bool.not_eq_true', ← Bool.not_eq_true, haveBytes_iff, Nat.not_le]
    rw [hbreaks]
    constructor
    · exact fun h => ⟨b, rest, rfl, h⟩
    · rintro ⟨b', rest', heq, h⟩
      cases heq
      exact h

/-- Not more than three bytes break off. -/
theorem byteCount_le_of_breaksOff {ps : List Piece} (h : breaksOff ps = true) :
    byteCount ps ≤ 3 := by
  obtain ⟨b, rest, rfl, hrest⟩ := (breaksOff_iff ps).mp h
  have hle := announcedWidth_le b
  rw [byteCount_cons, show (Piece.stray b).width = 1 from rfl]
  omega

/-- Nothing is lost where bytes break off. -/
theorem append_breakOff (ps : List Piece) : (breakOff ps).1 ++ (breakOff ps).2 = ps := by
  induction ps with
  | nil => rfl
  | cons p ps ih =>
      rw [breakOff]
      split
      · rfl
      · exact congrArg (p :: ·) ih

theorem breakOff_broken (ps : List Piece) :
    (breakOff ps).2 = [] ∨ breaksOff (breakOff ps).2 = true := by
  induction ps with
  | nil => exact .inl rfl
  | cons p ps ih =>
      rw [breakOff]
      split
      · exact .inr ‹_›
      · exact ih

/-- Three bytes that break off are cut from whatever stands before them. -/
theorem breakOff_append {back : List Piece} (hbreaks : breaksOff back = true)
    (hcount : byteCount back = 3) (front : List Piece) :
    breakOff (front ++ back) = (front, back) := by
  induction front with
  | nil =>
      rcases back with _ | ⟨p, rest⟩
      · cases hcount
      · exact if_pos hbreaks
  | cons p front ih =>
      have hwhole : ¬ breaksOff (p :: (front ++ back)) = true := by
        intro h
        have hle := byteCount_le_of_breaksOff h
        have hpos := p.width_pos
        rw [byteCount_cons, byteCount_append] at hle
        omega
      rw [List.cons_append, breakOff, if_neg hwhole, ih]

end BreakingOff

section Broken

open Canonical

/-- The pieces end in a retired character right behind a byte that announces
    four. -/
def EndsInRetired (ps : List Piece) : Prop :=
  ∃ front b c, ps = front ++ [.stray b, .scalar c] ∧ (0xF0 ≤ b ∧ b < 0xF8) ∧ c ∈ retired

theorem isStable_replacement : IsStable replacement :=
  isStable_of_no_parts (by decide) (by decide +kernel)

theorem freshRun?_replacement : freshRun? replacement = some 0 := by decide +kernel

theorem isSome_freshRun?_replacement : (freshRun? replacement).isSome = true :=
  Option.isSome_of_eq_some freshRun?_replacement

theorem rejoins_replacement : Rejoins replacement :=
  rejoins_of_isStable isStable_replacement isSome_freshRun?_replacement

/-- Nothing of two bytes joins U+FFFD. -/
theorem composition_replacement {c : Char} (h : c.toNat < 0x800) :
    composition replacement c = none := by
  rcases hjoined : composition replacement c with _ | joined
  · rfl
  · rcases row_or_isConjoining_of_composition hjoined with ⟨n, hrow⟩ | hletter
    · exact absurd rfl (pairTable.fits _ hrow).2.1.2
    · unfold isConjoining vowelBase trailBase at hletter
      simp only [Bool.or_eq_true, Bool.and_eq_true, decide_eq_true_eq] at hletter
      omega

theorem utf8Size_of_retired {c : Char} (h : c ∈ retired) : c.utf8Size = 2 := by
  have hall : retired.all (·.utf8Size == 2) = true := by decide
  exact beq_iff_eq.mp (List.all_eq_true.mp hall c h)

theorem normalize_retired {c : Char} (h : c ∈ retired) :
    normalize [replacement, c] ≠ [replacement, c] := by
  have hall : retired.all (fun c => normalize [replacement, c] != [replacement, c]) = true := by
    decide +kernel
  exact bne_iff_ne.mp (List.all_eq_true.mp hall c h)

/-- Pieces of one byte are their own normal form. -/
theorem Piece.rejoins_toChar {p : Piece} (h : p.width = 1) : Rejoins p.toChar := by
  cases p with
  | scalar c =>
      have hle := UInt32.le_iff_toNat_le.mp (Char.utf8Size_eq_one_iff.mp h)
      exact rejoins_of_lt (Nat.lt_of_le_of_lt hle (by decide))
  | stray b => exact rejoins_replacement

theorem endsInRetired_pair {b : UInt8} {c : Char} :
    EndsInRetired [.stray b, .scalar c] ↔ (0xF0 ≤ b ∧ b < 0xF8) ∧ c ∈ retired := by
  constructor
  · rintro ⟨front, b', c', heq, hb, hc⟩
    have hpair := (List.append_inj' (show [] ++ [Piece.stray b, .scalar c] = _ from heq) rfl).2
    cases hpair
    exact ⟨hb, hc⟩
  · exact fun ⟨hb, hc⟩ => ⟨[], b, c, rfl, hb, hc⟩

/-- Two bytes at the most are a character of two bytes, or pieces of one. -/
theorem pieces_of_byteCount_le {ps : List Piece} (h : byteCount ps ≤ 2) :
    (∃ c, ps = [.scalar c] ∧ c.utf8Size = 2) ∨ ∀ p ∈ ps, p.width = 1 := by
  rcases ps with _ | ⟨p, ps⟩
  · exact .inr (List.forall_mem_nil _)
  · have hp := p.width_pos
    rw [byteCount_cons] at h
    rcases ps with _ | ⟨q, ps⟩
    · by_cases hwide : p.width = 2
      · cases p with
        | scalar c => exact .inl ⟨c, rfl, hwide⟩
        | stray b => cases hwide
      · have hone : p.width = 1 := by omega
        exact .inr (List.forall_mem_singleton.mpr hone)
    · have hq := q.width_pos
      rw [byteCount_cons] at h
      rcases ps with _ | ⟨r, ps⟩
      · refine .inr fun s hs => ?_
        rcases List.mem_pair.mp hs with rfl | rfl
        · omega
        · omega
      · have hr := r.width_pos
        rw [byteCount_cons] at h
        omega

/-- What is broken off is its own normal form, with the one exception. -/
theorem normalize_broken {ps : List Piece} (h : breaksOff ps = true) :
    normalize (ps.map Piece.toChar) = ps.map Piece.toChar ↔ ¬ EndsInRetired ps := by
  obtain ⟨b, rest, rfl, hrest⟩ := (breaksOff_iff ps).mp h
  have hle := announcedWidth_le b
  rcases pieces_of_byteCount_le (show byteCount rest ≤ 2 by omega) with ⟨c, rfl, hsize⟩ | hsmall
  · have hb : announcedWidth b = 4 := by
      rw [byteCount_cons, show (Piece.scalar c).width = 2 from hsize] at hrest
      omega
    have hlt : c.toNat < 0x800 :=
      Nat.lt_succ_of_le (UInt32.le_iff_toNat_le.mp (Char.utf8Size_eq_two_iff.mp hsize).2)
    rw [endsInRetired_pair, and_iff_right ((announcedWidth_eq_four_iff b).mp hb)]
    change normalize [replacement, c] = [replacement, c] ↔ c ∉ retired
    refine ⟨fun hsame hretired => normalize_retired hretired hsame, fun hc => ?_⟩
    rcases rejoins_or_retired hlt with hrejoins | hretired | ⟨hstable, -⟩
    · exact normalize_of_rejoins
        (List.forall_mem_cons.mpr ⟨rejoins_replacement, List.forall_mem_singleton.mpr hrejoins⟩)
    · exact absurd hretired hc
    · exact normalize_pair isStable_replacement isSome_freshRun?_replacement hstable
        (composition_replacement hlt)
  · have hall : ∀ p ∈ Piece.stray b :: rest, p.width = 1 :=
      List.forall_mem_cons.mpr ⟨rfl, hsmall⟩
    refine iff_of_true (normalize_of_rejoins (List.forall_mem_map.mpr fun p hp => ?_)) ?_
    · exact Piece.rejoins_toChar (hall p hp)
    -- A retired character has two bytes.
    · rintro ⟨front, b', c, heq, -, hc⟩
      have hone := hall (.scalar c) (by rw [heq]; simp)
      have htwo : (Piece.scalar c).width = 2 := utf8Size_of_retired hc
      omega

/-- Whether bytes end in a retired character shows where they break off. -/
theorem endsInRetired_breakOff (ps : List Piece) :
    EndsInRetired (breakOff ps).2 ↔ EndsInRetired ps := by
  constructor
  · rintro ⟨front, b, c, heq, hends⟩
    refine ⟨(breakOff ps).1 ++ front, b, c, ?_, hends⟩
    rw [List.append_assoc, ← heq, append_breakOff]
  · rintro ⟨front, b, c, rfl, hb, hc⟩
    have hcount : byteCount [Piece.scalar c] = 2 := utf8Size_of_retired hc
    have hbreaks : breaksOff [.stray b, .scalar c] = true := by
      refine (breaksOff_iff _).mpr ⟨b, _, rfl, ?_⟩
      rw [hcount, (announcedWidth_eq_four_iff b).mpr hb]
      decide
    rw [breakOff_append hbreaks (by rw [byteCount_cons, hcount]; rfl)]
    exact ⟨[], b, c, rfl, hb, hc⟩

end Broken

section Whole

open Canonical

theorem lenientChars_eq_append (bytes : ByteArray) :
    lenientChars bytes = (breakOff (pieces bytes)).1.map Piece.toChar
      ++ (breakOff (pieces bytes)).2.map Piece.toChar := by
  rw [← List.map_append, append_breakOff, lenientChars]

theorem lenientChars_eq_nil_iff (bytes : ByteArray) : lenientChars bytes = [] ↔ bytes.size = 0 := by
  rw [lenientChars, List.map_eq_nil_iff, pieces, piecesFrom]
  split
  · rename_i hpos
    split
    · simp only [reduceCtorEq, false_iff]
      omega
    · simp only [reduceCtorEq, false_iff]
      omega
  · rename_i hzero
    exact iff_of_true rfl (by omega)

theorem length_le_byteCount (ps : List Piece) : ps.length ≤ byteCount ps := by
  induction ps with
  | nil => exact Nat.le_refl 0
  | cons p ps ih =>
      have hpos := p.width_pos
      rw [byteCount_cons, List.length_cons]
      omega

/-- What is broken off shows as U+FFFD and two characters more at the most. -/
theorem map_toChar_of_breaksOff {ps : List Piece} (h : breaksOff ps = true) :
    ∃ cs, ps.map Piece.toChar = replacement :: cs ∧ cs.length ≤ 2 := by
  obtain ⟨b, rest, rfl, hrest⟩ := (breaksOff_iff ps).mp h
  refine ⟨rest.map Piece.toChar, rfl, ?_⟩
  have hle := announcedWidth_le b
  have hlength := length_le_byteCount rest
  rw [List.length_map]
  omega

variable {cs ds : List Char}

theorem prepared_append_replacement :
    prepared (cs ++ replacement :: ds) = prepared cs ++ prepared (replacement :: ds) :=
  prepared_append_cons isStable_replacement freshRun?_replacement

theorem noneOverlooked_before_replacement
    (h : NoneOverlooked (prepared (cs ++ replacement :: ds))) : NoneOverlooked (prepared cs) := by
  rw [prepared_append_replacement] at h
  exact (List.isChain_append.mp h).1

theorem normalize_append_replacement (h : NoneOverlooked (prepared (cs ++ replacement :: ds))) :
    normalize (normalize cs ++ replacement :: ds)
      = normalize cs ++ normalize (replacement :: ds) := by
  rw [normalize_append_cons isStable_replacement freshRun?_replacement,
    normalize_normalize (noneOverlooked_before_replacement h)]

theorem length_decompose_le (cs : List Char) : (decompose cs).length ≤ 4 * cs.length := by
  induction cs with
  | nil => exact Nat.le_refl 0
  | cons c cs ih =>
      have hle := length_decomposition_le c
      rw [decompose_cons, List.length_append, List.length_cons]
      omega

/-- Behind U+FFFD a short text has no run to break. -/
theorem reorder_decompose_append_replacement
    (h : NoneOverlooked (prepared (cs ++ replacement :: ds))) (hshort : ds.length ≤ 2) :
    reorder (decompose (normalize cs ++ replacement :: ds))
      = prepared (cs ++ replacement :: ds) := by
  have hbreak : breakRuns 0 ds = ds := by
    have hle := length_decompose_le ds
    have hlead := leadingMarks_le (decompose ds)
    have hlimit : markLimit = 30 := rfl
    exact breakRuns_of_runsFit (runsFit_of_length_le (by omega) (by omega)) (Nat.zero_le _)
  have hclass := combiningClass_of_freshRun? isSome_freshRun?_replacement
  rw [prepared_append_replacement, prepared_cons isStable_replacement freshRun?_replacement, hbreak,
    ← reorder_decompose_normalize (noneOverlooked_before_replacement h), decompose_append,
    decompose_cons, isStable_replacement.decomposition_eq, List.singleton_append,
    reorder_append_cons hclass]

end Whole

end Text

namespace Alphabet

open Text Text.Canonical

theorem ofBytes_eq (bytes : ByteArray) :
    ofBytes bytes = ofChars (normalize ((breakOff (pieces bytes)).1.map Piece.toChar)
      ++ (breakOff (pieces bytes)).2.map Piece.toChar) := rfl

theorem map_toChar_ofChars (cs : List Char) : (ofChars cs).symbols.map Symbol.toChar = cs := by
  rw [ofChars, List.map_map]
  exact (List.map_congr_left fun c _ => Symbol.toChar_ofChar c).trans (List.map_id cs)

theorem ofChars_inj {cs ds : List Char} : ofChars cs = ofChars ds ↔ cs = ds := by
  refine ⟨fun h => ?_, congrArg ofChars⟩
  rw [← map_toChar_ofChars cs, h, map_toChar_ofChars]

theorem ofText_toText_ofChars (cs : List Char) :
    ofText (ofChars cs).toText = ofChars (normalize cs) := by
  rw [ofText_eq, toText, map_toChar_ofChars, String.toList_ofList]

/-- The text of an alphabet gives it back but for a retired character that is
    broken off. -/
theorem ofText_toText_ofBytes_iff {bytes : ByteArray}
    (h : NoneOverlooked (prepared (lenientChars bytes))) :
    ofText (ofBytes bytes).toText = ofBytes bytes ↔ ¬ EndsInRetired (pieces bytes) := by
  rw [ofBytes_eq, ofText_toText_ofChars, ofChars_inj, ← endsInRetired_breakOff]
  rw [lenientChars_eq_append] at h
  rcases breakOff_broken (pieces bytes) with hnone | hbreaks
  · rw [hnone, List.map_nil, List.append_nil] at h ⊢
    refine iff_of_true (normalize_normalize h) ?_
    rintro ⟨front, b, c, heq, -⟩
    exact absurd heq (by simp)
  · obtain ⟨cs, hcs, -⟩ := map_toChar_of_breaksOff hbreaks
    rw [← normalize_broken hbreaks]
    rw [hcs] at h ⊢
    rw [normalize_append_replacement h, List.append_cancel_left_eq]

theorem reorder_decompose_ofBytes {bytes : ByteArray}
    (h : NoneOverlooked (prepared (lenientChars bytes))) :
    reorder (decompose ((ofBytes bytes).symbols.map Symbol.toChar))
      = prepared (lenientChars bytes) := by
  rw [ofBytes_eq, map_toChar_ofChars]
  rw [lenientChars_eq_append] at h ⊢
  rcases breakOff_broken (pieces bytes) with hnone | hbreaks
  · rw [hnone, List.map_nil, List.append_nil] at h
    rw [hnone, List.map_nil, List.append_nil, List.append_nil]
    exact reorder_decompose_normalize h
  · obtain ⟨cs, hcs, hshort⟩ := map_toChar_of_breaksOff hbreaks
    rw [hcs] at h ⊢
    exact reorder_decompose_append_replacement h hshort

theorem isEmpty_ofBytes_iff (bytes : ByteArray) :
    (ofBytes bytes).isEmpty = true ↔ bytes.size = 0 := by
  rw [← lenientChars_eq_nil_iff, lenientChars_eq_append, ofBytes_eq, isEmpty, List.isEmpty_iff,
    ofChars, List.map_eq_nil_iff, List.append_eq_nil_iff, List.append_eq_nil_iff]
  refine and_congr_left fun _ => ⟨fun h => ?_, fun h => by rw [h]; rfl⟩
  by_contra hne
  exact normalize_ne_nil hne h

/-- Alphabets that are made from text are in normal form, or nearly so. Where the
    composer overlooks no starter, the text of such an alphabet gives it back
    unless the bytes it was made from end in a retired character right behind a
    byte that announces four, and the alphabet holds the characters of the bytes,
    their runs of marks broken, up to how they are joined and ordered. All of its
    symbols are characters, and it is empty only without any bytes. If all
    characters are below U+0300 it holds just these, in order. -/
theorem text_alphabets_nearly_normal (bytes : ByteArray) :
    (NoneOverlooked (prepared (lenientChars bytes)) →
      (ofText (ofBytes bytes).toText = ofBytes bytes ↔ ¬ EndsInRetired (pieces bytes)) ∧
      reorder (decompose ((ofBytes bytes).symbols.map Symbol.toChar))
        = prepared (lenientChars bytes)) ∧
    (∀ s ∈ (ofBytes bytes).symbols, s.IsScalar) ∧
    ((ofBytes bytes).isEmpty = true ↔ bytes.size = 0) ∧
    ((∀ c ∈ lenientChars bytes, c.toNat < 0x300) →
      ofBytes bytes = ofChars (lenientChars bytes)) := by
  refine ⟨fun h => ⟨ofText_toText_ofBytes_iff h, reorder_decompose_ofBytes h⟩,
    fun s => isScalar_of_mem_ofChars _ s, isEmpty_ofBytes_iff bytes, fun h => ?_⟩
  rw [lenientChars_eq_append] at h ⊢
  rw [ofBytes_eq, normalize_of_lt fun c hc => h c (List.mem_append_left _ hc)]

/-- Accented letters that stand for two and for three characters, and a letter
    that has no parts. -/
theorem text_alphabets_nearly_normal_of_accents :
    ofText (ofText "\u00e9\u01d5z").toText = ofText "\u00e9\u01d5z" ∧
      ofText "\u00e9\u01d5z" = ofChars ['\u00e9', '\u01d5', 'z'] := by
  have hchars : lenientChars "\u00e9\u01d5z".toUTF8 = ['\u00e9', '\u01d5', 'z'] := by
    rw [lenientChars_toUTF8]
    exact String.toList_ofList
  obtain ⟨hnone, -, -, hfixed⟩ := text_alphabets_nearly_normal "\u00e9\u01d5z".toUTF8
  rw [hchars] at hnone hfixed
  refine ⟨(hnone (by decide +kernel)).1.mpr ?_, hfixed (by simp)⟩
  rintro ⟨front, b, c, heq, -⟩
  -- A text has no stray bytes.
  have hstray : Piece.stray b ∈ pieces "\u00e9\u01d5z".toUTF8 := by
    rw [heq]
    simp
  rw [pieces_toUTF8] at hstray
  obtain ⟨d, -, hd⟩ := List.mem_map.mp hstray
  cases hd

/-- The Greek question mark behind a byte that announces four stays as it is,
    and the text of the alphabet gives a semicolon. -/
theorem broken_off_question_mark :
    ofBytes ⟨#[0xF0, 0xCD, 0xBE]⟩ = ofChars ['\uFFFD', '\u037E'] ∧
      ofText (ofBytes ⟨#[0xF0, 0xCD, 0xBE]⟩).toText = ofChars ['\uFFFD', ';'] := by
  have hpieces : pieces ⟨#[0xF0, 0xCD, 0xBE]⟩ = [.stray 0xF0, .scalar '\u037E'] := by
    have hfirst : (ByteArray.mk #[0xF0, 0xCD, 0xBE]).utf8DecodeChar? 0 = none := by decide +kernel
    have hsecond : (ByteArray.mk #[0xF0, 0xCD, 0xBE]).utf8DecodeChar? 1 = some '\u037E' := by
      decide +kernel
    rw [pieces, piecesFrom, dif_pos (by decide), hfirst]
    simp only
    rw [piecesFrom, dif_pos (by decide), hsecond]
    simp only
    rw [piecesFrom, dif_neg (by decide)]
    rfl
  have hbytes : ofBytes ⟨#[0xF0, 0xCD, 0xBE]⟩ = ofChars ['\uFFFD', '\u037E'] := by
    unfold ofBytes
    rw [hpieces]
    decide +kernel
  refine ⟨hbytes, ?_⟩
  rw [hbytes, ofText_toText_ofChars]
  decide +kernel

end Alphabet

end Passforge
