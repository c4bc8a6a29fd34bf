import Passforge.Proofs.HashLine

/-!
# Which Texts Are Base64

Reading base64 is strict, so it undoes writing and nothing else: but for the
line breaks that are skipped, a text that can be read is the very text that
writing the bytes gives. That takes care of every rule at once, of the length
of the last group and of its spare bits.

A text that cannot be read has a first place where it goes wrong. A character
that does not belong to base64 is found there. Where all characters belong, the
fault is in the last group, and the place is counted back from the end.

The reader looks every character up before it puts values together. Looking up
is undone by `digit`, and putting together by `sextets`, both known from
reading back what was written; what is new is that there is no other way to
succeed.

## Main definitions

* `Base64.unbroken`: A text without its line breaks.
* `Base64.Legal`: The characters that may stand in a text.
* `Base64.Broken`: Where a text goes wrong.

## Theorems

* `Base64.value?_eq_some_iff`: Looking up is undone by `digit`.
* `Base64.values_eq_ok_iff`: When all characters can be looked up.
* `Base64.eq_sextets_of_groups`: Values put together are those of the bytes.
* `Base64.decode_eq_ok_iff`: A text that can be read is one that was written.
* `Base64.decode_eq_error_iff`: Where the others go wrong.
-/

namespace Passforge.Hash.Base64

/-- A text without its line breaks. -/
def unbroken (text : List Char) : List Char :=
  text.filter fun c => !(c == '\n' || c == '\r')

/-- A line break, or one of the characters for six bits. -/
def Legal (c : Char) : Prop :=
  (c == '\n' || c == '\r') = true ∨ ∃ n < 64, c = digit n

/-- Where a text goes wrong: at its first character that is not legal, or else
    in the last group, so many places before the end. -/
inductive Broken (text : List Char) : (place : Nat) → Prop
  | stray (before : List Char) (c : Char) (after : List Char)
      (htext : text = before ++ c :: after) (hbefore : ∀ b ∈ before, Legal b) (hc : ¬ Legal c) :
      Broken text before.length
  | ending (hlegal : ∀ c ∈ text, Legal c) (h : ∀ bytes, unbroken text ≠ encode bytes) :
      Broken text (text.length - if (unbroken text).length % 4 = 2 then 2 else 1)

theorem le_iff_toNat_le (c d : Char) : c ≤ d ↔ c.toNat ≤ d.toNat := Iff.rfl

/-- A character that is looked up is the one for the value found. -/
theorem digit_of_value? {c : Char} {n : Nat} (h : value? c = some n) : n < 64 ∧ c = digit n := by
  have hself : ∀ m, m = c.toNat → c = Char.ofNat m := by
    rintro m rfl
    exact (Char.ofNat_toNat c).symm
  unfold value? at h
  simp only [Bool.and_eq_true, decide_eq_true_eq, beq_iff_eq, le_iff_toNat_le] at h
  unfold digit
  -- One case for each stretch of the alphabet and one for each of the two signs.
  by_cases hupper : 'A'.toNat ≤ c.toNat ∧ c.toNat ≤ 'Z'.toNat
  · rw [if_pos hupper, Option.some.injEq] at h
    have hrange : 65 ≤ c.toNat ∧ c.toNat ≤ 90 := hupper
    refine ⟨by omega, ?_⟩
    rw [if_pos (by omega)]
    exact hself _ (by omega)
  rw [if_neg hupper] at h
  by_cases hlower : 'a'.toNat ≤ c.toNat ∧ c.toNat ≤ 'z'.toNat
  · rw [if_pos hlower, Option.some.injEq] at h
    have hrange : 97 ≤ c.toNat ∧ c.toNat ≤ 122 := hlower
    refine ⟨by omega, ?_⟩
    rw [if_neg (by omega), if_pos (by omega)]
    exact hself _ (by omega)
  rw [if_neg hlower] at h
  by_cases hdigit : '0'.toNat ≤ c.toNat ∧ c.toNat ≤ '9'.toNat
  · rw [if_pos hdigit, Option.some.injEq] at h
    have hrange : 48 ≤ c.toNat ∧ c.toNat ≤ 57 := hdigit
    refine ⟨by omega, ?_⟩
    rw [if_neg (by omega), if_neg (by omega), if_pos (by omega)]
    exact hself _ (by omega)
  rw [if_neg hdigit] at h
  by_cases hplus : c = '+'
  · rw [if_pos hplus, Option.some.injEq] at h
    subst h
    exact ⟨by decide, hplus⟩
  rw [if_neg hplus] at h
  by_cases hslash : c = '/'
  · rw [if_pos hslash, Option.some.injEq] at h
    subst h
    exact ⟨by decide, hslash⟩
  rw [if_neg hslash] at h
  cases h

/-- Looking up is undone by `digit`. -/
theorem value?_eq_some_iff (c : Char) (n : Nat) : value? c = some n ↔ n < 64 ∧ c = digit n := by
  constructor
  · exact digit_of_value?
  · rintro ⟨hn, rfl⟩
    exact value?_digit n hn

theorem unbroken_cons_of_break {c : Char} (h : (c == '\n' || c == '\r') = true) (rest : List Char) :
    unbroken (c :: rest) = unbroken rest := by
  unfold unbroken
  rw [List.filter_cons_of_neg (by rw [h]; decide)]

theorem unbroken_cons {c : Char} (h : ¬ (c == '\n' || c == '\r') = true) (rest : List Char) :
    unbroken (c :: rest) = c :: unbroken rest := by
  unfold unbroken
  rw [List.filter_cons_of_pos (by simpa using h)]

/-- All characters can be looked up if the text, but for its line breaks, shows
    six-bit values. -/
theorem values_eq_ok_iff (place : Nat) (text : List Char) (vs : List Nat) :
    values place text = .ok vs ↔ unbroken text = vs.map digit ∧ ∀ v ∈ vs, v < 64 := by
  induction text generalizing place vs with
  | nil =>
      rw [values, Except.ok.injEq]
      constructor
      · rintro rfl
        exact ⟨rfl, fun v hv => absurd hv List.not_mem_nil⟩
      · rintro ⟨h, -⟩
        exact (List.map_eq_nil_iff.mp h.symm).symm
  | cons c rest ih =>
      by_cases hbreak : (c == '\n' || c == '\r') = true
      · rw [values, if_pos hbreak, unbroken_cons_of_break hbreak, ih]
      rw [values, if_neg hbreak, unbroken_cons hbreak]
      constructor
      · intro h
        rcases hv : value? c with _ | v
        · rw [hv] at h
          cases h
        rcases hrest : values (place + c.utf8Size) rest with e | us
        · rw [hv] at h
          simp only [hrest] at h
          cases h
        · rw [hv] at h
          simp only [hrest] at h
          cases h
          rcases (ih _ us).mp hrest with ⟨hus, hlt⟩
          rcases digit_of_value? hv with ⟨hv64, rfl⟩
          exact ⟨by rw [hus, List.map_cons], List.forall_mem_cons.mpr ⟨hv64, hlt⟩⟩
      · rintro ⟨h, hlt⟩
        rcases vs with _ | ⟨v, us⟩
        · cases h
        rw [List.map_cons, List.cons.injEq] at h
        rcases List.forall_mem_cons.mp hlt with ⟨hv64, hlt⟩
        rw [(value?_eq_some_iff c v).mpr ⟨hv64, h.1⟩]
        simp only [(ih (place + c.utf8Size) us).mpr ⟨h.2, hlt⟩]
        rfl

theorem utf8Size_digit : ∀ n < 64, (digit n).utf8Size = 1 := by decide

theorem Legal.utf8Size {c : Char} (h : Legal c) : c.utf8Size = 1 := by
  rcases h with h | ⟨n, hn, rfl⟩
  · rw [Bool.or_eq_true, beq_iff_eq, beq_iff_eq] at h
    rcases h with rfl | rfl <;> rfl
  · exact utf8Size_digit n hn

/-- The first character that is not legal is reported by its place. -/
theorem values_of_stray (place : Nat) (before : List Char) (c : Char) (after : List Char)
    (hbefore : ∀ b ∈ before, Legal b) (hc : ¬ Legal c) :
    values place (before ++ c :: after) = .error (place + before.length) := by
  induction before generalizing place with
  | nil =>
      have hbreak : ¬ (c == '\n' || c == '\r') = true := fun h => hc (Or.inl h)
      rw [List.nil_append, values, if_neg hbreak]
      rcases hv : value? c with _ | v
      · rfl
      · exact absurd (Or.inr ⟨v, digit_of_value? hv⟩) hc
  | cons b before ih =>
      rcases List.forall_mem_cons.mp hbefore with ⟨hb, hrest⟩
      have hsize := hb.utf8Size
      rw [List.cons_append, values, List.length_cons, Nat.add_comm before.length, ← Nat.add_assoc]
      by_cases hbreak : (b == '\n' || b == '\r') = true
      · rw [if_pos hbreak, ih (place + 1) hrest]
      · rw [if_neg hbreak]
        rcases hb.resolve_left hbreak with ⟨n, hn, rfl⟩
        simp only [value?_digit n hn, hsize, ih (place + 1) hrest]
        rfl

/-- Where no character is stray, all can be looked up. -/
theorem exists_values_of_legal (place : Nat) (text : List Char) (h : ∀ c ∈ text, Legal c) :
    ∃ vs, values place text = .ok vs := by
  induction text generalizing place with
  | nil => exact ⟨[], rfl⟩
  | cons c rest ih =>
      rcases List.forall_mem_cons.mp h with ⟨hc, hrest⟩
      rw [values]
      by_cases hbreak : (c == '\n' || c == '\r') = true
      · rw [if_pos hbreak]
        exact ih (place + 1) hrest
      · rw [if_neg hbreak]
        rcases hc.resolve_left hbreak with ⟨n, hn, rfl⟩
        rcases ih (place + (digit n).utf8Size) hrest with ⟨vs, hvs⟩
        simp only [value?_digit n hn, hvs]
        exact ⟨n :: vs, rfl⟩

/-- A text has a first stray character or none. -/
theorem legal_or_stray (text : List Char) :
    (∀ c ∈ text, Legal c) ∨
      ∃ before c after, text = before ++ c :: after ∧ (∀ b ∈ before, Legal b) ∧ ¬ Legal c := by
  induction text with
  | nil => exact Or.inl fun c hc => absurd hc List.not_mem_nil
  | cons c rest ih =>
      by_cases hc : Legal c
      · rcases ih with hrest | ⟨before, d, after, rfl, hbefore, hd⟩
        · exact Or.inl (List.forall_mem_cons.mpr ⟨hc, hrest⟩)
        · exact Or.inr ⟨c :: before, d, after, rfl, List.forall_mem_cons.mpr ⟨hc, hbefore⟩, hd⟩
      · exact Or.inr ⟨[], c, rest, rfl, fun b hb => absurd hb List.not_mem_nil, hc⟩

/-- The size of a text without stray characters is its length. -/
theorem foldl_utf8Size (text : List Char) (h : ∀ c ∈ text, Legal c) (n : Nat) :
    text.foldl (fun n c => n + c.utf8Size) n = n + text.length := by
  induction text generalizing n with
  | nil => rfl
  | cons c rest ih =>
      rcases List.forall_mem_cons.mp h with ⟨hc, hrest⟩
      rw [List.foldl_cons, ih hrest, hc.utf8Size, List.length_cons]
      omega

theorem toNat_ofNat_of_lt (n : Nat) (h : n < 256) : (UInt8.ofNat n).toNat = n := by
  rw [UInt8.toNat_ofNat']
  omega

/-- Values that can be put together are those of the bytes they make. -/
theorem eq_sextets_of_groups (length : Nat) (vs : List Nat) (hvs : ∀ v ∈ vs, v < 64)
    (bytes : List UInt8) (h : groups length vs = .ok bytes) : vs = sextets bytes := by
  fun_induction groups length vs generalizing bytes with
  | case1 =>
      cases h
      rfl
  | case2 a => cases h
  -- A group that is not full has spare bits, and they are known to be zero.
  | case3 a b hspare =>
      cases h
      simp only [List.forall_mem_cons, beq_iff_eq] at hvs hspare
      rw [sextets, toNat_ofNat_of_lt _ (by omega)]
      congr 2 <;> omega
  | case4 a b hspare => cases h
  | case5 a b c hspare =>
      cases h
      simp only [List.forall_mem_cons, beq_iff_eq] at hvs hspare
      rw [sextets, toNat_ofNat_of_lt _ (by omega), toNat_ofNat_of_lt _ (by omega)]
      congr 3 <;> omega
  | case6 a b c hspare => cases h
  | case7 a b c d rest ih =>
      simp only [List.forall_mem_cons] at hvs
      rcases hrest : groups length rest with e | more
      · rw [hrest] at h
        cases h
      · rw [hrest] at h
        cases h
        simp only [List.cons_append, List.nil_append]
        rw [sextets, toNat_ofNat_of_lt _ (by omega), toNat_ofNat_of_lt _ (by omega),
          toNat_ofNat_of_lt _ (by omega), ← ih hvs.2.2.2.2 more hrest]
        congr 4 <;> omega

/-- Values that cannot be put together fail in the last group. -/
theorem place_of_groups (length : Nat) (vs : List Nat) (place : Nat)
    (h : groups length vs = .error place) :
    place = length - if vs.length % 4 = 2 then 2 else 1 := by
  fun_induction groups length vs with
  | case1 => cases h
  | case2 a =>
      cases h
      rfl
  | case3 a b hspare => cases h
  | case4 a b hspare =>
      cases h
      rfl
  | case5 a b c hspare => cases h
  | case6 a b c hspare =>
      cases h
      rfl
  | case7 a b c d rest ih =>
      rcases hrest : groups length rest with e | more
      · rw [hrest] at h
        cases h
        rw [ih hrest]
        simp only [List.length_cons, Nat.add_assoc, Nat.reduceAdd, Nat.add_mod_right]
      · rw [hrest] at h
        cases h

theorem decode_of_values {text : List Char} {vs : List Nat} (h : values 0 text = .ok vs) :
    decode text = groups (text.foldl (fun n c => n + c.utf8Size) 0) vs := by
  unfold decode
  rw [h]
  rfl

/-- A text that can be read is, but for its line breaks, the text that writing
    the bytes gives. -/
theorem decode_eq_ok_iff (text : List Char) (bytes : List UInt8) :
    decode text = .ok bytes ↔ unbroken text = encode bytes := by
  constructor
  · intro h
    rcases hvalues : values 0 text with e | vs
    · unfold decode at h
      rw [hvalues] at h
      cases h
    · rw [decode_of_values hvalues] at h
      rcases (values_eq_ok_iff 0 text vs).mp hvalues with ⟨hshown, hlt⟩
      rw [hshown, encode_eq_map_sextets, eq_sextets_of_groups _ vs hlt bytes h]
  · intro h
    rw [encode_eq_map_sextets] at h
    rw [decode_of_values ((values_eq_ok_iff 0 text _).mpr ⟨h, sextets_lt bytes⟩), groups_sextets]

/-- Where a text that cannot be read goes wrong. -/
theorem decode_eq_error_iff (text : List Char) (place : Nat) :
    decode text = .error place ↔ Broken text place := by
  have hstray : ∀ before c after, text = before ++ c :: after → (∀ b ∈ before, Legal b) →
      ¬ Legal c → decode text = .error before.length := by
    rintro before c after rfl hbefore hc
    unfold decode
    rw [values_of_stray 0 before c after hbefore hc, Nat.zero_add]
    rfl
  -- Without a stray character it is the last group that fails, if anything does.
  have hending : (∀ c ∈ text, Legal c) → ∀ p, decode text = .error p →
      p = text.length - if (unbroken text).length % 4 = 2 then 2 else 1 := by
    intro hlegal p hp
    rcases exists_values_of_legal 0 text hlegal with ⟨vs, hvs⟩
    rw [decode_of_values hvs, foldl_utf8Size text hlegal, Nat.zero_add] at hp
    rw [((values_eq_ok_iff 0 text vs).mp hvs).1, List.length_map]
    exact place_of_groups _ vs p hp
  constructor
  · intro h
    rcases legal_or_stray text with hlegal | ⟨before, c, after, htext, hbefore, hc⟩
    · rw [hending hlegal place h]
      refine Broken.ending hlegal fun bytes hbytes => ?_
      rw [(decode_eq_ok_iff text bytes).mpr hbytes] at h
      cases h
    · rw [hstray before c after htext hbefore hc, Except.error.injEq] at h
      rw [← h]
      exact Broken.stray before c after htext hbefore hc
  · intro h
    cases h with
    | stray before c after htext hbefore hc => exact hstray before c after htext hbefore hc
    | ending hlegal hnot =>
        rcases hdecode : decode text with p | bytes
        · rw [hending hlegal p hdecode]
        · exact absurd ((decode_eq_ok_iff text bytes).mp hdecode) (hnot bytes)

end Passforge.Hash.Base64
