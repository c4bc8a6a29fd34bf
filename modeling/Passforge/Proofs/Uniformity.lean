import Mathlib.Algebra.BigOperators.Fin
import Mathlib.Data.Fintype.BigOperators
import Mathlib.Data.List.GetD
import Mathlib.SetTheory.Cardinal.Finite
import Passforge.Proofs.Direct
import Passforge.Proofs.Generation
import Passforge.Proofs.Rounds

/-!
# Exact Uniformity

How often each string comes up when the random stream runs through all it can
start with. Probability is left out: a stream that starts with the values
`d₁ … d_L` makes the generator return one definite string, so it is enough to
count the tuples that lead to a given string, and the count is exact.

A value is *settled* when the source answers having looked at that value only.
This is said by running the source with a patience of one, not by repeating
the comparison it makes; `settles_iff` recovers the comparison.

A stream that starts with settled values is read value by value, since words
fill blocks without remainder and bytes do anyway. Each value gives its
remainder as an answer, so the string is a function of the tuple taken entry by
entry, and the tuples leading to a string are a product of sets of values. What
is left is how many values lead to one character, which is the number of its
positions times the number of whole rounds.

## Main definitions

* `Buffer.spell`: The bytes of a value, low byte first.
* `Begins`: A stream starts with the given bytes.
* `Buffer.Settles`: The source answers having looked at one value.
* `tuplesTo`: How many tuples of settled values lead to a text.

## Theorems

* `Buffer.littleEndian_spell`: The bytes of a value spell it.
* `Buffer.answers_of_begins`: Settled values are answered one by one.
* `Buffer.settles_iff`: The settled values are the acceptable ones.
* `Alphabet.count_shown`: A character is shown at as many positions as hold it.
* `card_settles_shown`: How many values lead to a character.
* `tuplesTo_eq`: The tuples that lead to a string are a product.
* `generate_uniform`: Every string comes up as often as its characters stand.
-/

namespace Passforge

open Finset

/-- The stream starts with these bytes. -/
def Begins (σ : Nat → UInt8) (bytes : List UInt8) : Prop :=
  (List.range bytes.length).map σ = bytes

/-- Every list of bytes starts some stream. -/
theorem begins_getD (bytes : List UInt8) : Begins (fun i => bytes.getD i 0) bytes := by
  unfold Begins
  refine List.ext_getElem (by rw [List.length_map, List.length_range]) fun i h₁ h₂ => ?_
  rw [List.getElem_map, List.getElem_range, List.getD_eq_getElem bytes 0 h₂]

namespace Buffer

/-- The bytes of a value for `n` choices, low byte first. -/
def spell (n v : Nat) : List UInt8 :=
  (List.range (width n)).map fun i => UInt8.ofNat (v / 256 ^ i)

/-- Allowed to look at this value only, the source answers. -/
def Settles (n v : Nat) : Prop :=
  ∃ x r, source.draw n (.fresh (fun i => (spell n v).getD i 0) 1) = (.ok x, r)

theorem length_spell (n v : Nat) : (spell n v).length = width n := by
  unfold spell
  rw [List.length_map, List.length_range]

/-- The bytes of a value spell it. -/
theorem littleEndian_spell (n v : Nat) (hv : v < valueRange n) : littleEndian (spell n v) = v := by
  unfold valueRange at hv
  unfold spell width
  by_cases h : n ≤ 256
  · rw [if_pos h] at hv ⊢
    simp only [littleEndian, List.range_succ, List.range_zero, List.nil_append, List.map_cons,
      List.map_nil, List.foldr_cons, List.foldr_nil, UInt8.toNat_ofNat', Nat.pow_zero, Nat.div_one]
    omega
  · rw [if_neg h, twoTo_64] at hv
    rw [if_neg h]
    simp only [littleEndian, List.range_succ, List.range_zero, List.nil_append, List.cons_append,
      List.map_cons, List.map_nil, List.foldr_cons, List.foldr_nil, UInt8.toNat_ofNat']
    omega

/-- Values of the same width fill blocks without remainder. -/
theorem place_mul (n i : Nat) : Direct.place n (i * width n) = i * width n := by
  unfold Direct.place width
  by_cases h : n ≤ 256
  · rw [if_pos h]
  · rw [if_neg h, if_neg h, if_neg (by omega)]

theorem slice_add (e : Entropy) (start j k : Nat) :
    e.slice start (j + k) = e.slice start j ++ e.slice (start + j) k := by
  unfold Entropy.slice
  rw [← List.map_append, List.range'_append_1]

/-- The value that the next bytes of the stream spell. -/
theorem littleEndian_handed (n v : Nat) (hv : v < valueRange n) (r : Reservoir) (hr : r.Aligned)
    (i : Nat) (hi : r.consumed = i * width n)
    (hs : r.entropy.slice (i * width n) (width n) = spell n v) :
    littleEndian (r.handed (width n)) = v := by
  rw [Reservoir.handed_eq_slice n r hr, hi, place_mul, hs, littleEndian_spell n v hv]

/-- A stream that goes on with acceptable values is answered with their
    remainders. The induction is on the values, the reader standing at a
    multiple of their width all along. -/
theorem answers_of_spelled (n : Nat) (hn : 2 ≤ n) (ds : List Nat)
    (hds : ∀ d ∈ ds, d < valueRange n ∧ Accepts n d) (r : Reservoir) (hr : r.Aligned)
    (hpatience : 0 < r.entropy.patience) (i : Nat) (hi : r.consumed = i * width n)
    (hs : r.entropy.slice (i * width n) (ds.length * width n) = ds.flatMap (spell n)) :
    ∃ r', source.Answers n r (ds.map fun d => ((d % n : Nat) : Int)) r' := by
  induction ds generalizing r i with
  | nil => exact ⟨r, source.answers_nil n r⟩
  | cons d ds ih =>
      rcases hds d List.mem_cons_self with ⟨hlt, ha⟩
      -- Split the stretch into this value and the ones that follow.
      rw [List.length_cons, Nat.succ_mul, Nat.add_comm, slice_add, List.flatMap_cons] at hs
      rcases List.append_inj hs (by rw [Entropy.length_slice, length_spell]) with ⟨hfirst, hrest⟩
      have hvalue := littleEndian_handed n d hlt r hr i hi hfirst
      have hchoose : choose n r = (.ok (d % n), r.after (width n)) := by
        rw [choose_eq_scan n (by omega), show r.entropy.patience
          = r.entropy.patience - 1 + 1 by omega, scan_of_accepts n _ r (by rw [hvalue]; exact ha),
          hvalue]
      have hdraw : source.draw n r = (.ok ((d % n : Nat) : Int), r.after (width n)) := by
        rw [source_draw_eq n (by omega), hchoose]
        rfl
      have hnext : (r.after (width n)).consumed = (i + 1) * width n := by
        rw [Reservoir.consumed_after n r hr, hi, place_mul, Nat.succ_mul]
      have hslice : (r.after (width n)).entropy.slice ((i + 1) * width n) (ds.length * width n)
          = ds.flatMap (spell n) := by
        unfold Entropy.slice at hrest ⊢
        rw [Reservoir.after_byteAt, Nat.succ_mul]
        exact hrest
      rcases ih (fun e he => hds e (List.mem_cons_of_mem d he)) _
        (Reservoir.aligned_after n r hr) (by rw [Reservoir.after_patience]; exact hpatience)
        (i + 1) hnext hslice with ⟨r', hr'⟩
      have hmod : d % n < n := Nat.mod_lt d (by omega)
      have hrange : 0 ≤ ((d % n : Nat) : Int) ∧ ((d % n : Nat) : Int) < n := by omega
      exact ⟨r', source.answers_cons n r _ r' _ _ hdraw hrange hr'⟩

theorem slice_of_begins (σ : Nat → UInt8) (patience : Nat) (bytes : List UInt8)
    (h : Begins σ bytes) : (Reservoir.fresh σ patience).entropy.slice 0 bytes.length = bytes := by
  unfold Begins at h
  unfold Entropy.slice
  rw [← List.range_eq_range']
  exact h

/-- A stream that starts with acceptable values is answered with their
    remainders. -/
theorem answers_of_begins (n : Nat) (hn : 2 ≤ n) (ds : List Nat)
    (hds : ∀ d ∈ ds, d < valueRange n ∧ Accepts n d) (σ : Nat → UInt8) (patience : Nat)
    (h : Begins σ (ds.flatMap (spell n))) :
    ∃ r', source.Answers n (.fresh σ (patience + 1))
      (ds.map fun d => ((d % n : Nat) : Int)) r' := by
  have hlen : (ds.flatMap (spell n)).length = ds.length * width n := by
    simp only [List.length_flatMap, length_spell, List.map_const', List.sum_replicate_nat]
  refine answers_of_spelled n hn ds hds _ (Reservoir.aligned_fresh σ (patience + 1))
    (Nat.succ_pos patience) 0 ?_ ?_
  · rw [Nat.zero_mul]
    rfl
  · rw [Nat.zero_mul, ← hlen]
    exact slice_of_begins σ (patience + 1) _ h

/-- The settled values are the acceptable ones. -/
theorem settles_iff (n v : Nat) (hn : 2 ≤ n) (hv : v < valueRange n) :
    Settles n v ↔ Accepts n v := by
  have hvalue := littleEndian_handed n v hv (.fresh (fun i => (spell n v).getD i 0) 1)
    (Reservoir.aligned_fresh _ 1) 0 (by rw [Nat.zero_mul]; rfl)
    (by rw [Nat.zero_mul, ← length_spell n v]; exact slice_of_begins _ 1 _ (begins_getD _))
  have hchoose := choose_eq_scan n (by omega) (.fresh (fun i => (spell n v).getD i 0) 1)
  unfold Settles
  rw [source_draw_eq n (by omega), hchoose]
  -- With a patience of one the loop ends at this value, one way or the other.
  constructor
  · rintro ⟨x, r, h⟩
    by_contra hc
    rw [show (Reservoir.fresh (fun i => (spell n v).getD i 0) 1).entropy.patience = 0 + 1 from rfl,
      scan_of_not_accepts n 0 _ (by rw [hvalue]; exact hc)] at h
    cases h
  · intro ha
    rw [show (Reservoir.fresh (fun i => (spell n v).getD i 0) 1).entropy.patience = 0 + 1 from rfl,
      scan_of_accepts n 0 _ (by rw [hvalue]; exact ha)]
    exact ⟨_, _, rfl⟩

end Buffer

namespace Alphabet

theorem shown_cons_succ (s : Symbol) (l : List Symbol) (j : Nat) :
    shown ⟨s :: l⟩ ((j + 1 : Nat) : Int) = shown ⟨l⟩ (j : Int) := by
  unfold shown
  rw [Int.toNat_natCast, Int.toNat_natCast, List.getElem?_cons_succ]

/-- A character is shown at as many positions as hold it. -/
theorem count_shown (l : List Symbol) (hl : ∀ s ∈ l, s.IsScalar) (c : Char) :
    Nat.count (fun j => shown ⟨l⟩ (j : Int) = c) l.length = l.count (Symbol.ofChar c) := by
  induction l with
  | nil => rfl
  | cons s l ih =>
      -- The head is position zero and every other position moves down by one.
      rw [List.length_cons, Nat.count_succ']
      simp only [shown_cons_succ]
      rw [ih fun q hq => hl q (List.mem_cons_of_mem s hq), List.count_cons]
      have hs : shown ⟨s :: l⟩ ((0 : Nat) : Int) = c ↔ s = Symbol.ofChar c := by
        change s.toChar = c ↔ s = Symbol.ofChar c
        constructor
        · rintro rfl
          exact (Symbol.ofChar_toChar s (hl s List.mem_cons_self)).symm
        · rintro rfl
          exact Symbol.toChar_ofChar c
      by_cases h : s = Symbol.ofChar c
      · rw [if_pos (hs.mpr h), if_pos (beq_iff_eq.mpr h)]
      · rw [if_neg (mt hs.mp h), if_neg (mt beq_iff_eq.mp h)]

end Alphabet

/-- Counting among the numbers below a bound. -/
theorem card_fin (R : Nat) (P : Nat → Prop) [DecidablePred P] :
    Nat.card {v : Fin R // P v} = #{v ∈ range R | P v} := by
  rw [← Nat.subtype_card (p := fun v => v < R ∧ P v) _ (fun v => by
    rw [mem_filter, mem_range])]
  refine Nat.card_congr ⟨fun v => ⟨v.1, v.1.2, v.2⟩, fun v => ⟨⟨v.1, v.2.1⟩, v.2.2⟩, ?_, ?_⟩
  · exact fun v => rfl
  · exact fun v => rfl

/-- How many values lead to a character. -/
theorem card_settles_shown (a : Alphabet) (ha : ∀ s ∈ a.symbols, s.IsScalar)
    (h2 : 2 ≤ a.size) (hle : a.size ≤ Number.twoTo 64) (c : Char) :
    Nat.card {v : Fin (Buffer.valueRange a.size) //
        Buffer.Settles a.size v ∧ a.shown ((v % a.size : Nat) : Int) = c}
      = a.symbols.count (Symbol.ofChar c) * (Buffer.valueRange a.size / a.size) := by
  -- Positions are counted on the list, values by their remainders.
  have hcount : #{j ∈ range a.size | a.shown ((j : Nat) : Int) = c}
      = a.symbols.count (Symbol.ofChar c) := by
    rw [← Nat.count_eq_card_filter_range]
    exact Alphabet.count_shown a.symbols ha c
  rw [← hcount, ← Buffer.card_accepts_mod_of a.size (by omega) hle (fun j => a.shown (j : Int) = c),
    ← card_fin]
  refine Nat.card_congr (Equiv.subtypeEquivRight fun v => ?_)
  rw [Buffer.settles_iff a.size v h2 v.2]

/-- The values the source looks past. -/
theorem card_not_settles (n : Nat) (h2 : 2 ≤ n) (hle : n ≤ Number.twoTo 64) :
    Nat.card {v : Fin (Buffer.valueRange n) // ¬ Buffer.Settles n v}
      = Buffer.valueRange n % n := by
  rw [← Buffer.card_not_accepts n (by omega) hle, ← card_fin]
  refine Nat.card_congr (Equiv.subtypeEquivRight fun v => ?_)
  rw [Buffer.settles_iff n v h2 v.2]

/-- Tuples that satisfy a condition entry by entry form a product. -/
theorem card_tuples (L R : Nat) (P : Fin L → Fin R → Prop) :
    Nat.card {d : Fin L → Fin R // ∀ i, P i (d i)} = ∏ i, Nat.card {v : Fin R // P i v} := by
  rw [← Nat.card_pi]
  exact Nat.card_congr Equiv.subtypePiEquivPi

/-- The string that a tuple of settled values leads to. -/
theorem generate_of_settles (g : Generator) (a : Alphabet) (h2 : 2 ≤ a.size) (L : Nat)
    (hcheck : g.check ⟨a, L⟩ = none) (d : Fin L → Fin (Buffer.valueRange a.size))
    (hd : ∀ i, Buffer.Settles a.size (d i)) (σ : Nat → UInt8) (patience : Nat)
    (hσ : Begins σ ((List.ofFn fun i => (d i : Nat)).flatMap (Buffer.spell a.size))) :
    (g.generate Buffer.source ⟨a, L⟩ (.fresh σ (patience + 1))).1
      = .ok (.ok (String.ofList (List.ofFn fun i => a.shown ((d i % a.size : Nat) : Int)))) := by
  have hds : ∀ v ∈ List.ofFn fun i => (d i : Nat),
      v < Buffer.valueRange a.size ∧ Buffer.Accepts a.size v := by
    intro v hv
    rcases List.mem_ofFn.mp hv with ⟨i, rfl⟩
    exact ⟨(d i).2, (Buffer.settles_iff a.size (d i) h2 (d i).2).mp (hd i)⟩
  -- The remainders are answers in range, and there is one for each character.
  rcases Buffer.answers_of_begins a.size h2 _ hds σ patience hσ with ⟨r', hr'⟩
  rw [generate_of_answers g Buffer.source ⟨a, L⟩ hcheck _ r' _ hr'
    (by rw [List.length_map, List.length_ofFn, Int.toNat_natCast])]
  rw [List.map_ofFn, List.map_ofFn]
  rfl

/-- A string of `L` characters is a tuple of them. -/
theorem exists_tuple (text : String) (L : Nat) (h : text.length = L) :
    ∃ t : Fin L → Char, text = String.ofList (List.ofFn t) := by
  subst h
  refine ⟨fun i => text.toList.get (i.cast String.length_toList.symm), ?_⟩
  rw [← String.toList_inj, String.toList_ofList]
  refine List.ext_getElem (by rw [List.length_ofFn, String.length_toList]) fun i h₁ h₂ => ?_
  rw [List.getElem_ofFn]
  rfl

/-- How many tuples of settled values lead to a text, when `stream` starts
    with the tuple it is given. -/
noncomputable def tuplesTo (g : Generator) (a : Alphabet) (L patience : Nat)
    (stream : (Fin L → Fin (Buffer.valueRange a.size)) → Nat → UInt8) (text : String) : Nat :=
  Nat.card {d // (∀ i, Buffer.Settles a.size (d i)) ∧
    (g.generate Buffer.source ⟨a, L⟩ (.fresh (stream d) (patience + 1))).1 = .ok (.ok text)}

/-- The tuples that lead to a string are a product, one factor a character. -/
theorem tuplesTo_eq (g : Generator) (a : Alphabet) (ha : ∀ s ∈ a.symbols, s.IsScalar)
    (h2 : 2 ≤ a.size) (hle : a.size ≤ Number.twoTo 64) (L : Nat) (hcheck : g.check ⟨a, L⟩ = none)
    (stream : (Fin L → Fin (Buffer.valueRange a.size)) → Nat → UInt8)
    (hstream : ∀ d, Begins (stream d)
      ((List.ofFn fun i => (d i : Nat)).flatMap (Buffer.spell a.size)))
    (patience : Nat) (text : String) (htext : text.length = L) :
    tuplesTo g a L patience stream text = (text.toList.map fun c =>
      a.symbols.count (Symbol.ofChar c) * (Buffer.valueRange a.size / a.size)).prod := by
  rcases exists_tuple text L htext with ⟨t, rfl⟩
  -- The text is returned exactly when each value shows the character at its place.
  have hentry : ∀ d : Fin L → Fin (Buffer.valueRange a.size),
      ((∀ i, Buffer.Settles a.size (d i)) ∧
        (g.generate Buffer.source ⟨a, L⟩ (.fresh (stream d) (patience + 1))).1
          = .ok (.ok (String.ofList (List.ofFn t))))
      ↔ ∀ i, Buffer.Settles a.size (d i) ∧ a.shown ((d i % a.size : Nat) : Int) = t i := by
    intro d
    rw [forall_and]
    refine and_congr_right fun hd => ?_
    rw [generate_of_settles g a h2 L hcheck d hd _ patience (hstream d), Except.ok.injEq,
      Except.ok.injEq, String.ofList_inj, List.ofFn_inj]
    exact funext_iff
  calc _ = Nat.card {d : Fin L → Fin (Buffer.valueRange a.size) //
        ∀ i, Buffer.Settles a.size (d i) ∧ a.shown ((d i % a.size : Nat) : Int) = t i} :=
        Nat.card_congr (Equiv.subtypeEquivRight hentry)
    _ = ∏ i, Nat.card {v : Fin (Buffer.valueRange a.size) //
        Buffer.Settles a.size v ∧ a.shown ((v % a.size : Nat) : Int) = t i} :=
        card_tuples L _ fun i v =>
          Buffer.Settles a.size v ∧ a.shown ((v % a.size : Nat) : Int) = t i
    _ = ∏ i, a.symbols.count (Symbol.ofChar (t i)) * (Buffer.valueRange a.size / a.size) :=
        prod_congr rfl fun i _ => card_settles_shown a ha h2 hle (t i)
    _ = _ := by rw [String.toList_ofList, List.map_ofFn, List.prod_ofFn]; rfl

/-- An alphabet without repeats has as many characters as positions. -/
theorem card_chars (a : Alphabet) (ha : ∀ s ∈ a.symbols, s.IsScalar) (hnodup : a.symbols.Nodup) :
    Nat.card {c : Char // Symbol.ofChar c ∈ a.symbols} = a.size := by
  have hinj : ∀ s ∈ a.symbols, ∀ t ∈ a.symbols, s.toChar = t.toChar → s = t := by
    intro s hs t ht h
    rw [← Symbol.ofChar_toChar s (ha s hs), h, Symbol.ofChar_toChar t (ha t ht)]
  -- Scalar values are told apart by the characters they show.
  have hchars : (a.symbols.map Symbol.toChar).Nodup := List.Nodup.map_on hinj hnodup
  rw [Nat.subtype_card (a.symbols.map Symbol.toChar).toFinset, List.toFinset_card_of_nodup hchars,
    List.length_map]
  · rfl
  · intro c
    rw [List.mem_toFinset, List.mem_map]
    constructor
    · rintro ⟨s, hs, rfl⟩
      rw [Symbol.ofChar_toChar s (ha s hs)]
      exact hs
    · exact fun hc => ⟨Symbol.ofChar c, hc, Symbol.toChar_ofChar c⟩

/-- Strings of `L` characters with a property are tuples of such characters. -/
theorem card_texts (L : Nat) (P : Char → Prop) :
    Nat.card {text : String // text.length = L ∧ ∀ c ∈ text.toList, P c}
      = Nat.card {c : Char // P c} ^ L := by
  rw [← Nat.card_fin L, ← Nat.card_fun, Nat.card_fin]
  symm
  -- Writing the tuple out as a string loses nothing.
  refine Nat.card_eq_of_bijective
    (fun t => ⟨String.ofList (List.ofFn fun i => (t i).1), ?_, ?_⟩) ⟨?_, ?_⟩
  · rw [← String.length_toList, String.toList_ofList, List.length_ofFn]
  · intro c hc
    rw [String.toList_ofList] at hc
    rcases List.mem_ofFn.mp hc with ⟨i, rfl⟩
    exact (t i).2
  · intro t u h
    rw [Subtype.mk.injEq, String.ofList_inj, List.ofFn_inj] at h
    exact funext fun i => Subtype.ext (congrFun h i)
  · rintro ⟨text, hlen, hP⟩
    rcases exists_tuple text L hlen with ⟨t, rfl⟩
    rw [String.toList_ofList] at hP
    exact ⟨fun i => ⟨t i, hP (t i) (List.mem_ofFn.mpr ⟨i, rfl⟩)⟩, rfl⟩

/-- Without repeats every string over the alphabet has the same count. -/
theorem prod_count_of_nodup (a : Alphabet) (hnodup : a.symbols.Nodup) (m : Nat) (text : String)
    (htext : ∀ c ∈ text.toList, Symbol.ofChar c ∈ a.symbols) :
    (text.toList.map fun c => a.symbols.count (Symbol.ofChar c) * m).prod = m ^ text.length := by
  rw [List.prod_eq_pow_card _ m, List.length_map, String.length_toList]
  intro x hx
  rcases List.mem_map.mp hx with ⟨c, hc, rfl⟩
  rw [List.count_eq_one_of_mem hnodup (htext c hc), Nat.one_mul]

/-- Every string comes up exactly as often as its characters stand in the
    alphabet. Of the values a draw looks at, the remainder of their number by
    the size of the alphabet is looked past; the tuples of other values that
    lead to a string are counted by a product, with one factor for each of its
    characters. So without repeats all strings have the same count. -/
theorem generate_uniform (g : Generator) (a : Alphabet) (ha : ∀ s ∈ a.symbols, s.IsScalar)
    (h2 : 2 ≤ a.size) (h63 : a.size < 2 ^ 63) (L : Nat) (hcheck : g.check ⟨a, L⟩ = none)
    (stream : (Fin L → Fin (Buffer.valueRange a.size)) → Nat → UInt8)
    (hstream : ∀ d, Begins (stream d)
      ((List.ofFn fun i => (d i : Nat)).flatMap (Buffer.spell a.size)))
    (patience : Nat) :
    Nat.card {v : Fin (Buffer.valueRange a.size) // ¬ Buffer.Settles a.size v}
        = Buffer.valueRange a.size % a.size ∧
      (∀ text : String, text.length = L → tuplesTo g a L patience stream text
        = (text.toList.map fun c =>
            a.symbols.count (Symbol.ofChar c) * (Buffer.valueRange a.size / a.size)).prod) ∧
      (a.symbols.Nodup →
        Nat.card {text : String // text.length = L ∧ ∀ c ∈ text.toList, Symbol.ofChar c ∈ a.symbols}
          = a.size ^ L ∧
        ∀ text : String, text.length = L → (∀ c ∈ text.toList, Symbol.ofChar c ∈ a.symbols) →
          tuplesTo g a L patience stream text = (Buffer.valueRange a.size / a.size) ^ L) := by
  have hle : a.size ≤ Number.twoTo 64 := by
    rw [Buffer.twoTo_64]
    omega
  have htuples := tuplesTo_eq g a ha h2 hle L hcheck stream hstream patience
  refine ⟨card_not_settles a.size h2 hle, htuples, fun hnodup => ⟨?_, ?_⟩⟩
  · rw [card_texts, card_chars a ha hnodup]
  · intro text hlen htext
    have hprod := prod_count_of_nodup a hnodup (Buffer.valueRange a.size / a.size) text htext
    rw [hlen] at hprod
    exact (htuples text hlen).trans hprod

/-- With a letter that stands twice among three, the strings `ab` and `aa` come
    up in proportion one to two. -/
theorem generate_uniform_of_repeat :
    let a : Alphabet := .ofChars ['a', 'b', 'a']
    let stream (d : Fin 2 → Fin (Buffer.valueRange a.size)) : Nat → UInt8 := fun i =>
      ((List.ofFn fun i => (d i : Nat)).flatMap (Buffer.spell a.size)).getD i 0
    Nat.card {v : Fin (Buffer.valueRange a.size) // ¬ Buffer.Settles a.size v} = 1 ∧
      tuplesTo ⟨2⟩ a 2 0 stream "ab" = 14450 ∧ tuplesTo ⟨2⟩ a 2 0 stream "aa" = 28900 := by
  intro a stream
  have ha : ∀ s ∈ a.symbols, s.IsScalar := Alphabet.isScalar_of_mem_ofChars ['a', 'b', 'a']
  rcases generate_uniform ⟨2⟩ a ha (by decide) (by decide) 2 (by decide) stream
    (fun d => begins_getD _) 0 with ⟨hpast, htuples, _⟩
  exact ⟨hpast.trans (by decide), (htuples "ab" rfl).trans (by decide),
    (htuples "aa" rfl).trans (by decide)⟩

end Passforge
