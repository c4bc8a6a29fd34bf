import Mathlib.Data.List.TakeWhile
import Passforge.Proofs.Numerals

/-!
# Whole Numbers as Counters Show Them

A counter is shown as a floating-point number in its shortest decimal form. Up
to `2^53` that loses nothing: the text denotes the very number.

Below `2^53` a whole number `n` is its own floating-point value, `n · 2^k` in
units of `2^-k`, and the numbers that round to it are all within less than one
of it. So the only multiple of a power of ten among them is `n` itself, if at
all, and the search for the coarsest decimal grid ends with digits and a power
whose product is `n`. It does not fail, since `n` is a multiple of one. At
`2^53` the next whole number rounds to the same value, and there the search is
run.

What a text denotes is said without reference to how it was written: the digits
before and behind the point as one number, shifted by the places behind the
point and by the power of ten. The equation is one of natural numbers, with the
denominators cleared.

## Main definitions

* `Numeral.read`: A decimal text, taken apart.
* `Numeral.Denotes`: The natural number it stands for.
* `Neighbourhood.Narrow`: A neighbourhood that holds one whole number.

## Theorems

* `ofRatio_whole`: The floating-point value of a whole number.
* `gridPoint?_of_narrow`, `coarsest_of_narrow`: The decimal grids that meet a
  narrow neighbourhood.
* `read_positional`, `read_scientific`: What the two notations say.
* `newline_not_mem_write`: A number is written on one line.
* `denotes_counterText`: A counter's text denotes its number.
* `counterText_injective`: Different numbers have different texts.
-/

namespace Passforge.Number

/-- A decimal text, taken apart: its digits as one number, how many of them are
    behind the point, and the power of ten. -/
structure Numeral where
  digits : Nat
  places : Nat
  exponent : Int

namespace Numeral

/-- Takes a decimal text apart at its point and at its power of ten. -/
def read (cs : List Char) : Numeral :=
  let mantissa := cs.takeWhile (· != 'e')
  let fraction := (mantissa.dropWhile (· != '.')).drop 1
  let power := splitSign ((cs.dropWhile (· != 'e')).drop 1)
  let magnitude : Int := Nat.ofDigitChars 10 power.2 0
  { digits := Nat.ofDigitChars 10 (mantissa.takeWhile (· != '.') ++ fraction) 0
    places := fraction.length
    exponent := if power.1 then -magnitude else magnitude }

/-- The numeral stands for the natural number. -/
def Denotes (x : Numeral) (n : Nat) : Prop :=
  x.digits * tenTo x.exponent.toNat = n * tenTo (x.places + (-x.exponent).toNat)

instance (x : Numeral) (n : Nat) : Decidable (x.Denotes n) :=
  inferInstanceAs (Decidable (_ = _))

end Numeral

theorem twoTo_pos (n : Nat) : 0 < twoTo n := Nat.two_pow_pos n

theorem twoTo_add (m n : Nat) : twoTo (m + n) = twoTo m * twoTo n := Nat.pow_add 2 m n

theorem tenTo_pos (n : Nat) : 0 < tenTo n := Nat.pow_pos (by decide)

theorem tenTo_add (m n : Nat) : tenTo (m + n) = tenTo m * tenTo n := Nat.pow_add 10 m n

/-- A numeral stands for one number at most. -/
theorem Numeral.Denotes.unique {x : Numeral} {m n : Nat} (hm : x.Denotes m) (hn : x.Denotes n) :
    m = n :=
  Nat.eq_of_mul_eq_mul_right (tenTo_pos _) (hm.symm.trans hn)

section Values

theorem roundQuot_one (n : Nat) : roundQuot n 1 = n := by
  unfold roundQuot
  simp [Nat.mod_one]

/-- A whole number in units of a negative power of two. -/
theorem scaledQuot_whole (n k : Nat) : scaledQuot n 1 (-(k : Int)) = n * twoTo k := by
  unfold scaledQuot
  by_cases hk : k = 0
  · subst hk
    exact (roundQuot_one n).trans (Nat.mul_one n).symm
  · rw [if_neg (by omega), roundQuot_one, show (- -(k : Int)).toNat = k by omega]

variable {n : Nat}

theorem log2_le (hpos : n ≠ 0) (hlt : n < twoTo 53) : n.log2 ≤ 52 :=
  Nat.le_of_lt_succ ((Nat.log2_lt hpos).mpr hlt)

/-- The mantissa of a whole number has its first digit in front. -/
theorem mantissa_bounds (hpos : n ≠ 0) (hlt : n < twoTo 53) :
    twoTo 52 ≤ n * twoTo (52 - n.log2) ∧ n * twoTo (52 - n.log2) < twoTo 53 := by
  have hlog := log2_le hpos hlt
  have hlow : twoTo n.log2 ≤ n := Nat.log2_self_le hpos
  have hhigh : n < twoTo (n.log2 + 1) := Nat.lt_log2_self
  constructor
  · calc twoTo 52 = twoTo n.log2 * twoTo (52 - n.log2) := by
          rw [← twoTo_add, Nat.add_sub_cancel' hlog]
      _ ≤ n * twoTo (52 - n.log2) := Nat.mul_le_mul_right _ hlow
  · calc n * twoTo (52 - n.log2) < twoTo (n.log2 + 1) * twoTo (52 - n.log2) :=
          Nat.mul_lt_mul_of_pos_right hhigh (twoTo_pos _)
      _ = twoTo 53 := by
          rw [← twoTo_add]
          congr 1
          omega

theorem unitExponent_whole (hpos : n ≠ 0) (hlt : n < twoTo 53) :
    unitExponent n 1 = -((52 - n.log2 : Nat) : Int) := by
  have hlog := log2_le hpos hlt
  have hlow := (mantissa_bounds hpos hlt).1
  have hguess : (n.log2 : Int) - Nat.log2 1 - 52 = -((52 - n.log2 : Nat) : Int) := by
    rw [show Nat.log2 1 = 0 by decide]
    omega
  unfold unitExponent minExponent
  simp only [hguess]
  -- The guess is right, since the mantissa it leaves has its first digit in front.
  have hk : 52 - n.log2 ≤ 52 := Nat.sub_le _ _
  generalize 52 - n.log2 = k at hlow hk
  have hshort : ¬ (if (0 : Int) ≤ -k then n < 1 * twoTo (-(k : Int)).toNat * twoTo 52
      else n * twoTo (- -(k : Int)).toNat < 1 * twoTo 52) := by
    rw [Int.neg_neg, Int.toNat_natCast]
    split
    · obtain rfl : k = 0 := by omega
      have hzero : twoTo 0 = 1 := rfl
      simp only [Int.natCast_zero, Int.neg_zero, Int.toNat_zero, hzero] at hlow ⊢
      omega
    · omega
  rw [if_neg hshort]
  omega

/-- A whole number that is small enough is its own floating-point value. -/
theorem ofRatio_whole (hpos : n ≠ 0) (hlt : n < twoTo 53) :
    Binary64.ofRatio false n 1
      = .finite false (n * twoTo (52 - n.log2)) (-((52 - n.log2 : Nat) : Int)) := by
  have hhigh := (mantissa_bounds hpos hlt).2
  unfold Binary64.ofRatio
  rw [if_neg (by simpa using hpos)]
  have hcarry : (n * twoTo (52 - n.log2) == twoTo 53) = false := by simpa using Nat.ne_of_lt hhigh
  simp only [unitExponent_whole hpos hlt, scaledQuot_whole, hcarry, Bool.false_eq_true, if_false]
  rw [if_neg (by unfold maxExponent; omega)]

end Values

section Grids

/-- The value is the whole number `n`, and no other whole number is in the
    neighbourhood. -/
structure Neighbourhood.Narrow (nb : Neighbourhood) (n : Nat) : Prop where
  value : nb.value = n * nb.scale
  low : nb.low < nb.value
  low' : nb.value < nb.low + nb.scale
  high : nb.value < nb.high
  high' : nb.high < nb.value + nb.scale

variable {nb : Neighbourhood} {n : Nat}

theorem Neighbourhood.Narrow.holds_iff (h : nb.Narrow n) (x : Nat) :
    nb.holds x 1 = true ↔ x = n := by
  have hlow := h.low
  have hlow' := h.low'
  have hhigh := h.high
  have hhigh' := h.high'
  have hvalue := h.value
  unfold Neighbourhood.holds
  simp only [Nat.mul_one]
  rcases Nat.lt_trichotomy x n with hlt | rfl | hgt
  -- One less is a whole unit less, which is below the lower end.
  · have hunit : x * nb.scale + nb.scale ≤ n * nb.scale := by
      rw [← Nat.succ_mul]
      exact Nat.mul_le_mul_right _ hlt
    split <;> simp <;> omega
  · split <;> simp <;> omega
  · have hunit : n * nb.scale + nb.scale ≤ x * nb.scale := by
      rw [← Nat.succ_mul]
      exact Nat.mul_le_mul_right _ hgt
    split <;> simp <;> omega

/-- A decimal grid meets a narrow neighbourhood in its whole number only. -/
theorem gridPoint?_of_narrow (h : nb.Narrow n) (p : Nat) :
    gridPoint? nb p = if tenTo p ∣ n then some (n / tenTo p) else none := by
  have hscale : 0 < nb.scale := by
    have hlow := h.low
    have hlow' := h.low'
    omega
  have hbelow : nb.value * 1 / (nb.scale * tenTo p) = n / tenTo p := by
    rw [h.value, Nat.mul_one, Nat.mul_comm n, Nat.mul_div_mul_left _ _ hscale]
  have hcoarse : n / tenTo p * tenTo p = n ↔ tenTo p ∣ n :=
    ⟨fun heq => ⟨n / tenTo p, by rw [Nat.mul_comm, heq]⟩, Nat.div_mul_cancel⟩
  -- The next point of the grid is beyond the number.
  have hnext : (n / tenTo p + 1) * tenTo p ≠ n := by
    have hlt := Nat.lt_div_mul_add (a := n) (tenTo_pos p)
    rw [Nat.succ_mul]
    omega
  unfold gridPoint?
  simp only [Int.natCast_nonneg, if_true, Int.toNat_natCast, hbelow]
  have hsecond : nb.holds ((n / tenTo p + 1) * tenTo p) 1 = false := by
    rw [Bool.eq_false_iff]
    exact fun hholds => hnext ((h.holds_iff _).mp hholds)
  rw [hsecond]
  by_cases hdvd : tenTo p ∣ n
  · rw [(h.holds_iff _).mpr (hcoarse.mpr hdvd), if_pos hdvd]
  · have hfirst : nb.holds (n / tenTo p * tenTo p) 1 = false := by
      rw [Bool.eq_false_iff]
      exact fun hholds => hdvd (hcoarse.mp ((h.holds_iff _).mp hholds))
    rw [hfirst, if_neg hdvd]

/-- The search ends at the latest with the grid of the whole numbers. -/
theorem coarsest_of_narrow (h : nb.Narrow n) (p count : Nat) (hcount : p < count) :
    ∃ d q : Nat, coarsest nb p count = (d, (q : Int)) ∧ d * tenTo q = n := by
  obtain ⟨count, rfl⟩ := Nat.exists_eq_succ_of_ne_zero (Nat.ne_zero_of_lt hcount)
  induction p generalizing count with
  | zero =>
      rw [coarsest, gridPoint?_of_narrow h, if_pos (show tenTo 0 ∣ n from Nat.one_dvd n)]
      exact ⟨_, 0, rfl, Nat.div_mul_cancel (Nat.one_dvd n)⟩
  | succ p ih =>
      rw [coarsest, gridPoint?_of_narrow h]
      by_cases hdvd : tenTo (p + 1) ∣ n
      · rw [if_pos hdvd]
        exact ⟨_, p + 1, rfl, Nat.div_mul_cancel hdvd⟩
      · rw [if_neg hdvd]
        obtain ⟨count, rfl⟩ := Nat.exists_eq_succ_of_ne_zero (show count ≠ 0 by omega)
        have hfiner : ((p + 1 : Nat) : Int) - 1 = p := by omega
        simp only [hfiner]
        exact ih count (by omega)

/-- The numbers that round to a small whole number are all within less than one
    of it. -/
theorem narrow_neighbourhood (n k : Nat) (hpos : n ≠ 0) :
    (neighbourhood (n * twoTo k) (-(k : Int))).Narrow n := by
  have hm : 0 < n * twoTo k := Nat.mul_pos (Nat.pos_of_ne_zero hpos) (twoTo_pos k)
  have hscale : twoTo (k + 2) = 4 * twoTo k := by
    rw [twoTo_add, Nat.mul_comm]
    rfl
  have hone := twoTo_pos k
  unfold neighbourhood
  simp only [show ¬ (2 : Int) ≤ -k by omega, if_false, show (2 - -(k : Int)).toNat = k + 2 by omega,
    hscale, Nat.mul_one]
  generalize hbelow : (if (n * twoTo k == twoTo 52 && decide (minExponent < -(k : Int))) = true
    then 1 else 2) = below
  have hbound : 1 ≤ below ∧ below ≤ 2 := by
    subst hbelow
    split <;> decide
  constructor
  · exact Nat.mul_left_comm 4 n (twoTo k)
  all_goals
    simp only
    omega

/-- The digits and the power found for a small whole number give it back. -/
theorem shortestDigits_whole (n k : Nat) (hpos : n ≠ 0) :
    ∃ d p : Nat, shortestDigits (n * twoTo k) (-(k : Int)) = (d, (p : Int)) ∧ d * tenTo p = n :=
  coarsest_of_narrow (narrow_neighbourhood n k hpos) _ _ (by omega)

end Grids

section Notations

theorem isDigit_ne {c : Char} (h : c.isDigit = true) :
    (c != 'e') = true ∧ (c != '.') = true := by
  constructor
  all_goals
    rw [bne_iff_ne]
    rintro rfl
    cases h

theorem digitsOf_ne {d : Nat} {c : Char} (h : c ∈ digitsOf d) :
    (c != 'e') = true ∧ (c != '.') = true :=
  isDigit_ne (isDigit_of_mem_digits h)

/-- Digits, with zeros behind them. -/
theorem read_positional (d p : Nat) :
    (Numeral.read (positional (digitsOf d) p)).Denotes (d * tenTo p) := by
  have hall : ∀ c ∈ digitsOf d ++ List.replicate p '0', (c != 'e') = true ∧ (c != '.') = true := by
    intro c hc
    rcases List.mem_append.mp hc with hc | hc
    · exact digitsOf_ne hc
    · rw [List.eq_of_mem_replicate hc]
      decide
  have htext : positional (digitsOf d) p = digitsOf d ++ List.replicate p '0' := by
    unfold positional
    rw [if_pos (Int.natCast_nonneg p), Int.toNat_natCast]
  unfold Numeral.read
  simp only [htext, List.takeWhile_eq_self_iff.mpr fun c hc => (hall c hc).1,
    List.dropWhile_eq_nil_iff.mpr fun c hc => (hall c hc).1,
    List.takeWhile_eq_self_iff.mpr fun c hc => (hall c hc).2,
    List.dropWhile_eq_nil_iff.mpr fun c hc => (hall c hc).2]
  have hvalue : Nat.ofDigitChars 10 (digitsOf d ++ List.replicate p '0') 0 = tenTo p * d := by
    rw [Nat.ofDigitChars_append, Nat.ofDigitChars_replicate_zero]
    exact congrArg (tenTo p * ·) Nat.ofDigitChars_ten_toDigits
  simp only [List.drop_nil, List.append_nil, hvalue, Nat.mul_comm (tenTo p)]
  exact rfl

/-- The part before the power of ten has the first digit before the point, if it
    has a point, and the others behind it. -/
theorem scientific_parts {c : Char} {rest : List Char}
    (h : ∀ b ∈ c :: rest, (b != 'e') = true ∧ (b != '.') = true) (p width : Nat) :
    ∃ mantissa, scientific (c :: rest) p width
        = mantissa ++ 'e' :: exponentText ((p + rest.length : Nat) : Int) width ∧
      (∀ b ∈ mantissa, (b != 'e') = true) ∧ mantissa.takeWhile (· != '.') = [c] ∧
      (mantissa.dropWhile (· != '.')).drop 1 = rest := by
  have hpower : (p : Int) + (c :: rest).length - 1 = ((p + rest.length : Nat) : Int) := by
    rw [List.length_cons]
    omega
  have hc := h c List.mem_cons_self
  unfold scientific
  rw [hpower]
  rcases rest with _ | ⟨b, more⟩
  · refine ⟨[c], rfl, by simpa using hc.1, ?_, ?_⟩
    · simp [hc.2]
    · simp [hc.2]
  · refine ⟨c :: '.' :: b :: more, rfl, ?_, ?_, ?_⟩
    · intro x hx
      rcases List.mem_cons.mp hx with rfl | hx
      · exact hc.1
      rcases List.mem_cons.mp hx with rfl | hx
      · decide
      · exact (h x (List.mem_cons_of_mem c hx)).1
    · simp [hc.2]
    · simp [hc.2]

/-- One digit, the others behind a point, and a power of ten. -/
theorem read_scientific (d p width : Nat) :
    (Numeral.read (scientific (digitsOf d) p width)).Denotes (d * tenTo p) := by
  obtain ⟨c, rest, hcs, -⟩ := digitsOf_exists_cons d
  obtain ⟨mantissa, htext, hall, hwhole, hfraction⟩ :=
    scientific_parts (fun b hb => digitsOf_ne (hcs ▸ hb)) p width
  have hpower : splitSign (exponentText ((p + rest.length : Nat) : Int) width)
      = (false, List.replicate (width - (digitsOf (p + rest.length)).length) '0' ++
          digitsOf (p + rest.length)) := by
    unfold exponentText
    rw [if_neg (by omega), Int.natAbs_natCast]
    rfl
  have hmagnitude : Nat.ofDigitChars 10 (List.replicate
      (width - (digitsOf (p + rest.length)).length) '0' ++ digitsOf (p + rest.length)) 0
        = p + rest.length := by
    rw [Nat.ofDigitChars_append, Nat.ofDigitChars_replicate_zero, Nat.mul_zero]
    exact Nat.ofDigitChars_ten_toDigits
  have hvalue : Nat.ofDigitChars 10 ([c] ++ rest) 0 = d := by
    rw [List.singleton_append, ← hcs]
    exact Nat.ofDigitChars_ten_toDigits
  rw [hcs, htext]
  unfold Numeral.read
  simp only [List.takeWhile_append_of_pos hall, List.dropWhile_append_of_pos hall,
    List.takeWhile_cons, List.dropWhile_cons, bne_self_eq_false, Bool.false_eq_true, if_false,
    List.append_nil, List.drop_succ_cons, List.drop_zero, hwhole, hfraction, hpower, hmagnitude,
    hvalue]
  -- The point takes as many places away as the power of ten gives on top of `p`.
  unfold Numeral.Denotes
  simp only [Int.toNat_natCast, show (-((p + rest.length : Nat) : Int)).toNat = 0 by omega,
    Nat.add_zero, tenTo_add, Nat.mul_assoc]

end Notations

section Lines

theorem newline_not_mem_digitsOf (n : Nat) : '\n' ∉ digitsOf n :=
  fun h => absurd (isDigit_of_mem_digits h) (by decide)

theorem newline_not_mem_positional {digits : List Char} (h : '\n' ∉ digits) (p : Int) :
    '\n' ∉ positional digits p := by
  have htake (k : Nat) : '\n' ∉ digits.take k := fun hmem => h (List.mem_of_mem_take hmem)
  have hdrop (k : Nat) : '\n' ∉ digits.drop k := fun hmem => h (List.mem_of_mem_drop hmem)
  unfold positional
  split
  · simp [h]
  · simp only
    split
    · simp [htake, hdrop]
    · simp [h]

theorem newline_not_mem_scientific {digits : List Char} (h : '\n' ∉ digits) (p : Int)
    (width : Nat) : '\n' ∉ scientific digits p width := by
  have hpower (e : Int) : '\n' ∉ exponentText e width := by
    unfold exponentText
    split <;> simp [newline_not_mem_digitsOf]
  unfold scientific
  split <;> simp_all

/-- A number is written on one line. -/
theorem newline_not_mem_write (style : Style) (v : Binary64) : '\n' ∉ (style.write v).toList := by
  unfold Style.write
  split
  · decide
  · split <;> decide
  · rename_i negative m q
    have hdigits := newline_not_mem_digitsOf (shortestDigits m q).1
    have hsign : '\n' ∉ (if negative then ['-'] else []) := by cases negative <;> simp
    simp only
    generalize (if negative then ['-'] else []) = sign at hsign ⊢
    split
    · simp [hsign]
    · rw [String.toList_ofList, List.mem_append, not_or]
      refine ⟨hsign, ?_⟩
      split
      · exact newline_not_mem_scientific hdigits _ _
      · exact newline_not_mem_positional hdigits _

end Lines

/-- Up to `2^53` the text of a counter denotes its number. -/
theorem denotes_counterText {n : Nat} (h : n ≤ twoTo 53) :
    (Numeral.read (counterText n).toList).Denotes n := by
  rcases Nat.lt_or_eq_of_le h with hlt | rfl
  · by_cases hpos : n = 0
    · subst hpos
      decide
    · obtain ⟨d, p, hdigits, rfl⟩ := shortestDigits_whole n (52 - n.log2) hpos
      have hm : (d * tenTo p * twoTo (52 - (d * tenTo p).log2) == 0) = false := by
        rw [beq_eq_false_iff_ne]
        exact Nat.mul_ne_zero hpos (Nat.ne_of_gt (twoTo_pos _))
      unfold counterText
      rw [ofRatio_whole hpos hlt]
      unfold Style.write
      simp only [hm, hdigits, Bool.false_eq_true, if_false, List.nil_append, String.toList_ofList]
      split
      · exact read_scientific d p _
      · exact read_positional d p
  -- The next whole number rounds to the same value, but there is a nearer point: the value.
  · decide +kernel

/-- Numbers up to `2^53` are told apart by their texts. -/
theorem counterText_injective {m n : Nat} (hm : m ≤ twoTo 53) (hn : n ≤ twoTo 53)
    (h : counterText m = counterText n) : m = n :=
  (denotes_counterText hm).unique (h ▸ denotes_counterText hn)

end Passforge.Number
