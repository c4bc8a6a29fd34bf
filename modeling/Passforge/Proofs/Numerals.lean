import Passforge.Number.Literal
import Passforge.Number.Written

/-!
# Numerals Read Back

A number that the program prints can be read again, by whichever of its readers
comes next. There are two forms: decimal numerals with an optional minus sign,
which settings are dumped in, and hexadecimal numerals of a fixed width, which
stand in escapes.

The decimal reader checks the range after every digit. A printed number never
trips it half way, since a value only grows with the digits behind it
(`le_foldl_digits`) and the last one is within the range.

Read the other way, whatever a reader of signed literals answers fits 64 bits,
because every one of them ends in `signed`.

## Main definitions

* `Fits`: An integer of 64 bits.

## Theorems

* `readDigits_of_digits`: Digits read as the number they stand for.
* `decimalNat_digitsOf`: A printed natural number reads back.
* `tail_of_zero_cons`: A printed number has no needless zeros in front.
* `decimalInt_signedDigits`: A printed integer of 64 bits reads back.
* `decimalInt_fits`, `markedInt_fits`: What is read fits 64 bits.
* `hexNumber?_four`: Four hexadecimal digits read back.
-/

namespace Passforge

namespace Number

/-- An integer of 64 bits. -/
def Fits (n : Int) : Prop :=
  leastInt ≤ n ∧ n < -leastInt

instance (n : Int) : Decidable (Fits n) :=
  inferInstanceAs (Decidable (_ ∧ _))

theorem isDigit_of_mem_digits {n : Nat} {c : Char} (h : c ∈ Nat.toDigits 10 n) :
    c.isDigit = true :=
  Nat.isDigit_of_mem_toDigits (by decide) (by decide) h

theorem toNat_of_isDigit {c : Char} (h : c.isDigit = true) : 48 ≤ c.toNat ∧ c.toNat ≤ 57 := by
  simpa [Char.isDigit, UInt32.le_iff_toNat_le] using h

theorem between_of_isDigit {c : Char} (h : c.isDigit = true) : ('0' ≤ c && c ≤ '9') = true := by
  simpa [Char.isDigit, Char.le_def] using h

theorem between_of_mem_digitsOf {n : Nat} {c : Char} (h : c ∈ digitsOf n) :
    ('0' ≤ c && c ≤ '9') = true :=
  between_of_isDigit (isDigit_of_mem_digits h)

theorem digitsOf_exists_cons (n : Nat) :
    ∃ c cs, digitsOf n = c :: cs ∧ ('0' ≤ c && c ≤ '9') = true := by
  have hne : digitsOf n ≠ [] := Nat.toDigits_ne_nil
  obtain ⟨c, cs, hcs⟩ := List.exists_cons_of_ne_nil hne
  exact ⟨c, cs, hcs, between_of_mem_digitsOf (n := n) (hcs ▸ List.mem_cons_self)⟩

theorem digitValue?_of_isDigit {c : Char} (h : c.isDigit = true) :
    digitValue? c = some (c.toNat - 48) := by
  unfold digitValue?
  rw [if_pos (between_of_isDigit h)]

theorem le_foldl_digits (cs : List Char) (n : Nat) :
    n ≤ cs.foldl (fun n c => 10 * n + (c.toNat - 48)) n := by
  induction cs generalizing n with
  | nil => exact Nat.le_refl n
  | cons c cs ih =>
      have hstep := ih (10 * n + (c.toNat - 48))
      rw [List.foldl_cons]
      omega

/-- Digits read as the number they stand for if that one is within the range. -/
theorem readDigits_of_digits (cs : List Char) (n : Nat) (hdigits : ∀ c ∈ cs, c.isDigit = true)
    (hlt : cs.foldl (fun n c => 10 * n + (c.toNat - 48)) n < natBound) :
    readDigits 10 false n cs = .ok (cs.foldl (fun n c => 10 * n + (c.toNat - 48)) n) := by
  induction cs generalizing n with
  | nil => rfl
  | cons c cs ih =>
      have hc := hdigits c List.mem_cons_self
      have hrange := toNat_of_isDigit hc
      -- The value so far is at most the final one, which is within the range.
      have hle := le_foldl_digits cs (10 * n + (c.toNat - 48))
      rw [List.foldl_cons] at hlt
      rw [readDigits, digitValue?_of_isDigit hc, List.foldl_cons]
      simp only [Bool.false_and, Bool.false_eq_true, if_false]
      rw [if_neg (by omega), Nat.mul_comm n, if_neg (by omega)]
      exact ih _ (fun d hd => hdigits d (List.mem_cons_of_mem c hd)) hlt

theorem decimalNat_digitsOf (n : Nat) (h : n < natBound) : decimalNat (digitsOf n) = .ok n := by
  have hvalue : (Nat.toDigits 10 n).foldl (fun n c => 10 * n + (c.toNat - 48)) 0 = n :=
    Nat.ofDigitChars_toDigits (by decide) (by decide)
  have hread := readDigits_of_digits (Nat.toDigits 10 n) 0 (fun c => isDigit_of_mem_digits)
    (by rw [hvalue]; exact h)
  rw [hvalue] at hread
  unfold digitsOf decimalNat
  split
  · rename_i hnil
    exact absurd hnil Nat.toDigits_ne_nil
  · exact hread

/-- Only zero starts with the digit zero. -/
theorem tail_of_zero_cons {n : Nat} {cs : List Char} (h : digitsOf n = '0' :: cs) : cs = [] := by
  unfold digitsOf at h
  induction n using Nat.strongRecOn generalizing cs with
  | ind n ih =>
      by_cases hlt : n < 10
      · rw [Nat.toDigits_of_lt_base hlt, List.cons.injEq] at h
        exact h.2.symm
      · -- The digits but the last are those of a smaller number, which is not zero.
        rw [Nat.toDigits_of_base_le (by decide) (by omega)] at h
        rcases hfront : Nat.toDigits 10 (n / 10) with _ | ⟨c, front⟩
        · exact absurd hfront Nat.toDigits_ne_nil
        · rw [hfront, List.cons_append, List.cons.injEq] at h
          obtain ⟨rfl, -⟩ := h
          have hnil := ih (n / 10) (by omega) hfront
          have hvalue : Nat.ofDigitChars 10 (Nat.toDigits 10 (n / 10)) 0 = n / 10 :=
            Nat.ofDigitChars_toDigits (by decide) (by decide)
          rw [hfront, hnil] at hvalue
          have hzero : Nat.ofDigitChars 10 ['0'] 0 = 0 := rfl
          omega

theorem natAbs_lt_natBound {n : Int} (h : Fits n) : n.natAbs < natBound := by
  have hbound : natBound = 18446744073709551616 := rfl
  unfold Fits leastInt at h
  omega

/-- The sign and the magnitude of an integer of 64 bits give it back. -/
theorem signed_natAbs {n : Int} (h : Fits n) : signed (decide (n < 0)) n.natAbs = .ok n := by
  have htwo : twoTo 63 = 9223372036854775808 := rfl
  unfold Fits leastInt at h
  unfold signed
  by_cases hneg : n < 0
  · rw [decide_eq_true hneg, if_pos rfl, if_pos (by omega)]
    congr 1
    omega
  · rw [decide_eq_false hneg, if_neg (by decide), if_pos (by omega)]
    congr 1
    omega

/-- A numeral starts with a sign or a digit. -/
theorem signedDigits_exists_cons (n : Int) :
    ∃ c cs, signedDigits n = c :: cs ∧ (('0' ≤ c && c ≤ '9') = true ∨ c = '-') := by
  unfold signedDigits
  split
  · exact ⟨_, _, rfl, .inr rfl⟩
  · obtain ⟨c, cs, hcs, hc⟩ := digitsOf_exists_cons n.natAbs
    exact ⟨c, cs, hcs, .inl hc⟩

theorem splitSign_signedDigits (n : Int) :
    splitSign (signedDigits n) = (decide (n < 0), digitsOf n.natAbs) := by
  unfold signedDigits
  by_cases hneg : n < 0
  · rw [if_pos hneg, decide_eq_true hneg]
    rfl
  · rw [if_neg hneg, decide_eq_false hneg]
    -- A numeral without a sign starts with a digit, and no digit is a sign.
    obtain ⟨c, cs, hcs, hc⟩ := digitsOf_exists_cons n.natAbs
    rw [hcs]
    unfold splitSign
    split
    · rename_i heq
      cases heq
      exact absurd hc (by decide)
    · rename_i heq
      cases heq
      exact absurd hc (by decide)
    · rfl

/-- A printed integer of 64 bits reads back. -/
theorem decimalInt_signedDigits (n : Int) (h : Fits n) :
    decimalInt (String.ofList (signedDigits n)) = .ok n := by
  unfold decimalInt
  rw [String.toList_ofList, splitSign_signedDigits]
  simp only [decimalNat_digitsOf _ (natAbs_lt_natBound h)]
  exact signed_natAbs h

theorem signed_fits {negative : Bool} {magnitude : Nat} {n : Int}
    (h : signed negative magnitude = .ok n) : Fits n := by
  have htwo : twoTo 63 = 9223372036854775808 := rfl
  unfold signed at h
  unfold Fits leastInt
  split at h
  · split at h
    · rw [Except.ok.injEq] at h
      omega
    · cases h
  · split at h
    · rw [Except.ok.injEq] at h
      omega
    · cases h

theorem decimalInt_fits {s : String} {n : Int} (h : decimalInt s = .ok n) : Fits n := by
  unfold decimalInt at h
  rcases hread : decimalNat (splitSign s.toList).2 with e | magnitude
  · simp only [hread] at h
    cases h
  · simp only [hread] at h
    exact signed_fits h

theorem markedInt_fits {s : String} {n : Int} (h : markedInt s = .ok n) : Fits n := by
  unfold markedInt at h
  rcases hread : markedDigits (splitSign s.toList).2 with e | magnitude
  · simp only [hread] at h
    cases h
  · simp only [hread] at h
    exact signed_fits h

end Number

namespace Text

theorem hexValue?_lowerHexDigit (n : Nat) : hexValue? (lowerHexDigit n) = some (n % 16) := by
  have hall : ∀ m < 16, hexValue? (lowerHexDigit m) = some m := by decide
  have hmod : lowerHexDigit n = lowerHexDigit (n % 16) := by
    simp only [lowerHexDigit, Nat.mod_mod]
  rw [hmod, hall _ (Nat.mod_lt n (by decide))]

theorem hexValue?_upperHexDigit (n : Nat) : hexValue? (upperHexDigit n) = some (n % 16) := by
  have hall : ∀ m < 16, hexValue? (upperHexDigit m) = some m := by decide
  have hmod : upperHexDigit n = upperHexDigit (n % 16) := by
    simp only [upperHexDigit, Nat.mod_mod]
  rw [hmod, hall _ (Nat.mod_lt n (by decide))]

/-- Four digits stand for the number whose digits they are. -/
theorem hexNumber?_four (digit : Nat → Char) (hdigit : ∀ n, hexValue? (digit n) = some (n % 16))
    (n : Nat) (h : n < 65536) :
    hexNumber? [digit (n / 16 / 16 / 16), digit (n / 16 / 16), digit (n / 16), digit n]
      = some n := by
  simp only [hexNumber?, List.foldlM_cons, List.foldlM_nil, hdigit, Option.map_some,
    Option.bind_eq_bind, Option.bind_some, pure, Option.some.injEq]
  omega

end Text

end Passforge
