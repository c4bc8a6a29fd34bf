import Passforge.Proofs.Planning
import Passforge.Proofs.Verifying

/-!
# Which Arguments Are Lengths

The grammar of the length argument, said apart from the reader. A length is
written as an optional sign and ASCII digits, at least one and any number of
them, and nothing else; and it is a length only if the number is not negative
and fits 63 bits. Any other argument stands for the configured length and is
announced.

The reader checks the range after every digit, against a bound that is twice as
large as the final one. What it refuses half way is refused for good, since a
value only grows with the digits behind it, so the digits that it accepts are
those whose value is below the bound in the end (`readDigits_eq_ok_iff`). A
value that has wrapped around never comes up.

Letters are digits of higher bases, and the reader knows their values. In base
ten they are refused with all other characters (`digitValue?_lt_ten_iff`).

## Main definitions

* `Number.IntegerText`: A text of an optional sign and digits, with its value.

## Theorems

* `Number.decimalNat_eq_ok_iff`: The digits that can be read.
* `Number.decimalInt_eq_ok_iff`: The integers that can be read.
* `Command.lengthOf?_eq_some_iff_integerText`: The arguments that are lengths.
* `Command.length_argument_grammar`: What becomes of an argument.
-/

namespace Passforge

namespace Number

open Hash.StoredHash (Spells)

/-- An integer in decimal: an optional sign and digits. -/
inductive IntegerText : List Char → Int → Prop
  | unsigned {digits : List Char} {n : Nat} (h : Spells digits n) : IntegerText digits n
  | plus {digits : List Char} {n : Nat} (h : Spells digits n) : IntegerText ('+' :: digits) n
  | minus {digits : List Char} {n : Nat} (h : Spells digits n) : IntegerText ('-' :: digits) (-n)

theorem isDigit_of_between {c : Char} (h : ('0' ≤ c && c ≤ '9') = true) : c.isDigit = true := by
  simpa [Char.isDigit, Char.le_def] using h

/-- The digits of base ten are the decimal digits. -/
theorem digitValue?_lt_ten_iff {c : Char} {d : Nat} :
    digitValue? c = some d ∧ d < 10 ↔ c.isDigit = true ∧ c.toNat - 48 = d := by
  constructor
  · rintro ⟨hvalue, hlt⟩
    unfold digitValue? at hvalue
    split at hvalue
    · rename_i hdigit
      exact ⟨isDigit_of_between hdigit, Option.some.inj hvalue⟩
    -- Letters start at ten.
    · exfalso
      split at hvalue
      · rename_i hletter
        simp only [Bool.and_eq_true, decide_eq_true_eq, Char.le_def, UInt32.le_iff_toNat_le]
          at hletter
        have hlow : 97 ≤ c.toNat := hletter.1
        rw [Option.some.injEq] at hvalue
        omega
      · split at hvalue
        · rename_i hletter
          simp only [Bool.and_eq_true, decide_eq_true_eq, Char.le_def, UInt32.le_iff_toNat_le]
            at hletter
          have hlow : 65 ≤ c.toNat := hletter.1
          rw [Option.some.injEq] at hvalue
          omega
        · cases hvalue
  · rintro ⟨hdigit, rfl⟩
    have hrange := toNat_of_isDigit hdigit
    exact ⟨digitValue?_of_isDigit hdigit, by omega⟩

/-- What is read are digits, and the number is theirs. -/
theorem digits_of_readDigits {cs : List Char} {n m : Nat} (hn : n < natBound)
    (h : readDigits 10 false n cs = .ok m) :
    (∀ c ∈ cs, c.isDigit = true) ∧ cs.foldl (fun n c => 10 * n + (c.toNat - 48)) n = m ∧
      m < natBound := by
  induction cs generalizing n with
  | nil =>
      cases h
      exact ⟨List.forall_mem_nil _, rfl, hn⟩
  | cons c cs ih =>
      rw [readDigits] at h
      simp only [Bool.false_and, Bool.false_eq_true, if_false] at h
      split at h
      · cases h
      · rename_i d hvalue
        split at h
        · cases h
        · rename_i hten
          split at h
          · cases h
          · rename_i hbound
            obtain ⟨hdigit, rfl⟩ := digitValue?_lt_ten_iff.mp ⟨hvalue, Nat.lt_of_not_le hten⟩
            obtain ⟨hdigits, hfold, hm⟩ := ih (Nat.lt_of_not_le hbound) h
            rw [Nat.mul_comm] at hfold
            exact ⟨List.forall_mem_cons.mpr ⟨hdigit, hdigits⟩, hfold, hm⟩

/-- The digits that can be read are those of the numbers within the range. -/
theorem readDigits_eq_ok_iff (cs : List Char) {n : Nat} (hn : n < natBound) (m : Nat) :
    readDigits 10 false n cs = .ok m ↔ (∀ c ∈ cs, c.isDigit = true) ∧
      cs.foldl (fun n c => 10 * n + (c.toNat - 48)) n = m ∧ m < natBound := by
  constructor
  · exact digits_of_readDigits hn
  · rintro ⟨hdigits, rfl, hm⟩
    exact readDigits_of_digits cs n hdigits hm

theorem decimalNat_eq_ok_iff (cs : List Char) (n : Nat) :
    decimalNat cs = .ok n ↔ Spells cs n ∧ n < natBound := by
  rcases cs with _ | ⟨c, cs⟩
  · constructor
    · intro h
      cases h
    · rintro ⟨⟨hne, -⟩, -⟩
      exact absurd rfl hne
  · have hread := readDigits_eq_ok_iff (c :: cs) (n := 0) (by decide) n
    unfold Spells
    rw [and_assoc, and_assoc, and_iff_right (List.cons_ne_nil c cs)]
    exact hread

/-- A magnitude with its sign is read if the integer fits 64 bits. -/
theorem signed_eq_ok_iff (negative : Bool) (magnitude : Nat) (v : Int) :
    signed negative magnitude = .ok v ↔
      v = (if negative then -(magnitude : Int) else magnitude) ∧ Fits v := by
  have htwo : twoTo 63 = 9223372036854775808 := rfl
  unfold signed Fits leastInt
  rcases negative with _ | _
  · simp only [Bool.false_eq_true, if_false]
    split
    · rw [Except.ok.injEq]
      omega
    · simp only [reduceCtorEq, false_iff]
      omega
  · simp only [if_true]
    split
    · rw [Except.ok.injEq]
      omega
    · simp only [reduceCtorEq, false_iff]
      omega

/-- What stands behind the sign, with what the sign makes of its number. -/
theorem integerText_iff (cs : List Char) (v : Int) :
    IntegerText cs v ↔ ∃ n, Spells (splitSign cs).2 n ∧
      v = if (splitSign cs).1 then -(n : Int) else n := by
  have hsign {c : Char} {digits : List Char} {n : Nat} (h : Spells (c :: digits) n) :
      c ≠ '+' ∧ c ≠ '-' := by
    have hdigit := h.2.1 c List.mem_cons_self
    constructor
    all_goals
      rintro rfl
      cases hdigit
  unfold splitSign
  split
  · rename_i digits
    constructor
    · intro h
      cases h with
      | unsigned h => exact absurd rfl (hsign h).1
      | plus h => exact ⟨_, h, rfl⟩
    · rintro ⟨n, h, rfl⟩
      exact .plus h
  · rename_i digits
    constructor
    · intro h
      cases h with
      | unsigned h => exact absurd rfl (hsign h).2
      | minus h => exact ⟨_, h, rfl⟩
    · rintro ⟨n, h, rfl⟩
      exact .minus h
  · rename_i hplus hminus
    constructor
    · intro h
      cases h with
      | unsigned h => exact ⟨_, h, rfl⟩
      | plus h => exact absurd rfl (hplus _)
      | minus h => exact absurd rfl (hminus _)
    · rintro ⟨n, h, rfl⟩
      exact .unsigned h

/-- The integers that can be read are those of 64 bits. -/
theorem decimalInt_eq_ok_iff (s : String) (v : Int) :
    decimalInt s = .ok v ↔ IntegerText s.toList v ∧ Fits v := by
  unfold decimalInt
  rw [integerText_iff]
  rcases splitSign s.toList with ⟨negative, digits⟩
  simp only
  rw [bind_eq_ok_iff]
  simp only [decimalNat_eq_ok_iff, signed_eq_ok_iff]
  constructor
  · rintro ⟨n, ⟨hspells, -⟩, hv, hfits⟩
    exact ⟨⟨n, hspells, hv⟩, hfits⟩
  · rintro ⟨⟨n, hspells, rfl⟩, hfits⟩
    refine ⟨n, ⟨hspells, ?_⟩, rfl, hfits⟩
    -- A magnitude that is too large for the digits is too large with a sign as well.
    have hbound := natAbs_lt_natBound hfits
    split at hbound
    · rwa [Int.natAbs_neg, Int.natAbs_natCast] at hbound
    · rwa [Int.natAbs_natCast] at hbound

/-- A text denotes one integer at most. -/
theorem IntegerText.unique {cs : List Char} {v w : Int} (hv : IntegerText cs v)
    (hw : IntegerText cs w) : v = w := by
  obtain ⟨m, hm, rfl⟩ := (integerText_iff cs v).mp hv
  obtain ⟨n, hn, rfl⟩ := (integerText_iff cs w).mp hw
  rw [← hm.2.2, ← hn.2.2]

end Number

namespace Command

open Number (IntegerText twoTo)

/-- An argument is a length if it denotes one. -/
theorem lengthOf?_eq_some_iff_integerText (argument : String) (v : Int) :
    lengthOf? argument = some v ↔ IntegerText argument.toList v ∧ 0 ≤ v ∧ v < twoTo 63 := by
  have htwo : (twoTo 63 : Int) = 9223372036854775808 := rfl
  rw [lengthOf?_eq_some_iff, Number.decimalInt_eq_ok_iff, and_assoc, htwo]
  unfold Number.Fits Number.leastInt
  refine and_congr_right fun _ => ?_
  omega

theorem chooseLength_of_length {argument : String} {v : Int} (h : lengthOf? argument = some v)
    (more : List String) (default : Int) : chooseLength (argument :: more) default = (v, []) := by
  unfold chooseLength
  simp only [h]

theorem chooseLength_of_no_length {argument : String} (h : lengthOf? argument = none)
    (more : List String) (default : Int) :
    chooseLength (argument :: more) default = (default, [lengthWarning argument default]) := by
  unfold chooseLength
  simp only [h]

/-- The length argument. An optional sign and digits that denote an integer from
    zero on, below `2 ^ 63`, give that length and nothing is announced; whatever
    else the argument is, it gives the configured length, with a warning that
    shows the argument and that length. The numeral of every length gives it
    back, and no argument gives a negative length, unless the configured one is
    negative. -/
theorem length_argument_grammar (argument : String) (more : List String) (default : Int) :
    (∀ v, IntegerText argument.toList v → 0 ≤ v → v < twoTo 63 →
      chooseLength (argument :: more) default = (v, [])) ∧
    ((¬ ∃ v, IntegerText argument.toList v ∧ 0 ≤ v ∧ v < twoTo 63) →
      chooseLength (argument :: more) default = (default,
        [{ level := Log.Level.warn
           fields := [("length", .text argument), ("default", .integer default)]
           message := "invalid length, using default" }])) ∧
    (∀ v : Int, 0 ≤ v → v < twoTo 63 →
      chooseLength (String.ofList (Number.signedDigits v) :: more) default = (v, [])) ∧
    (0 ≤ default → 0 ≤ (chooseLength (argument :: more) default).1) := by
  refine ⟨fun v htext hnonneg hlt => ?_, fun hnone => ?_, fun v hnonneg hlt => ?_,
    fun hdefault => ?_⟩
  · exact chooseLength_of_length
      ((lengthOf?_eq_some_iff_integerText argument v).mpr ⟨htext, hnonneg, hlt⟩) more default
  · refine chooseLength_of_no_length (Option.eq_none_iff_forall_ne_some.mpr fun v hv => ?_) more
      default
    exact hnone ⟨v, (lengthOf?_eq_some_iff_integerText argument v).mp hv⟩
  · have hfits : Number.Fits v := by
      have htwo : (twoTo 63 : Int) = 9223372036854775808 := rfl
      unfold Number.Fits Number.leastInt
      omega
    exact chooseLength_of_length
      (lengthOf?_eq_some_iff.mpr ⟨Number.decimalInt_signedDigits v hfits, hnonneg⟩) more default
  · rw [chooseLength_eq, List.head?_cons, Option.bind_some]
    rcases hlength : lengthOf? argument with _ | v
    · exact hdefault
    · exact ((lengthOf?_eq_some_iff_integerText argument v).mp hlength).2.1

/-- The largest length behind a sign and zeros, one more than it, and a minus
    sign in front of nothing but zeros. -/
theorem length_argument_grammar_at_limit :
    chooseLength ["+009223372036854775807"] 12 = (9223372036854775807, []) ∧
      (chooseLength ["9223372036854775808"] 12).1 = 12 ∧
      (chooseLength ["9223372036854775808"] 12).2.length = 1 ∧
      chooseLength ["-00"] 12 = (0, []) := by
  have hlargest : IntegerText "+009223372036854775807".toList 9223372036854775807 := by
    rw [show "+009223372036854775807".toList = _ from String.toList_ofList]
    exact .plus (n := 9223372036854775807) (by decide)
  have hbeyond : IntegerText "9223372036854775808".toList 9223372036854775808 := by
    rw [show "9223372036854775808".toList = _ from String.toList_ofList]
    exact .unsigned (n := 9223372036854775808) (by decide)
  have hzero : IntegerText "-00".toList 0 := by
    rw [show "-00".toList = _ from String.toList_ofList]
    exact .minus (n := 0) (by decide)
  have hrefused := (length_argument_grammar "9223372036854775808" [] 12).2.1 (by
    rintro ⟨v, hv, -, hlt⟩
    rw [hv.unique hbeyond] at hlt
    exact absurd hlt (by decide))
  refine ⟨(length_argument_grammar _ [] 12).1 _ hlargest (by decide) (by decide), ?_, ?_,
    (length_argument_grammar _ [] 12).1 _ hzero (by decide) (by decide)⟩
  · rw [hrefused]
  · rw [hrefused]
    rfl

end Command

end Passforge
