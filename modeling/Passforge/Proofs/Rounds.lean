import Mathlib.Data.Nat.Count
import Mathlib.Data.Nat.Periodic
import Mathlib.Order.Interval.Finset.Nat
import Passforge.Proofs.Rejection

/-!
# Values in Whole Rounds

How many values lead to each choice. Reducing a value modulo the number of
choices is fair exactly when the values come in whole rounds, each round
containing every remainder once. The two cuts leave whole rounds in different
ways: for bytes the values above the last whole round are rejected, for words
those below the first.

Both leave a stretch of consecutive values whose length is a multiple of the
number of choices, `acceptedFrom` being where it starts. That a stretch of `q`
rounds contains every remainder `q` times does not depend on where it starts,
so one count serves both.

## Main definitions

* `Buffer.valueRange`: How many values there are.
* `Buffer.acceptedFrom`: The lowest acceptable value.

## Theorems

* `card_mod_eq`: A stretch of whole rounds contains every remainder equally
  often.
* `Buffer.accepts_iff`: The acceptable values are a stretch of whole rounds.
* `Buffer.card_not_accepts`: How many values are rejected.
* `Buffer.card_accepts_mod`: How many acceptable values lead to a choice.
* `Buffer.card_accepts_mod_of`: How many lead to one of several choices.
-/

namespace Passforge

open Finset

/-- A stretch of `q` rounds of `n` contains every remainder `q` times. -/
theorem card_mod_eq (m n q j : Nat) (hj : j < n) :
    #{v ∈ Ico m (m + q * n) | v % n = j} = q := by
  have hperiodic : Function.Periodic (fun v => v % n = j) n := by
    intro v
    simp only [Nat.add_mod_right]
  -- The first round holds the remainder once, at the remainder itself.
  have hone : Nat.count (fun v => v % n = j) n = 1 := by
    rw [Nat.count_eq_card_filter_range, card_eq_one]
    refine ⟨j, ?_⟩
    ext v
    rw [mem_filter, mem_range, mem_singleton]
    constructor
    · rintro ⟨hv, hmod⟩
      rw [Nat.mod_eq_of_lt hv] at hmod
      exact hmod
    · rintro rfl
      exact ⟨hj, Nat.mod_eq_of_lt hj⟩
  induction q with
  | zero => rw [Nat.zero_mul, Nat.add_zero, Ico_self, filter_empty, card_empty]
  | succ q ih =>
      -- One more round at the end adds the remainder once more.
      have hround : #{v ∈ Ico (m + q * n) (m + q * n + n) | v % n = j} = 1 := by
        rw [Nat.filter_Ico_card_eq_of_periodic _ _ _ hperiodic, hone]
      have hsplit : Ico m (m + (q + 1) * n)
          = Ico m (m + q * n) ∪ Ico (m + q * n) (m + q * n + n) := by
        rw [Ico_union_Ico_eq_Ico (by omega) (by omega), Nat.succ_mul, Nat.add_assoc]
      have hdisjoint : Disjoint {v ∈ Ico m (m + q * n) | v % n = j}
          {v ∈ Ico (m + q * n) (m + q * n + n) | v % n = j} :=
        disjoint_filter_filter (Ico_disjoint_Ico_consecutive _ _ _)
      rw [hsplit, filter_union, card_union_of_disjoint hdisjoint, ih, hround]

namespace Buffer

/-- How many values there are when there are `n` choices. -/
def valueRange (n : Nat) : Nat :=
  if n ≤ 256 then 256 else Number.twoTo 64

/-- The lowest acceptable value. -/
def acceptedFrom (n : Nat) : Nat :=
  if n ≤ 256 then 0 else Number.twoTo 64 % n

theorem twoTo_64 : Number.twoTo 64 = 18446744073709551616 := by decide

theorem wordCut_eq (n : Nat) (hn : n ≤ Number.twoTo 64) : wordCut n = Number.twoTo 64 % n := by
  unfold wordCut
  rw [← Nat.mod_eq_sub_mod hn]

theorem byteCut_add_one (n : Nat) (hn : 0 < n) (hle : n ≤ 256) : byteCut n + 1 = 256 / n * n := by
  have hmod := Nat.mod_lt 256 hn
  have hdiv := Nat.div_add_mod' 256 n
  unfold byteCut
  omega

theorem acceptedFrom_add (n : Nat) :
    acceptedFrom n + valueRange n / n * n ≤ valueRange n := by
  unfold acceptedFrom valueRange
  by_cases h : n ≤ 256
  · rw [if_pos h, if_pos h, Nat.zero_add]
    exact Nat.div_mul_le_self _ _
  · rw [if_neg h, if_neg h]
    have hdiv := Nat.div_add_mod' (Number.twoTo 64) n
    omega

/-- The acceptable values are a stretch of whole rounds. -/
theorem accepts_iff (n v : Nat) (hn : 0 < n) (hle : n ≤ Number.twoTo 64)
    (hv : v < valueRange n) :
    Accepts n v ↔ v ∈ Ico (acceptedFrom n) (acceptedFrom n + valueRange n / n * n) := by
  rw [mem_Ico]
  unfold Accepts acceptedFrom
  unfold valueRange at hv ⊢
  by_cases h : n ≤ 256
  -- Bytes keep the rounds from zero on and lose the top.
  · simp only [if_pos h] at hv ⊢
    have hcut := byteCut_add_one n hn h
    omega
  -- Words lose the bottom and keep the rounds up to the end.
  · simp only [if_neg h] at hv ⊢
    have hcut := wordCut_eq n hle
    have hdiv := Nat.div_add_mod' (Number.twoTo 64) n
    omega

theorem filter_accepts (n : Nat) (hn : 0 < n) (hle : n ≤ Number.twoTo 64) :
    {v ∈ range (valueRange n) | Accepts n v}
      = Ico (acceptedFrom n) (acceptedFrom n + valueRange n / n * n) := by
  have htop := acceptedFrom_add n
  ext v
  rw [mem_filter, mem_range]
  constructor
  · rintro ⟨hv, ha⟩
    exact (accepts_iff n v hn hle hv).mp ha
  · intro h
    have hv : v < valueRange n := by
      rw [mem_Ico] at h
      omega
    exact ⟨hv, (accepts_iff n v hn hle hv).mpr h⟩

/-- The rejected values are what whole rounds leave over. -/
theorem card_not_accepts (n : Nat) (hn : 0 < n) (hle : n ≤ Number.twoTo 64) :
    #{v ∈ range (valueRange n) | ¬ Accepts n v} = valueRange n % n := by
  have hsum := card_filter_add_card_filter_not (s := range (valueRange n)) (Accepts n)
  rw [filter_accepts n hn hle, Nat.card_Ico, card_range] at hsum
  have hdiv := Nat.div_add_mod' (valueRange n) n
  omega

/-- Every choice is the remainder of equally many acceptable values. -/
theorem card_accepts_mod (n j : Nat) (hj : j < n) (hle : n ≤ Number.twoTo 64) :
    #{v ∈ range (valueRange n) | Accepts n v ∧ v % n = j} = valueRange n / n := by
  rw [← filter_filter, filter_accepts n (by omega) hle]
  exact card_mod_eq _ n _ j hj

/-- Choices from a set are the remainders of so many acceptable values for each
    of them. -/
theorem card_accepts_mod_of (n : Nat) (hn : 0 < n) (hle : n ≤ Number.twoTo 64) (P : Nat → Prop)
    [DecidablePred P] :
    #{v ∈ range (valueRange n) | Accepts n v ∧ P (v % n)}
      = #{j ∈ range n | P j} * (valueRange n / n) := by
  have hmaps : ∀ v ∈ ({v ∈ range (valueRange n) | Accepts n v ∧ P (v % n)} : Finset Nat),
      v % n ∈ ({j ∈ range n | P j} : Finset Nat) := by
    intro v hv
    rw [mem_filter] at hv ⊢
    exact ⟨mem_range.mpr (Nat.mod_lt v hn), hv.2.2⟩
  -- Sort the values by their remainder, and count one remainder at a time.
  rw [card_eq_sum_card_fiberwise hmaps, sum_const_nat]
  intro j hj
  rw [mem_filter, mem_range] at hj
  rw [← card_accepts_mod n j hj.1 hle, filter_filter]
  congr 1
  ext v
  rw [mem_filter, mem_filter]
  constructor
  · rintro ⟨hv, ⟨ha, _⟩, hmod⟩
    exact ⟨hv, ha, hmod⟩
  · rintro ⟨hv, ha, hmod⟩
    rw [hmod]
    exact ⟨hv, ⟨ha, hj.2⟩, rfl⟩

end Buffer

end Passforge
