import Mathlib.Algebra.Ring.GeomSum
import Mathlib.Data.Fintype.Card
import Mathlib.Data.Nat.Prime.Basic
import Mathlib.Tactic.Ring
import Passforge.Proofs.SeededDraws

/-!
# The Seeded State Runs Through All Its Values

A seeded draw passes over raw draws until one can be answered, and nothing in
the loop gets smaller on the way. What ends it is the state: a step multiplies
by one more than a multiple of four and adds an odd number, so the states that
follow each other come back to the first one only after all of them have been
there.

After `n` steps the state has moved by a sum of `n` powers of the factor times
an odd number (`toNat_iterate_step`). It is back where it was only if the sum
is a multiple of the number of states. Such a sum has no more factors of two
than `n` has: an even one splits into two halves, and the second is the first
times a power of the factor, so together they hold the first half once, times
two, times an odd number (`two_pow_dvd_of_dvd_sum`).

As every 64-bit number is the output of some state, and some of them can be
answered, an answer is found before the states are used up.

## Theorems

* `two_pow_dvd_of_dvd_sum`: The factors of two in a sum of powers.
* `SeededState.toNat_iterate_step`: The state after some steps.
* `SeededState.exists_iterate_step`: Every state is reached from every other.
* `SeededState.exists_draw`: A seeded draw gives an answer.
-/

namespace Passforge

open Finset

section Sums

variable {a : Nat}

theorem sum_pow_mod_two (ha : a % 2 = 1) (n : Nat) : (∑ i ∈ range n, a ^ i) % 2 = n % 2 := by
  induction n with
  | zero => rfl
  | succ n ih =>
      have hpow : a ^ n % 2 = 1 := by rw [Nat.pow_mod, ha, Nat.one_pow, Nat.one_mod]
      rw [sum_range_succ]
      omega

/-- A sum of evenly many powers is its first half and a multiple of it. -/
theorem sum_pow_double (a n : Nat) :
    ∑ i ∈ range (n + n), a ^ i = (∑ i ∈ range n, a ^ i) * (1 + a ^ n) := by
  have hsecond : ∑ i ∈ range n, a ^ (n + i) = (∑ i ∈ range n, a ^ i) * a ^ n := by
    rw [sum_mul]
    refine sum_congr rfl fun i _ => ?_
    rw [pow_add, Nat.mul_comm]
  rw [sum_range_add, hsecond, Nat.mul_add, Nat.mul_one]

/-- If the base is one more than a multiple of four, a sum of `n` powers has no
    more factors of two than `n`. -/
theorem two_pow_dvd_of_dvd_sum (ha : a % 4 = 1) (k n : Nat)
    (h : 2 ^ k ∣ ∑ i ∈ range n, a ^ i) : 2 ^ k ∣ n := by
  -- Each factor of two halves the number of powers.
  induction k generalizing n with
  | zero => exact Nat.one_dvd n
  | succ k ih =>
      have heven : (∑ i ∈ range n, a ^ i) % 2 = 0 :=
        Nat.mod_eq_zero_of_dvd ((Dvd.intro_left _ (Nat.pow_succ 2 k).symm).trans h)
      rw [sum_pow_mod_two (by omega)] at heven
      obtain ⟨m, rfl⟩ : ∃ m, n = m + m := ⟨n / 2, by omega⟩
      have hpow : a ^ m % 4 = 1 := by rw [Nat.pow_mod, ha, Nat.one_pow, Nat.one_mod]
      obtain ⟨q, hq⟩ : ∃ q, 1 + a ^ m = 2 * (2 * q + 1) := ⟨a ^ m / 4, by omega⟩
      have hcoprime : Nat.Coprime (2 ^ k) (2 * q + 1) :=
        Nat.Coprime.pow_left k ((Nat.coprime_two_left).mpr ⟨q, rfl⟩)
      rw [sum_pow_double, hq, Nat.pow_succ, Nat.mul_left_comm, Nat.mul_comm 2] at h
      have hhalf : 2 ^ k ∣ ∑ i ∈ range m, a ^ i :=
        hcoprime.dvd_of_dvd_mul_right (Nat.dvd_of_mul_dvd_mul_right Nat.two_pos h)
      rw [Nat.pow_succ, ← Nat.mul_two]
      exact Nat.mul_dvd_mul_right (ih m hhalf) 2

end Sums

namespace SeededState

/-- How far the first step moves a state, but for whole rounds. -/
def stride (s : SeededState) : Nat :=
  (factor.toNat - 1) * s.bits.toNat + increment.toNat

theorem stride_odd (s : SeededState) : s.stride % 2 = 1 := by
  have hfactor : (factor.toNat - 1) % 2 = 0 := by decide
  have hincrement : increment.toNat % 2 = 1 := by decide
  unfold stride
  rw [Nat.add_mod, Nat.mul_mod, hfactor, hincrement, Nat.zero_mul]

theorem toNat_step (s : SeededState) :
    s.step.bits.toNat = (s.bits.toNat * factor.toNat + increment.toNat) % 2 ^ 128 := by
  unfold step
  rw [BitVec.toNat_add, BitVec.toNat_mul, Nat.mod_add_mod]

/-- Each step moves the state by the factor times what the one before did. -/
theorem toNat_iterate_step (s : SeededState) (n : Nat) :
    (step^[n] s).bits.toNat
      = (s.bits.toNat + (∑ i ∈ range n, factor.toNat ^ i) * s.stride) % 2 ^ 128 := by
  induction n with
  | zero =>
      rw [range_zero, sum_empty, Nat.zero_mul, Nat.add_zero, Nat.mod_eq_of_lt s.bits.isLt]
      rfl
  | succ n ih =>
      have hfactor : factor.toNat = factor.toNat - 1 + 1 := by decide
      rw [Function.iterate_succ_apply', toNat_step, ih, geom_sum_succ, Nat.add_mod,
        Nat.mod_mul_mod, ← Nat.add_mod]
      congr 1
      unfold stride
      generalize factor.toNat - 1 = f at hfactor ⊢
      rw [hfactor]
      ring

/-- A state comes back only after whole rounds. -/
theorem dvd_of_iterate_step_eq {s : SeededState} {n : Nat} (h : step^[n] s = s) :
    2 ^ 128 ∣ n := by
  have hfour : factor.toNat % 4 = 1 := by decide
  refine two_pow_dvd_of_dvd_sum hfour 128 n ?_
  have hback := s.toNat_iterate_step n
  rw [h] at hback
  generalize (∑ i ∈ range n, factor.toNat ^ i) = total at hback ⊢
  -- The distance is a multiple of the number of states, and the stride does not share a factor.
  have hmoved : 2 ^ 128 ∣ total * s.stride := by
    have hlt := s.bits.isLt
    omega
  have hcoprime : Nat.Coprime (2 ^ 128) s.stride :=
    Nat.Coprime.pow_left 128 (Nat.coprime_two_left.mpr (Nat.odd_iff.mpr s.stride_odd))
  exact hcoprime.dvd_of_dvd_mul_right hmoved

/-- So no state comes up twice in one round. -/
theorem eq_of_iterate_step_eq {s : SeededState} {i j : Nat} (hij : i ≤ j) (hj : j < 2 ^ 128)
    (h : step^[i] s = step^[j] s) : i = j := by
  have hround : step^[j - i] (step^[i] s) = step^[i] s := by
    rw [← Function.iterate_add_apply, Nat.sub_add_cancel hij, ← h]
  have hdvd := dvd_of_iterate_step_eq hround
  omega

theorem eq_of_toFin_eq {s t : SeededState} (h : s.bits.toFin = t.bits.toFin) : s = t := by
  rcases s with ⟨bits⟩
  rcases t with ⟨bits'⟩
  exact congrArg SeededState.mk (BitVec.eq_of_toFin_eq h)

/-- Every state is reached from every other one before the states are used up. -/
theorem exists_iterate_step (s t : SeededState) : ∃ i < period, step^[i] s = t := by
  let visit : Fin (2 ^ 128) → Fin (2 ^ 128) := fun i => (step^[i] s).bits.toFin
  have hinjective : Function.Injective visit := by
    intro i j hij
    have hstate : step^[i] s = step^[j] s := eq_of_toFin_eq hij
    rcases Nat.le_total i j with hle | hle
    · exact Fin.ext (eq_of_iterate_step_eq hle j.isLt hstate)
    · exact Fin.ext (eq_of_iterate_step_eq hle i.isLt hstate.symm).symm
  -- As many visits as there are states, no two of them the same, leave none out.
  obtain ⟨i, hi⟩ := Finite.injective_iff_surjective.mp hinjective t.bits.toFin
  exact ⟨i, i.isLt, eq_of_toFin_eq hi⟩

/-- Some raw draw is answered. -/
theorem exists_answer {n : Nat} (hn : 0 < n) (h63 : n < 2 ^ 63) :
    ∃ v < Number.twoTo 64, answer? n v ≠ none := by
  have hcard := card_answer hn h63
  have hpos : 0 < Number.twoTo 64 / n := by
    have h64 : Number.twoTo 64 = 2 ^ 64 := rfl
    exact Nat.div_pos (by omega) hn
  obtain ⟨v, hv⟩ := card_pos.mp (hcard ▸ hpos)
  rw [mem_filter, mem_range] at hv
  exact ⟨v, hv.1, by rw [hv.2]; exact Option.some_ne_none 0⟩

/-- A seeded draw gives an answer, from every state. -/
theorem exists_draw {n : Nat} (hn : 0 < n) (h63 : n < 2 ^ 63) (s : SeededState) :
    ∃ x s', source.draw n s = (.ok x, s') ∧ 0 ≤ x ∧ x < n := by
  obtain ⟨v, hv, hanswer⟩ := exists_answer hn h63
  obtain ⟨t, ht⟩ := output_surjective (BitVec.ofNat 64 v)
  obtain ⟨i, hi, hreach⟩ := exists_iterate_step s.step t
  -- The state with that output comes up, so there is a first raw draw that is answered.
  have hraw : s.raw i = v := by
    unfold raw
    rw [Function.iterate_succ_apply, hreach, ht, BitVec.toNat_ofNat]
    exact Nat.mod_eq_of_lt hv
  have hexists : ∃ i, answer? n (s.raw i) ≠ none := ⟨i, by rw [hraw]; exact hanswer⟩
  have hfirst : Nat.find hexists ≤ i := Nat.find_le (by rw [hraw]; exact hanswer)
  obtain ⟨k, hk⟩ := Option.ne_none_iff_exists'.mp (Nat.find_spec hexists)
  have hanswered : Answered n period s k (step^[Nat.find hexists + 1] s) :=
    ⟨Nat.find hexists, by omega, rfl,
      fun j hj => not_not.mp (Nat.find_min hexists hj), hk⟩
  have hdraw := (source_draw_eq_ok_iff hn).mpr hanswered
  exact ⟨k, _, hdraw, (source_staysInRange n s hn).1 k _ hdraw⟩

end SeededState

end Passforge
