import Mathlib.Algebra.Order.Floor.Div
import Mathlib.Logic.Function.Iterate
import Passforge.Proofs.Generation
import Passforge.Proofs.Rounds

/-!
# Uniform Draws from a Seed

What the seeded source answers, as a function of the raw draws behind it. Each
raw draw is answered or passed over by itself, whatever was drawn before, so
there is a function `answer?` from raw draws to answers, and a draw gives the
answer to the first raw draw that has one. The source decides by masking or by
multiplying, and `choose_eq_ok_iff` says that both come down to this.

How often each answer comes up is then a count over the 64-bit numbers. A mask
leaves the remainder, and a power of two divides their number into whole
rounds. A product is answered with its high half, so the products answered with
`k` lie in one stretch of `2 ^ 64` numbers; the part of the stretch that is
passed over is just so long that what remains has room for whole rounds, and a
stretch of `q` rounds holds `q` products wherever it starts.

Every 64-bit number is a raw draw: the step can be taken back, since its factor
is odd, and so can the scrambling of the high half when the low half is zero.

## Main definitions

* `SeededState.answer?`: What a raw draw is answered with.
* `SeededState.raw`: The raw draws that a state leads to.
* `SeededState.Answered`: An answer found among so many raw draws.

## Theorems

* `SeededState.choose_eq_ok_iff`: A draw answers the first raw draw that it can.
* `SeededState.step_surjective`: Every state is the next one of some state.
* `SeededState.exists_next`: Every 64-bit number is a raw draw.
* `mem_Ico_ceilDiv`: How many products a stretch holds.
* `SeededState.card_answer`: How many raw draws lead to an answer.
* `SeededState.seeded_draws_uniform`: The seeded source is in range and fair.
-/

namespace Passforge

open Finset

namespace SeededState

/-- What a raw draw is answered with when there are `n` choices; nothing if it
    is passed over. -/
def answer? (n raw : Nat) : Option Nat :=
  if n &&& (n - 1) == 0 then some (raw &&& (n - 1))
  else if raw * n % Number.twoTo 64 < lowCut n then none
  else some (raw * n / Number.twoTo 64)

/-- The raw draws that a state leads to, in turn. -/
def raw (s : SeededState) (i : Nat) : Nat :=
  (step^[i + 1] s).output.toNat

/-- Among the next `limit` raw draws there is one that is answered. The first
    of them is answered with `k`, and `s'` is the state behind it. -/
def Answered (n limit : Nat) (s : SeededState) (k : Nat) (s' : SeededState) : Prop :=
  ∃ j < limit, s' = step^[j + 1] s ∧ (∀ i < j, answer? n (s.raw i) = none) ∧
    answer? n (s.raw j) = some k

section Loop

variable {n k limit : Nat} {s s' : SeededState}

theorem raw_zero (s : SeededState) : s.raw 0 = s.step.output.toNat := rfl

theorem raw_step (s : SeededState) (i : Nat) : s.step.raw i = s.raw (i + 1) := by
  unfold raw
  rw [← Function.iterate_succ_apply]

/-- The first raw draw is answered, or the answer is found after it. -/
theorem answered_succ_iff :
    Answered n (limit + 1) s k s' ↔
      (answer? n (s.raw 0) = some k ∧ s' = s.step) ∨
        (answer? n (s.raw 0) = none ∧ Answered n limit s.step k s') := by
  unfold Answered
  simp only [raw_step]
  constructor
  · rintro ⟨j, hj, hs', hbefore, hat⟩
    rcases j with _ | j
    · exact .inl ⟨hat, hs'⟩
    · rw [Function.iterate_succ_apply] at hs'
      exact .inr ⟨hbefore 0 (Nat.succ_pos j), j, by omega, hs',
        fun i hi => hbefore (i + 1) (by omega), hat⟩
  · rintro (⟨hat, hs'⟩ | ⟨hnone, j, hj, hs', hbefore, hat⟩)
    · exact ⟨0, Nat.succ_pos limit, hs', fun i hi => absurd hi (Nat.not_lt_zero i), hat⟩
    · rw [← Function.iterate_succ_apply] at hs'
      refine ⟨j + 1, by omega, hs', fun i hi => ?_, hat⟩
      rcases i with _ | i
      · exact hnone
      · exact hbefore i (by omega)

theorem answer?_of_mask (h : (n &&& (n - 1) == 0) = true) (v : Nat) :
    answer? n v = some (v &&& (n - 1)) :=
  if_pos h

theorem answer?_of_product (h : ¬ (n &&& (n - 1) == 0) = true) (v : Nat) :
    answer? n v = if v * n % Number.twoTo 64 < lowCut n then none
      else some (v * n / Number.twoTo 64) :=
  if_neg h

/-- By induction on the limit: each turn of the loop looks at one raw draw. -/
theorem drawHigh_eq_ok_iff (h : ¬ (n &&& (n - 1) == 0) = true) (limit : Nat) (s : SeededState) :
    drawHigh n limit s = (.ok k, s') ↔ Answered n limit s k s' := by
  induction limit generalizing s with
  | zero =>
      constructor
      · intro hdraw
        cases hdraw
      · rintro ⟨j, hj, -⟩
        exact absurd hj (Nat.not_lt_zero j)
  | succ limit ih =>
      rw [drawHigh, Run.bind_of_ok (next_apply s), answered_succ_iff, raw_zero,
        answer?_of_product h]
      by_cases hlow : s.step.output.toNat * n % Number.twoTo 64 < lowCut n
      · simp only [if_pos hlow, ih, reduceCtorEq, false_and, false_or, true_and]
      · rw [if_neg hlow, if_neg hlow, Run.pure_apply, Prod.mk.injEq, Except.ok.injEq]
        simp only [Option.some.injEq, reduceCtorEq, false_and, or_false, eq_comm]

/-- A draw gives the answer to the first raw draw that has one. -/
theorem choose_eq_ok_iff : choose n s = (.ok k, s') ↔ Answered n period s k s' := by
  unfold choose
  by_cases h : (n &&& (n - 1) == 0) = true
  -- A mask answers every raw draw, so the first one settles it.
  · have hperiod : period = period - 1 + 1 := by decide
    rw [if_pos h, Run.bind_of_ok (next_apply s), Run.pure_apply, hperiod, answered_succ_iff,
      raw_zero, answer?_of_mask h, Prod.mk.injEq, Except.ok.injEq]
    simp only [Option.some.injEq, reduceCtorEq, false_and, or_false, eq_comm]
  · rw [if_neg h]
    exact drawHigh_eq_ok_iff h period s

theorem source_draw_eq_ok_iff (hn : 0 < n) :
    source.draw n s = (.ok (k : Int), s') ↔ Answered n period s k s' := by
  rw [source_draw_eq n hn, ← choose_eq_ok_iff]
  rcases choose n s with ⟨e | v, s₁⟩
  · rw [Prod.mk.injEq, Prod.mk.injEq]
    simp [Except.map]
  · rw [Prod.mk.injEq, Prod.mk.injEq]
    simp [Except.map]

end Loop

section Possible

/-- Every state is the next one of some state. -/
theorem step_surjective : Function.Surjective step := by
  intro s
  have hinverse : 0x7dda22b9397986098abc8b0716eac8d#128 * factor = 1#128 := by decide
  refine ⟨⟨(s.bits - increment) * 0x7dda22b9397986098abc8b0716eac8d#128⟩, ?_⟩
  unfold step
  rw [BitVec.mul_assoc, hinverse, BitVec.mul_one, BitVec.sub_add_cancel]

/-- Shifting by half the width or more and adding the bits, twice, changes
    nothing. -/
theorem xor_ushiftRight_twice (x : BitVec 64) {n : Nat} (hn : 32 ≤ n) :
    (x ^^^ x >>> n) ^^^ (x ^^^ x >>> n) >>> n = x := by
  rw [BitVec.ushiftRight_xor_distrib, ← BitVec.shiftRight_add,
    BitVec.ushiftRight_eq_zero (n := n + n) (by omega), BitVec.xor_zero, BitVec.xor_assoc,
    BitVec.xor_self, BitVec.xor_zero]

/-- Every 64-bit number is the output of some state. -/
theorem output_surjective : Function.Surjective output := by
  intro v
  have hinverse : 0x8b838d0354ead59d#64 * 0xda942042e4dd58b5#64 = 1#64 := by decide
  -- With a low half of zero the last factor is one, and the rest is taken back step by step.
  let product := v ^^^ v >>> 48
  let folded := product * 0x8b838d0354ead59d#64
  refine ⟨⟨(folded ^^^ folded >>> 32) ++ 0#64⟩, ?_⟩
  have hproduct : folded * 0xda942042e4dd58b5#64 = product := by
    rw [BitVec.mul_assoc, hinverse, BitVec.mul_one]
  have hone : 0#64 ||| 1#64 = 1#64 := by decide
  unfold output
  simp only [BitVec.extractLsb'_append_eq_left, BitVec.extractLsb'_append_eq_right,
    xor_ushiftRight_twice folded (Nat.le_refl 32), hproduct, hone, BitVec.mul_one]
  exact xor_ushiftRight_twice v (by omega)

/-- Every 64-bit number is the raw draw of some state. -/
theorem exists_next {v : Nat} (hv : v < Number.twoTo 64) :
    ∃ s s' : SeededState, next s = (.ok v, s') := by
  obtain ⟨s', hs'⟩ := output_surjective (BitVec.ofNat 64 v)
  obtain ⟨s, rfl⟩ := step_surjective s'
  refine ⟨s, s.step, ?_⟩
  rw [next_apply, hs', BitVec.toNat_ofNat]
  exact congrArg (fun v => (Except.ok v, s.step)) (Nat.mod_eq_of_lt hv)

end Possible

end SeededState

/-- A stretch of `q` rounds of `n` holds `q` multiples of `n`, wherever it
    starts. -/
theorem mem_Ico_ceilDiv {n : Nat} (hn : 0 < n) (a q v : Nat) :
    v ∈ Ico (a ⌈/⌉ n) (a ⌈/⌉ n + q) ↔ a ≤ v * n ∧ v * n < a + q * n := by
  have hfrom (w : Nat) : a ⌈/⌉ n ≤ w ↔ a ≤ w * n := by
    rw [ceilDiv_le_iff_le_mul hn, Nat.mul_comm]
  rw [mem_Ico, hfrom]
  refine and_congr_right fun ha => ?_
  -- Moving the upper end down by the rounds turns it into the lower one.
  rcases Nat.lt_or_ge v q with hv | hv
  · have hless : v * n < q * n := Nat.mul_lt_mul_of_pos_right hv hn
    exact ⟨fun _ => by omega, fun _ => by omega⟩
  · have hsplit : v * n = (v - q) * n + q * n := by rw [← Nat.add_mul, Nat.sub_add_cancel hv]
    have hlow := hfrom (v - q)
    omega

namespace SeededState

variable {n k : Nat}

/-- The products answered with `k` are those of a stretch of whole rounds. -/
theorem high_eq_iff (hle : n ≤ Number.twoTo 64) (v : Nat) :
    ¬ v * n % Number.twoTo 64 < lowCut n ∧ v * n / Number.twoTo 64 = k ↔
      k * Number.twoTo 64 + Number.twoTo 64 % n ≤ v * n ∧
        v * n < k * Number.twoTo 64 + Number.twoTo 64 % n + Number.twoTo 64 / n * n := by
  have hpos : 0 < Number.twoTo 64 := by decide
  have hcut : lowCut n = Number.twoTo 64 % n := Buffer.wordCut_eq n hle
  have hrounds := Nat.div_add_mod' (Number.twoTo 64) n
  have hsplit := Nat.div_add_mod' (v * n) (Number.twoTo 64)
  have hlow := Nat.mod_lt (v * n) hpos
  rw [hcut]
  constructor
  · rintro ⟨hkept, rfl⟩
    omega
  · rintro ⟨hfrom, hto⟩
    have hhigh : v * n / Number.twoTo 64 = k := by
      refine Nat.div_eq_of_lt_le (by omega) ?_
      rw [Nat.succ_mul]
      omega
    rw [hhigh] at hsplit
    exact ⟨by omega, hhigh⟩

/-- Without a mask, the raw draws answered with `k` stand next to each other. -/
theorem filter_answer_of_product (h : ¬ (n &&& (n - 1) == 0) = true) (hk : k < n)
    (hle : n ≤ Number.twoTo 64) :
    {v ∈ range (Number.twoTo 64) | answer? n v = some k}
      = Ico ((k * Number.twoTo 64 + Number.twoTo 64 % n) ⌈/⌉ n)
          ((k * Number.twoTo 64 + Number.twoTo 64 % n) ⌈/⌉ n + Number.twoTo 64 / n) := by
  ext v
  have hanswer : answer? n v = some k ↔
      ¬ v * n % Number.twoTo 64 < lowCut n ∧ v * n / Number.twoTo 64 = k := by
    rw [answer?_of_product h]
    split
    · rename_i hlow
      simp [hlow]
    · rename_i hlow
      simp [hlow]
  rw [mem_filter, mem_range, hanswer, high_eq_iff hle, mem_Ico_ceilDiv (by omega)]
  refine and_iff_right_of_imp fun hstretch => ?_
  -- The last stretch ends where the products of 64-bit numbers do.
  have hrounds := Nat.div_add_mod' (Number.twoTo 64) n
  have hlast : (k + 1) * Number.twoTo 64 ≤ n * Number.twoTo 64 := Nat.mul_le_mul_right _ hk
  rw [Nat.succ_mul] at hlast
  have hproduct : v * n < Number.twoTo 64 * n := by
    rw [Nat.mul_comm (Number.twoTo 64)]
    omega
  exact Nat.lt_of_mul_lt_mul_right hproduct

theorem eq_two_pow_iff (hn : 0 < n) : (n &&& (n - 1) == 0) = true ↔ ∃ m, n = 2 ^ m := by
  rw [beq_iff_eq, Nat.and_sub_one_eq_zero_iff_isPowerOfTwo (Nat.ne_of_gt hn)]
  rfl

theorem answer?_two_pow (m v : Nat) : answer? (2 ^ m) v = some (v % 2 ^ m) := by
  rw [answer?_of_mask ((eq_two_pow_iff (Nat.two_pow_pos m)).mpr ⟨m, rfl⟩),
    Nat.and_two_pow_sub_one_eq_mod]

/-- Equally many raw draws lead to every answer. -/
theorem card_answer (hk : k < n) (h63 : n < 2 ^ 63) :
    #{v ∈ range (Number.twoTo 64) | answer? n v = some k} = Number.twoTo 64 / n := by
  have h64 : Number.twoTo 64 = 2 ^ 64 := rfl
  by_cases h : (n &&& (n - 1) == 0) = true
  · obtain ⟨m, rfl⟩ := (eq_two_pow_iff (by omega)).mp h
    have hm : m < 63 := (Nat.pow_lt_pow_iff_right (by decide)).mp h63
    have hrounds : Number.twoTo 64 / 2 ^ m * 2 ^ m = Number.twoTo 64 :=
      Nat.div_mul_cancel (h64 ▸ Nat.pow_dvd_pow 2 (by omega))
    have hcount := card_mod_eq 0 (2 ^ m) (Number.twoTo 64 / 2 ^ m) k hk
    rw [Nat.zero_add, hrounds, ← range_eq_Ico] at hcount
    simpa only [answer?_two_pow, Option.some.injEq] using hcount
  · rw [filter_answer_of_product h hk (by omega), Nat.card_Ico, Nat.add_sub_cancel_left]

/-- The seeded source keeps to its bound and is fair. Among `n` choices a draw
    answers with one of them, and it gives the answer to the first raw draw
    that is not passed over. Every 64-bit number is a raw draw, and equally many
    of them are answered with each choice. If `n` is a power of two, a raw draw
    is answered with its low bits and none is passed over. Otherwise it is
    multiplied by `n` and answered with the high half of the product, and passed
    over exactly if the low half is below `(2 ^ 64 - n) % n`. -/
theorem seeded_draws_uniform (n : Nat) (hn : 1 ≤ n) (h63 : n < 2 ^ 63) :
    (∀ s s' x, source.draw n s = (.ok x, s') → 0 ≤ x ∧ x < n) ∧
      (∀ (s s' : SeededState) (k : Nat), source.draw n s = (.ok (k : Int), s') ↔
        ∃ j < period, s' = step^[j + 1] s ∧ (∀ i < j, answer? n (s.raw i) = none) ∧
          answer? n (s.raw j) = some k) ∧
      (∀ v < 2 ^ 64, ∃ s s' : SeededState, next s = (.ok v, s') ∧ s.raw 0 = v) ∧
      (∀ k < n, #{v ∈ range (2 ^ 64) | answer? n v = some k} = 2 ^ 64 / n) ∧
      (∀ m, n = 2 ^ m → ∀ v, answer? n v = some (v &&& (n - 1)) ∧ v &&& (n - 1) = v % n) ∧
      ((∀ m, n ≠ 2 ^ m) → ∀ v,
        (answer? n v = none ↔ v * n % 2 ^ 64 < (2 ^ 64 - n) % n) ∧
        ∀ k, answer? n v = some k → k = v * n / 2 ^ 64) := by
  refine ⟨fun s s' x h => (source_staysInRange n s hn).1 x s' h,
    fun s s' k => source_draw_eq_ok_iff hn, fun v hv => ?_, fun k hk => card_answer hk h63, ?_,
    fun hpow v => ?_⟩
  · obtain ⟨s, s', hs⟩ := exists_next (v := v) hv
    have hboth := hs
    rw [next_apply, Prod.mk.injEq, Except.ok.injEq] at hboth
    exact ⟨s, s', hs, hboth.1⟩
  · rintro m rfl v
    exact ⟨answer?_of_mask ((eq_two_pow_iff hn).mpr ⟨m, rfl⟩) v, Nat.and_two_pow_sub_one_eq_mod v m⟩
  · have h : ¬ (n &&& (n - 1) == 0) = true := by
      rw [eq_two_pow_iff hn]
      exact fun ⟨m, hm⟩ => hpow m hm
    have h64 : 2 ^ 64 = Number.twoTo 64 := rfl
    rw [answer?_of_product h, h64]
    unfold lowCut
    split
    · rename_i hlow
      simp [hlow]
    · rename_i hlow
      simp [hlow, eq_comm]

/-- The largest number of choices, where two raw draws are passed over and two
    lead to each answer, and the largest power of two. -/
theorem seeded_draws_uniform_at_limits :
    (∀ k < 2 ^ 63 - 1, #{v ∈ range (2 ^ 64) | answer? (2 ^ 63 - 1) v = some k} = 2) ∧
      (∀ k < 2 ^ 62, #{v ∈ range (2 ^ 64) | answer? (2 ^ 62) v = some k} = 4) ∧
      ∀ v, answer? (2 ^ 62) v ≠ none := by
  obtain ⟨-, -, -, hlargest, -⟩ := seeded_draws_uniform (2 ^ 63 - 1) (by decide) (by decide)
  obtain ⟨-, -, -, hpower, hmask, -⟩ := seeded_draws_uniform (2 ^ 62) (by decide) (by decide)
  refine ⟨fun k hk => (hlargest k hk).trans (by decide),
    fun k hk => (hpower k hk).trans (by decide), fun v => ?_⟩
  rw [(hmask 62 rfl v).1]
  exact Option.some_ne_none _

end SeededState

end Passforge
