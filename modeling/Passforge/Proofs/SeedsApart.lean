import Passforge.Proofs.FullCycle

/-!
# Seeds Stay Apart

Two sources made from different seeds are never in the same state after the
same number of raw draws. The high word of the first state is the seed itself,
so different seeds start from different states. A step can be taken back, so it
keeps different states apart, and so does any number of steps.

A machine keeps the state in two 64-bit words. The product of the low words is
needed whole, its high word going up; of the two mixed products only the low
words matter, and the product of the high words is lost. The low sum may carry
one into the high sum. `stepWords` is the step in this form, and `words_step`
says that it is the step on 128 bits, so that it can be taken back as well.

That two sources are at the same point is needed. All states lie on one path,
so one source is always ahead of the other, by a number of draws that does not
change (`exists_lead`).

## Main definitions

* `highWord`, `lowWord`: The two words of a 128-bit number.
* `mulHigh`, `addCarry`: What a product and a sum of words carry over.
* `SeededState.words`: The state as two words.
* `SeededState.stepWords`: The step computed on words.
* `SeededState.nextMany`: Raw draws, one after the other.

## Theorems

* `highWord_add`, `highWord_mul`: 128-bit arithmetic by words.
* `SeededState.words_step`: The step on words is the step.
* `SeededState.step_bijective`: Every state has one state before it.
* `SeededState.nextMany_apply`: So many raw draws are so many steps.
* `SeededState.exists_lead`: Different states keep their distance on the path.
* `SeededState.seeds_never_fall_into_step`: Different seeds never share a state.
-/

namespace Passforge

section Words

/-- The high word of a 128-bit number. -/
def highWord (x : BitVec 128) : BitVec 64 :=
  x.extractLsb' 64 64

/-- The low word of a 128-bit number. -/
def lowWord (x : BitVec 128) : BitVec 64 :=
  x.extractLsb' 0 64

/-- The high word of the whole product of two words. -/
def mulHigh (a b : BitVec 64) : BitVec 64 :=
  .ofNat 64 (a.toNat * b.toNat / 2 ^ 64)

/-- What the sum of two words carries over, zero or one. -/
def addCarry (a b : BitVec 64) : BitVec 64 :=
  .ofNat 64 ((a.toNat + b.toNat) / 2 ^ 64)

theorem toNat_highWord (x : BitVec 128) : (highWord x).toNat = x.toNat / 2 ^ 64 := by
  have hx := x.isLt
  unfold highWord
  rw [BitVec.extractLsb'_toNat, Nat.shiftRight_eq_div_pow]
  exact Nat.mod_eq_of_lt (by omega)

theorem toNat_lowWord (x : BitVec 128) : (lowWord x).toNat = x.toNat % 2 ^ 64 := by
  unfold lowWord
  rw [BitVec.extractLsb'_toNat, Nat.shiftRight_zero]

theorem toNat_eq_words (x : BitVec 128) :
    x.toNat = (highWord x).toNat * 2 ^ 64 + (lowWord x).toNat := by
  rw [toNat_highWord, toNat_lowWord, Nat.div_add_mod']

theorem highWord_append (a b : BitVec 64) : highWord (a ++ b) = a :=
  BitVec.extractLsb'_append_eq_left

theorem lowWord_append (a b : BitVec 64) : lowWord (a ++ b) = b :=
  BitVec.extractLsb'_append_eq_right

variable (x y : BitVec 128)

theorem lowWord_add : lowWord (x + y) = lowWord x + lowWord y := by
  apply BitVec.eq_of_toNat_eq
  rw [toNat_lowWord, BitVec.toNat_add, BitVec.toNat_add, toNat_lowWord, toNat_lowWord]
  omega

theorem highWord_add :
    highWord (x + y) = highWord x + highWord y + addCarry (lowWord x) (lowWord y) := by
  have hx := x.isLt
  have hy := y.isLt
  apply BitVec.eq_of_toNat_eq
  unfold addCarry
  rw [toNat_highWord, BitVec.toNat_add, BitVec.toNat_add, BitVec.toNat_add, BitVec.toNat_ofNat,
    toNat_highWord, toNat_highWord, toNat_lowWord, toNat_lowWord]
  omega

/-- Multiplication by words, before anything is cut off. -/
theorem toNat_mul_words :
    x.toNat * y.toNat
      = (highWord x).toNat * (highWord y).toNat * 2 ^ 128
        + ((highWord x).toNat * (lowWord y).toNat + (lowWord x).toNat * (highWord y).toNat) * 2 ^ 64
        + (lowWord x).toNat * (lowWord y).toNat := by
  rw [toNat_eq_words x, toNat_eq_words y]
  ring

theorem lowWord_mul : lowWord (x * y) = lowWord x * lowWord y := by
  apply BitVec.eq_of_toNat_eq
  rw [toNat_lowWord, BitVec.toNat_mul, BitVec.toNat_mul, toNat_mul_words]
  omega

theorem highWord_mul :
    highWord (x * y)
      = mulHigh (lowWord x) (lowWord y)
        + (highWord x * lowWord y + lowWord x * highWord y) := by
  apply BitVec.eq_of_toNat_eq
  unfold mulHigh
  rw [toNat_highWord, BitVec.toNat_mul, toNat_mul_words, BitVec.toNat_add, BitVec.toNat_add,
    BitVec.toNat_mul, BitVec.toNat_mul, BitVec.toNat_ofNat]
  -- What is left is linear in the four products of words.
  omega

end Words

namespace SeededState

/-- The state as two words, the high one first. -/
def words (s : SeededState) : BitVec 64 × BitVec 64 :=
  (highWord s.bits, lowWord s.bits)

/-- The step on two words, the high one first, by 64-bit arithmetic. -/
def stepWords (w : BitVec 64 × BitVec 64) : BitVec 64 × BitVec 64 :=
  let product := w.2 * 4865540595714422341#64
  let crossed := w.1 * 4865540595714422341#64 + w.2 * 2549297995355413924#64
  (mulHigh w.2 4865540595714422341#64 + crossed + 6364136223846793005#64
      + addCarry product 1442695040888963407#64,
    product + 1442695040888963407#64)

theorem words_bijective : Function.Bijective words := by
  constructor
  · intro s t h
    have hhigh : highWord s.bits = highWord t.bits := congrArg Prod.fst h
    have hlow : lowWord s.bits = lowWord t.bits := congrArg Prod.snd h
    refine congrArg SeededState.mk (BitVec.eq_of_toNat_eq ?_)
    rw [toNat_eq_words, toNat_eq_words t.bits, hhigh, hlow]
  · rintro ⟨high, low⟩
    exact ⟨⟨high ++ low⟩, Prod.ext (highWord_append high low) (lowWord_append high low)⟩

/-- The step on words is the step. -/
theorem words_step (s : SeededState) : s.step.words = stepWords s.words := by
  unfold words step factor increment stepWords
  simp only [highWord_add, highWord_mul, lowWord_add, lowWord_mul, highWord_append, lowWord_append]

instance : Finite SeededState :=
  Finite.of_injective (fun s => s.bits.toFin) fun _ _ => eq_of_toFin_eq

/-- Every state has one state before it: there is one for each, and there are
    only as many as there are states. -/
theorem step_bijective : Function.Bijective step :=
  Finite.surjective_iff_bijective.mp step_surjective

theorem stepWords_bijective : Function.Bijective stepWords := by
  -- Every pair of words is that of one state, and on states the two steps are the same.
  have hsteps : stepWords ∘ words = words ∘ step := funext fun s => (words_step s).symm
  refine (Function.Bijective.of_comp_iff stepWords words_bijective).mp ?_
  rw [hsteps]
  exact words_bijective.comp step_bijective

theorem words_ofSeed (seed : BitVec 64) : (ofSeed seed).words = (seed, seed ^^^ seedMix) :=
  Prod.ext (highWord_append _ _) (lowWord_append _ _)

/-- The seed is the high word of its state. -/
theorem ofSeed_injective : Function.Injective ofSeed := by
  intro seed seed' h
  have hwords := congrArg words h
  rw [words_ofSeed, words_ofSeed] at hwords
  exact congrArg Prod.fst hwords

/-- After any number of steps the states of different seeds still differ. -/
theorem iterate_step_ofSeed_injective (t : Nat) :
    Function.Injective fun seed => step^[t] (ofSeed seed) :=
  (step_bijective.injective.iterate t).comp ofSeed_injective

/-- So many raw draws, one after the other. -/
def nextMany (t : Nat) : Run SeededState (List Nat) :=
  (List.replicate t ()).mapM fun _ => next

/-- Each raw draw takes one step, and none fails. -/
theorem nextMany_apply (t : Nat) (s : SeededState) :
    nextMany t s = (.ok ((List.range t).map s.raw), step^[t] s) := by
  unfold nextMany
  induction t generalizing s with
  | zero => rfl
  | succ t ih =>
      have hrest := ih s.step
      have hraw : s.step.raw = s.raw ∘ Nat.succ := by
        funext i
        rw [raw_step, Function.comp_apply]
      rw [← Function.iterate_succ_apply, hraw] at hrest
      rw [List.replicate_succ, List.range_succ_eq_map, List.map_cons, List.map_map, raw_zero]
      exact Run.mapM_cons_of_ok (next_apply s) hrest

/-- Of two different states one leads to the other, and it stays ahead by the
    same number of steps. -/
theorem exists_lead {s s' : SeededState} (h : s ≠ s') :
    ∃ d, 0 < d ∧ d < 2 ^ 128 ∧ ∀ t, step^[t] s' = step^[t + d] s := by
  obtain ⟨d, hd, hreach⟩ := exists_iterate_step s s'
  refine ⟨d, Nat.pos_of_ne_zero ?_, hd, fun t => ?_⟩
  · rintro rfl
    exact h hreach
  · rw [Function.iterate_add_apply, hreach]

/-- Different seeds never fall into step. A seed is the high word of the state it
    starts from, and the low word is the seed mixed with a constant, so no two
    seeds start from the same state. The step multiplies by a fixed factor and
    adds a fixed increment on 128 bits, on 64-bit words as on the whole state,
    and either way every state comes from exactly one. So, for any two different
    seeds, any number of raw draws is answered from both and leaves two different
    states. -/
theorem seeds_never_fall_into_step :
    (∀ seed, (ofSeed seed).words = (seed, seed ^^^ 0x9e3779b97f4a7c15#64)) ∧
    Function.Injective ofSeed ∧
    (∀ s : SeededState, s.step.bits.toNat
      = (s.bits.toNat * (2549297995355413924 * 2 ^ 64 + 4865540595714422341)
          + (6364136223846793005 * 2 ^ 64 + 1442695040888963407)) % 2 ^ 128) ∧
    (∀ s : SeededState, s.step.words = stepWords s.words) ∧
    Function.Bijective step ∧ Function.Bijective stepWords ∧
    ∀ seed seed' : BitVec 64, seed ≠ seed' → ∀ t, ∃ vs vs' s s',
      nextMany t (ofSeed seed) = (.ok vs, s) ∧ nextMany t (ofSeed seed') = (.ok vs', s') ∧
        s ≠ s' := by
  refine ⟨words_ofSeed, ofSeed_injective, toNat_step, words_step, step_bijective,
    stepWords_bijective, fun seed seed' hne t => ?_⟩
  exact ⟨_, _, _, _, nextMany_apply t _, nextMany_apply t _,
    (iterate_step_ofSeed_injective t).ne hne⟩

/-- Two seeds next to each other, after the draws behind a string and after a
    whole round. -/
theorem seeds_never_fall_into_step_nearby :
    (42#64 ≠ 43#64) ∧
      (nextMany 32 (ofSeed 42#64)).2 ≠ (nextMany 32 (ofSeed 43#64)).2 ∧
      (nextMany (2 ^ 128) (ofSeed 42#64)).2 ≠ (nextMany (2 ^ 128) (ofSeed 43#64)).2 := by
  have hne : 42#64 ≠ 43#64 := by decide
  obtain ⟨-, -, -, -, -, -, hapart⟩ := seeds_never_fall_into_step
  obtain ⟨_, _, _, _, hone, hother, hstring⟩ := hapart 42#64 43#64 hne 32
  obtain ⟨_, _, _, _, hone', hother', hround⟩ := hapart 42#64 43#64 hne (2 ^ 128)
  rw [hone, hother, hone', hother']
  exact ⟨hne, hstring, hround⟩

end SeededState

end Passforge
