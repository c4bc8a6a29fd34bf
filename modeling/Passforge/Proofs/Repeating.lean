import Passforge.Proofs.Direct
import Passforge.Proofs.Rounds

/-!
# Draws on a Repeating Stream

When a draw ends. The redraw loop has no measure: on a stream of nothing but
rejected values it goes on for good. On a stream that repeats a cycle the
question has an answer, because the values looked at repeat, too.

The running source gives up after as many values as the stream has patience
for. `Buffer.Ends` is the loop without that limit: it relates a reservoir to
the answer, to the reservoir left and to how many values were looked at, and
no derivation of it exists for a draw that looks on forever.

The order of the values is what the buffer makes of the stream. First come the
whole values that are still unread, and what is too short for a value is
dropped. Then come the values of the stream, one after the other: a block holds
a whole number of values, so the end of a block leaves no gap between them.
`Reservoir.handed_iterate` says this for every width that divides the block.

A value of eight bytes need not fit the cycle, so its place in the cycle
changes from one round to the next. Still the values repeat after as many of
them as the cycle has bytes: that is eight rounds of the cycle at most. What is
rejected that long is rejected forever.

## Main definitions

* `Buffer.Ends`: One draw without a limit, with its number of values.
* `Reservoir.seen`: The values that a draw looks at, one after the other.
* `Entropy.Repeats`: The stream repeats after a number of bytes.
* `Entropy.ascending`: The bytes in their order, each once.

## Theorems

* `Buffer.scan_eq_ok_iff`: The limited loop answers as the unlimited one does,
  if that looks at no more values than allowed.
* `Buffer.exists_ends_iff`: A draw ends if it comes to an acceptable value.
* `Buffer.looks_le`: It looks no further than that.
* `Reservoir.handed_iterate`: Which bytes a draw looks at.
* `Reservoir.exists_seen_iff`: On a repeating stream one round decides.
* `Buffer.draws_end_when_acceptable`: When a draw ends, and how soon.
-/

namespace Passforge

namespace Buffer

/-- A draw among `n` choices from `r` that looks at `looks` values, answers `v`
    and leaves `r'`. There is no limit to the number of values. -/
inductive Ends (n : Nat) : (r : Reservoir) → (looks v : Nat) → (r' : Reservoir) → Prop
  | accept (r r' : Reservoir) (bytes : List UInt8) (htake : take (width n) r = (.ok bytes, r'))
      (h : Accepts n (littleEndian bytes)) : Ends n r 1 (littleEndian bytes % n) r'
  | redraw (r r₁ r' : Reservoir) (bytes : List UInt8) (looks v : Nat)
      (htake : take (width n) r = (.ok bytes, r₁)) (h : ¬ Accepts n (littleEndian bytes))
      (rest : Ends n r₁ looks v r') : Ends n r (looks + 1) v r'

/-- With an acceptable value in front, the draw answers it. -/
theorem ends_iff_of_accepts (n : Nat) (r : Reservoir)
    (ha : Accepts n (littleEndian (r.handed (width n)))) (looks v : Nat) (r' : Reservoir) :
    Ends n r looks v r' ↔
      looks = 1 ∧ v = littleEndian (r.handed (width n)) % n ∧ r' = r.after (width n) := by
  constructor
  · intro h
    cases h with
    | accept _ _ bytes htake _ =>
        rw [take_eq, Prod.mk.injEq, Except.ok.injEq] at htake
        rw [htake.1, htake.2]
        exact ⟨rfl, rfl, rfl⟩
    | redraw _ _ _ bytes _ _ htake hnot _ =>
        rw [take_eq, Prod.mk.injEq, Except.ok.injEq] at htake
        rw [← htake.1] at hnot
        exact absurd ha hnot
  · rintro ⟨rfl, rfl, rfl⟩
    exact Ends.accept _ _ _ (take_eq _ r) ha

/-- With a rejected value in front, the draw goes on behind it. -/
theorem ends_iff_of_not_accepts (n : Nat) (r : Reservoir)
    (ha : ¬ Accepts n (littleEndian (r.handed (width n)))) (looks v : Nat) (r' : Reservoir) :
    Ends n r looks v r' ↔ ∃ k, looks = k + 1 ∧ Ends n (r.after (width n)) k v r' := by
  constructor
  · intro h
    cases h with
    | accept _ _ bytes htake h =>
        rw [take_eq, Prod.mk.injEq, Except.ok.injEq] at htake
        rw [← htake.1] at h
        exact absurd h ha
    | redraw _ _ _ bytes k _ htake _ rest =>
        rw [take_eq, Prod.mk.injEq] at htake
        rw [← htake.2] at rest
        exact ⟨k, rfl, rest⟩
  · rintro ⟨k, rfl, rest⟩
    exact Ends.redraw _ _ _ _ k v (take_eq _ r) ha rest

/-- The limited loop answers as the unlimited one does, if that looks at no
    more values than allowed. -/
theorem scan_eq_ok_iff (n patience : Nat) (r : Reservoir) (v : Nat) (r' : Reservoir) :
    scan n patience r = (.ok v, r') ↔ ∃ looks ≤ patience, Ends n r looks v r' := by
  induction patience generalizing r with
  | zero =>
      constructor
      · intro h
        cases h
      -- A draw that ends has looked at a value.
      · rintro ⟨looks, hle, h⟩
        cases h <;> omega
  | succ k ih =>
      by_cases ha : Accepts n (littleEndian (r.handed (width n)))
      · rw [scan_of_accepts n k r ha, Prod.mk.injEq, Except.ok.injEq]
        simp only [ends_iff_of_accepts n r ha]
        constructor
        · rintro ⟨rfl, rfl⟩
          exact ⟨1, by omega, rfl, rfl, rfl⟩
        · rintro ⟨_, _, _, rfl, rfl⟩
          exact ⟨rfl, rfl⟩
      · rw [scan_of_not_accepts n k r ha, ih]
        simp only [ends_iff_of_not_accepts n r ha]
        constructor
        · rintro ⟨looks, hle, h⟩
          exact ⟨looks + 1, by omega, looks, rfl, h⟩
        · rintro ⟨_, hle, looks, rfl, h⟩
          exact ⟨looks, by omega, h⟩

end Buffer

namespace Reservoir

/-- The value that a draw among `n` choices looks at after `k` others. -/
def seen (n k : Nat) (r : Reservoir) : Nat :=
  Buffer.littleEndian (((after (Buffer.width n))^[k] r).handed (Buffer.width n))

end Reservoir

namespace Buffer

/-- A draw ends at the first acceptable value. The induction is on the number
    of rejected values before it. -/
theorem ends_of_first (n k : Nat) (r : Reservoir) (hbefore : ∀ j < k, ¬ Accepts n (r.seen n j))
    (hfirst : Accepts n (r.seen n k)) : ∃ v r', Ends n r (k + 1) v r' := by
  induction k generalizing r with
  | zero => exact ⟨_, _, (ends_iff_of_accepts n r hfirst 1 _ _).mpr ⟨rfl, rfl, rfl⟩⟩
  | succ k ih =>
      have hnot : ¬ Accepts n (r.seen n 0) := hbefore 0 (by omega)
      rcases ih (r.after (width n)) (fun j hj => hbefore (j + 1) (by omega)) hfirst with
        ⟨v, r', h⟩
      exact ⟨v, r', (ends_iff_of_not_accepts n r hnot _ _ _).mpr ⟨k + 1, rfl, h⟩⟩

/-- A draw that ends has come to its first acceptable value. -/
theorem first_of_ends (n looks v : Nat) (r r' : Reservoir) (h : Ends n r looks v r') :
    ∃ k, looks = k + 1 ∧ Accepts n (r.seen n k) ∧ ∀ j < k, ¬ Accepts n (r.seen n j) := by
  induction looks generalizing r with
  | zero => cases h
  | succ k ih =>
      by_cases ha : Accepts n (r.seen n 0)
      · have hone := ((ends_iff_of_accepts n r ha _ _ _).mp h).1
        exact ⟨0, hone, ha, fun j hj => by omega⟩
      · rcases (ends_iff_of_not_accepts n r ha _ _ _).mp h with ⟨k', hk', hrest⟩
        have hk : k = k' := by omega
        rw [← hk] at hrest
        rcases ih _ hrest with ⟨i, rfl, hi, hbefore⟩
        refine ⟨i + 1, rfl, hi, fun j hj => ?_⟩
        -- The value in front is rejected, and the others are those behind it.
        rcases j with _ | j
        · exact ha
        · exact hbefore j (by omega)

theorem exists_ends_iff (n : Nat) (r : Reservoir) :
    (∃ looks v r', Ends n r looks v r') ↔ ∃ k, Accepts n (r.seen n k) := by
  constructor
  · rintro ⟨looks, v, r', h⟩
    rcases first_of_ends n looks v r r' h with ⟨k, _, hk, _⟩
    exact ⟨k, hk⟩
  · intro h
    rcases ends_of_first n (Nat.find h) r (fun j hj => Nat.find_min h hj) (Nat.find_spec h) with
      ⟨v, r', hends⟩
    exact ⟨_, v, r', hends⟩

/-- A draw does not look beyond an acceptable value. -/
theorem looks_le (n looks v : Nat) (r r' : Reservoir) (h : Ends n r looks v r') (k : Nat)
    (hk : Accepts n (r.seen n k)) : looks ≤ k + 1 := by
  rcases first_of_ends n looks v r r' h with ⟨i, rfl, _, hbefore⟩
  by_contra hlt
  exact hbefore k (by omega) hk

end Buffer

namespace Entropy

/-- The stream repeats after `period` bytes. -/
def Repeats (e : Entropy) (period : Nat) : Prop :=
  ∀ i, e.byteAt (i + period) = e.byteAt i

theorem Repeats.byteAt_add_mul {e : Entropy} {period : Nat} (h : e.Repeats period) (i k : Nat) :
    e.byteAt (i + k * period) = e.byteAt i := by
  induction k with
  | zero => rw [Nat.zero_mul, Nat.add_zero]
  | succ k ih => rw [Nat.succ_mul, ← Nat.add_assoc, h, ih]

theorem Repeats.slice_add_mul {e : Entropy} {period : Nat} (h : e.Repeats period)
    (start k count : Nat) : e.slice (start + k * period) count = e.slice start count := by
  induction count generalizing start with
  | zero => rfl
  | succ count ih =>
      have hstep : ∀ p, e.slice p (count + 1) = e.byteAt p :: e.slice (p + 1) count := by
        intro p
        rfl
      rw [hstep, hstep, h.byteAt_add_mul, ← ih (start + 1)]
      congr 2
      omega

/-- The stream that repeats `bytes`, from a position on. -/
theorem repeats_cycle (bytes : Array UInt8) (phase : Nat) :
    Repeats { cycle bytes with position := phase } bytes.size := by
  intro i
  simp only [cycle, Nat.add_mod_right]

end Entropy

namespace Buffer

theorem width_pos (n : Nat) : 0 < width n := by
  unfold width
  split <;> omega

/-- A block holds a whole number of values. -/
theorem width_dvd_blockSize (n : Nat) : width n ∣ Entropy.blockSize := by
  unfold width
  split <;> decide

end Buffer

namespace Reservoir

/-- The bytes a draw looks at after `k` others: of the unread ones as long as
    they make whole values, and then of the stream, without a gap. -/
theorem handed_iterate (w : Nat) (hw : 0 < w) (hdvd : w ∣ Entropy.blockSize) (k : Nat)
    (r : Reservoir) :
    ((after w)^[k] r).handed w =
      if k < r.buffer.unread.length / w then (r.buffer.unread.drop (w * k)).take w
      else r.entropy.slice (r.entropy.position + w * (k - r.buffer.unread.length / w)) w := by
  rcases hdvd with ⟨q, hq⟩
  have hqpos : 0 < q := by
    rcases q with _ | q
    · cases hq
    · omega
  have hle : w ≤ Entropy.blockSize := by
    rw [hq]
    exact Nat.le_mul_of_pos_right w hqpos
  -- The value in front goes first, so the others are seen from what it leaves.
  induction k generalizing r with
  | zero =>
      rw [Function.iterate_zero, id_eq, handed]
      by_cases h : w ≤ r.buffer.unread.length
      · rw [if_pos h, if_pos (Nat.div_pos h hw), Nat.mul_zero, List.drop_zero]
      · rw [if_neg h, Nat.div_eq_of_lt (by omega), if_neg (by omega), Nat.sub_zero, Nat.mul_zero,
          Nat.add_zero]
        exact Entropy.take_slice _ _ _ _ hle
  | succ k ih =>
      rw [Function.iterate_succ_apply, ih]
      by_cases h : w ≤ r.buffer.unread.length
      -- A whole value is unread: it goes, and the stream stays where it is.
      · have hdiv := Nat.div_eq_sub_div hw h
        simp only [after, if_pos h, List.length_drop, List.drop_drop]
        rw [hdiv]
        simp only [Nat.add_lt_add_iff_right, Nat.add_sub_add_right, Nat.mul_succ, Nat.add_comm w]
      -- A fresh block: it holds the next values of the stream, and the stream goes on behind them.
      · have hzero : r.buffer.unread.length / w = 0 := Nat.div_eq_of_lt (by omega)
        have hlength : (Entropy.blockSize - w) / w = q - 1 := by
          have hdiv := Nat.div_eq_sub_div hw hle
          rw [hq, Nat.mul_div_cancel_left q hw] at hdiv
          rw [hq]
          omega
        simp only [after, if_neg h, Entropy.drop_slice, Entropy.length_slice, hlength, hzero,
          Nat.not_lt_zero, if_false, Nat.sub_zero]
        by_cases hk : k < q - 1
        · have hroom : w * (k + 2) ≤ Entropy.blockSize := by
            rw [hq]
            exact Nat.mul_le_mul_left w (by omega)
          rw [Nat.mul_succ, Nat.mul_succ] at hroom
          rw [if_pos hk, Entropy.take_slice _ _ _ _ (by omega)]
          congr 1
          rw [Nat.mul_succ]
          omega
        · have hsum : w * q + w * (k - (q - 1)) = w * (k + 1) := by
            rw [← Nat.mul_add]
            congr 1
            omega
          rw [if_neg hk, hq, Nat.add_assoc, hsum]
          rfl

theorem seen_unread (n k : Nat) (r : Reservoir) (hk : k < r.buffer.unread.length / Buffer.width n) :
    r.seen n k = Buffer.littleEndian
      ((r.buffer.unread.drop (Buffer.width n * k)).take (Buffer.width n)) := by
  unfold seen
  rw [handed_iterate _ (Buffer.width_pos n) (Buffer.width_dvd_blockSize n), if_pos hk]

theorem seen_stream (n i : Nat) (r : Reservoir) :
    r.seen n (r.buffer.unread.length / Buffer.width n + i) = Buffer.littleEndian
      (r.entropy.slice (r.entropy.position + Buffer.width n * i) (Buffer.width n)) := by
  unfold seen
  rw [handed_iterate _ (Buffer.width_pos n) (Buffer.width_dvd_blockSize n), if_neg (by omega),
    Nat.add_sub_cancel_left]

/-- On a repeating stream the unread values and one round of the stream decide
    whether a draw comes to an acceptable value. -/
theorem exists_seen_iff (n period : Nat) (hpos : 0 < period) (r : Reservoir)
    (hr : r.entropy.Repeats period) :
    (∃ k, Buffer.Accepts n (r.seen n k)) ↔
      (∃ k < r.buffer.unread.length / Buffer.width n, Buffer.Accepts n (r.seen n k)) ∨
        ∃ i < period,
          Buffer.Accepts n (r.seen n (r.buffer.unread.length / Buffer.width n + i)) := by
  constructor
  · rintro ⟨k, hk⟩
    by_cases hlt : k < r.buffer.unread.length / Buffer.width n
    · exact Or.inl ⟨k, hlt, hk⟩
    -- The value stands in the stream. A value on is `width` bytes on, so `period` values on are
    -- `width` cycles on, and there is a value like it in the first round.
    · rcases Nat.exists_eq_add_of_le (Nat.le_of_not_lt hlt) with ⟨i, rfl⟩
      have hplace : r.entropy.position + Buffer.width n * i = r.entropy.position +
          Buffer.width n * (i % period) + Buffer.width n * (i / period) * period := by
        rw [Nat.add_assoc, Nat.mul_assoc, ← Nat.mul_add, Nat.mod_add_div']
      rw [seen_stream, hplace, hr.slice_add_mul, ← seen_stream] at hk
      exact Or.inr ⟨i % period, Nat.mod_lt i hpos, hk⟩
  · rintro (⟨k, _, hk⟩ | ⟨i, _, hi⟩)
    · exact ⟨k, hk⟩
    · exact ⟨_, hi⟩

end Reservoir

namespace Buffer

/-- On a repeating stream a draw looks at the unread values and at one round of
    the stream at most. -/
theorem looks_le_of_repeats (n period : Nat) (hpos : 0 < period) (r r' : Reservoir)
    (hr : r.entropy.Repeats period) (looks v : Nat) (h : Ends n r looks v r') :
    looks ≤ r.buffer.unread.length / width n + period := by
  have hseen : ∃ k, Accepts n (r.seen n k) := (exists_ends_iff n r).mp ⟨looks, v, r', h⟩
  rcases (r.exists_seen_iff n period hpos hr).mp hseen with ⟨k, hlt, hk⟩ | ⟨i, hlt, hi⟩
  · have hle := looks_le n looks v r r' h k hk
    omega
  · have hle := looks_le n looks v r r' h _ hi
    omega

/-- A draw among several choices answers if it ends within the patience of the
    stream. -/
theorem source_draw_eq_ok_iff (n : Nat) (hn : 2 ≤ n) (r r' : Reservoir) (x : Int) :
    source.draw n r = (.ok x, r') ↔
      ∃ looks v : Nat, looks ≤ r.entropy.patience ∧ x = v ∧ Ends n r looks v r' := by
  rw [source_draw_eq n (by omega), choose_eq_scan n (by omega)]
  constructor
  · intro h
    rcases hscan : scan n r.entropy.patience r with ⟨e | v, r₁⟩
    · rw [hscan] at h
      cases h
    · rw [hscan] at h
      cases h
      rcases (scan_eq_ok_iff n _ r v _).mp hscan with ⟨looks, hle, hends⟩
      exact ⟨looks, v, hle, rfl, hends⟩
  · rintro ⟨looks, v, hle, rfl, hends⟩
    rw [(scan_eq_ok_iff n _ r v r').mpr ⟨looks, hle, hends⟩]
    rfl

/-- On a repeating stream with the patience for the unread bytes and one round,
    a draw answers if it ends at all. -/
theorem source_draw_iff_ends (n period : Nat) (hn : 2 ≤ n) (hpos : 0 < period) (r : Reservoir)
    (hr : r.entropy.Repeats period)
    (hpatience : r.buffer.unread.length + period ≤ r.entropy.patience) (x : Int) (r' : Reservoir) :
    source.draw n r = (.ok x, r') ↔ ∃ looks v : Nat, x = v ∧ Ends n r looks v r' := by
  rw [source_draw_eq_ok_iff n hn]
  constructor
  · rintro ⟨looks, v, _, hx, hends⟩
    exact ⟨looks, v, hx, hends⟩
  · rintro ⟨looks, v, hx, hends⟩
    have hlooks := looks_le_of_repeats n period hpos r r' hr looks v hends
    have hvalues := Nat.div_le_self r.buffer.unread.length (width n)
    exact ⟨looks, v, by omega, hx, hends⟩

/-- Which bytes decide a draw among few choices. -/
theorem exists_ends_iff_byte (n period : Nat) (hn : n ≤ 256) (hpos : 0 < period) (r : Reservoir)
    (hr : r.entropy.Repeats period) :
    (∃ looks v r', Ends n r looks v r') ↔
      (∃ b ∈ r.buffer.unread, b.toNat ≤ byteCut n) ∨
        ∃ i < period, (r.entropy.byteAt (r.entropy.position + i)).toNat ≤ byteCut n := by
  have hw : width n = 1 := if_pos hn
  have ha : ∀ value, Accepts n value ↔ value ≤ byteCut n := fun value => by
    rw [Accepts, if_pos hn]
  have hbyte : ∀ b : UInt8, littleEndian [b] = b.toNat := fun b => rfl
  rw [exists_ends_iff, r.exists_seen_iff n period hpos hr]
  refine or_congr ?_ ?_
  · rw [hw, Nat.div_one]
    constructor
    · rintro ⟨k, hk, hseen⟩
      rw [r.seen_unread n k (by rw [hw, Nat.div_one]; exact hk), hw, Nat.one_mul,
        List.drop_eq_getElem_cons hk, ha] at hseen
      exact ⟨r.buffer.unread[k], List.getElem_mem hk, hseen⟩
    · rintro ⟨b, hb, hcut⟩
      rcases List.getElem_of_mem hb with ⟨k, hk, rfl⟩
      refine ⟨k, hk, ?_⟩
      rw [r.seen_unread n k (by rw [hw, Nat.div_one]; exact hk), hw, Nat.one_mul,
        List.drop_eq_getElem_cons hk, ha]
      exact hcut
  · refine exists_congr fun i => and_congr_right fun _ => ?_
    rw [r.seen_stream n i, hw, Nat.one_mul, ha]
    rfl

/-- Which words decide a draw among many choices. -/
theorem exists_ends_iff_word (n period : Nat) (hn : 256 < n) (hpos : 0 < period) (r : Reservoir)
    (hr : r.entropy.Repeats period) :
    (∃ looks v r', Ends n r looks v r') ↔
      (∃ k < r.buffer.unread.length / 8,
        wordCut n ≤ littleEndian ((r.buffer.unread.drop (8 * k)).take 8)) ∨
      ∃ i < period, wordCut n ≤ littleEndian (r.entropy.slice (r.entropy.position + 8 * i) 8) := by
  have hw : width n = 8 := if_neg (by omega)
  have ha : ∀ value, Accepts n value ↔ wordCut n ≤ value := fun value => by
    rw [Accepts, if_neg (by omega)]
  rw [exists_ends_iff, r.exists_seen_iff n period hpos hr, ← hw]
  refine or_congr ?_ ?_
  · refine exists_congr fun k => and_congr_right fun hk => ?_
    rw [r.seen_unread n k hk, ha]
  · refine exists_congr fun i => and_congr_right fun _ => ?_
    rw [r.seen_stream n i, ha]

end Buffer

namespace Entropy

/-- The bytes in their order, each once. -/
def ascending : Array UInt8 :=
  ((List.range 256).map UInt8.ofNat).toArray

theorem size_ascending : ascending.size = 256 := by
  simp [ascending]

theorem ascending_getD (i : Nat) (h : i < 256) : ascending.getD i 0 = UInt8.ofNat i := by
  simp [ascending, Array.getD, h]

theorem zero_mem_ascending : 0 ∈ ascending :=
  List.mem_toArray.mpr (List.mem_map.mpr ⟨0, List.mem_range.mpr (by omega), rfl⟩)

/-- From any place on, the cycle holds a byte if it holds it at all. -/
theorem exists_byteAt_cycle_iff (bytes : Array UInt8) (hbytes : 0 < bytes.size) (phase : Nat)
    (p : UInt8 → Prop) :
    (∃ i < bytes.size, p ((cycle bytes).byteAt (phase + i))) ↔ ∃ b ∈ bytes, p b := by
  have hget : ∀ i (hi : i < bytes.size), bytes.getD i 0 = bytes[i] := fun i hi => by
    simp only [Array.getD, dif_pos hi, Array.getInternal_eq_getElem]
  simp only [cycle]
  constructor
  · rintro ⟨i, _, hp⟩
    have hlt := Nat.mod_lt (phase + i) hbytes
    rw [hget _ hlt] at hp
    exact ⟨_, Array.getElem_mem hlt, hp⟩
  · rintro ⟨b, hb, hp⟩
    rcases Array.getElem_of_mem hb with ⟨j, hj, rfl⟩
    have hs := Nat.mod_lt phase hbytes
    -- The place lies ahead in this round of the cycle, or else in the next one.
    have hahead : ∃ i < bytes.size, (phase % bytes.size + i) % bytes.size = j := by
      by_cases hle : phase % bytes.size ≤ j
      · refine ⟨j - phase % bytes.size, by omega, ?_⟩
        rw [Nat.add_sub_cancel' hle, Nat.mod_eq_of_lt hj]
      · refine ⟨j + bytes.size - phase % bytes.size, by omega, ?_⟩
        rw [Nat.add_sub_cancel' (by omega), Nat.add_mod_right, Nat.mod_eq_of_lt hj]
    rcases hahead with ⟨i, hi, hij⟩
    rw [Nat.mod_add_mod] at hij
    refine ⟨i, hi, ?_⟩
    rw [hij, hget j hj]
    exact hp

end Entropy

namespace Buffer

/-- Eight bytes spell at least what the last of them is worth. -/
theorem le_littleEndian_slice (e : Entropy) (start : Nat) :
    (e.byteAt (start + 7)).toNat * 2 ^ 56 ≤ littleEndian (e.slice start 8) := by
  simp only [littleEndian, Entropy.slice, List.range', List.map_cons, List.map_nil,
    List.foldr_cons, List.foldr_nil, Nat.add_assoc, Nat.reduceAdd]
  omega

/-- Among the next words of the ascending cycle there is one whose last byte is
    high, and no number of choices rejects such a word. -/
theorem exists_word_ascending (n : Nat) (hn : n < 2 ^ 63) (hpos : 0 < n) (phase : Nat) :
    ∃ i < Entropy.ascending.size, wordCut n ≤
      littleEndian ((Entropy.cycle Entropy.ascending).slice (phase + 8 * i) 8) := by
  refine ⟨(255 - (phase + 7) % 256) / 8, by rw [Entropy.size_ascending]; omega, ?_⟩
  generalize hi : (255 - (phase + 7) % 256) / 8 = i
  have hhigh : 248 ≤ ((Entropy.cycle Entropy.ascending).byteAt (phase + 8 * i + 7)).toNat := by
    have hplace : (phase + 8 * i + 7) % 256 = (phase + 7) % 256 + 8 * i := by omega
    simp only [Entropy.cycle, Entropy.size_ascending]
    rw [hplace, Entropy.ascending_getD _ (by omega), UInt8.toNat_ofNat']
    omega
  have hword := le_littleEndian_slice (Entropy.cycle Entropy.ascending) (phase + 8 * i)
  have hcut : wordCut n < n := Nat.mod_lt _ hpos
  omega

/-- On the stream that repeats the bytes in their order every draw answers. -/
theorem draw_ascending (n phase : Nat) (unread : List UInt8)
    (hunread : unread.length ≤ Entropy.blockSize) (hpos : 1 ≤ n) (hlt : n < 2 ^ 63) :
    ∃ (x : Int) (r' : Reservoir),
      source.draw n ⟨{ Entropy.cycle Entropy.ascending with position := phase }, ⟨unread⟩⟩
        = (.ok x, r') := by
  by_cases h1 : n = 1
  · subst h1
    exact ⟨0, _, source_draw_eq 1 (by omega) _⟩
  have hsize : 0 < Entropy.ascending.size := by
    rw [Entropy.size_ascending]
    omega
  have hzero := Entropy.zero_mem_ascending
  have hword := exists_word_ascending n hlt (by omega) phase
  -- Nothing else is needed of the bytes, and they must not be computed with.
  generalize Entropy.ascending = bytes at hsize hzero hword ⊢
  have hrepeats := Entropy.repeats_cycle bytes phase
  have hends : ∃ looks v r',
      Ends n ⟨{ Entropy.cycle bytes with position := phase }, ⟨unread⟩⟩ looks v r' := by
    by_cases hle : n ≤ 256
    -- The byte zero is acceptable whatever the number of choices.
    · refine (exists_ends_iff_byte n _ hle hsize _ hrepeats).mpr (Or.inr ?_)
      exact (Entropy.exists_byteAt_cycle_iff bytes hsize phase fun b => b.toNat ≤ byteCut n).mpr
        ⟨0, hzero, Nat.zero_le _⟩
    · exact (exists_ends_iff_word n _ (by omega) hsize _ hrepeats).mpr (Or.inr hword)
  rcases hends with ⟨looks, v, r', h⟩
  refine ⟨v, r', (source_draw_iff_ends n _ (by omega) hsize _ hrepeats ?_ v r').mpr
    ⟨looks, v, rfl, h⟩⟩
  change unread.length + bytes.size ≤ Entropy.blockSize + bytes.size + 64
  omega

/-- A draw on a repeating stream ends exactly when it can. Take a source with
    any unread bytes, on a stream that repeats a cycle, standing anywhere in it.
    The source answers if and only if the redraw loop ends, so that its patience
    is never what decides.

    Among up to 256 choices the loop ends if one of the unread bytes or one of
    the bytes of the cycle is not above the cut, and it looks at each of them
    once at most. Among more choices it ends if one of the whole unread words is
    not below the cut, or one of the next words of the stream, as many as the
    cycle has bytes; and it looks at these words at most. On the stream that
    repeats the bytes in their order every draw ends. -/
theorem draws_end_when_acceptable (bytes : Array UInt8) (hbytes : 0 < bytes.size) (phase : Nat)
    (unread : List UInt8) (hunread : unread.length ≤ Entropy.blockSize) :
    let r : Reservoir := ⟨{ Entropy.cycle bytes with position := phase }, ⟨unread⟩⟩
    (∀ n : Nat, 2 ≤ n → ∀ (x : Int) (r' : Reservoir),
      source.draw n r = (.ok x, r') ↔ ∃ looks v : Nat, x = v ∧ Ends n r looks v r') ∧
    (∀ n : Nat, 2 ≤ n → n ≤ 256 →
      ((∃ looks v r', Ends n r looks v r') ↔
        ∃ b : UInt8, (b ∈ unread ∨ b ∈ bytes) ∧ b.toNat ≤ 255 - 256 % n) ∧
      ∀ looks v r', Ends n r looks v r' → looks ≤ unread.length + bytes.size) ∧
    (∀ n : Nat, 256 < n → n < 2 ^ 63 →
      ((∃ looks v r', Ends n r looks v r') ↔
        (∃ k < unread.length / 8, 2 ^ 64 % n ≤ littleEndian ((unread.drop (8 * k)).take 8)) ∨
        ∃ k < bytes.size, 2 ^ 64 % n ≤ littleEndian (r.entropy.slice (phase + 8 * k) 8)) ∧
      ∀ looks v r', Ends n r looks v r' → looks ≤ 64 + bytes.size) ∧
    ∀ n : Nat, 1 ≤ n → n < 2 ^ 63 → ∃ (x : Int) (r' : Reservoir),
      source.draw n ⟨{ Entropy.cycle Entropy.ascending with position := phase }, ⟨unread⟩⟩
        = (.ok x, r') := by
  intro r
  have hr : r.entropy.Repeats bytes.size := Entropy.repeats_cycle bytes phase
  refine ⟨?_, ?_, ?_, fun n => draw_ascending n phase unread hunread⟩
  · intro n hn
    refine source_draw_iff_ends n bytes.size hn hbytes r hr ?_
    change unread.length + bytes.size ≤ Entropy.blockSize + bytes.size + 64
    omega
  · intro n hn hle
    have hw : width n = 1 := if_pos hle
    refine ⟨?_, fun looks v r' hends => ?_⟩
    · rw [exists_ends_iff_byte n bytes.size hle hbytes r hr,
        Entropy.exists_byteAt_cycle_iff bytes hbytes phase fun b => b.toNat ≤ byteCut n]
      simp only [or_and_right, exists_or]
      rfl
    · have hlooks := looks_le_of_repeats n bytes.size hbytes r r' hr looks v hends
      rw [hw, Nat.div_one] at hlooks
      exact hlooks
  · intro n hn hlt
    have hw : width n = 8 := if_neg (by omega)
    have hcut : wordCut n = 2 ^ 64 % n := wordCut_eq n (by rw [twoTo_64]; omega)
    refine ⟨?_, fun looks v r' hends => ?_⟩
    · rw [← hcut]
      exact exists_ends_iff_word n bytes.size hn hbytes r hr
    · have hlooks := looks_le_of_repeats n bytes.size hbytes r r' hr looks v hends
      -- A block has room for 64 words.
      have hwords : unread.length / 8 ≤ 64 := by
        unfold Entropy.blockSize at hunread
        omega
      rw [hw] at hlooks
      exact Nat.le_trans hlooks (Nat.add_le_add_right hwords _)

/-- A cycle of the highest byte alone. Three choices never accept it, so a draw
    ends if another byte is unread, and does not end if none is. -/
theorem draws_end_when_acceptable_at_highest :
    let r (unread : List UInt8) : Reservoir :=
      ⟨{ Entropy.cycle #[255] with position := 1 }, ⟨unread⟩⟩
    0 < (#[255] : Array UInt8).size ∧ ([255, 7] : List UInt8).length ≤ Entropy.blockSize ∧
      (∃ looks v r', Ends 3 (r [255, 7]) looks v r' ∧ looks ≤ 3) ∧
      ¬ ∃ looks v r', Ends 3 (r [255]) looks v r' := by
  intro r
  rcases (draws_end_when_acceptable #[255] (by decide) 1 [255, 7] (by decide)).2.1 3 (by decide)
    (by decide) with ⟨hends, hlooks⟩
  rcases (draws_end_when_acceptable #[255] (by decide) 1 [255] (by decide)).2.1 3 (by decide)
    (by decide) with ⟨hnever, -⟩
  refine ⟨by decide, by decide, ?_, fun h => ?_⟩
  · rcases hends.mpr ⟨7, Or.inl (by decide), by decide⟩ with ⟨looks, v, r', h⟩
    exact ⟨looks, v, r', h, hlooks looks v r' h⟩
  · rcases hnever.mp h with ⟨b, hb, hcut⟩
    have heq : b = 255 := by simpa using hb
    subst heq
    exact absurd hcut (by decide)

end Buffer

end Passforge
