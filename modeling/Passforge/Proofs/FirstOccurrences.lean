import Mathlib.Data.List.Induction
import Passforge.Proofs.AlphabetChoice
import Passforge.Proofs.PresetUnion

/-!
# Dropping Repetitions

Dropping the repetitions of an alphabet leaves one alphabet and no other: its
members are the same, none of them stands twice, and they stand in the order in
which they first came up. Said by positions instead of symbols, what is left are
the positions at which a symbol stands for the first time, and nothing is moved.

The definition works from the front and filters what follows. The positions are
counted from the front as well, so the two meet by going from the back: one more
symbol at the end adds one more position, which is a first one exactly if the
symbol is new (`firsts_concat`).

## Main definitions

* `Alphabet.firstPositions`: Where symbols stand for the first time.

## Theorems

* `Alphabet.firsts_eq_firstPositions`: The symbols at these positions are left.
* `Alphabet.pairwise_firsts`: They are in the order of their first positions.
* `Alphabet.eq_firsts_of_pairwise`: No other sequence is.
* `Alphabet.repetitions_dropped_canonically`: All of it together.
-/

namespace Passforge.Alphabet

/-- The positions at which a symbol stands that did not stand before, in order. -/
def firstPositions (a : Alphabet) : List Nat :=
  (List.range a.size).filter fun i => decide (∀ j < i, a.symbols[j]? ≠ a.symbols[i]?)

/-- A symbol behind others stays if it is new. -/
theorem firsts_concat (l : List Symbol) (s : Symbol) :
    firsts (l ++ [s]) = firsts l ++ if s ∈ l then [] else [s] := by
  rw [firsts_append]
  by_cases hs : s ∈ l
  · simp [firsts, hs]
  · simp [firsts, hs]

theorem firstPositions_concat (l : List Symbol) (s : Symbol) :
    firstPositions ⟨l ++ [s]⟩ = firstPositions ⟨l⟩ ++ if s ∈ l then [] else [l.length] := by
  have hbefore (i : Nat) (hi : i < l.length) : (l ++ [s])[i]? = l[i]? :=
    List.getElem?_append_left hi
  unfold firstPositions size
  simp only
  rw [List.length_append, List.length_singleton, List.range_succ, List.filter_append]
  congr 1
  -- Positions before the end are judged by symbols before the end.
  · refine List.filter_congr fun i hi => ?_
    rw [List.mem_range] at hi
    refine decide_eq_decide.mpr (forall₂_congr fun j hj => ?_)
    rw [hbefore i hi, hbefore j (Nat.lt_trans hj hi)]
  · have hnew : (∀ j < l.length, (l ++ [s])[j]? ≠ (l ++ [s])[l.length]?) ↔ s ∉ l := by
      rw [List.getElem?_concat_length, List.mem_iff_getElem?]
      constructor
      · rintro h ⟨j, hj⟩
        have hlt : j < l.length := (List.getElem?_eq_some_iff.mp hj).1
        exact h j hlt ((hbefore j hlt).trans hj)
      · intro h j hj heq
        exact h ⟨j, (hbefore j hj).symm.trans heq⟩
    by_cases hs : s ∈ l
    · rw [if_pos hs, List.filter_cons_of_neg (by simpa only [decide_eq_true_iff, hnew, not_not]),
        List.filter_nil]
    · rw [if_neg hs, List.filter_cons_of_pos (by simpa only [decide_eq_true_iff, hnew]),
        List.filter_nil]

/-- What is left are the symbols at the positions that are first. -/
theorem firsts_eq_firstPositions (l : List Symbol) :
    firsts l = (firstPositions ⟨l⟩).filterMap (l[·]?) := by
  induction l using List.reverseRecOn with
  | nil => rfl
  | append_singleton l s ih =>
      rw [firsts_concat, firstPositions_concat, List.filterMap_append, ih]
      congr 1
      · refine List.filterMap_congr fun i hi => ?_
        have hlt : i < l.length := List.mem_range.mp (List.mem_of_mem_filter hi)
        exact (List.getElem?_append_left hlt).symm
      · split
        · rfl
        · simp

/-- What is left stands in the order of its first positions. -/
theorem pairwise_firsts (l : List Symbol) :
    (firsts l).Pairwise fun s t => l.idxOf s < l.idxOf t := by
  have hnodup := nodup_firsts l
  rw [List.pairwise_iff_getElem]
  intro i j hi hj hij
  rw [← idxOf_firsts_lt_iff, hnodup.idxOf_getElem, hnodup.idxOf_getElem]
  exact hij

/-- Members and order leave no choice. -/
theorem eq_firsts_of_pairwise {l kept : List Symbol} (hmem : ∀ s, s ∈ kept ↔ s ∈ l)
    (horder : kept.Pairwise fun s t => l.idxOf s < l.idxOf t) : kept = firsts l := by
  have hnodup : kept.Nodup := List.Pairwise.imp (fun hlt heq => by
    rw [heq] at hlt
    exact Nat.lt_irrefl _ hlt) horder
  have hperm : kept.Perm (firsts l) :=
    (List.perm_ext_iff_of_nodup hnodup (nodup_firsts l)).mpr fun s =>
      (hmem s).trans (mem_firsts s l).symm
  exact hperm.eq_of_pairwise (fun s t _ _ hst hts => absurd hst (Nat.lt_asymm hts)) horder
    (pairwise_firsts l)

/-- Dropping repetitions is the one way of having every symbol once. No symbol
    is left twice, and the members stay the same. What is left are the symbols
    at the positions where a symbol stands for the first time, a sublist in
    which symbols come in the order of their first positions; any sequence with
    these members in this order is the same one. A second time nothing is
    dropped. Of two alphabets one after the other, the second loses what the
    first holds. Nothing is dropped exactly if no repetition is reported, and
    exactly if no two positions hold the same symbol. -/
theorem repetitions_dropped_canonically (a : Alphabet) :
    a.unique.symbols.Nodup ∧
    (∀ s, (s ∈ a.unique.symbols ↔ s ∈ a.symbols) ∧ a.unique.contains s = a.contains s) ∧
    a.unique.symbols = a.firstPositions.filterMap (a.symbols[·]?) ∧
    a.unique.symbols.Sublist a.symbols ∧
    (∀ s t, a.unique.symbols.idxOf s < a.unique.symbols.idxOf t ↔
      a.symbols.idxOf s < a.symbols.idxOf t) ∧
    (∀ kept : List Symbol, (∀ s, s ∈ kept ↔ s ∈ a.symbols) →
      (kept.Pairwise fun s t => a.symbols.idxOf s < a.symbols.idxOf t) →
        kept = a.unique.symbols) ∧
    a.unique.unique = a.unique ∧
    (∀ b : Alphabet, (a ++ b).unique.symbols
      = a.unique.symbols ++ b.unique.symbols.filter fun s => !a.contains s) ∧
    (a.hasDuplicates = false ↔ a.unique = a) ∧
    (a.unique = a ↔
      ∀ i j, i < j → j < a.size → a.symbols[i]? ≠ a.symbols[j]?) := by
  refine ⟨nodup_firsts a.symbols, fun s => ⟨mem_firsts s a.symbols, ?_⟩,
    firsts_eq_firstPositions a.symbols, firsts_sublist a.symbols, idxOf_firsts_lt_iff a.symbols,
    fun kept => eq_firsts_of_pairwise, unique_unique a, fun b => ?_,
    (unique_eq_self_iff a).symm, ?_⟩
  · rw [Bool.eq_iff_iff, contains_iff, contains_iff]
    exact mem_firsts s a.symbols
  · refine (firsts_append a.symbols b.symbols).trans (congrArg (firsts a.symbols ++ ·) ?_)
    refine List.filter_congr fun s _ => ?_
    rw [Bool.eq_iff_iff, decide_eq_true_iff, Bool.not_eq_true', ← Bool.not_eq_true, contains_iff]
  · rw [unique_eq_self_iff_nodup, List.nodup_iff_getElem?_ne_getElem?]
    rfl

/-- Numbers that are no characters repeat like any other symbol. -/
example : (Alphabet.mk [7, -1, 7, 0xD800, -1]).unique = ⟨[7, -1, 0xD800]⟩ := by decide

end Passforge.Alphabet
