import Mathlib.Data.List.Pairwise
import Passforge.Proofs.Provenance

/-!
# No Position Is Shared

Uses of one stream never look at the same position. What makes the positions
distinct is one fact about a single turn, `Ledger.step_spends`: whoever takes it
looks at some of what it held and some of what it newly reads, in that order,
and holds on to later ones only; everybody else's holdings stay. Newly read
positions are new to everybody, so the holdings never overlap.

The invariant speaks of the holdings only and keeps no history. A run is
followed from its front instead: `Ledger.mem_run` bounds what is left to the
later uses by the holdings after the first one, and the first one has spent
what it looked at.

## Main definitions

* `Use.reader`: Whose turn it is.
* `Ledger.holding`: What a reader has read and not yet looked at.
* `Ledger.Apart`: The readers hold different positions, each in order.
* `positions`: The positions each use looks at.
* `Separate`: The positions decide the outcomes, and none is looked at twice.

## Theorems

* `Trail.scan_spends`: A draw looks at held and newly read positions in order.
* `Ledger.step_spends`: What one turn does to everybody's holdings.
* `Ledger.step_apart`: A turn keeps the readers apart.
* `Ledger.run_apart`: Every use in a run follows the ones before it.
* `separate_positions`: No position is looked at twice, for all lists of uses.
* `positions_disjoint`: What one reader looks at, no other reader does.
-/

namespace Passforge

open scoped List

namespace Trail

/-- Taking bytes hands out held positions, or newly read ones after all held
    ones, and keeps later ones only. -/
theorem after_spends (count : Nat) (t : Trail) :
    ∃ k, (t.after count).entropy.position = t.entropy.position + k ∧
      t.handed count ++ (t.after count).held <+ t.held ++ List.range' t.entropy.position k := by
  unfold handed after
  -- What is left of a block that does not suffice is dropped.
  by_cases h : count ≤ t.held.length
  · rw [if_pos h, if_pos h, List.take_append_drop]
    exact ⟨0, rfl, List.sublist_append_left _ _⟩
  · rw [if_neg h, if_neg h, List.take_append_drop]
    exact ⟨Entropy.blockSize, rfl, List.sublist_append_right _ _⟩

/-- A draw looks at held positions and newly read ones in order, and keeps
    later ones only. -/
theorem scan_spends (n patience : Nat) (t : Trail) :
    ∃ k, (t.scan n patience).2.entropy.position = t.entropy.position + k ∧
      (t.scan n patience).1 ++ (t.scan n patience).2.held
        <+ t.held ++ List.range' t.entropy.position k := by
  induction patience generalizing t with
  | zero => exact ⟨0, rfl, List.sublist_append_left _ _⟩
  | succ m ih =>
      rcases after_spends (Buffer.width n) t with ⟨j, hj, hfirst⟩
      rcases ih (t.after (Buffer.width n)) with ⟨k, hk, hrest⟩
      rw [scan]
      split
      · exact ⟨j, hj, hfirst⟩
      · refine ⟨j + k, by rw [hk, hj, Nat.add_assoc], ?_⟩
        rw [hj] at hrest
        -- What the rest of the loop spends comes after the first value.
        calc t.handed (Buffer.width n) ++ ((t.after (Buffer.width n)).scan n m).1
              ++ ((t.after (Buffer.width n)).scan n m).2.held
            = t.handed (Buffer.width n) ++ (((t.after (Buffer.width n)).scan n m).1
              ++ ((t.after (Buffer.width n)).scan n m).2.held) := List.append_assoc _ _ _
          _ <+ t.handed (Buffer.width n) ++ ((t.after (Buffer.width n)).held
              ++ List.range' (t.entropy.position + j) k) := hrest.append_left _
          _ = t.handed (Buffer.width n) ++ (t.after (Buffer.width n)).held
              ++ List.range' (t.entropy.position + j) k := (List.append_assoc _ _ _).symm
          _ <+ t.held ++ List.range' t.entropy.position j
              ++ List.range' (t.entropy.position + j) k := hfirst.append_right _
          _ = t.held ++ List.range' t.entropy.position (j + k) := by
              rw [List.append_assoc, List.range'_append_1]

end Trail

/-- Whose turn it is: a source's, or nobody's for a hash call. -/
def Use.reader {ι : Type} : Use ι → Option ι
  | .draw i _ => some i
  | .hash _ _ => none

variable {ι : Type} [DecidableEq ι]

namespace Ledger

/-- The positions a reader has read and not yet looked at. A hash call keeps
    none. -/
def holding (l : Ledger ι) : Option ι → List Nat
  | some i => l.held i
  | none => []

/-- What one turn does. The reader looks at positions it held and at newly read
    ones, in that order, and keeps later ones only. Nobody else is touched. -/
theorem step_spends (l : Ledger ι) (u : Use ι) :
    ∃ k, (l.step u).2.entropy.position = l.entropy.position + k ∧
      (l.step u).1 ++ (l.step u).2.holding u.reader
        <+ l.holding u.reader ++ List.range' l.entropy.position k ∧
      ∀ r, r ≠ u.reader → (l.step u).2.holding r = l.holding r := by
  cases u with
  | draw i bound =>
      rcases Int.lt_or_le 1 bound with hb | hb
      · rcases Int.eq_ofNat_of_zero_le (by omega : 0 ≤ bound) with ⟨n, rfl⟩
        rcases Trail.scan_spends n l.entropy.patience ⟨l.entropy, l.held i⟩ with ⟨k, hk, hsub⟩
        rw [step_draw_of_lt l i n (by omega)]
        refine ⟨k, hk, ?_, fun r hr => ?_⟩
        · simp only [Use.reader, holding, Function.update_self]
          exact hsub
        · cases r with
          | none => rfl
          | some j => exact Function.update_of_ne (fun h => hr (congrArg some h)) _ _
      · rw [step_draw_of_le l i bound hb]
        exact ⟨0, rfl, List.sublist_append_left _ _, fun r _ => rfl⟩
  | hash p password =>
      refine ⟨p.saltLength, rfl, ?_, fun r _ => ?_⟩
      · simp only [step, Use.reader, holding, List.append_nil, List.nil_append]
        exact List.Sublist.refl _
      · cases r with
        | none => rfl
        | some j => rfl

/-- The readers hold different positions, all of them read, each in order. -/
structure Apart (l : Ledger ι) : Prop where
  ascending : ∀ r, (l.holding r).Pairwise (· < ·)
  below : ∀ r, ∀ p ∈ l.holding r, p < l.entropy.position
  disjoint : ∀ r r', r ≠ r' → (l.holding r).Disjoint (l.holding r')

omit [DecidableEq ι] in
theorem apart_fresh (e : Entropy) : (fresh e : Ledger ι).Apart where
  ascending := by rintro (_ | i) <;> exact .nil
  below := by rintro (_ | i) p hp <;> cases hp
  disjoint := by rintro (_ | i) r' _ p hp <;> cases hp

/-- All that the reader whose turn it is looks at or keeps stands in order. -/
theorem step_ascending (l : Ledger ι) (h : l.Apart) (u : Use ι) :
    ((l.step u).1 ++ (l.step u).2.holding u.reader).Pairwise (· < ·) := by
  rcases step_spends l u with ⟨k, -, hsub, -⟩
  -- Held positions stand in order, and newly read ones lie beyond them.
  refine List.Pairwise.sublist hsub (List.pairwise_append.mpr ⟨h.ascending _, ?_, ?_⟩)
  · exact List.pairwise_lt_range'
  · intro p hp q hq
    have hlow := h.below _ p hp
    rw [List.mem_range'_1] at hq
    omega

theorem step_other (l : Ledger ι) (u : Use ι) (r : Option ι) (hr : r ≠ u.reader) :
    (l.step u).2.holding r = l.holding r := by
  rcases step_spends l u with ⟨-, -, -, hother⟩
  exact hother r hr

/-- What the reader looks at or keeps it held before, or it is newly read. -/
theorem step_mem (l : Ledger ι) (u : Use ι) (p : Nat)
    (hp : p ∈ (l.step u).1 ++ (l.step u).2.holding u.reader) :
    p ∈ l.holding u.reader ∨
      l.entropy.position ≤ p ∧ p < (l.step u).2.entropy.position := by
  rcases step_spends l u with ⟨k, hk, hsub, -⟩
  rw [hk]
  rcases List.mem_append.mp (hsub.subset hp) with hold | hnew
  · exact .inl hold
  · exact .inr (List.mem_range'_1.mp hnew)

theorem position_le_step (l : Ledger ι) (u : Use ι) :
    l.entropy.position ≤ (l.step u).2.entropy.position := by
  rcases step_spends l u with ⟨k, hk, -, -⟩
  omega

/-- Nobody else holds what the reader looks at or keeps. -/
theorem step_disjoint (l : Ledger ι) (h : l.Apart) (u : Use ι) (r : Option ι) (hr : r ≠ u.reader)
    (p : Nat) (hp : p ∈ (l.step u).1 ++ (l.step u).2.holding u.reader) : p ∉ l.holding r := by
  intro hpr
  rcases step_mem l u p hp with hold | hnew
  · exact h.disjoint r u.reader hr hpr hold
  · have hlow := h.below r p hpr
    omega

theorem step_below (l : Ledger ι) (h : l.Apart) (u : Use ι) (p : Nat)
    (hp : p ∈ (l.step u).1 ++ (l.step u).2.holding u.reader) :
    p < (l.step u).2.entropy.position := by
  rcases step_mem l u p hp with hold | hnew
  · exact Nat.lt_of_lt_of_le (h.below _ p hold) (position_le_step l u)
  · exact hnew.2

/-- A turn keeps the readers apart. -/
theorem step_apart (l : Ledger ι) (h : l.Apart) (u : Use ι) : (l.step u).2.Apart where
  ascending r := by
    by_cases hr : r = u.reader
    · rw [hr]
      exact (List.pairwise_append.mp (step_ascending l h u)).2.1
    · rw [step_other l u r hr]
      exact h.ascending r
  below r p hp := by
    by_cases hr : r = u.reader
    · rw [hr] at hp
      exact step_below l h u p (List.mem_append_right _ hp)
    · rw [step_other l u r hr] at hp
      exact Nat.lt_of_lt_of_le (h.below r p hp) (position_le_step l u)
  disjoint r r' hne p hp hp' := by
    -- At most one of the two is the reader whose turn it was.
    by_cases hr : r = u.reader
    · have hr' : r' ≠ u.reader := fun h' => hne (hr.trans h'.symm)
      rw [hr] at hp
      rw [step_other l u r' hr'] at hp'
      exact step_disjoint l h u r' hr' p (List.mem_append_right _ hp) hp'
    · rw [step_other l u r hr] at hp
      by_cases hr' : r' = u.reader
      · rw [hr'] at hp'
        exact step_disjoint l h u r hr p (List.mem_append_right _ hp') hp
      · rw [step_other l u r' hr'] at hp'
        exact h.disjoint r r' hne hp hp'

/-- A run looks at nothing but what its readers hold and what is not yet
    read. -/
theorem mem_run (l : Ledger ι) (us : List (Use ι)) (um : Use ι × List Nat)
    (hum : um ∈ us.zip (l.run us).1) (p : Nat) (hp : p ∈ um.2) :
    p ∈ l.holding um.1.reader ∨ l.entropy.position ≤ p := by
  induction us generalizing l with
  | nil => cases hum
  | cons u us ih =>
      rw [run, List.zip_cons_cons, List.mem_cons] at hum
      rcases hum with rfl | hum
      · rcases step_mem l u p (List.mem_append_left _ hp) with hold | hnew
        · exact .inl hold
        · exact .inr hnew.1
      -- What the first turn leaves to its reader, the reader held or newly read.
      · have hle := position_le_step l u
        rcases ih (l.step u).2 hum with hold | hnew
        · by_cases hr : um.1.reader = u.reader
          · rw [hr] at hold ⊢
            rcases step_mem l u p (List.mem_append_right _ hold) with hold' | hnew
            · exact .inl hold'
            · exact .inr hnew.1
          · rw [step_other l u _ hr] at hold
            exact .inl hold
        · exact .inr (Nat.le_trans hle hnew)

/-- A later use looks at none of the positions of an earlier one, and at later
    ones if the same reader made both. -/
def Follows (um um' : Use ι × List Nat) : Prop :=
  ∀ p ∈ um.2, ∀ q ∈ um'.2, p ≠ q ∧ (um.1.reader = um'.1.reader → p < q)

/-- Every use in a run follows the ones before it. The induction is on the
    uses; what is left to the later ones is what `mem_run` says. -/
theorem run_apart (l : Ledger ι) (h : l.Apart) (us : List (Use ι)) :
    (us.zip (l.run us).1).Pairwise Follows ∧
      ∀ m ∈ (l.run us).1, m.Pairwise (· < ·) := by
  induction us generalizing l with
  | nil => exact ⟨.nil, fun m hm => by cases hm⟩
  | cons u us ih =>
      rcases ih (l.step u).2 (step_apart l h u) with ⟨hpair, hasc⟩
      have hfirst := List.pairwise_append.mp (step_ascending l h u)
      rw [run, List.zip_cons_cons]
      refine ⟨.cons (fun um hum p hp q hq => ?_) hpair, fun m hm => ?_⟩
      -- A later use finds `q` in its reader's holdings, or beyond all that is read.
      · have hpmem := List.mem_append_left ((l.step u).2.holding u.reader) hp
        have hlow := step_below l h u p hpmem
        rcases mem_run (l.step u).2 us um hum q hq with hold | hnew
        · by_cases hr : um.1.reader = u.reader
          · rw [hr] at hold
            have hlt := hfirst.2.2 p hp q hold
            exact ⟨Nat.ne_of_lt hlt, fun _ => hlt⟩
          · rw [step_other l u _ hr] at hold
            refine ⟨fun heq => ?_, fun heq => absurd heq.symm hr⟩
            exact step_disjoint l h u _ hr p hpmem (heq ▸ hold)
        · have hlt := Nat.lt_of_lt_of_le hlow hnew
          exact ⟨Nat.ne_of_lt hlt, fun _ => hlt⟩
      · rcases List.mem_cons.mp hm with rfl | hm
        · exact hfirst.1
        · exact hasc m hm

theorem length_run (l : Ledger ι) (us : List (Use ι)) : (l.run us).1.length = us.length := by
  induction us generalizing l with
  | nil => rfl
  | cons u us ih => rw [run, List.length_cons, List.length_cons, ih]

end Ledger

/-- The positions that each of the uses looks at, when all sources are new. -/
def positions (e : Entropy) (us : List (Use ι)) : List (List Nat) :=
  ((Ledger.fresh e).run us).1

/-- The positions decide what comes of the uses, and no position is looked at
    twice. -/
structure Separate (e : Entropy) (us : List (Use ι)) (marks : List (List Nat)) : Prop where
  /-- What comes of each use is decided by the bytes at its own positions. -/
  decided : List.Forall₂ (fun ub o => ub.1.Decided ub.2 o)
    (us.zip (marks.map fun m => m.map e.byteAt)) ((World.fresh e).run us).1
  /-- No other byte of the stream matters. -/
  complete : ∀ σ : Nat → UInt8, (∀ m ∈ marks, ∀ p ∈ m, σ p = e.byteAt p) →
    ((World.fresh { e with byteAt := σ }).run us).1 = ((World.fresh e).run us).1
  /-- Different uses look at different positions. -/
  disjoint : marks.Pairwise List.Disjoint
  /-- No use looks at a position twice. -/
  nodup : ∀ m ∈ marks, m.Nodup
  /-- Each source goes forward through the stream. -/
  increasing : ∀ i, (((us.zip marks).filter fun um => um.1.reader = some i).flatMap (·.2)).Pairwise
    (· < ·)

theorem separate_positions (e : Entropy) (us : List (Use ι)) :
    Separate e us (positions e us) := by
  rcases Ledger.run_apart (Ledger.fresh e) (Ledger.apart_fresh e) us with ⟨hpair, hasc⟩
  rcases Ledger.run_world (Ledger.fresh e) us with ⟨os, hos, hd⟩
  have hworld : (Ledger.fresh e : Ledger ι).world = World.fresh e := rfl
  refine ⟨?_, fun σ hσ => ?_, ?_, ?_, fun i => ?_⟩
  · rw [← hworld, hos]
    exact hd
  · exact Ledger.run_outcomes_congr (Ledger.fresh e) us σ hσ
  · have hsnd : (us.zip (positions e us)).map Prod.snd = positions e us :=
      List.map_snd_zip (Nat.le_of_eq (Ledger.length_run (Ledger.fresh e) us))
    rw [← hsnd, List.pairwise_map]
    exact hpair.imp fun hf p hp hq => (hf p hp p hq).1 rfl
  · exact fun m hm => (hasc m hm).imp Nat.ne_of_lt
  · rw [List.pairwise_flatMap, List.pairwise_filter]
    refine ⟨fun um hum => ?_, hpair.imp fun {um um'} hf hr hr' p hp q hq => ?_⟩
    · exact hasc um.2 (List.of_mem_zip (List.mem_of_mem_filter hum)).2
    · exact (hf p hp q hq).2 ((of_decide_eq_true hr).trans (of_decide_eq_true hr').symm)

/-- Two sources and a salt on a stream of zeros. The word of the second source
    is turned down, and the first source goes on in its own block. -/
example : positions ⟨fun _ => 0, 0, 1⟩
    [.draw true 10, .draw false 1000, .hash ⟨⟨8, 1, 1⟩, 4, 16⟩ [], .draw true 10]
      = [[0], [512, 513, 514, 515, 516, 517, 518, 519], [1024, 1025, 1026, 1027], [1]] := by
  decide +kernel

/-- What one reader looks at, no other reader does. -/
theorem positions_disjoint (e : Entropy) (us : List (Use ι)) (um vm : Use ι × List Nat)
    (hum : um ∈ us.zip (positions e us)) (hvm : vm ∈ us.zip (positions e us))
    (hreader : um.1.reader ≠ vm.1.reader) : um.2.Disjoint vm.2 := by
  have hpair := (Ledger.run_apart (Ledger.fresh e) (Ledger.apart_fresh e) us).1
  have hsym : Std.Symm fun um vm : Use ι × List Nat =>
      um.1.reader ≠ vm.1.reader → um.2.Disjoint vm.2 :=
    ⟨fun um vm h hne => List.disjoint_symm (h hne.symm)⟩
  -- Different readers make for different uses, in whichever order they come.
  have hapart : (us.zip (positions e us)).Pairwise fun um vm =>
      um.1.reader ≠ vm.1.reader → um.2.Disjoint vm.2 :=
    hpair.imp fun hf _ p hp hq => (hf p hp p hq).1 rfl
  exact hapart.forall_of_forall (fun um _ hne => absurd rfl hne) hum hvm hreader

end Passforge
