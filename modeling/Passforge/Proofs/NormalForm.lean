import Mathlib.Data.List.Chain
import Passforge.Proofs.CanonicalParts

/-!
# Normal Forms Are Stable

Bringing a text into normal form a second time changes nothing, unless the
composer overlooks a starter. Two passes could spoil this. Joining moves a mark
next to its starter, past marks that it could not be joined with, and
decomposing leaves it there; and breaking runs counts marks before they are
joined, so a second count sees another text.

The first is undone by reordering. A mark is joined only if all marks between it
and its starter are of lower classes, and such marks may be placed in any order
(`place_comm`). So a normal form, decomposed and reordered, is what it was before
it was joined (`reorder_decompose_compose`). This takes that only marks stand
between the two. A starter that extends a run stands there too if the composer
has overlooked it, and then a mark comes to be before it that was behind it; so
the results are for texts where none is overlooked.

For the second, runs are counted in decompositions both times. Reordering moves
only marks, and only past marks, so it keeps the pattern of what starts a run and
what extends it, and with the first fact the pattern of a normal form is that of
the text whose runs were broken before. Once runs fit they are not broken again
(`breakRuns_of_runsFit`).

What starts a run divides a text: the parts before and behind are brought into
normal form each by itself (`normalize_append_cons`). A text of characters that
are joined again from their parts is its own normal form.

## Main definitions

* `Ordered`: No mark stands behind one of a higher class.
* `overlooked`, `NoneOverlooked`: Starters that the composer passes by.
* `Composable`: A text that is ready to be joined.
* `prepared`: The text that is joined to a normal form.
* `RunsFit`: No run of marks is longer than the limit.

## Theorems

* `place_comm`: Marks of different classes may be placed in any order.
* `reorder_decompose_compose`: Joining loses nothing.
* `breakRuns_of_runsFit`, `runsFit_breakRuns`: Which runs are broken.
* `normalize_normalize`: A normal form is its own normal form.
* `normalize_append_cons`: Where a text may be divided.
* `normalize_of_rejoins`: Which texts are in normal form.
-/

namespace Passforge.Text.Canonical

section Reordering

/-- No mark stands behind one of a higher class. -/
def Ordered (cs : List Char) : Prop :=
  cs.IsChain fun c d => combiningClass d = 0 ∨ combiningClass c ≤ combiningClass d

theorem place_cons_of_lt {c d : Char} (hpos : 0 < combiningClass d)
    (hlt : combiningClass d < combiningClass c) (cs : List Char) :
    place c (d :: cs) = d :: place c cs := by
  rw [place, decide_eq_true hpos, decide_eq_true hlt]
  rfl

theorem place_cons_of_not_lt {c d : Char}
    (h : combiningClass d = 0 ∨ combiningClass c ≤ combiningClass d) (cs : List Char) :
    place c (d :: cs) = c :: d :: cs := by
  rw [place]
  refine if_neg ?_
  rw [Bool.and_eq_true, decide_eq_true_iff, decide_eq_true_iff]
  omega

/-- Marks of different classes may be placed in any order. -/
theorem place_comm {c d : Char} (hc : 0 < combiningClass c)
    (hlt : combiningClass c < combiningClass d) (cs : List Char) :
    place c (place d cs) = place d (place c cs) := by
  induction cs with
  | nil =>
      rw [show place c [] = [c] from rfl, show place d [] = [d] from rfl,
        place_cons_of_lt hc hlt, place_cons_of_not_lt (.inr (Nat.le_of_lt hlt))]
      rfl
  | cons e cs ih =>
      by_cases he : combiningClass e = 0 ∨ combiningClass c ≤ combiningClass e
      -- The lower mark goes no further, so the higher one is behind it at least.
      · rw [place_cons_of_not_lt he, place_cons_of_lt hc hlt]
        by_cases hd : combiningClass e = 0 ∨ combiningClass d ≤ combiningClass e
        · rw [place_cons_of_not_lt hd, place_cons_of_not_lt (.inr (Nat.le_of_lt hlt))]
        · rw [place_cons_of_lt (by omega) (by omega), place_cons_of_not_lt he]
      · rw [place_cons_of_lt (d := e) (by omega) (by omega),
          place_cons_of_lt (d := e) (by omega) (by omega),
          place_cons_of_lt (by omega) (by omega), place_cons_of_lt (by omega) (by omega), ih]

theorem isStarter_of_pos {c : Char} (h : 0 < combiningClass c) : isStarter c = false :=
  beq_eq_false_iff_ne.mpr (Nat.ne_of_gt h)

theorem freshRun?_of_pos {c : Char} (h : 0 < combiningClass c) : freshRun? c = none :=
  freshRun?_of_mark (isStarter_of_pos h)

theorem map_freshRun?_place (c : Char) (cs : List Char) :
    (place c cs).map freshRun? = freshRun? c :: cs.map freshRun? := by
  induction cs with
  | nil => rfl
  | cons d cs ih =>
      by_cases h : combiningClass d = 0 ∨ combiningClass c ≤ combiningClass d
      · rw [place_cons_of_not_lt h, List.map_cons]
      · rw [place_cons_of_lt (by omega) (by omega), List.map_cons, ih, List.map_cons,
          freshRun?_of_pos (c := c) (by omega), freshRun?_of_pos (c := d) (by omega)]

/-- Marks keep their places among what starts a run. -/
theorem map_freshRun?_reorder (cs : List Char) :
    (reorder cs).map freshRun? = cs.map freshRun? := by
  induction cs with
  | nil => rfl
  | cons c cs ih =>
      rw [reorder, List.foldr_cons, map_freshRun?_place, List.map_cons]
      exact congrArg (freshRun? c :: ·) ih

theorem mem_place {c d : Char} {cs : List Char} (h : d ∈ place c cs) : d = c ∨ d ∈ cs := by
  induction cs with
  | nil => exact .inl (List.mem_singleton.mp h)
  | cons e cs ih =>
      rw [place] at h
      split at h
      · rcases List.mem_cons.mp h with rfl | h
        · exact .inr List.mem_cons_self
        · exact (ih h).imp_right (List.mem_cons_of_mem e)
      · exact List.mem_cons.mp h

theorem mem_of_mem_reorder {c : Char} {cs : List Char} (h : c ∈ reorder cs) : c ∈ cs := by
  induction cs with
  | nil => exact h
  | cons d cs ih =>
      rcases mem_place h with rfl | h
      · exact List.mem_cons_self
      · exact List.mem_cons_of_mem d (ih h)

theorem head?_place (c : Char) (cs : List Char) :
    (place c cs).head? = some c ∨ (place c cs).head? = cs.head? := by
  rcases cs with _ | ⟨d, cs⟩
  · exact .inl rfl
  · rw [place]
    split
    · exact .inr rfl
    · exact .inl rfl

theorem ordered_place {cs : List Char} (h : Ordered cs) (c : Char) : Ordered (place c cs) := by
  induction cs with
  | nil => exact List.isChain_singleton c
  | cons d cs ih =>
      obtain ⟨hhead, htail⟩ := List.isChain_cons.mp h
      by_cases hplace : combiningClass d = 0 ∨ combiningClass c ≤ combiningClass d
      · rw [place_cons_of_not_lt hplace]
        exact List.isChain_cons_cons.mpr ⟨hplace, h⟩
      · rw [place_cons_of_lt (by omega) (by omega)]
        refine List.isChain_cons.mpr ⟨fun e he => ?_, ih htail⟩
        -- The mark now stands behind this one, or what did before still does.
        rcases head?_place c cs with hfirst | hfirst
        · rw [hfirst] at he
          cases he
          omega
        · rw [hfirst] at he
          exact hhead e he

theorem ordered_reorder (cs : List Char) : Ordered (reorder cs) := by
  induction cs with
  | nil => exact List.isChain_nil
  | cons c cs ih => exact ordered_place ih c

/-- A text in order stays as it is. -/
theorem reorder_of_ordered {cs : List Char} (h : Ordered cs) : reorder cs = cs := by
  induction cs with
  | nil => rfl
  | cons c cs ih =>
      rw [reorder, List.foldr_cons, show cs.foldr place [] = cs from ih (List.IsChain.tail h)]
      rcases cs with _ | ⟨d, cs⟩
      · rfl
      · exact place_cons_of_not_lt (List.isChain_cons_cons.mp h).1 cs

theorem reorder_append (cs ds : List Char) : reorder (cs ++ ds) = cs.foldr place (reorder ds) :=
  List.foldr_append

theorem reorder_append_congr (cs : List Char) {ds es : List Char} (h : reorder ds = reorder es) :
    reorder (cs ++ ds) = reorder (cs ++ es) := by
  rw [reorder_append, reorder_append, h]

/-- A mark may be moved past marks of lower classes. -/
theorem reorder_move {c : Char} {marks : List Char}
    (h : ∀ mark ∈ marks, 0 < combiningClass mark ∧ combiningClass mark < combiningClass c)
    (cs : List Char) : reorder (c :: (marks ++ cs)) = reorder (marks ++ c :: cs) := by
  induction marks with
  | nil => rfl
  | cons mark marks ih =>
      obtain ⟨hpos, hlt⟩ := h mark List.mem_cons_self
      calc reorder (c :: (mark :: marks ++ cs))
          = place c (place mark (reorder (marks ++ cs))) := rfl
        _ = place mark (place c (reorder (marks ++ cs))) := (place_comm hpos hlt _).symm
        _ = place mark (reorder (marks ++ c :: cs)) :=
            congrArg (place mark) (ih fun other hother => h other (List.mem_cons_of_mem _ hother))

/-- Nothing is placed behind a starter that it stands before. -/
theorem place_append_cons {d : Char} (hd : combiningClass d = 0) (c : Char) (cs ds : List Char) :
    place c (cs ++ d :: ds) = place c cs ++ d :: ds := by
  induction cs with
  | nil => exact place_cons_of_not_lt (.inl hd) ds
  | cons e cs ih =>
      rw [List.cons_append]
      by_cases he : combiningClass e = 0 ∨ combiningClass c ≤ combiningClass e
      · rw [place_cons_of_not_lt he, place_cons_of_not_lt he]
        rfl
      · rw [place_cons_of_lt (by omega) (by omega), place_cons_of_lt (by omega) (by omega), ih]
        rfl

theorem place_of_starter {c : Char} (hc : combiningClass c = 0) (cs : List Char) :
    place c cs = c :: cs := by
  rcases cs with _ | ⟨d, cs⟩
  · rfl
  · exact place_cons_of_not_lt (.inr (by omega)) cs

theorem reorder_append_cons {d : Char} (hd : combiningClass d = 0) (cs ds : List Char) :
    reorder (cs ++ d :: ds) = reorder cs ++ d :: reorder ds := by
  induction cs with
  | nil => exact place_of_starter hd (reorder ds)
  | cons c cs ih =>
      calc reorder (c :: cs ++ d :: ds)
          = place c (reorder (cs ++ d :: ds)) := rfl
        _ = place c (reorder cs ++ d :: reorder ds) := congrArg (place c) ih
        _ = place c (reorder cs) ++ d :: reorder ds := place_append_cons hd c _ _

end Reordering

section Overlooking

/-- The composer passes by `c`, a starter that extends a run, because what comes
    next can join nothing. -/
def overlooked (c d : Char) : Bool :=
  isStarter c && !isConjoining c && (freshRun? c).isNone && (freshRun? d).isNone && !mayJoin d

/-- The composer passes by no starter. -/
def NoneOverlooked (cs : List Char) : Prop :=
  cs.IsChain fun c d => overlooked c d = false

instance (cs : List Char) : Decidable (NoneOverlooked cs) :=
  inferInstanceAs (Decidable (cs.IsChain _))

theorem overlooked_of_mark {c : Char} (h : isStarter c = false) (d : Char) :
    overlooked c d = false := by
  unfold overlooked
  rw [h]
  rfl

/-- Behind a starter that extends a run, what does not start one can join. -/
theorem mayJoin_of_not_overlooked {c d : Char} (h : overlooked c d = false)
    (hstarter : isStarter c = true) (hletter : isConjoining c = false) (hc : freshRun? c = none)
    (hd : freshRun? d = none) : mayJoin d = true := by
  unfold overlooked at h
  rw [hstarter, hletter, hc, hd] at h
  simpa using h

end Overlooking

section Composing

theorem decompose_append (cs ds : List Char) :
    decompose (cs ++ ds) = decompose cs ++ decompose ds :=
  List.flatMap_append

theorem decompose_cons (c : Char) (cs : List Char) :
    decompose (c :: cs) = decomposition c ++ decompose cs := rfl

theorem decompose_of_stable {cs : List Char} (h : ∀ c ∈ cs, IsStable c) : decompose cs = cs := by
  induction cs with
  | nil => rfl
  | cons c cs ih =>
      rw [decompose_cons, ih fun d hd => h d (List.mem_cons_of_mem c hd),
        (h c List.mem_cons_self).decomposition_eq]
      rfl

/-- The last of the kept marks has the highest class, so it blocks what any of
    them blocks. -/
theorem lt_of_unblocked {kept : List Char} {cls : Nat} (h : unblocked kept cls = true)
    (hkept : ∀ mark ∈ kept, 0 < combiningClass mark) (hordered : Ordered kept.reverse) :
    ∀ mark ∈ kept, combiningClass mark < cls := by
  induction kept with
  | nil => exact List.forall_mem_nil _
  | cons last before ih =>
      have hlast : combiningClass last < cls := of_decide_eq_true h
      rw [List.reverse_cons] at hordered
      obtain ⟨hbefore, -, hstep⟩ := List.isChain_append.mp hordered
      refine List.forall_mem_cons.mpr ⟨hlast, ih ?_ (fun mark hmark => ?_) hbefore⟩
      · rcases before with _ | ⟨previous, before⟩
        · rfl
        · have hle := hstep previous (by rw [List.getLast?_reverse]; rfl) last rfl
          have hpos := hkept last List.mem_cons_self
          exact decide_eq_true (by omega)
      · exact hkept mark (List.mem_cons_of_mem last hmark)

/-- A text that is ready to be joined: decomposed, in order, and with no starter
    that the composer would pass by. -/
structure Composable (cs : List Char) : Prop where
  stable : ∀ c ∈ cs, IsStable c
  ordered : Ordered cs
  noneOverlooked : NoneOverlooked cs

theorem Composable.of_append {cs ds : List Char} (h : Composable (cs ++ ds)) : Composable ds where
  stable c hc := h.stable c (List.mem_append_right cs hc)
  ordered := (List.isChain_append.mp h.ordered).2.1
  noneOverlooked := (List.isChain_append.mp h.noneOverlooked).2.1

theorem Composable.tail {c : Char} {cs : List Char} (h : Composable (c :: cs)) : Composable cs :=
  @Composable.of_append [c] cs h

/-- Without a mark that was joined, the rest is still ready. -/
theorem Composable.of_joined {kept cs : List Char} {c : Char}
    (h : Composable (kept.reverse ++ c :: cs))
    (hlower : ∀ mark ∈ kept, 0 < combiningClass mark ∧ combiningClass mark < combiningClass c) :
    Composable (kept.reverse ++ cs) := by
  obtain ⟨hkept, hcons, -⟩ := List.isChain_append.mp h.ordered
  obtain ⟨hnext, hcs⟩ := List.isChain_cons.mp hcons
  obtain ⟨hbefore, hbehind, -⟩ := List.isChain_append.mp h.noneOverlooked
  refine ⟨fun d hd => h.stable d ?_, List.isChain_append.mpr ⟨hkept, hcs, ?_⟩,
    List.isChain_append.mpr ⟨hbefore, List.IsChain.tail hbehind, ?_⟩⟩
  · rw [List.mem_append, List.mem_cons]
    exact (List.mem_append.mp hd).imp_right .inr
  · intro mark hmark d hd
    rw [List.getLast?_reverse] at hmark
    have hlt := (hlower mark (List.mem_of_mem_head? hmark)).2
    have hstep := hnext d hd
    omega
  · intro mark hmark d _
    rw [List.getLast?_reverse] at hmark
    exact overlooked_of_mark (isStarter_of_pos (hlower mark (List.mem_of_mem_head? hmark)).1) d

/-- What is kept behind a starter: marks, and at their end maybe a starter that
    extends the run. -/
def KeptBehind : List Char → Prop
  | [] => True
  | last :: before =>
    (isStarter last = true → freshRun? last = none ∧ isConjoining last = false) ∧
      ∀ mark ∈ before, 0 < combiningClass mark

theorem keptBehind_nil : KeptBehind [] := trivial

theorem keptBehind_cons {last : Char} {before : List Char} (hfresh : freshRun? last = none)
    (hletter : isConjoining last = false) (h : ∀ mark ∈ before, 0 < combiningClass mark) :
    KeptBehind (last :: before) :=
  ⟨fun _ => ⟨hfresh, hletter⟩, h⟩

theorem keptBehind_of_marks {kept : List Char} (h : ∀ mark ∈ kept, 0 < combiningClass mark) :
    KeptBehind kept := by
  rcases kept with _ | ⟨last, before⟩
  · exact keptBehind_nil
  · obtain ⟨hlast, hbefore⟩ := List.forall_mem_cons.mp h
    refine ⟨fun hstarter => ?_, hbefore⟩
    rw [isStarter_of_pos hlast] at hstarter
    cases hstarter

theorem turn_of_marks (starter : Char) {kept : List Char}
    (h : ∀ mark ∈ kept, 0 < combiningClass mark) : turn starter kept = ([], starter, kept) := by
  rcases kept with _ | ⟨last, before⟩
  · rfl
  · refine if_neg ?_
    rw [isStarter_of_pos (h last List.mem_cons_self)]
    exact Bool.false_ne_true

theorem composeFrom_cons_of_fresh (starter : Char) (kept : List Char) {c : Char}
    (h : (freshRun? c).isSome = true) (cs : List Char) :
    composeFrom starter kept (c :: cs) = starter :: kept.reverse ++ composeFrom c [] cs := by
  rw [composeFrom, if_pos h]

theorem composeFrom_cons_of_not_mayJoin (starter : Char) (kept : List Char) {c : Char}
    (hfresh : freshRun? c = none) (hjoin : mayJoin c = false) (cs : List Char) :
    composeFrom starter kept (c :: cs) = composeFrom starter (c :: kept) cs := by
  rw [composeFrom, hfresh, hjoin, if_neg (by decide), if_neg Bool.false_ne_true]

/-- Behind marks alone the composer stays with its starter. -/
theorem composeFrom_cons_of_marks (starter : Char) {c : Char} {kept : List Char}
    (hkept : ∀ mark ∈ kept, 0 < combiningClass mark) (hfresh : freshRun? c = none)
    (hjoin : mayJoin c = true) (cs : List Char) :
    (∃ joined, composition starter c = some joined ∧ unblocked kept (combiningClass c) = true ∧
      composeFrom starter kept (c :: cs) = composeFrom joined kept cs) ∨
    (isConjoining c = true ∧
      composeFrom starter kept (c :: cs) = starter :: kept.reverse ++ composeFrom c [] cs) ∨
    (isConjoining c = false ∧
      composeFrom starter kept (c :: cs) = composeFrom starter (c :: kept) cs) := by
  rw [composeFrom, hfresh, if_neg (by decide), if_pos hjoin, turn_of_marks starter hkept]
  simp only [List.nil_append]
  split
  · rename_i joined hjoined
    split at hjoined
    · exact .inl ⟨joined, hjoined, ‹_›, rfl⟩
    · cases hjoined
  · rcases hletter : isConjoining c with _ | _
    · exact .inr (.inr ⟨rfl, if_neg Bool.false_ne_true⟩)
    · exact .inr (.inl ⟨rfl, if_pos rfl⟩)

/-- The composer turns to a starter at the end of what it kept. -/
theorem composeFrom_cons_of_starter (starter : Char) {last c : Char} (before : List Char)
    (hlast : isStarter last = true) (hfresh : freshRun? c = none) (hjoin : mayJoin c = true)
    (cs : List Char) :
    composeFrom starter (last :: before) (c :: cs)
      = starter :: before.reverse ++ composeFrom last [] (c :: cs) := by
  have hturn : turn starter (last :: before) = (starter :: before.reverse, last, []) :=
    if_pos hlast
  have hsome : ¬ (none : Option Nat).isSome = true := Bool.false_ne_true
  rw [composeFrom, hfresh, if_neg hsome, if_pos hjoin, hturn, composeFrom, hfresh, if_neg hsome,
    if_pos hjoin, turn]
  simp only [List.nil_append, List.append_assoc]
  split
  · rfl
  · split
    · rfl
    · rfl

/-- What the composer makes of a starter, of what it kept and of the rest can be
    taken back to these, up to the order of marks. -/
def Restores (starter : Char) (kept cs : List Char) : Prop :=
  reorder (decompose (composeFrom starter kept cs))
    = reorder (decomposition starter ++ (kept.reverse ++ cs))

/-- What the composer leaves behind when it turns to `c` is as it was. -/
theorem restores_behind (starter : Char) {kept cs : List Char} {c : Char}
    (hready : Composable (kept.reverse ++ c :: cs)) {made : List Char}
    (hmade : reorder (decompose made) = reorder (c :: cs)) :
    reorder (decompose (starter :: kept.reverse ++ made))
      = reorder (decomposition starter ++ (kept.reverse ++ c :: cs)) := by
  have hkept : decompose kept.reverse = kept.reverse :=
    decompose_of_stable fun d hd => hready.stable d (List.mem_append_left _ hd)
  rw [decompose_append, decompose_cons, hkept, List.append_assoc]
  exact reorder_append_congr _ (reorder_append_congr _ hmade)

theorem Restores.of_stable {c : Char} {cs : List Char} (hc : IsStable c) (h : Restores c [] cs) :
    reorder (decompose (composeFrom c [] cs)) = reorder (c :: cs) := by
  rw [h, hc.decomposition_eq]
  rfl

/-- Behind marks alone, the next character is joined, begins the rest anew or is
    kept. -/
theorem restores_of_marks (starter : Char) {kept cs : List Char} {c : Char}
    (ih : ∀ starter kept, KeptBehind kept → Composable (kept.reverse ++ cs) →
      Restores starter kept cs)
    (hkept : ∀ mark ∈ kept, 0 < combiningClass mark)
    (hready : Composable (kept.reverse ++ c :: cs)) (hfresh : freshRun? c = none) :
    Restores starter kept (c :: cs) := by
  have hkeeping (hletter : isConjoining c = false) :
      reorder (decompose (composeFrom starter (c :: kept) cs))
        = reorder (decomposition starter ++ (kept.reverse ++ c :: cs)) := by
    have hmove : (c :: kept).reverse ++ cs = kept.reverse ++ c :: cs := by simp
    rw [ih starter (c :: kept) (keptBehind_cons hfresh hletter hkept) (hmove ▸ hready), hmove]
  unfold Restores
  rcases hjoin : mayJoin c with _ | _
  · rw [composeFrom_cons_of_not_mayJoin starter kept hfresh hjoin]
    exact hkeeping (Bool.or_eq_false_iff.mp hjoin).1
  · rcases composeFrom_cons_of_marks starter hkept hfresh hjoin cs with
      ⟨joined, hjoined, hunblocked, heq⟩ | ⟨-, heq⟩ | ⟨hletter, heq⟩
    -- The mark that was joined had only marks of lower classes before it.
    · have hlt := lt_of_unblocked hunblocked hkept (List.isChain_append.mp hready.ordered).1
      have hlower : ∀ mark ∈ kept, 0 < combiningClass mark ∧
          combiningClass mark < combiningClass c :=
        fun mark hmark => ⟨hkept mark hmark, hlt mark hmark⟩
      rw [heq, ih joined kept (keptBehind_of_marks hkept) (hready.of_joined hlower),
        decomposition_of_composition hjoined, List.append_assoc]
      exact reorder_append_congr _
        (reorder_move (fun mark hmark => hlower mark (List.mem_reverse.mp hmark)) cs)
    · have hrest := hready.of_append
      rw [heq]
      exact restores_behind starter hready
        ((ih c [] keptBehind_nil hrest.tail).of_stable (hrest.stable c List.mem_cons_self))
    · rw [heq]
      exact hkeeping hletter

/-- Decomposing puts what was joined with the starter behind the parts of the
    starter, before the marks that it had jumped over, and reordering takes it
    back. -/
theorem restores_composeFrom (starter : Char) (kept cs : List Char) (hkept : KeptBehind kept)
    (hready : Composable (kept.reverse ++ cs)) : Restores starter kept cs := by
  induction cs generalizing starter kept with
  | nil =>
      rw [Restores, composeFrom, decompose_cons, decompose_of_stable, List.append_nil]
      exact fun d hd => hready.stable d (List.mem_append_left [] hd)
  | cons c cs ih =>
      have hrest := hready.of_append
      have hc := hrest.stable c List.mem_cons_self
      rcases hfresh : freshRun? c with _ | n
      · rcases kept with _ | ⟨last, before⟩
        · exact restores_of_marks starter ih (List.forall_mem_nil _) hready hfresh
        · rcases hlast : isStarter last with _ | _
          · have hpos := Nat.pos_of_ne_zero (beq_eq_false_iff_ne.mp hlast)
            exact restores_of_marks starter ih (List.forall_mem_cons.mpr ⟨hpos, hkept.2⟩) hready
              hfresh
          -- The last one kept is a starter, and as it is not overlooked, the next can join it.
          · obtain ⟨hextends, hletter⟩ := hkept.1 hlast
            have hmove : (last :: before).reverse ++ c :: cs
                = before.reverse ++ last :: c :: cs := by simp
            rw [hmove] at hready
            have hpair := hready.of_append
            have hjoin := mayJoin_of_not_overlooked
              (List.isChain_cons_cons.mp hpair.noneOverlooked).1 hlast hletter hextends hfresh
            rw [Restores, composeFrom_cons_of_starter starter before hlast hfresh hjoin, hmove]
            refine restores_behind starter hready (Restores.of_stable ?_ ?_)
            · exact hpair.stable last List.mem_cons_self
            · exact restores_of_marks last ih (List.forall_mem_nil _) hpair.tail hfresh
      · rw [Restores, composeFrom_cons_of_fresh starter kept (Option.isSome_of_eq_some hfresh)]
        exact restores_behind starter hready ((ih c [] keptBehind_nil hrest.tail).of_stable hc)

/-- Joining loses nothing: decomposed and reordered, a text that was ready is
    back. -/
theorem reorder_decompose_compose {cs : List Char} (h : Composable cs) :
    reorder (decompose (compose cs)) = reorder cs := by
  induction cs with
  | nil => rfl
  | cons c cs ih =>
      have hc := h.stable c List.mem_cons_self
      rw [compose]
      split
      · exact (restores_composeFrom c [] cs keptBehind_nil h.tail).of_stable hc
      · rw [decompose_cons, hc.decomposition_eq]
        exact reorder_append_congr [c] (ih h.tail)

/-- What starts a run divides what the composer makes. -/
theorem composeFrom_append_cons {c : Char} (h : (freshRun? c).isSome = true) (starter : Char)
    (kept cs ds : List Char) :
    composeFrom starter kept (cs ++ c :: ds)
      = composeFrom starter kept cs ++ composeFrom c [] ds := by
  fun_induction composeFrom starter kept cs with
  | case1 starter kept => exact composeFrom_cons_of_fresh starter kept h ds
  | case2 starter kept d cs hfresh ih =>
      rw [List.cons_append, composeFrom_cons_of_fresh starter kept hfresh, ih, List.append_assoc]
  | case3 starter kept d cs hfresh hjoin behind starter' kept' hturn joined hjoined ih =>
      rw [List.cons_append, composeFrom, if_neg hfresh, if_pos hjoin, hturn]
      simp only [hjoined]
      rw [ih, List.append_assoc]
  | case4 starter kept d cs hfresh hjoin behind starter' kept' hturn hjoined hletter ih =>
      rw [List.cons_append, composeFrom, if_neg hfresh, if_pos hjoin, hturn]
      simp only [hjoined, hletter, if_true]
      rw [ih]
      simp only [List.append_assoc, List.cons_append]
  | case5 starter kept d cs hfresh hjoin behind starter' kept' hturn hjoined hletter ih =>
      rw [List.cons_append, composeFrom, if_neg hfresh, if_pos hjoin, hturn]
      simp only [hjoined]
      rw [if_neg hletter, ih, List.append_assoc]
  | case6 starter kept d cs hfresh hjoin ih =>
      rw [List.cons_append, composeFrom, if_neg hfresh, if_neg hjoin, ih]

theorem compose_append_cons {c : Char} (h : (freshRun? c).isSome = true) (cs ds : List Char) :
    compose (cs ++ c :: ds) = compose cs ++ compose (c :: ds) := by
  have hc : compose (c :: ds) = composeFrom c [] ds := if_pos (isStarter_of_freshRun? h)
  induction cs with
  | nil => rfl
  | cons d cs ih =>
      rw [List.cons_append, compose, compose]
      split
      · rw [composeFrom_append_cons h, hc]
      · rw [ih]
        rfl

end Composing

section Runs

/-- With `seen` marks just before, no run of marks is longer than the limit. -/
def RunsFit (seen : Nat) : List Char → Prop
  | [] => True
  | c :: cs =>
    match freshRun? c with
    | some marks => RunsFit marks cs
    | none => seen + 1 ≤ markLimit ∧ RunsFit (seen + 1) cs

variable {seen marks : Nat} {c : Char} {cs ds : List Char}

theorem runsFit_cons_of_fresh (h : freshRun? c = some marks) :
    RunsFit seen (c :: cs) ↔ RunsFit marks cs := by
  rw [RunsFit, h]

theorem runsFit_cons_of_mark (h : freshRun? c = none) :
    RunsFit seen (c :: cs) ↔ seen + 1 ≤ markLimit ∧ RunsFit (seen + 1) cs := by
  rw [RunsFit, h]

theorem runsFit_append :
    RunsFit seen (cs ++ ds) ↔ RunsFit seen cs ∧ RunsFit (runAfter seen cs) ds := by
  induction cs generalizing seen with
  | nil => exact (and_iff_right trivial).symm
  | cons c cs ih =>
      rw [List.cons_append, runAfter]
      rcases h : freshRun? c with _ | marks
      · rw [runsFit_cons_of_mark h, runsFit_cons_of_mark h, ih, and_assoc, Option.getD_none]
      · rw [runsFit_cons_of_fresh h, runsFit_cons_of_fresh h, ih, Option.getD_some]

/-- Whether runs fit is a matter of what starts a run and what extends it. -/
theorem runsFit_congr (h : cs.map freshRun? = ds.map freshRun?) :
    RunsFit seen cs ↔ RunsFit seen ds := by
  induction cs generalizing seen ds with
  | nil =>
      rw [List.map_nil, eq_comm, List.map_eq_nil_iff] at h
      rw [h]
  | cons c cs ih =>
      rcases ds with _ | ⟨d, ds⟩
      · cases h
      · obtain ⟨hhead, htail⟩ := List.cons.inj h
        rcases hd : freshRun? d with _ | marks
        · rw [runsFit_cons_of_mark hd, runsFit_cons_of_mark (hhead.trans hd), ih htail]
        · rw [runsFit_cons_of_fresh hd, runsFit_cons_of_fresh (hhead.trans hd), ih htail]

theorem freshRun?_le_markLimit (h : freshRun? c = some marks) : marks ≤ markLimit :=
  Nat.le_trans (freshRun?_le h) (by decide)

theorem runAfter_le (h : RunsFit seen cs) (hseen : seen ≤ markLimit) :
    runAfter seen cs ≤ markLimit := by
  induction cs generalizing seen with
  | nil => exact hseen
  | cons c cs ih =>
      rw [runAfter]
      rcases hc : freshRun? c with _ | marks
      · rw [runsFit_cons_of_mark hc] at h
        exact ih h.2 h.1
      · rw [runsFit_cons_of_fresh hc] at h
        exact ih h (freshRun?_le_markLimit hc)

theorem leadingMarks_cons_of_fresh (h : freshRun? c = some marks) : leadingMarks (c :: cs) = 0 := by
  rw [leadingMarks, List.takeWhile_cons_of_neg (by rw [h]; exact Bool.false_ne_true),
    List.length_nil]

theorem leadingMarks_cons_of_mark (h : freshRun? c = none) :
    leadingMarks (c :: cs) = leadingMarks cs + 1 := by
  rw [leadingMarks, List.takeWhile_cons_of_pos (by rw [h]; rfl), List.length_cons, leadingMarks]

theorem leadingMarks_le (cs : List Char) : leadingMarks cs ≤ cs.length :=
  (List.takeWhile_prefix _).length_le

theorem add_leadingMarks_le (h : RunsFit seen cs) (hseen : seen ≤ markLimit) :
    seen + leadingMarks cs ≤ markLimit := by
  induction cs generalizing seen with
  | nil => exact hseen
  | cons c cs ih =>
      rcases hc : freshRun? c with _ | marks
      · rw [runsFit_cons_of_mark hc] at h
        have hle := ih h.2 h.1
        rw [leadingMarks_cons_of_mark hc]
        omega
      · rw [leadingMarks_cons_of_fresh hc]
        exact hseen

/-- A short text has no long runs, if the marks that open it fit. -/
theorem runsFit_of_length_le (hlead : seen + leadingMarks cs ≤ markLimit)
    (hlength : cs.length + 3 ≤ markLimit) : RunsFit seen cs := by
  induction cs generalizing seen with
  | nil => trivial
  | cons c cs ih =>
      rw [List.length_cons] at hlength
      have hle := leadingMarks_le cs
      rcases hc : freshRun? c with _ | marks
      · rw [leadingMarks_cons_of_mark hc] at hlead
        rw [runsFit_cons_of_mark hc]
        exact ⟨by omega, ih (by omega) (by omega)⟩
      · have hmarks := freshRun?_le hc
        rw [runsFit_cons_of_fresh hc]
        exact ih (by omega) (by omega)

theorem runsFit_decomposition (h : seen + leadingMarks (decomposition c) ≤ markLimit) :
    RunsFit seen (decomposition c) :=
  runsFit_of_length_le h
    (Nat.le_trans (Nat.add_le_add_right (length_decomposition_le c) 3) (by decide))

theorem runsFit_zero_decomposition (c : Char) : RunsFit 0 (decomposition c) := by
  refine runsFit_decomposition (Nat.le_trans ?_ (show 4 ≤ markLimit by decide))
  rw [Nat.zero_add]
  exact Nat.le_trans (leadingMarks_le _) (length_decomposition_le c)

/-- Where all runs fit, none is broken. -/
theorem breakRuns_of_runsFit (h : RunsFit seen (decompose cs)) (hseen : seen ≤ markLimit) :
    breakRuns seen cs = cs := by
  induction cs generalizing seen with
  | nil => rfl
  | cons c cs ih =>
      rw [decompose_cons, runsFit_append] at h
      rw [breakRuns, if_pos (add_leadingMarks_le h.1 hseen), ih h.2 (runAfter_le h.1 hseen)]

theorem freshRun?_joiner : freshRun? joiner = some 0 := by decide +kernel

/-- Once runs are broken, all of them fit. -/
theorem runsFit_breakRuns (hseen : seen ≤ markLimit) :
    RunsFit seen (decompose (breakRuns seen cs)) := by
  induction cs generalizing seen with
  | nil => trivial
  | cons c cs ih =>
      rw [breakRuns]
      split
      · rename_i hlead
        have hfits := runsFit_decomposition hlead
        rw [decompose_cons, runsFit_append]
        exact ⟨hfits, ih (runAfter_le hfits hseen)⟩
      -- The joiner starts a run, so the count begins anew behind it.
      · have hfits := runsFit_zero_decomposition c
        rw [decompose_cons, decompose_cons, isStable_joiner.decomposition_eq,
          List.singleton_append, runsFit_cons_of_fresh freshRun?_joiner, runsFit_append]
        exact ⟨hfits, ih (runAfter_le hfits (Nat.zero_le _))⟩

/-- A character that starts a run is not kept from what stands before it, and
    the count behind it does not depend on that. -/
theorem breakRuns_append_cons (hstable : IsStable c) (hfresh : freshRun? c = some marks)
    (hseen : seen ≤ markLimit) :
    breakRuns seen (cs ++ c :: ds) = breakRuns seen cs ++ c :: breakRuns marks ds := by
  induction cs generalizing seen with
  | nil =>
      have hafter : runAfter seen [c] = marks := by
        rw [runAfter, hfresh]
        rfl
      rw [List.nil_append, show breakRuns seen [] = [] from rfl, List.nil_append, breakRuns,
        hstable.decomposition_eq, leadingMarks_cons_of_fresh hfresh, Nat.add_zero, if_pos hseen,
        hafter]
  | cons d cs ih =>
      rw [List.cons_append, breakRuns, breakRuns]
      split
      · rename_i hlead
        rw [ih (runAfter_le (runsFit_decomposition hlead) hseen)]
        rfl
      · rw [ih (runAfter_le (runsFit_zero_decomposition d) (Nat.zero_le _))]
        rfl

end Runs

section Forms

/-- The text that is joined: runs broken, decomposed and in order. -/
def prepared (cs : List Char) : List Char :=
  reorder (decompose (streamSafe cs))

variable {cs : List Char}

theorem composable_prepared (h : NoneOverlooked (prepared cs)) : Composable (prepared cs) := by
  refine ⟨fun c hc => ?_, ordered_reorder _, h⟩
  obtain ⟨d, -, hpart⟩ := List.mem_flatMap.mp (mem_of_mem_reorder hc)
  exact isStable_of_mem_decomposition hpart

/-- Decomposed and reordered again, a normal form is what it was before it was
    joined. -/
theorem reorder_decompose_normalize (h : NoneOverlooked (prepared cs)) :
    reorder (decompose (normalize cs)) = prepared cs := by
  rw [show normalize cs = compose (prepared cs) from rfl,
    reorder_decompose_compose (composable_prepared h)]
  exact reorder_of_ordered (ordered_reorder _)

/-- A normal form has no run to break. -/
theorem streamSafe_normalize (h : NoneOverlooked (prepared cs)) :
    streamSafe (normalize cs) = normalize cs := by
  refine breakRuns_of_runsFit ?_ (Nat.zero_le _)
  have hruns : (decompose (normalize cs)).map freshRun?
      = (decompose (streamSafe cs)).map freshRun? := by
    rw [← map_freshRun?_reorder, reorder_decompose_normalize h, prepared, map_freshRun?_reorder]
  rw [runsFit_congr hruns]
  exact runsFit_breakRuns (Nat.zero_le _)

/-- A normal form is its own normal form. -/
theorem normalize_normalize (h : NoneOverlooked (prepared cs)) :
    normalize (normalize cs) = normalize cs := by
  rw [normalize, streamSafe_normalize h, reorder_decompose_normalize h]
  rfl

-- Behind the vowel sign U+09BE, which is overlooked, the last mark goes on to join
-- the first letter, and that frees it for the mark that it could not join before.
example : normalize ['r', '\u0304', '\u09BE', '\u0321', '\u0323']
      = ['\u1E5B', '\u0304', '\u09BE', '\u0321'] ∧
    normalize ['\u1E5B', '\u0304', '\u09BE', '\u0321'] = ['\u1E5D', '\u09BE', '\u0321'] := by
  decide +kernel

variable {c : Char} {marks : Nat} {ds : List Char}

theorem prepared_cons (hstable : IsStable c) (hfresh : freshRun? c = some marks) :
    prepared (c :: ds) = c :: reorder (decompose (breakRuns marks ds)) := by
  have hclass := combiningClass_of_freshRun? (Option.isSome_of_eq_some hfresh)
  have hbreak : breakRuns 0 (c :: ds) = c :: breakRuns marks ds :=
    @breakRuns_append_cons 0 marks c [] ds hstable hfresh (Nat.zero_le _)
  rw [prepared, streamSafe, hbreak, decompose_cons, hstable.decomposition_eq]
  exact place_of_starter hclass _

theorem prepared_append_cons (hstable : IsStable c) (hfresh : freshRun? c = some marks) :
    prepared (cs ++ c :: ds) = prepared cs ++ prepared (c :: ds) := by
  have hclass := combiningClass_of_freshRun? (Option.isSome_of_eq_some hfresh)
  rw [prepared_cons hstable hfresh, prepared, streamSafe,
    breakRuns_append_cons hstable hfresh (Nat.zero_le _), decompose_append, decompose_cons,
    hstable.decomposition_eq, List.singleton_append, reorder_append_cons hclass]
  rfl

/-- A character without parts that starts a run divides a text: the parts before
    and behind are brought into normal form each by itself. -/
theorem normalize_append_cons (hstable : IsStable c) (hfresh : freshRun? c = some marks) :
    normalize (cs ++ c :: ds) = normalize cs ++ normalize (c :: ds) := by
  calc normalize (cs ++ c :: ds)
      = compose (prepared cs ++ prepared (c :: ds)) :=
        congrArg compose (prepared_append_cons hstable hfresh)
    _ = normalize cs ++ normalize (c :: ds) := by
        rw [prepared_cons hstable hfresh, compose_append_cons (Option.isSome_of_eq_some hfresh),
          ← prepared_cons hstable hfresh]
        rfl

end Forms

section Rejoining

variable {c : Char} {cs : List Char}

/-- Parts that are joined one by one leave no mark behind. -/
theorem composeFrom_of_foldlM {first : Char} {marks : List Char}
    (h : marks.foldlM composition first = some c) (rest : List Char) :
    composeFrom first [] (marks ++ rest) = composeFrom c [] rest := by
  induction marks generalizing first with
  | nil =>
      cases h
      rfl
  | cons mark marks ih =>
      rw [List.foldlM_cons] at h
      obtain ⟨joined, hjoined, hrest⟩ := Option.bind_eq_some_iff.mp h
      rw [List.cons_append, composeFrom, freshRun?_of_composition hjoined,
        Option.isSome_none, if_neg Bool.false_ne_true, if_pos (mayJoin_of_composition hjoined),
        turn]
      simp only [unblocked, if_true, hjoined]
      exact ih hrest

theorem composeFrom_decompose_of_rejoins (h : ∀ c ∈ cs, Rejoins c) (before : Char) :
    composeFrom before [] (decompose cs) = before :: cs := by
  induction cs generalizing before with
  | nil => rfl
  | cons c cs ih =>
      obtain ⟨hc, hcs⟩ := List.forall_mem_cons.mp h
      obtain ⟨first, marks, hparts, hfresh, hjoined, -⟩ := hc
      rw [decompose_cons, hparts, List.cons_append, composeFrom_cons_of_fresh before [] hfresh,
        composeFrom_of_foldlM hjoined, ih hcs]
      rfl

theorem compose_decompose_of_rejoins (h : ∀ c ∈ cs, Rejoins c) : compose (decompose cs) = cs := by
  rcases cs with _ | ⟨c, cs⟩
  · rfl
  · obtain ⟨hc, hcs⟩ := List.forall_mem_cons.mp h
    obtain ⟨first, marks, hparts, hfresh, hjoined, -⟩ := hc
    rw [decompose_cons, hparts, List.cons_append, compose, if_pos (isStarter_of_freshRun? hfresh),
      composeFrom_of_foldlM hjoined, composeFrom_decompose_of_rejoins hcs]

theorem ordered_decompose_of_rejoins (h : ∀ c ∈ cs, Rejoins c) : Ordered (decompose cs) := by
  induction cs with
  | nil => exact List.isChain_nil
  | cons c cs ih =>
      obtain ⟨hc, hcs⟩ := List.forall_mem_cons.mp h
      obtain ⟨first, marks, hparts, hfresh, -, hmarks⟩ := hc
      have hzero := combiningClass_of_freshRun? hfresh
      rw [decompose_cons, hparts]
      refine List.isChain_append.mpr ⟨List.isChain_cons.mpr ⟨fun mark _ => ?_, ?_⟩, ih hcs,
        fun last _ next hnext => .inl ?_⟩
      · exact .inr (by omega)
      · exact (hmarks.imp .inr).isChain
      -- What follows opens with a starter again.
      · rcases cs with _ | ⟨d, cs⟩
        · cases hnext
        · obtain ⟨first', marks', hparts', hfresh', -⟩ := hcs d List.mem_cons_self
          rw [decompose_cons, hparts'] at hnext
          cases hnext
          exact combiningClass_of_freshRun? hfresh'

theorem runsFit_decompose_of_rejoins (h : ∀ c ∈ cs, Rejoins c) (seen : Nat) :
    RunsFit seen (decompose cs) := by
  induction cs generalizing seen with
  | nil => trivial
  | cons c cs ih =>
      obtain ⟨hc, hcs⟩ := List.forall_mem_cons.mp h
      obtain ⟨first, marks, hparts, hfresh, -, -⟩ := hc
      obtain ⟨n, hn⟩ := Option.isSome_iff_exists.mp hfresh
      have hfits := runsFit_zero_decomposition c
      rw [decompose_cons, runsFit_append]
      refine ⟨?_, ih hcs _⟩
      rw [hparts, runsFit_cons_of_fresh hn] at hfits ⊢
      exact hfits

/-- A text of characters that are joined again from their parts is its own
    normal form. -/
theorem normalize_of_rejoins (h : ∀ c ∈ cs, Rejoins c) : normalize cs = cs := by
  have hsafe : streamSafe cs = cs :=
    breakRuns_of_runsFit (runsFit_decompose_of_rejoins h 0) (Nat.zero_le _)
  rw [normalize, hsafe, reorder_of_ordered (ordered_decompose_of_rejoins h),
    compose_decompose_of_rejoins h]

/-- Below U+0300 every text is its own normal form. -/
theorem normalize_of_lt (h : ∀ c ∈ cs, c.toNat < 0x300) : normalize cs = cs :=
  normalize_of_rejoins fun c hc => rejoins_of_lt (h c hc)

/-- A character without parts stays behind one that it does not join. -/
theorem normalize_pair {first : Char} (hfirst : IsStable first)
    (hfresh : (freshRun? first).isSome = true) (hc : IsStable c)
    (hnone : composition first c = none) : normalize [first, c] = [first, c] := by
  have hstable : decompose [first, c] = [first, c] :=
    decompose_of_stable fun d hd => by
      rcases List.mem_pair.mp hd with rfl | rfl
      · exact hfirst
      · exact hc
  have hstarter := isStarter_of_freshRun? hfresh
  have hordered : Ordered [first, c] := by
    have hzero := combiningClass_of_freshRun? hfresh
    exact List.isChain_cons_cons.mpr ⟨.inr (by omega), List.isChain_singleton c⟩
  have hsafe : streamSafe [first, c] = [first, c] := by
    refine breakRuns_of_runsFit ?_ (Nat.zero_le _)
    rw [hstable]
    obtain ⟨n, hn⟩ := Option.isSome_iff_exists.mp hfresh
    exact runsFit_of_length_le (by rw [leadingMarks_cons_of_fresh hn]; decide)
      (show 5 ≤ markLimit by decide)
  have hjoin : composeFrom first [] [c] = [first, c] := by
    rcases hextends : freshRun? c with _ | n
    · rcases hmay : mayJoin c with _ | _
      · rw [composeFrom_cons_of_not_mayJoin first [] hextends hmay]
        rfl
      · rcases composeFrom_cons_of_marks first (List.forall_mem_nil _) hextends hmay [] with
          ⟨joined, hjoined, -⟩ | ⟨-, heq⟩ | ⟨-, heq⟩
        · rw [hnone] at hjoined
          cases hjoined
        · exact heq
        · exact heq
    · exact composeFrom_cons_of_fresh first [] (Option.isSome_of_eq_some hextends) []
  rw [normalize, hsafe, hstable, reorder_of_ordered hordered, compose, if_pos hstarter, hjoin]

end Rejoining

end Passforge.Text.Canonical
