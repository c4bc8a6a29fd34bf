import Passforge.Proofs.Parts

/-!
# Seeded Drawing Ends

Whatever has been asked of a seeded source before, it answers. The states it can
be in are those that its seed leads to step by step: every draw looks at some
raw draws and moves the state by one step for each of them, also a draw that is
refused or that generating makes, so no request leaves the path of the seed
(`Follows`). A draw with a single choice takes one step, so all of the path is
reached, and the path runs through all states.

From each of them a draw finds a raw draw that it can answer, as the path would
otherwise pass by all outputs without meeting one of those that are answered.
Then the loop of the generator ends as well, with one answered draw for each
character.

## Main definitions

* `SeededState.Follows`: A computation keeps to the path of its state.
* `SeededState.Reached`: The states that a source made from a seed can be in.

## Theorems

* `SeededState.Follows.generate`: Requests keep to the path.
* `SeededState.reached_iff`: The states reached are those of the path.
* `SeededState.seeded_drawing_ends`: Draws and requests end from each of them.
-/

namespace Passforge.SeededState

/-- The computation takes the state some steps further. -/
def Follows {α : Type} (run : Run SeededState α) : Prop :=
  ∀ s, ∃ t, (run s).2 = step^[t] s

namespace Follows

variable {α β : Type}

theorem pure (a : α) : Follows (pure a) := fun _ => ⟨0, rfl⟩

theorem throw (e : Halt) : Follows (throw e : Run SeededState α) := fun _ => ⟨0, rfl⟩

theorem next : Follows next := fun _ => ⟨1, rfl⟩

theorem bind {x : Run SeededState α} {f : α → Run SeededState β} (hx : Follows x)
    (hf : ∀ a, Follows (f a)) : Follows (x >>= f) := by
  intro s
  obtain ⟨t, ht⟩ := hx s
  rcases h : x s with ⟨e | a, s₁⟩
  · rw [h] at ht
    exact ⟨t, by rw [Run.bind_of_error h, ht]⟩
  · rw [h] at ht
    obtain ⟨u, hu⟩ := hf a s₁
    refine ⟨u + t, ?_⟩
    rw [Run.bind_of_ok h, hu, show s₁ = step^[t] s from ht, Function.iterate_add_apply]

theorem drawHigh (n limit : Nat) : Follows (drawHigh n limit) := by
  induction limit with
  | zero => exact throw .endless
  | succ limit ih =>
      refine bind next fun v => ?_
      simp only
      split
      · exact ih
      · exact pure _

theorem draw (bound : Int) : Follows (source.draw bound) := by
  have hchoose (n : Nat) : Follows (choose n) := by
    unfold choose
    split
    · exact bind next fun v => pure _
    · exact drawHigh n period
  unfold source
  simp only
  split
  · exact bind (throw _) fun _ => bind (hchoose _) fun v => pure _
  · exact bind (hchoose _) fun v => pure _

theorem drawChars (a : Alphabet) (count : Nat) (drawn : List Char) :
    Follows (drawChars source a count drawn) := by
  induction count generalizing drawn with
  | zero => exact pure _
  | succ count ih =>
      refine bind (bind (draw _) fun index => ?_) fun c => ih _
      -- An answer outside the alphabet stops the generation where it is.
      rcases a.symbolAt index with f | s
      · exact throw _
      · exact pure _

/-- A request takes the state some steps further, whether it is served, refused
    or stopped. -/
theorem generate (g : Generator) (r : Request) : Follows (g.generate source r) := by
  unfold Generator.generate drawString
  rcases g.check r with _ | rejection
  · exact bind (bind (drawChars _ _ _) fun cs => pure _) fun text => pure _
  · exact pure _

end Follows

/-- The states that a source made from the seed can be in, after any draws and
    any requests. -/
inductive Reached (seed : BitVec 64) : SeededState → Prop
  | seeded : Reached seed (ofSeed seed)
  | drawn {s : SeededState} (h : Reached seed s) (bound : Int) :
      Reached seed (source.draw bound s).2
  | generated {s : SeededState} (h : Reached seed s) (g : Generator) (r : Request) :
      Reached seed (g.generate source r s).2

theorem draw_one (s : SeededState) : (source.draw (1 : Nat) s).2 = s.step := by
  rw [source_draw_eq 1 Nat.one_pos]
  unfold choose
  rw [if_pos (by decide), Run.bind_of_ok (next_apply s), Run.pure_apply]

/-- The states reached are those of the path that starts at the seed. -/
theorem reached_iff (seed : BitVec 64) (s : SeededState) :
    Reached seed s ↔ ∃ t, s = step^[t] (ofSeed seed) := by
  constructor
  · intro h
    induction h with
    | seeded => exact ⟨0, rfl⟩
    | @drawn s _ bound ih =>
        obtain ⟨t, ht⟩ := ih
        obtain ⟨u, hu⟩ := Follows.draw bound s
        exact ⟨u + t, by rw [hu, ht, Function.iterate_add_apply]⟩
    | @generated s _ g r ih =>
        obtain ⟨t, ht⟩ := ih
        obtain ⟨u, hu⟩ := Follows.generate g r s
        exact ⟨u + t, by rw [hu, ht, Function.iterate_add_apply]⟩
  · rintro ⟨t, rfl⟩
    induction t with
    | zero => exact .seeded
    | succ t ih =>
        -- A draw with a single choice takes one step.
        rw [Function.iterate_succ_apply', ← draw_one]
        exact .drawn ih (1 : Nat)

theorem exists_first_answered {n : Nat} (hn : 1 ≤ n) (h63 : n < 2 ^ 63) (s : SeededState) :
    ∃ j < period, ∃ k < n, (∀ i < j, answer? n (s.raw i) = none) ∧
      answer? n (s.raw j) = some k ∧ source.draw n s = (.ok (k : Int), step^[j + 1] s) := by
  obtain ⟨x, s', hdraw, hnonneg, hlt⟩ := exists_draw hn h63 s
  lift x to Nat using hnonneg
  obtain ⟨j, hj, rfl, hbefore, hat⟩ := (source_draw_eq_ok_iff hn).mp hdraw
  exact ⟨j, hj, x, by omega, hbefore, hat, hdraw⟩

/-- A request from a seeded source comes to an end: it is refused or served. -/
theorem exists_reply (g : Generator) (r : Request) (h63 : r.alphabet.size < 2 ^ 63)
    (s : SeededState) :
    ∃ reply s', g.generate source r s = (.ok reply, s') ∧
      (g.check r = none → ∃ text, reply = .ok text ∧ r.Meets text) := by
  rcases hcheck : g.check r with _ | rejection
  · obtain ⟨hsize, hlength, -⟩ := (check_eq_none_iff g r).mp hcheck
    obtain ⟨xs, s', hxs, hlen⟩ :=
      (source_answersOn hsize h63).exists_answers r.length.toNat (s := s) trivial
    refine ⟨_, s', generate_of_answers g source r hcheck s s' xs hxs hlen, fun _ => ⟨_, rfl, ?_⟩⟩
    exact meets_of_answers r xs (by omega) hxs.2
  · exact ⟨_, s, generate_of_rejection g source r rejection hcheck s, fun h => by cases h⟩

/-- Seeded drawing ends. A source made from a seed is always in a state that the
    seed leads to, whatever draws and requests came before. From there the loop
    of a draw among `n` choices passes over the raw draws that are not answered
    only until it meets one that is, before the states are used up, and gives
    that answer; and a request comes to an end: if it is not refused, with a
    string of the length that was asked for. -/
theorem seeded_drawing_ends (seed : BitVec 64) (s : SeededState) (hs : Reached seed s) :
    (∃ t, s = step^[t] (ofSeed seed)) ∧
    (∀ n : Nat, 1 ≤ n → n < 2 ^ 63 →
      ∃ j < 2 ^ 128, ∃ k < n, (∀ i < j, answer? n (s.raw i) = none) ∧
        answer? n (s.raw j) = some k ∧ source.draw n s = (.ok (k : Int), step^[j + 1] s)) ∧
    ∀ (g : Generator) (r : Request), r.alphabet.size < 2 ^ 63 →
      ∃ reply s', g.generate source r s = (.ok reply, s') ∧
        (g.check r = none → ∃ text, reply = .ok text ∧ r.Meets text) :=
  ⟨(reached_iff seed s).mp hs, fun _ hn h63 => exists_first_answered hn h63 s,
    fun g r h63 => exists_reply g r h63 s⟩

/-- A third of the raw draws is passed over, in a state behind a refused draw and
    a string. -/
theorem seeded_drawing_ends_after_requests :
    let request : Request := ⟨.ofChars ['x', 'y', 'z'], 5⟩
    let s := (Generator.generate ⟨8⟩ source request (source.draw (-1) (ofSeed 42#64)).2).2
    (∃ j < 2 ^ 128, ∃ k < 6148914691236517206,
      source.draw 6148914691236517206 s = (.ok (k : Nat), step^[j + 1] s)) ∧
      ∃ text s', Generator.generate ⟨8⟩ source request s = (.ok (.ok text), s') ∧
        request.Meets text := by
  intro request s
  obtain ⟨-, hdraws, hrequests⟩ :=
    seeded_drawing_ends 42#64 s (.generated (.drawn .seeded (-1)) ⟨8⟩ request)
  obtain ⟨j, hj, k, hk, -, -, hdraw⟩ := hdraws 6148914691236517206 (by decide) (by decide)
  obtain ⟨reply, s', hreply, hserved⟩ := hrequests ⟨8⟩ request (by decide)
  obtain ⟨text, rfl, hmeets⟩ := hserved (by decide)
  exact ⟨⟨j, hj, k, hk, hdraw⟩, text, s', hreply, hmeets⟩

end Passforge.SeededState
