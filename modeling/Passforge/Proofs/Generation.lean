import Mathlib.Data.List.Forall2
import Passforge.Draw.Seeded
import Passforge.Session
import Passforge.Proofs.Decoding
import Passforge.Proofs.Rejection
import Passforge.Proofs.Symbols

/-!
# Generating with Any Source

What generating a string does with a source about which nothing is known. A
source may answer outside its bound, it may stop with a fault of its own, and
it may fail to end; it may also behave differently each time, since its state
is its own business. What the generator asks of it and what it makes of the
answers does not depend on any of that.

To say what the generator asks, `Source.recorded` wraps a source so that its
state keeps a list of the bounds it was asked with. The wrapped source answers
as the plain one does, so statements about the list are statements about the
calls a generator makes.

`Source.Answers` is the good part of a run: draws in a row that stay in range.
The loop of the generator peels such a row off in one step
(`drawChars_of_answers`), whatever follows it, and what can follow is only
that the row is long enough, that the next answer strays, or that the source
itself stops. `exists_answers` says that one of the three is always the case.

Both sources of the program stay in range from every state, so for them
nothing but a string remains, apart from a draw that never ends.

## Main definitions

* `Source.recorded`: A source that keeps a list of what it is asked.
* `Source.Answers`: Draws in a row that stay in range.
* `Source.StaysInRange`: A source that never strays and never faults.
* `Alphabet.shown`: The character shown for a position.
* `Generator.Serves`: What generating does with a source.

## Theorems

* `drawChars_of_answers`: A row of answers in range adds its characters.
* `exists_answers`: A row in range ends because it is complete, because the
  next answer strays, or because the source stops.
* `generate_of_answers`, `generate_of_stray`, `generate_of_halt`: What becomes
  of a request in the three cases.
* `Buffer.source_staysInRange`, `SeededState.source_staysInRange`: The sources
  of the program stay in range.
* `generate_serves_any_source`: Generating against an arbitrary source.
-/

namespace Passforge

namespace Alphabet

theorem isEmpty_iff (a : Alphabet) : a.isEmpty = true ↔ a.size = 0 := by
  unfold isEmpty size
  rw [List.isEmpty_iff, List.length_eq_zero_iff]

/-- The character shown for a position. -/
def shown (a : Alphabet) (index : Int) : Char :=
  (a.symbols[index.toNat]?.map Symbol.toChar).getD Text.replacement

theorem exists_symbolAt (a : Alphabet) (x : Int) (h : 0 ≤ x ∧ x < a.size) :
    ∃ s, a.symbols[x.toNat]? = some s ∧ a.symbolAt x = .ok s ∧ a.shown x = s.toChar := by
  have hlt : x.toNat < a.symbols.length := by
    have := h.2
    unfold size at this
    omega
  have hget : a.symbols[x.toNat]? = some (a.symbols[x.toNat]) := List.getElem?_eq_getElem hlt
  refine ⟨a.symbols[x.toNat], hget, ?_, ?_⟩
  · unfold symbolAt
    rw [if_neg (by omega), hget]
  · unfold shown
    rw [hget, Option.map_some, Option.getD_some]

theorem symbolAt_of_stray (a : Alphabet) (x : Int) (h : ¬ (0 ≤ x ∧ x < a.size)) :
    a.symbolAt x = .error (.outOfRange x a.size) := by
  unfold symbolAt
  by_cases h0 : x < 0
  · rw [if_pos h0]
  · have hle : a.symbols.length ≤ x.toNat := by
      unfold size at h
      omega
    rw [if_neg h0, List.getElem?_eq_none hle]

end Alphabet

namespace Source

variable {σ : Type}

/-- A source that keeps a list of the bounds it is asked with. -/
def recorded (source : Source σ) : Source (σ × List Int) where
  draw bound := fun s =>
    ((source.draw bound s.1).1, (source.draw bound s.1).2, s.2 ++ [bound])

/-- Asked with `n` again and again, the source gives the answers `xs`, all of
    them in range, and ends in `s'`. -/
def Answers (source : Source σ) (n : Nat) (s : σ) (xs : List Int) (s' : σ) : Prop :=
  (List.replicate xs.length (n : Int)).mapM source.draw s = (.ok xs, s') ∧
    ∀ x ∈ xs, 0 ≤ x ∧ x < n

/-- From every state, an answer lies in range and there is no fault. -/
def StaysInRange (source : Source σ) : Prop :=
  ∀ (n : Nat) (s : σ), 0 < n →
    (∀ x s', source.draw n s = (.ok x, s') → 0 ≤ x ∧ x < n) ∧
      ∀ e s', source.draw n s = (.error e, s') → e = .endless

theorem answers_nil (source : Source σ) (n : Nat) (s : σ) : source.Answers n s [] s :=
  ⟨rfl, fun _ h => absurd h List.not_mem_nil⟩

theorem answers_cons (source : Source σ) (n : Nat) (s s₁ s₂ : σ) (x : Int) (xs : List Int)
    (h : source.draw n s = (.ok x, s₁)) (hx : 0 ≤ x ∧ x < n) (hs : source.Answers n s₁ xs s₂) :
    source.Answers n s (x :: xs) s₂ := by
  refine ⟨Run.mapM_cons_of_ok h hs.1, fun y hy => ?_⟩
  rcases List.mem_cons.mp hy with rfl | hy
  · exact hx
  · exact hs.2 y hy

theorem answers_cons_iff (source : Source σ) (n : Nat) (s s₂ : σ) (x : Int) (xs : List Int) :
    source.Answers n s (x :: xs) s₂ ↔
      ∃ s₁, source.draw n s = (.ok x, s₁) ∧ (0 ≤ x ∧ x < n) ∧ source.Answers n s₁ xs s₂ := by
  constructor
  · rintro ⟨hrun, hin⟩
    rcases Run.mapM_cons_eq_ok hrun with ⟨y, ys, s₁, hy, hys, heq⟩
    cases heq
    exact ⟨s₁, hy, hin x List.mem_cons_self, hys, fun z hz => hin z (List.mem_cons_of_mem x hz)⟩
  · rintro ⟨s₁, hx, hin, hs⟩
    exact answers_cons source n s s₁ s₂ x xs hx hin hs

/-- A row of draws in range is complete, or the answer after it strays, or the
    source stops after it. -/
theorem exists_answers (source : Source σ) (n count : Nat) (s : σ) :
    ∃ xs s₁, source.Answers n s xs s₁ ∧
      (xs.length = count ∨ xs.length < count ∧
        ((∃ x s₂, source.draw n s₁ = (.ok x, s₂) ∧ ¬ (0 ≤ x ∧ x < n)) ∨
          ∃ e s₂, source.draw n s₁ = (.error e, s₂))) := by
  induction count generalizing s with
  | zero => exact ⟨[], s, answers_nil source n s, Or.inl rfl⟩
  | succ k ih =>
      rcases hd : source.draw n s with ⟨e | x, s₁⟩
      · exact ⟨[], s, answers_nil source n s,
          Or.inr ⟨Nat.succ_pos k, Or.inr ⟨e, s₁, hd⟩⟩⟩
      -- An answer in range goes in front of the row that starts after it.
      · by_cases hx : 0 ≤ x ∧ x < n
        · rcases ih s₁ with ⟨xs, s₂, hs, hend⟩
          refine ⟨x :: xs, s₂, answers_cons source n s s₁ s₂ x xs hd hx hs, ?_⟩
          rw [List.length_cons]
          rcases hend with hlen | ⟨hlt, hstop⟩
          · exact Or.inl (by omega)
          · exact Or.inr ⟨by omega, hstop⟩
        · exact ⟨[], s, answers_nil source n s,
            Or.inr ⟨Nat.succ_pos k, Or.inl ⟨x, s₁, hd, hx⟩⟩⟩

theorem recorded_draw (source : Source σ) (bound : Int) (s s' : σ) (asked : List Int)
    (result : Except Halt Int) (h : source.draw bound s = (result, s')) :
    source.recorded.draw bound (s, asked) = (result, s', asked ++ [bound]) := by
  simp only [recorded, h]

/-- Recording changes no answer, and keeps one bound for each of them. -/
theorem answers_recorded (source : Source σ) (n : Nat) (s s' : σ) (xs asked : List Int)
    (h : source.Answers n s xs s') :
    source.recorded.Answers n (s, asked) xs
      (s', asked ++ List.replicate xs.length (n : Int)) := by
  induction xs generalizing s asked with
  | nil =>
      cases h.1
      rw [List.length_nil, List.replicate_zero, List.append_nil]
      exact answers_nil _ n _
  | cons x xs ih =>
      rcases (answers_cons_iff source n s s' x xs).mp h with ⟨s₁, hd, hx, hs⟩
      have hrest := ih s₁ (asked ++ [(n : Int)]) hs
      rw [List.append_assoc, List.singleton_append, ← List.replicate_succ] at hrest
      rw [List.length_cons]
      exact answers_cons _ n _ _ _ x xs (recorded_draw source n s s₁ asked _ hd) hx hrest

end Source

section Loop

variable {σ : Type}

theorem drawChar_of_answer (source : Source σ) (a : Alphabet) (s s' : σ) (x : Int)
    (h : source.draw a.size s = (.ok x, s')) (hx : 0 ≤ x ∧ x < a.size) :
    drawChar source a s = (.ok (a.shown x), s') := by
  rcases a.exists_symbolAt x hx with ⟨sym, _, hat, hshown⟩
  unfold drawChar
  rw [Run.bind_of_ok h, hat, hshown]
  rfl

theorem drawChar_of_stray (source : Source σ) (a : Alphabet) (s s' : σ) (x : Int)
    (h : source.draw a.size s = (.ok x, s')) (hx : ¬ (0 ≤ x ∧ x < a.size)) :
    drawChar source a s = (.error (.fault (.outOfRange x a.size)), s') := by
  unfold drawChar
  rw [Run.bind_of_ok h, a.symbolAt_of_stray x hx]
  rfl

theorem drawChar_of_halt (source : Source σ) (a : Alphabet) (s s' : σ) (e : Halt)
    (h : source.draw a.size s = (.error e, s')) : drawChar source a s = (.error e, s') := by
  unfold drawChar
  rw [Run.bind_of_error h]

/-- A row of answers in range adds its characters, last first, and leaves the
    rest of the loop to run from where the source then is. -/
theorem drawChars_of_answers (source : Source σ) (a : Alphabet) (xs : List Int) (s s' : σ)
    (h : source.Answers a.size s xs s') (count : Nat) (drawn : List Char) :
    drawChars source a (xs.length + count) drawn s
      = drawChars source a count ((xs.map a.shown).reverse ++ drawn) s' := by
  induction xs generalizing s drawn with
  | nil =>
      cases h.1
      rw [List.length_nil, Nat.zero_add, List.map_nil, List.reverse_nil, List.nil_append]
  | cons x xs ih =>
      rcases (Source.answers_cons_iff source a.size s s' x xs).mp h with ⟨s₁, hd, hx, hs⟩
      -- The first character goes in front of those drawn before, the rest in front of it.
      rw [List.length_cons, show xs.length + 1 + count = (xs.length + count) + 1 by omega,
        drawChars, Run.bind_of_ok (drawChar_of_answer source a s s₁ x hd hx), ih s₁ hs,
        List.map_cons, List.reverse_cons, List.append_assoc, List.singleton_append]

theorem check_eq_none_iff (g : Generator) (r : Request) :
    g.check r = none ↔
      0 < r.alphabet.size ∧ 0 ≤ r.length ∧ (0 < g.maximum → r.length ≤ g.maximum) := by
  have hempty := r.alphabet.isEmpty_iff
  unfold Generator.check
  -- The checks come in turn, and one that fails contradicts its part of the condition.
  by_cases h : r.alphabet.isEmpty = true
  · rw [if_pos h]
    have := hempty.mp h
    simp only [reduceCtorEq, false_iff]
    omega
  · have hpos : 0 < r.alphabet.size := Nat.pos_of_ne_zero fun hc => h (hempty.mpr hc)
    rw [if_neg h]
    split
    · simp only [reduceCtorEq, false_iff]
      omega
    · split
      · simp only [reduceCtorEq, false_iff]
        omega
      · simp only [true_iff]
        omega

theorem generate_of_rejection (g : Generator) (source : Source σ) (r : Request)
    (rejection : Rejection) (h : g.check r = some rejection) (s : σ) :
    g.generate source r s = (.ok (.error rejection), s) := by
  unfold Generator.generate
  rw [h]
  rfl

theorem generate_of_drawChars_ok (g : Generator) (source : Source σ) (r : Request)
    (h : g.check r = none) (s s' : σ) (cs : List Char)
    (hcs : drawChars source r.alphabet r.length.toNat [] s = (.ok cs, s')) :
    g.generate source r s = (.ok (.ok (String.ofList cs)), s') := by
  unfold Generator.generate drawString
  rw [h]
  have hstring : (do return String.ofList (← drawChars source r.alphabet r.length.toNat []) :
      Run σ String) s = (.ok (String.ofList cs), s') := by
    rw [Run.bind_of_ok hcs, Run.pure_apply]
  exact Run.bind_of_ok hstring

theorem generate_of_drawChars_error (g : Generator) (source : Source σ) (r : Request)
    (h : g.check r = none) (s s' : σ) (e : Halt)
    (he : drawChars source r.alphabet r.length.toNat [] s = (.error e, s')) :
    g.generate source r s = (.error e, s') := by
  unfold Generator.generate drawString
  rw [h]
  have hstring : (do return String.ofList (← drawChars source r.alphabet r.length.toNat []) :
      Run σ String) s = (.error e, s') := by
    rw [Run.bind_of_error he]
  exact Run.bind_of_error hstring

/-- Answers in range for the whole length make the string that shows them. -/
theorem generate_of_answers (g : Generator) (source : Source σ) (r : Request)
    (h : g.check r = none) (s s' : σ) (xs : List Int)
    (hxs : source.Answers r.alphabet.size s xs s') (hlen : xs.length = r.length.toNat) :
    g.generate source r s = (.ok (.ok (String.ofList (xs.map r.alphabet.shown))), s') := by
  refine generate_of_drawChars_ok g source r h s s' _ ?_
  have hrow := drawChars_of_answers source r.alphabet xs s s' hxs 0 []
  rw [Nat.add_zero, hlen, List.append_nil] at hrow
  rw [hrow, drawChars, Run.pure_apply, List.reverse_reverse]

/-- A character that can not be drawn stops the generation, after the answers
    before it. -/
theorem generate_of_drawChar_error (g : Generator) (source : Source σ) (r : Request)
    (h : g.check r = none) (s s₁ s₂ : σ) (xs : List Int) (e : Halt)
    (hxs : source.Answers r.alphabet.size s xs s₁) (hlen : xs.length < r.length.toNat)
    (he : drawChar source r.alphabet s₁ = (.error e, s₂)) :
    g.generate source r s = (.error e, s₂) := by
  refine generate_of_drawChars_error g source r h s s₂ _ ?_
  -- The loop has at least one character to go after the answers.
  have hrow := drawChars_of_answers source r.alphabet xs s s₁ hxs
    (r.length.toNat - xs.length - 1 + 1) []
  rw [show xs.length + (r.length.toNat - xs.length - 1 + 1) = r.length.toNat by omega] at hrow
  rw [hrow, drawChars, Run.bind_of_error he]

/-- The first answer out of range stops the generation with its index. -/
theorem generate_of_stray (g : Generator) (source : Source σ) (r : Request)
    (h : g.check r = none) (s s₁ s₂ : σ) (xs : List Int) (x : Int)
    (hxs : source.Answers r.alphabet.size s xs s₁) (hlen : xs.length < r.length.toNat)
    (hd : source.draw r.alphabet.size s₁ = (.ok x, s₂))
    (hx : ¬ (0 ≤ x ∧ x < r.alphabet.size)) :
    g.generate source r s = (.error (.fault (.outOfRange x r.alphabet.size)), s₂) :=
  generate_of_drawChar_error g source r h s s₁ s₂ xs _ hxs hlen
    (drawChar_of_stray source r.alphabet s₁ s₂ x hd hx)

/-- A source that stops by itself stops the generation. -/
theorem generate_of_halt (g : Generator) (source : Source σ) (r : Request)
    (h : g.check r = none) (s s₁ s₂ : σ) (xs : List Int) (e : Halt)
    (hxs : source.Answers r.alphabet.size s xs s₁) (hlen : xs.length < r.length.toNat)
    (hd : source.draw r.alphabet.size s₁ = (.error e, s₂)) :
    g.generate source r s = (.error e, s₂) :=
  generate_of_drawChar_error g source r h s s₁ s₂ xs e hxs hlen
    (drawChar_of_halt source r.alphabet s₁ s₂ e hd)

/-- Counting and logging change neither the outcome nor the source. -/
theorem serve_eq_generate (g : Generator) (source : Source σ) (r : Request)
    (session : Session σ) :
    (g.serve source r session).1 = (g.generate source r session.supply).1 ∧
      (g.serve source r session).2.supply = (g.generate source r session.supply).2 := by
  unfold Generator.serve
  rw [Run.bind_apply, Run.within_apply]
  -- Only a string is logged, and nothing at all follows a halt.
  rcases g.generate source r session.supply with ⟨e | outcome, s'⟩
  · exact ⟨rfl, rfl⟩
  · cases outcome with
    | error rejection => exact ⟨rfl, rfl⟩
    | ok text => exact ⟨rfl, rfl⟩

/-- The characters shown for answers in range. -/
theorem shows_of_answers (a : Alphabet) (xs : List Int) (h : ∀ x ∈ xs, 0 ≤ x ∧ x < a.size) :
    List.Forall₂ (fun x c => ∃ sym : Symbol, a.symbols[x.toNat]? = some sym ∧ sym.Shows c) xs
      (xs.map a.shown) := by
  rw [List.forall₂_map_right_iff, List.forall₂_same]
  intro x hx
  rcases a.exists_symbolAt x (h x hx) with ⟨sym, hget, _, hshown⟩
  refine ⟨sym, hget, ?_⟩
  rw [hshown]
  exact sym.shows_toChar

end Loop

/-- What generating does with a source that is in state `s` and was `asked`
    some bounds before. -/
structure Generator.Serves {σ : Type} (g : Generator) (source : Source σ) (r : Request) (s : σ)
    (asked : List Int) : Prop where
  /-- Recording the bounds changes neither the outcome nor the source. -/
  transparent : (g.generate source.recorded r (s, asked)).1 = (g.generate source r s).1 ∧
    (g.generate source.recorded r (s, asked)).2.1 = (g.generate source r s).2
  /-- Neither does counting and logging. -/
  session : ∀ board journal,
    (g.serve source r ⟨s, board, journal⟩).1 = (g.generate source r s).1 ∧
      (g.serve source r ⟨s, board, journal⟩).2.supply = (g.generate source r s).2
  /-- An empty alphabet is refused first, and the source is not asked. -/
  empty : r.alphabet.size = 0 →
    g.generate source.recorded r (s, asked) = (.ok (.error .invalidAlphabet), s, asked)
  /-- Then a negative length. -/
  negative : 0 < r.alphabet.size → r.length < 0 →
    g.generate source.recorded r (s, asked) = (.ok (.error (.invalidLength r.length)), s, asked)
  /-- Then a length above the maximum, if there is one. -/
  excessive : 0 < r.alphabet.size → 0 ≤ r.length → 0 < g.maximum → g.maximum < r.length →
    g.generate source.recorded r (s, asked)
      = (.ok (.error (.lengthTooLarge r.length g.maximum)), s, asked)
  /-- Answers in range make a string that reads back as the characters shown
      for them, after one question for each. -/
  string : 0 < r.alphabet.size → 0 ≤ r.length → (0 < g.maximum → r.length ≤ g.maximum) →
    ∀ xs s', source.Answers r.alphabet.size s xs s' → (xs.length : Int) = r.length →
      ∃ (text : String) (chars : List Char),
        g.generate source.recorded r (s, asked)
          = (.ok (.ok text), s', asked ++ List.replicate xs.length (r.alphabet.size : Int)) ∧
        Text.pieces text.toUTF8 = chars.map Text.Piece.scalar ∧
        (chars.length : Int) = r.length ∧
        List.Forall₂ (fun x c => ∃ sym : Symbol,
          r.alphabet.symbols[x.toNat]? = some sym ∧ sym.Shows c) xs chars
  /-- The first answer out of range is a fault with its index, and the last
      question. -/
  stray : 0 < r.alphabet.size → 0 ≤ r.length → (0 < g.maximum → r.length ≤ g.maximum) →
    ∀ xs s₁ x s₂, source.Answers r.alphabet.size s xs s₁ → (xs.length : Int) < r.length →
      source.draw r.alphabet.size s₁ = (.ok x, s₂) → ¬ (0 ≤ x ∧ x < r.alphabet.size) →
        g.generate source.recorded r (s, asked)
          = (.error (.fault (.outOfRange x r.alphabet.size)), s₂,
              asked ++ List.replicate (xs.length + 1) (r.alphabet.size : Int))
  /-- A source that stops by itself is not asked again. -/
  halt : 0 < r.alphabet.size → 0 ≤ r.length → (0 < g.maximum → r.length ≤ g.maximum) →
    ∀ xs s₁ e s₂, source.Answers r.alphabet.size s xs s₁ → (xs.length : Int) < r.length →
      source.draw r.alphabet.size s₁ = (.error e, s₂) →
        g.generate source.recorded r (s, asked)
          = (.error e, s₂, asked ++ List.replicate (xs.length + 1) (r.alphabet.size : Int))
  /-- One of the three is the case. -/
  exhaustive : 0 ≤ r.length → ∃ xs s₁, source.Answers r.alphabet.size s xs s₁ ∧
    ((xs.length : Int) = r.length ∨ (xs.length : Int) < r.length ∧
      ((∃ x s₂, source.draw r.alphabet.size s₁ = (.ok x, s₂) ∧
          ¬ (0 ≤ x ∧ x < r.alphabet.size)) ∨
        ∃ e s₂, source.draw r.alphabet.size s₁ = (.error e, s₂)))

section Contract

variable {σ : Type}

/-- Recording makes no difference: whichever way a run in range ends, it ends
    the same way with the list. -/
theorem generate_recorded (g : Generator) (source : Source σ) (r : Request) (s : σ)
    (asked : List Int) :
    (g.generate source.recorded r (s, asked)).1 = (g.generate source r s).1 ∧
      (g.generate source.recorded r (s, asked)).2.1 = (g.generate source r s).2 := by
  rcases hc : g.check r with _ | rejection
  -- The answers make a string, or one strays, or the source stops: alike on both sides.
  · rcases source.exists_answers r.alphabet.size r.length.toNat s with
      ⟨xs, s₁, hxs, hlen | ⟨hlt, ⟨x, s₂, hd, hx⟩ | ⟨e, s₂, hd⟩⟩⟩
    · rw [generate_of_answers g source r hc s s₁ xs hxs hlen,
        generate_of_answers g source.recorded r hc _ _ xs
          (source.answers_recorded _ s s₁ xs asked hxs) hlen]
      exact ⟨rfl, rfl⟩
    · rw [generate_of_stray g source r hc s s₁ s₂ xs x hxs hlt hd hx,
        generate_of_stray g source.recorded r hc _ _ _ xs x
          (source.answers_recorded _ s s₁ xs asked hxs) hlt
          (source.recorded_draw _ s₁ s₂ _ _ hd) hx]
      exact ⟨rfl, rfl⟩
    · rw [generate_of_halt g source r hc s s₁ s₂ xs e hxs hlt hd,
        generate_of_halt g source.recorded r hc _ _ _ xs e
          (source.answers_recorded _ s s₁ xs asked hxs) hlt
          (source.recorded_draw _ s₁ s₂ _ _ hd)]
      exact ⟨rfl, rfl⟩
  · rw [generate_of_rejection g source r rejection hc,
      generate_of_rejection g source.recorded r rejection hc]
    exact ⟨rfl, rfl⟩

theorem check_of_empty (g : Generator) (r : Request) (h : r.alphabet.size = 0) :
    g.check r = some .invalidAlphabet := by
  unfold Generator.check
  rw [if_pos (r.alphabet.isEmpty_iff.mpr h)]

theorem check_of_negative (g : Generator) (r : Request) (h : 0 < r.alphabet.size)
    (hl : r.length < 0) : g.check r = some (.invalidLength r.length) := by
  have hne : ¬ r.alphabet.isEmpty = true := by
    rw [r.alphabet.isEmpty_iff]
    omega
  unfold Generator.check
  rw [if_neg hne, if_pos hl]

theorem check_of_excessive (g : Generator) (r : Request) (h : 0 < r.alphabet.size)
    (hl : 0 ≤ r.length) (hm : 0 < g.maximum) (hlt : g.maximum < r.length) :
    g.check r = some (.lengthTooLarge r.length g.maximum) := by
  have hne : ¬ r.alphabet.isEmpty = true := by
    rw [r.alphabet.isEmpty_iff]
    omega
  unfold Generator.check
  rw [if_neg hne, if_neg (by omega), if_pos ⟨hm, hlt⟩]

/-- Answers in range make a string that reads back as the characters shown
    for them. -/
theorem pieces_of_answers (a : Alphabet) (xs : List Int) :
    Text.pieces (String.ofList (xs.map a.shown)).toUTF8
      = (xs.map a.shown).map Text.Piece.scalar := by
  rw [Text.pieces_toUTF8, String.toList_ofList]

theorem generator_serves (g : Generator) (source : Source σ) (r : Request) (s : σ)
    (asked : List Int) : g.Serves source r s asked where
  transparent := generate_recorded g source r s asked
  session board journal := serve_eq_generate g source r ⟨s, board, journal⟩
  empty h := generate_of_rejection g _ r _ (check_of_empty g r h) _
  negative h hl := generate_of_rejection g _ r _ (check_of_negative g r h hl) _
  excessive h hl hm hlt := generate_of_rejection g _ r _ (check_of_excessive g r h hl hm hlt) _
  string h hl hm xs s' hxs hlen := by
    have hc := (check_eq_none_iff g r).mpr ⟨h, hl, hm⟩
    refine ⟨String.ofList (xs.map r.alphabet.shown), xs.map r.alphabet.shown, ?_,
      pieces_of_answers r.alphabet xs, ?_, shows_of_answers r.alphabet xs hxs.2⟩
    · exact generate_of_answers g _ r hc _ _ xs (source.answers_recorded _ s s' xs asked hxs)
        (by omega)
    · rw [List.length_map, hlen]
  stray h hl hm xs s₁ x s₂ hxs hlt hd hx := by
    have hc := (check_eq_none_iff g r).mpr ⟨h, hl, hm⟩
    have hstop := generate_of_stray g _ r hc _ _ _ xs x
      (source.answers_recorded _ s s₁ xs asked hxs) (by omega)
      (source.recorded_draw _ s₁ s₂ _ _ hd) hx
    rw [List.append_assoc, ← List.replicate_succ'] at hstop
    exact hstop
  halt h hl hm xs s₁ e s₂ hxs hlt hd := by
    have hc := (check_eq_none_iff g r).mpr ⟨h, hl, hm⟩
    have hstop := generate_of_halt g _ r hc _ _ _ xs e
      (source.answers_recorded _ s s₁ xs asked hxs) (by omega)
      (source.recorded_draw _ s₁ s₂ _ _ hd)
    rw [List.append_assoc, ← List.replicate_succ'] at hstop
    exact hstop
  exhaustive hl := by
    rcases source.exists_answers r.alphabet.size r.length.toNat s with ⟨xs, s₁, hxs, hend⟩
    refine ⟨xs, s₁, hxs, ?_⟩
    rcases hend with hlen | ⟨hlt, hstop⟩
    · exact Or.inl (by omega)
    · exact Or.inr ⟨by omega, hstop⟩

/-- With a source that stays in range there is no fault, and a string has the
    length asked for and characters of the alphabet only. -/
theorem generate_of_staysInRange (g : Generator) (source : Source σ) (hs : source.StaysInRange)
    (a : Alphabet) (ha : ∀ sym ∈ a.symbols, sym.IsScalar) (length : Int) (s : σ) :
    (∀ f s', g.generate source ⟨a, length⟩ s ≠ (.error (.fault f), s')) ∧
      ∀ text s', g.generate source ⟨a, length⟩ s = (.ok (.ok text), s') →
        (text.length : Int) = length ∧
          ∀ c ∈ text.toList, a.contains (Symbol.ofChar c) = true := by
  rcases hc : g.check ⟨a, length⟩ with _ | rejection
  · have hpos : 0 < a.size := ((check_eq_none_iff g ⟨a, length⟩).mp hc).1
    have hnonneg : 0 ≤ length := ((check_eq_none_iff g ⟨a, length⟩).mp hc).2.1
    rcases source.exists_answers a.size length.toNat s with
      ⟨xs, s₁, hxs, hlen | ⟨hlt, ⟨x, s₂, hd, hx⟩ | ⟨e, s₂, hd⟩⟩⟩
    · rw [generate_of_answers g source ⟨a, length⟩ hc s s₁ xs hxs hlen]
      refine ⟨fun f s' h => (by cases h), fun text s' h => ?_⟩
      cases h
      rw [String.length_ofList, List.length_map, String.toList_ofList]
      refine ⟨by omega, fun c hcmem => ?_⟩
      rcases List.mem_map.mp hcmem with ⟨x, hx, rfl⟩
      -- A shown character numbers a symbol of the alphabet, that one being a scalar.
      rcases a.exists_symbolAt x (hxs.2 x hx) with ⟨sym, hget, _, hshown⟩
      have hmem : sym ∈ a.symbols := List.mem_of_getElem? hget
      rw [hshown, Symbol.ofChar_toChar sym (ha sym hmem), a.contains_iff]
      exact hmem
    · exact absurd ((hs a.size s₁ hpos).1 x s₂ hd) hx
    · rw [generate_of_halt g source ⟨a, length⟩ hc s s₁ s₂ xs e hxs hlt hd,
        (hs a.size s₁ hpos).2 e s₂ hd]
      exact ⟨fun f s' h => (by cases h), fun text s' h => (by cases h)⟩
  · rw [generate_of_rejection g source _ rejection hc]
    exact ⟨fun f s' h => (by cases h), fun text s' h => (by cases h)⟩

end Contract

namespace Buffer

/-- The buffered source stays in range, whatever its buffer and the stream
    hold. -/
theorem source_staysInRange : source.StaysInRange := by
  intro n r hn
  rw [source_draw_eq n hn]
  rcases hc : choose n r with ⟨e | v, r'⟩
  · refine ⟨fun x s' h => (by cases h), fun e' s' h => ?_⟩
    cases h
    exact choose_error n r r' e hc
  · refine ⟨fun x s' h => ?_, fun e' s' h => (by cases h)⟩
    cases h
    have hlt := choose_lt n hn r r' v hc
    omega

end Buffer

namespace SeededState

theorem next_apply (s : SeededState) : next s = (.ok s.step.output.toNat, s.step) := rfl

/-- The high half of a product with a 64-bit number lies below the other
    factor. -/
theorem high_lt (n : Nat) (hn : 0 < n) (b : BitVec 64) :
    b.toNat * n / Number.twoTo 64 < n := by
  have hb : b.toNat < Number.twoTo 64 := b.isLt
  have hpos : 0 < Number.twoTo 64 := by decide
  rw [Nat.div_lt_iff_lt_mul hpos, Nat.mul_comm n]
  exact Nat.mul_lt_mul_of_pos_right hb hn

theorem drawHigh_lt (n : Nat) (hn : 0 < n) (limit : Nat) (s s' : SeededState) (v : Nat)
    (h : drawHigh n limit s = (.ok v, s')) : v < n := by
  induction limit generalizing s with
  | zero => cases h
  | succ k ih =>
      rw [drawHigh, Run.bind_of_ok (next_apply s)] at h
      by_cases hlow : s.step.output.toNat * n % Number.twoTo 64 < lowCut n
      · rw [if_pos hlow] at h
        exact ih _ h
      · rw [if_neg hlow, Run.pure_apply, Prod.mk.injEq, Except.ok.injEq] at h
        rw [← h.1]
        exact high_lt n hn _

theorem drawHigh_error (n limit : Nat) (s s' : SeededState) (e : Halt)
    (h : drawHigh n limit s = (.error e, s')) : e = .endless := by
  induction limit generalizing s with
  | zero =>
      rw [drawHigh, Run.throw_apply, Prod.mk.injEq, Except.error.injEq] at h
      exact h.1.symm
  | succ k ih =>
      rw [drawHigh, Run.bind_of_ok (next_apply s)] at h
      by_cases hlow : s.step.output.toNat * n % Number.twoTo 64 < lowCut n
      · rw [if_pos hlow] at h
        exact ih _ h
      · rw [if_neg hlow, Run.pure_apply] at h
        cases h

theorem source_draw_eq (n : Nat) (hn : 0 < n) (s : SeededState) :
    source.draw n s = ((choose n s).1.map Nat.cast, (choose n s).2) := by
  have hpos : ¬ (n : Int) ≤ 0 := by omega
  unfold source
  simp only [if_neg hpos, Int.toNat_natCast]
  rcases h : choose n s with ⟨e | v, s'⟩
  · exact Run.bind_of_error h
  · exact Run.bind_of_ok h

/-- The seeded source stays in range from every state. -/
theorem source_staysInRange : source.StaysInRange := by
  intro n s hn
  rw [source_draw_eq n hn]
  unfold choose
  by_cases hpow : (n &&& (n - 1) == 0) = true
  -- A power of two masks the output, and the mask bounds the answer.
  · rw [if_pos hpow, Run.bind_of_ok (next_apply s), Run.pure_apply]
    refine ⟨fun x s' h => ?_, fun e s' h => (by cases h)⟩
    cases h
    have hle : s.step.output.toNat &&& (n - 1) ≤ n - 1 := Nat.and_le_right
    omega
  -- Otherwise the answer is the high half of a product.
  · rw [if_neg hpow]
    rcases hc : drawHigh n period s with ⟨e | v, s₁⟩
    · refine ⟨fun x s' h => (by cases h), fun e' s' h => ?_⟩
      cases h
      exact drawHigh_error n period s s₁ e hc
    · refine ⟨fun x s' h => ?_, fun e' s' h => (by cases h)⟩
      cases h
      have hlt := drawHigh_lt n hn period s s₁ v hc
      omega

end SeededState

/-- Generating against an arbitrary source. What is asked of the source, what
    its answers become and what is refused without asking is `Serves`, for
    every source, generator, request and state. With an alphabet that comes
    from text and with a source of the program, a string has the length asked
    for and only characters of the alphabet, and there is no fault. -/
theorem generate_serves_any_source :
    (∀ (σ : Type) (g : Generator) (source : Source σ) (r : Request) (s : σ) (asked : List Int),
      g.Serves source r s asked) ∧
    ∀ (g : Generator) (a : Alphabet), a.FromText → ∀ length : Int,
      (∀ s : Reservoir,
        (∀ f s', g.generate Buffer.source ⟨a, length⟩ s ≠ (.error (.fault f), s')) ∧
          ∀ text s', g.generate Buffer.source ⟨a, length⟩ s = (.ok (.ok text), s') →
            (text.length : Int) = length ∧
              ∀ c ∈ text.toList, a.contains (Symbol.ofChar c) = true) ∧
      ∀ s : SeededState,
        (∀ f s', g.generate SeededState.source ⟨a, length⟩ s ≠ (.error (.fault f), s')) ∧
          ∀ text s', g.generate SeededState.source ⟨a, length⟩ s = (.ok (.ok text), s') →
            (text.length : Int) = length ∧
              ∀ c ∈ text.toList, a.contains (Symbol.ofChar c) = true := by
  refine ⟨fun σ g source r s asked => generator_serves g source r s asked, ?_⟩
  intro g a ha length
  have hscalar := Alphabet.FromText.isScalar a ha
  exact ⟨fun s => generate_of_staysInRange g _ Buffer.source_staysInRange a hscalar length s,
    fun s => generate_of_staysInRange g _ SeededState.source_staysInRange a hscalar length s⟩

end Passforge
