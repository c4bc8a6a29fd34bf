import Passforge.Draw.Supply
import Passforge.Proofs.Generation

/-!
# Serving Requests

A source is sound on a set of states if its answers from there stay in range,
it never faults, and it stays in the set. A request to such a source has three
ways to go: it is refused before anything is drawn, it is served, or a draw
never ends. Which of the first two it is, the request and the maximum decide
alone.

Nothing in the traces a request leaves is taken from the string: a served
request is counted and logged by its length and its alphabet, and a refused one
is counted by the reason.

The supply of a run holds a buffered or a seeded source, and drawing never
turns it into a fixed list. These are the states the supply is sound on.

## Main definitions

* `Source.SoundOn`: Answers stay in range from a set of states.
* `Supply.Native`: The source in use is one of the program's own.
* `Request.Meets`: A text is an answer to a request.
* `Metrics.Board.served`: The counters after a request was served.

## Theorems

* `Source.SoundOn.generate_cases`: The three ways a request can go.
* `Source.SoundOn.serve_cases`: The traces each of them leaves.
* `Supply.source_soundOn`: A supply is sound while it is native.
-/

namespace Passforge

/-- The text has the length asked for, and all its characters are shown for
    symbols of the alphabet. -/
structure Request.Meets (r : Request) (text : String) : Prop where
  length : (text.length : Int) = r.length
  drawn : ∀ c ∈ text.toList, ∃ sym ∈ r.alphabet.symbols, sym.toChar = c

theorem meets_of_answers (r : Request) (xs : List Int) (hlen : (xs.length : Int) = r.length)
    (hrange : ∀ x ∈ xs, 0 ≤ x ∧ x < r.alphabet.size) :
    r.Meets (String.ofList (xs.map r.alphabet.shown)) where
  length := by rw [String.length_ofList, List.length_map, hlen]
  drawn c hc := by
    rw [String.toList_ofList] at hc
    rcases List.mem_map.mp hc with ⟨x, hx, rfl⟩
    rcases r.alphabet.exists_symbolAt x (hrange x hx) with ⟨sym, hget, _, hshown⟩
    exact ⟨sym, List.mem_of_getElem? hget, hshown.symm⟩

namespace Source

variable {σ : Type} {source : Source σ} {N : σ → Prop}

/-- From the states in `N` the answers stay in range, there is no fault, and a
    draw leads to `N` again. -/
def SoundOn (source : Source σ) (N : σ → Prop) : Prop :=
  ∀ (n : Nat) (s : σ), 0 < n → N s →
    ∃ x s', source.draw n s = (x, s') ∧ N s' ∧
      (∀ v, x = .ok v → 0 ≤ v ∧ v < n) ∧ ∀ h, x = .error h → h = .endless

theorem StaysInRange.soundOn (h : source.StaysInRange) : source.SoundOn fun _ => True := by
  intro n s hn _
  rcases hd : source.draw n s with ⟨x, s'⟩
  refine ⟨x, s', rfl, trivial, fun v hv => ?_, fun e he => ?_⟩
  · exact (h n s hn).1 v s' (by rw [hd, hv])
  · exact (h n s hn).2 e s' (by rw [hd, he])

theorem SoundOn.of_answers (h : source.SoundOn N) {n : Nat} (hn : 0 < n) {s s' : σ}
    {xs : List Int} (hs : N s) (hxs : source.Answers n s xs s') : N s' := by
  induction xs generalizing s with
  | nil =>
      cases hxs.1
      exact hs
  | cons x xs ih =>
      rcases (source.answers_cons_iff n s s' x xs).mp hxs with ⟨s₁, hd, -, hrest⟩
      rcases h n s hn hs with ⟨y, s₂, hd', hN, -⟩
      rw [hd] at hd'
      cases hd'
      exact ih hN hrest

/-- A request to a sound source is refused for its own sake, or it is served,
    or a draw never ends. -/
theorem SoundOn.generate_cases (h : source.SoundOn N) (g : Generator) (r : Request) {s : σ}
    (hs : N s) :
    (∃ rejection, g.check r = some rejection ∧
        g.generate source r s = (.ok (.error rejection), s)) ∨
      g.check r = none ∧ ∃ s', N s' ∧
        ((∃ text, r.Meets text ∧ g.generate source r s = (.ok (.ok text), s')) ∨
          g.generate source r s = (.error .endless, s')) := by
  rcases hc : g.check r with _ | rejection
  · rcases (check_eq_none_iff g r).mp hc with ⟨hpos, hlength, -⟩
    refine .inr ⟨rfl, ?_⟩
    rcases source.exists_answers r.alphabet.size r.length.toNat s with
      ⟨xs, s₁, hxs, hlen | ⟨hlt, hstop⟩⟩
    · exact ⟨s₁, h.of_answers hpos hs hxs, .inl ⟨_, meets_of_answers r xs (by omega) hxs.2,
        generate_of_answers g _ r hc s s₁ xs hxs hlen⟩⟩
    -- A sound source does not stray, so only an endless draw is left.
    · rcases h _ s₁ hpos (h.of_answers hpos hs hxs) with ⟨x, s₂, hd, hN, hrange, hhalt⟩
      refine ⟨s₂, hN, .inr ?_⟩
      rcases hstop with ⟨v, s₃, hd', hv⟩ | ⟨e, s₃, hd'⟩
      · rw [hd] at hd'
        cases hd'
        exact absurd (hrange v rfl) hv
      · rw [hd] at hd'
        cases hd'
        rw [← hhalt e rfl]
        exact generate_of_halt g _ r hc s s₁ s₂ xs e hxs hlt hd
  · exact .inl ⟨rejection, rfl, generate_of_rejection g _ r rejection hc s⟩

end Source

namespace Metrics.Board

/-- The counters after a request for `length` characters was served. -/
def served (b : Board) (length : Int) : Board :=
  b.account length (.ok "")

theorem account_ok (b : Board) (length : Int) (text : String) :
    b.account length (.ok text) = b.served length := by
  cases b <;> rfl

theorem account_error (b : Board) (length : Int) (rejection : Rejection) :
    b.account length (.error rejection) = b.rejected rejection.reason := by
  cases b <;> rfl

end Metrics.Board

section Traces

variable {σ : Type} {g : Generator} {source : Source σ} {r : Request} {session : Session σ} {s' : σ}

/-- A request that comes to no end leaves no trace but in the source. -/
theorem serve_of_halt {e : Halt} (h : g.generate source r session.supply = (.error e, s')) :
    g.serve source r session = (.error e, { session with supply := s' }) := by
  unfold Generator.serve
  rw [Run.bind_of_error (by rw [Run.within_apply, h])]

/-- A refused request is counted. -/
theorem serve_of_rejection {rejection : Rejection}
    (h : g.generate source r session.supply = (.ok (.error rejection), s')) :
    g.serve source r session = (.ok (.error rejection),
      { session with supply := s', board := session.board.rejected rejection.reason }) := by
  unfold Generator.serve
  rw [Run.bind_of_ok (by rw [Run.within_apply, h]), ← Metrics.Board.account_error _ r.length]
  rfl

/-- A served request is counted and logged. -/
theorem serve_of_text {text : String}
    (h : g.generate source r session.supply = (.ok (.ok text), s')) :
    g.serve source r session = (.ok (.ok text),
      ⟨s', session.board.served r.length, session.journal.log r.event⟩) := by
  unfold Generator.serve
  rw [Run.bind_of_ok (by rw [Run.within_apply, h]), ← Metrics.Board.account_ok _ r.length text]
  rfl

/-- Which requests are refused does not depend on the source, nor does the
    reason. -/
theorem generate_rejects_iff {rejection : Rejection} {s : σ} :
    (g.generate source r s).1 = .ok (.error rejection) ↔ g.check r = some rejection := by
  rcases hc : g.check r with _ | rejection'
  · unfold Generator.generate
    rw [hc]
    simp only
    rcases hd : drawString source r.alphabet r.length.toNat s with ⟨e | text, s₁⟩
    · rw [Run.bind_of_error hd]
      simp
    · rw [Run.bind_of_ok hd]
      simp [Run.pure_apply]
  · rw [generate_of_rejection g source r rejection' hc s]
    simp

/-- A refused request is counted, a served one is counted and logged, and one
    that never ends leaves no trace but in the source. -/
theorem Source.SoundOn.serve_cases {N : σ → Prop} (h : source.SoundOn N) (g : Generator)
    (r : Request) (session : Session σ) (hs : N session.supply) :
    (∃ rejection, g.check r = some rejection ∧
        g.serve source r session = (.ok (.error rejection),
          { session with board := session.board.rejected rejection.reason })) ∨
      g.check r = none ∧ ∃ s', N s' ∧
        ((∃ text, r.Meets text ∧ g.serve source r session = (.ok (.ok text),
            ⟨s', session.board.served r.length, session.journal.log r.event⟩)) ∨
          g.serve source r session = (.error .endless, { session with supply := s' })) := by
  rcases h.generate_cases g r hs with
    ⟨rejection, hc, hgen⟩ | ⟨hc, s', hN, ⟨text, hmeets, hgen⟩ | hgen⟩
  · exact .inl ⟨rejection, hc, serve_of_rejection hgen⟩
  · exact .inr ⟨hc, s', hN, .inl ⟨text, hmeets, serve_of_text hgen⟩⟩
  · exact .inr ⟨hc, s', hN, .inr (serve_of_halt hgen)⟩

end Traces

namespace Supply

/-- The source in use is one of the program's own, and not a fixed list. -/
def Native (s : Supply) : Prop :=
  ∀ l, s.drawer ≠ .listed l

theorem draw_of_buffered (e : Entropy) (b : Buffer) (bound : Int) {x : Except Halt Int}
    {r : Reservoir} (h : Buffer.source.draw bound ⟨e, b⟩ = (x, r)) :
    source.draw bound ⟨e, .buffered b⟩ = (x, ⟨r.entropy, .buffered r.buffer⟩) := by
  change drawBuffered b bound ⟨e, .buffered b⟩ = _
  simp only [drawBuffered, h]

theorem draw_of_seeded (e : Entropy) (d : SeededState) (bound : Int) {x : Except Halt Int}
    {d' : SeededState} (h : SeededState.source.draw bound d = (x, d')) :
    source.draw bound ⟨e, .seeded d⟩ = (x, ⟨e, .seeded d'⟩) := by
  change drawSeeded d bound ⟨e, .seeded d⟩ = _
  simp only [drawSeeded, h]

theorem source_soundOn : source.SoundOn Native := by
  intro n s hn hs
  rcases s with ⟨e, b | d | l⟩
  · rcases hd : Buffer.source.draw n ⟨e, b⟩ with ⟨x, r⟩
    have hrange := Buffer.source_staysInRange n ⟨e, b⟩ hn
    refine ⟨x, _, draw_of_buffered e b n hd, fun l => (by simp), fun v hv => ?_, fun h hh => ?_⟩
    · exact hrange.1 v r (by rw [hd, hv])
    · exact hrange.2 h r (by rw [hd, hh])
  · rcases hd : SeededState.source.draw n d with ⟨x, d'⟩
    have hrange := SeededState.source_staysInRange n d hn
    refine ⟨x, _, draw_of_seeded e d n hd, fun l => (by simp), fun v hv => ?_, fun h hh => ?_⟩
    · exact hrange.1 v d' (by rw [hd, hv])
    · exact hrange.2 h d' (by rw [hd, hh])
  · exact absurd rfl (hs l)

end Supply

end Passforge
