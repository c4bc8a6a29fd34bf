import Passforge.Proofs.Accounting
import Passforge.Proofs.FullCycle

/-!
# Generating by Parts

A string may be asked for at once or in two parts. The parts put together are
the string that would have come out at once, and the source is left in the same
state, whatever the source is: the loop of the generator asks for one draw per
character and for nothing else, so leaving it after some characters and taking
it up again makes no difference (`drawChars_add`). A generator that drew ahead,
or that used up its source in larger pieces, would fail here.

Nor do refused requests make a difference, wherever they stand among the
others. They draw nothing, so a run over all requests gives the strings of the
run over those that are not refused, from the same states
(`serveAll_accepted`).

Whether there are strings at all is up to the source. One whose answers stay in
range serves the request and both of its parts; one that does not answer stops
the request and one of its parts in the same way. The seeded source answers
always, and the buffered source does unless its stream holds nothing it can
use.

## Main definitions

* `Generator.accepts`: A request is not refused.
* `Source.AnswersOn`: Answers are given and stay in range.
* `Generator.ServesInParts`: What two parts have to do with the whole.

## Theorems

* `drawChars_add`: The loop can be left and taken up again.
* `generate_add_cases`: The ways a request and its two parts can go.
* `serveAll_accepted`: Refused requests make no difference to a run.
* `SeededState.source_answersOn`: The seeded source answers always.
* `generation_by_parts`: All of it together.
-/

namespace Passforge

section Loop

variable {σ : Type} (source : Source σ) (a : Alphabet)

/-- The loop can be left after any number of characters and taken up again with
    the characters it had then. -/
theorem drawChars_add (m n : Nat) (drawn : List Char) (s : σ) :
    drawChars source a (m + n) drawn s
      = (drawChars source a m drawn >>= fun cs => drawChars source a n cs.reverse) s := by
  induction m generalizing drawn s with
  | zero =>
      rw [Nat.zero_add, drawChars, Run.bind_of_ok (Run.pure_apply _ s), List.reverse_reverse]
  | succ m ih =>
      rw [show m + 1 + n = m + n + 1 by omega, drawChars, drawChars, bind_assoc]
      rcases hd : drawChar source a s with ⟨e | c, s₁⟩
      · rw [Run.bind_of_error hd, Run.bind_of_error hd]
      -- One draw on either side, from the same state.
      · rw [Run.bind_of_ok hd, Run.bind_of_ok hd]
        exact ih (c :: drawn) s₁

/-- What was drawn before the loop only stands in front of what it draws. -/
theorem drawChars_eq_bind (n : Nat) (drawn : List Char) (s : σ) :
    drawChars source a n drawn s
      = (drawChars source a n [] >>= fun cs => pure (drawn.reverse ++ cs)) s := by
  induction n generalizing drawn s with
  | zero =>
      rw [drawChars, drawChars, Run.bind_of_ok (Run.pure_apply _ s), List.reverse_nil,
        List.append_nil]
  | succ n ih =>
      rw [drawChars, drawChars, bind_assoc]
      rcases hd : drawChar source a s with ⟨e | c, s₁⟩
      · rw [Run.bind_of_error hd, Run.bind_of_error hd]
      -- The character goes in front of the rest on both sides.
      · rw [Run.bind_of_ok hd, Run.bind_of_ok hd, ih (c :: drawn) s₁, Run.bind_apply,
          Run.bind_apply, ih [c] s₁]
        rcases hrest : drawChars source a n [] s₁ with ⟨e | cs, s₂⟩
        · rw [Run.bind_of_error hrest]
        · rw [Run.bind_of_ok hrest]
          simp

/-- The ways an accepted request and its two parts can go: the first part stops
    and stops the whole, or the second part does, or all are served. -/
theorem generate_add_cases (g : Generator) (m n : Nat) (h : g.check ⟨a, (m : Int) + n⟩ = none)
    (s : σ) :
    (∃ e s₁, g.generate source ⟨a, m⟩ s = (.error e, s₁) ∧
      g.generate source ⟨a, (m : Int) + n⟩ s = (.error e, s₁)) ∨
    (∃ first s₁ e s₂, g.generate source ⟨a, m⟩ s = (.ok (.ok first), s₁) ∧
      g.generate source ⟨a, n⟩ s₁ = (.error e, s₂) ∧
      g.generate source ⟨a, (m : Int) + n⟩ s = (.error e, s₂)) ∨
    ∃ first s₁ second s₂, g.generate source ⟨a, m⟩ s = (.ok (.ok first), s₁) ∧
      g.generate source ⟨a, n⟩ s₁ = (.ok (.ok second), s₂) ∧
      g.generate source ⟨a, (m : Int) + n⟩ s = (.ok (.ok (first ++ second)), s₂) := by
  obtain ⟨hsize, -, hcap⟩ := (check_eq_none_iff g _).mp h
  simp only at hsize hcap
  -- The parts are no longer than the whole, so they are accepted with it.
  have hfirst : g.check ⟨a, m⟩ = none := (check_eq_none_iff g _).mpr ⟨hsize, by simp, by grind⟩
  have hsecond : g.check ⟨a, n⟩ = none := (check_eq_none_iff g _).mpr ⟨hsize, by simp, by grind⟩
  -- The loop of the whole is that of the first part, gone on with for the second.
  have hwhole := drawChars_add source a m n [] s
  rw [show m + n = ((m : Int) + n).toNat by omega] at hwhole
  rcases hm : drawChars source a m [] s with ⟨e | cs, s₁⟩
  · rw [Run.bind_of_error hm] at hwhole
    exact .inl ⟨e, s₁, generate_of_drawChars_error g source _ hfirst s s₁ e hm,
      generate_of_drawChars_error g source _ h s s₁ e hwhole⟩
  · have hdone := generate_of_drawChars_ok g source _ hfirst s s₁ cs hm
    rw [Run.bind_of_ok hm, drawChars_eq_bind source a n, List.reverse_reverse] at hwhole
    rcases hn : drawChars source a n [] s₁ with ⟨e | ds, s₂⟩
    · rw [Run.bind_of_error hn] at hwhole
      exact .inr (.inl ⟨_, s₁, e, s₂, hdone,
        generate_of_drawChars_error g source _ hsecond s₁ s₂ e hn,
        generate_of_drawChars_error g source _ h s s₂ e hwhole⟩)
    · rw [Run.bind_of_ok hn, Run.pure_apply] at hwhole
      refine .inr (.inr ⟨_, s₁, _, s₂, hdone,
        generate_of_drawChars_ok g source _ hsecond s₁ s₂ ds hn, ?_⟩)
      rw [← String.ofList_append]
      exact generate_of_drawChars_ok g source _ h s s₂ (cs ++ ds) hwhole

end Loop

/-- A request is not refused. -/
def Generator.accepts (g : Generator) (r : Request) : Bool :=
  (g.check r).isNone

section Runs

variable {σ : Type} (g : Generator) (source : Source σ)

theorem rejection?_serve (r : Request) (session : Session σ) :
    Reply.rejection? (g.serve source r session).1 = g.check r := by
  rw [(serve_eq_generate g source r session).1]
  rcases hc : g.check r with _ | rejection
  · rcases hgen : (g.generate source r session.supply).1 with e | rejection | text
    · rfl
    · rw [generate_rejects_iff.mp hgen] at hc
      cases hc
    · rfl
  · rw [generate_rejects_iff.mpr hc]
    rfl

theorem serve_of_refused {g : Generator} {r : Request} {rejection : Rejection}
    (h : g.check r = some rejection) (session : Session σ) :
    (g.serve source r session).2.supply = session.supply := by
  rw [(serve_eq_generate g source r session).2, generate_of_rejection g source r rejection h]

/-- Refused requests get their refusals and make no difference to the others. -/
theorem serveAll_accepted (requests : List Request) (session : Session σ) :
    Reply.rejections (g.serveAll source requests session).1 = requests.filterMap g.check ∧
      (g.serveAll source requests session).1.filter (·.rejection?.isNone)
        = (g.serveAll source (requests.filter g.accepts) session).1 ∧
      (g.serveAll source requests session).2.supply
        = (g.serveAll source (requests.filter g.accepts) session).2.supply := by
  induction requests generalizing session with
  | nil => exact ⟨rfl, rfl, rfl⟩
  | cons r rs ih =>
      obtain ⟨hrejections, hreplies, hsupply⟩ := ih (g.serve source r session).2
      have hreply := rejection?_serve g source r session
      rw [serveAll_cons]
      rcases hc : g.check r with _ | rejection
      · have haccepted : g.accepts r = true := by rw [Generator.accepts, hc]; rfl
        rw [hc] at hreply
        rw [List.filter_cons_of_pos haccepted, serveAll_cons, List.filterMap_cons_none hc]
        refine ⟨?_, ?_, hsupply⟩
        · rw [Reply.rejections, List.filterMap_cons_none hreply]
          exact hrejections
        · rw [List.filter_cons_of_pos (by rw [hreply]; rfl), hreplies]
      -- A refusal leaves the source alone, so the others start from the same state without it.
      · have hrefused : ¬ g.accepts r = true := by rw [Generator.accepts, hc]; simp
        rw [hc] at hreply
        have hsame := serveAll_congr g source (rs.filter g.accepts)
          (serve_of_refused source hc session)
        rw [List.filter_cons_of_neg hrefused, List.filterMap_cons_some hc]
        refine ⟨?_, ?_, hsupply.trans hsame.2⟩
        · rw [Reply.rejections, List.filterMap_cons_some hreply]
          exact congrArg (rejection :: ·) hrejections
        · rw [List.filter_cons_of_neg (by rw [hreply]; simp), hreplies, hsame.1]

theorem texts_filter (replies : List Reply) :
    Reply.texts (replies.filter (·.rejection?.isNone)) = Reply.texts replies := by
  unfold Reply.texts
  rw [List.filterMap_filter]
  refine List.filterMap_congr fun reply _ => ?_
  rcases reply with e | rejection | text
  · rfl
  · rfl
  · rfl

end Runs

namespace Source

variable {σ : Type} {source : Source σ} {n : Nat} {N : σ → Prop}

/-- From the states in `N` a draw from `n` choices gives one of them and leads to
    `N` again. -/
def AnswersOn (source : Source σ) (n : Nat) (N : σ → Prop) : Prop :=
  ∀ s, N s → ∃ x s', source.draw n s = (.ok x, s') ∧ (0 ≤ x ∧ x < n) ∧ N s'

theorem AnswersOn.exists_answers (h : source.AnswersOn n N) (count : Nat) {s : σ} (hs : N s) :
    ∃ xs s', source.Answers n s xs s' ∧ xs.length = count := by
  induction count generalizing s with
  | zero => exact ⟨[], s, answers_nil source n s, rfl⟩
  | succ count ih =>
      obtain ⟨x, s₁, hd, hx, hs₁⟩ := h s hs
      obtain ⟨xs, s₂, hxs, hlen⟩ := ih hs₁
      exact ⟨x :: xs, s₂, answers_cons source n s s₁ s₂ x xs hd hx hxs, by
        rw [List.length_cons, hlen]⟩

/-- A source that answers serves every accepted request. -/
theorem AnswersOn.exists_text {g : Generator} {r : Request}
    (h : source.AnswersOn r.alphabet.size N) (hc : g.check r = none) {session : Session σ}
    (hs : N session.supply) : ∃ text, (g.serve source r session).1 = .ok (.ok text) := by
  obtain ⟨xs, s', hxs, hlen⟩ := h.exists_answers r.length.toNat hs
  rw [(serve_eq_generate g source r session).1,
    generate_of_answers g source r hc session.supply s' xs hxs hlen]
  exact ⟨_, rfl⟩

end Source

/-- The seeded source answers from every state. -/
theorem SeededState.source_answersOn {n : Nat} (hn : 1 ≤ n) (h63 : n < 2 ^ 63) :
    source.AnswersOn n fun _ => True := by
  intro s _
  obtain ⟨x, s', hdraw, hx⟩ := exists_draw hn h63 s
  exact ⟨x, s', hdraw, hx, trivial⟩

/-- What a run over requests that ask for `a` and then for `b` characters has to
    do with one request for all of them. -/
structure Generator.ServesInParts {σ : Type} (g : Generator) (source : Source σ)
    (alphabet : Alphabet) (a b : Nat) (requests : List Request) (session : Session σ) : Prop where
  /-- The string of the whole is that of the first part and that of the second. -/
  strings : ∀ text, (g.serve source ⟨alphabet, (a : Int) + b⟩ session).1 = .ok (.ok text) ↔
    ∃ first second, Reply.texts (g.serveAll source requests session).1 = [first, second] ∧
      text = first ++ second
  /-- The source is left in the same state. -/
  supply : ∀ text, (g.serve source ⟨alphabet, (a : Int) + b⟩ session).1 = .ok (.ok text) →
    (g.serveAll source requests session).2.supply
      = (g.serve source ⟨alphabet, (a : Int) + b⟩ session).2.supply
  /-- What stops the whole stops one of the parts. -/
  halts : ∀ e, (g.serve source ⟨alphabet, (a : Int) + b⟩ session).1 = .error e →
    .error e ∈ (g.serveAll source requests session).1
  /-- All other requests are refused. -/
  refusals : Reply.rejections (g.serveAll source requests session).1 = requests.filterMap g.check
  /-- There are strings if the source answers. -/
  answering : ∀ N, source.AnswersOn alphabet.size N → N session.supply →
    ∃ text, (g.serve source ⟨alphabet, (a : Int) + b⟩ session).1 = .ok (.ok text)

section Parts

variable {σ : Type} {g : Generator} (source : Source σ) {alphabet : Alphabet} {a b : Nat}

/-- The parts alone, with no refused request among them. -/
theorem serveAll_two_parts (hcheck : g.check ⟨alphabet, (a : Int) + b⟩ = none)
    (session : Session σ) :
    (∃ first second,
      (g.serveAll source [⟨alphabet, a⟩, ⟨alphabet, b⟩] session).1
        = [.ok (.ok first), .ok (.ok second)] ∧
      (g.serve source ⟨alphabet, (a : Int) + b⟩ session).1 = .ok (.ok (first ++ second)) ∧
      (g.serveAll source [⟨alphabet, a⟩, ⟨alphabet, b⟩] session).2.supply
        = (g.serve source ⟨alphabet, (a : Int) + b⟩ session).2.supply) ∨
    ∃ e, .error e ∈ (g.serveAll source [⟨alphabet, a⟩, ⟨alphabet, b⟩] session).1 ∧
      (g.serve source ⟨alphabet, (a : Int) + b⟩ session).1 = .error e := by
  have hwhole := serve_eq_generate g source ⟨alphabet, (a : Int) + b⟩ session
  have hone := serve_eq_generate g source ⟨alphabet, a⟩ session
  -- The second part starts from where the first one leaves the source.
  have htwo := serve_eq_generate g source ⟨alphabet, b⟩ (g.serve source ⟨alphabet, a⟩ session).2
  rw [hone.2] at htwo
  rw [serveAll_cons, serveAll_cons, hwhole.1, hwhole.2, hone.1, htwo.1]
  rcases generate_add_cases source alphabet g a b hcheck session.supply with
    ⟨e, s₁, hfirst, hall⟩ | ⟨first, s₁, e, s₂, hfirst, hsecond, hall⟩ |
      ⟨first, s₁, second, s₂, hfirst, hsecond, hall⟩
  · rw [hfirst, hall]
    exact .inr ⟨e, List.mem_cons_self, rfl⟩
  · rw [hfirst, hsecond, hall]
    exact .inr ⟨e, List.mem_cons_of_mem _ List.mem_cons_self, rfl⟩
  · rw [hfirst] at htwo ⊢
    rw [hsecond] at htwo ⊢
    rw [hall]
    exact .inl ⟨first, second, rfl, rfl, htwo.2⟩

theorem servesInParts (hcheck : g.check ⟨alphabet, (a : Int) + b⟩ = none)
    {requests : List Request}
    (hrequests : requests.filter g.accepts = [⟨alphabet, a⟩, ⟨alphabet, b⟩])
    (session : Session σ) : g.ServesInParts source alphabet a b requests session := by
  obtain ⟨hrefusals, hreplies, hsupply⟩ := serveAll_accepted g source requests session
  have htexts := texts_filter (g.serveAll source requests session).1
  -- Without the refused requests nothing but the two parts is left.
  rw [hrequests] at hreplies hsupply
  rw [hreplies] at htexts
  have hcases := serveAll_two_parts source hcheck session
  refine ⟨fun text => ⟨fun htext => ?_, ?_⟩, fun text htext => ?_, fun e hhalt => ?_, hrefusals,
    fun N hN hs => hN.exists_text hcheck hs⟩
  · rcases hcases with ⟨first, second, hparts, hwhole, -⟩ | ⟨e, -, hwhole⟩
    · rw [hwhole, Except.ok.injEq, Except.ok.injEq] at htext
      exact ⟨first, second, by rw [← htexts, hparts]; rfl, htext.symm⟩
    · cases hwhole.symm.trans htext
  · rintro ⟨first, second, hboth, rfl⟩
    rw [← htexts] at hboth
    rcases hcases with ⟨first', second', hparts, hwhole, -⟩ | ⟨e, hmem, -⟩
    · rw [hparts] at hboth
      cases hboth
      exact hwhole
    -- Of two replies one is no string, so there are not two strings.
    · have hfew : (Reply.texts (g.serveAll source [⟨alphabet, a⟩, ⟨alphabet, b⟩] session).1).length
          < (g.serveAll source [⟨alphabet, a⟩, ⟨alphabet, b⟩] session).1.length :=
        List.length_filterMap_lt_length_iff_exists.mpr ⟨_, hmem, rfl⟩
      rw [hboth, length_serveAll] at hfew
      exact absurd hfew (Nat.lt_irrefl 2)
  · rcases hcases with ⟨first, second, -, -, hsame⟩ | ⟨e, -, hwhole⟩
    · exact hsupply.trans hsame
    · cases hwhole.symm.trans htext
  · rcases hcases with ⟨first, second, -, hwhole, -⟩ | ⟨e', hmem, hwhole⟩
    · cases hwhole.symm.trans hhalt
    · cases hwhole.symm.trans hhalt
      rw [← hreplies] at hmem
      exact List.mem_of_mem_filter hmem

end Parts

/-- Generating by parts. Whatever the source, and whatever refused requests are
    made before, between and after, requests for `a` and then for `b` characters
    give two strings that put together are the string of a request for all of
    them, and leave the source in the same state; what stops the whole stops a
    part. A source that answers in range gives these strings. Of the program's
    own sources, the seeded one always does, and the buffered one does unless a
    draw never ends. -/
theorem generation_by_parts (g : Generator) (alphabet : Alphabet) (a b : Nat)
    (hsize : 0 < alphabet.size) (hcap : 0 < g.maximum → (a : Int) + b ≤ g.maximum)
    (requests : List Request)
    (hrequests : requests.filter g.accepts = [⟨alphabet, a⟩, ⟨alphabet, b⟩]) :
    (∀ (σ : Type) (source : Source σ) (session : Session σ),
      g.ServesInParts source alphabet a b requests session) ∧
    (∀ (session : Session Reservoir) (e : Halt),
      (g.serve Buffer.source ⟨alphabet, (a : Int) + b⟩ session).1 = .error e → e = .endless) ∧
    (alphabet.size < 2 ^ 63 → ∀ session : Session SeededState,
      ∃ text, (g.serve SeededState.source ⟨alphabet, (a : Int) + b⟩ session).1
        = .ok (.ok text)) := by
  have hcheck : g.check ⟨alphabet, (a : Int) + b⟩ = none :=
    (check_eq_none_iff g _).mpr ⟨hsize, by simp only; omega, hcap⟩
  refine ⟨fun σ source session => servesInParts source hcheck hrequests session,
    fun session e hhalt => ?_, fun hint session => ?_⟩
  · rcases Buffer.source_staysInRange.soundOn.serve_cases g ⟨alphabet, (a : Int) + b⟩ session
      trivial with ⟨_, -, hserve⟩ | ⟨-, _, -, ⟨_, -, hserve⟩ | hserve⟩
    · rw [hserve] at hhalt
      cases hhalt
    · rw [hserve] at hhalt
      cases hhalt
    · rw [hserve] at hhalt
      cases hhalt
      rfl
  · exact (SeededState.source_answersOn hsize hint).exists_text hcheck trivial

/-- Two parts with refusals of every kind around them, over a block that runs
    out within the first part and bytes that are passed over. -/
theorem generation_by_parts_over_refill :
    let xyz : Alphabet := .ofChars ['x', 'y', 'z']
    let requests : List Request :=
      [⟨xyz, 9⟩, ⟨xyz, 2⟩, ⟨.ofChars [], 1⟩, ⟨xyz, -1⟩, ⟨xyz, 3⟩, ⟨xyz, 6⟩]
    let session : Session Reservoir :=
      ⟨⟨.cycle #[4, 255, 2, 0], ⟨[1, 255]⟩⟩, .absent,
        .initial ⟨"", "", .ofSwitch ""⟩ .unlimited .empty⟩
    Reply.texts (Generator.serveAll ⟨5⟩ Buffer.source requests session).1 = ["yy", "zxy"] ∧
      (Generator.serve ⟨5⟩ Buffer.source ⟨xyz, 5⟩ session).1 = .ok (.ok "yyzxy") ∧
      (Generator.serveAll ⟨5⟩ Buffer.source requests session).2.supply
        = (Generator.serve ⟨5⟩ Buffer.source ⟨xyz, 5⟩ session).2.supply := by
  intro xyz requests session
  have htexts : Reply.texts (Generator.serveAll ⟨5⟩ Buffer.source requests session).1
      = ["yy", "zxy"] := by decide +kernel
  have hparts := (generation_by_parts ⟨5⟩ xyz 2 3 (by decide) (by decide) requests rfl).1
    Reservoir Buffer.source session
  have hwhole := (hparts.strings "yyzxy").mpr ⟨"yy", "zxy", htexts, by decide⟩
  exact ⟨htexts, hwhole, hparts.supply "yyzxy" hwhole⟩

end Passforge
