import Passforge.Proofs.Serving

/-!
# Counters over Whole Runs

The counters of a generator tell what came of all requests made to it: how many
strings it gave and how many characters they had, and how many requests it
refused for each reason. This holds for any source, also for one whose answers
stray from the alphabet. Such a request stops with a fault before anything is
counted, and the requests after it are counted as if it had not been made.

`Tally.Accounts` is the invariant, a statement about the counters and the
replies so far. It holds of new counters and no replies, one request keeps it
(`Accounts.serve`), and so does a run of any length (`Accounts.serveAll`).

The refusals are kept in the order of their reasons, and one is found from the
front. Only because the reasons increase strictly is it safe to insert a new
one before the first greater one, so their order is part of the invariant.

## Main definitions

* `Reply`: What came of a request.
* `Generator.serveAll`: Serves requests in turn.
* `Cause`: What refusals are told apart by.
* `Tally.Accounts`: The counters tell what came of all requests.

## Theorems

* `lookup_bump_eq`, `lookup_bump`: Counting a refusal adds one to its reason
  alone.
* `Accounts.text`, `Accounts.rejection`, `Accounts.halt`: What one reply does.
* `serve_cases`: What one request can do to the counters.
* `Accounts.serveAll`: The counters account for every request of a run.
* `serveAll_congr`: What a run comes to depends on the source alone.
* `counters_account_for_every_request`: All of it together.
-/

namespace Passforge

/-- What came of a request: a string, a refusal, or nothing. -/
abbrev Reply : Type := Except Halt (Except Rejection String)

namespace Reply

/-- The string of a reply. -/
def text? : Reply → Option String
  | .ok (.ok text) => some text
  | _ => none

/-- The refusal of a reply. -/
def rejection? : Reply → Option Rejection
  | .ok (.error rejection) => some rejection
  | _ => none

/-- The strings among replies. -/
def texts (replies : List Reply) : List String :=
  replies.filterMap text?

/-- The characters of the strings among replies. -/
def characters (replies : List Reply) : List Char :=
  (texts replies).flatMap String.toList

/-- The refusals among replies. -/
def rejections (replies : List Reply) : List Rejection :=
  replies.filterMap rejection?

theorem filterMap_concat {α β : Type} (f : α → Option β) (xs : List α) (x : α) :
    (xs ++ [x]).filterMap f = xs.filterMap f ++ (f x).toList := by
  rw [List.filterMap_append]
  rcases h : f x with _ | y
  · simp [h]
  · simp [h]

theorem texts_concat (replies : List Reply) (reply : Reply) :
    texts (replies ++ [reply]) = texts replies ++ reply.text?.toList :=
  filterMap_concat text? replies reply

theorem characters_concat (replies : List Reply) (reply : Reply) :
    characters (replies ++ [reply])
      = characters replies ++ reply.text?.toList.flatMap String.toList := by
  unfold characters
  rw [texts_concat, List.flatMap_append]

theorem rejections_concat (replies : List Reply) (reply : Reply) :
    rejections (replies ++ [reply]) = rejections replies ++ reply.rejection?.toList :=
  filterMap_concat rejection? replies reply

end Reply

/-- Serves requests in turn, also after one that came to no end. -/
def Generator.serveAll {σ : Type} (g : Generator) (source : Source σ) :
    List Request → Session σ → List Reply × Session σ
  | [], session => ([], session)
  | r :: rs, session =>
    let (reply, session) := g.serve source r session
    let (replies, session) := serveAll g source rs session
    (reply :: replies, session)

/-- What refusals are told apart by. -/
inductive Cause where
  | alphabet | length | maximum
  deriving DecidableEq

/-- The label that refusals of a cause are counted under. -/
def Cause.label : Cause → String
  | .alphabet => "invalid_alphabet"
  | .length => "invalid_length"
  | .maximum => "length_too_large"

/-- The cause of a refusal. -/
def Rejection.cause : Rejection → Cause
  | .invalidAlphabet => .alphabet
  | .invalidLength _ => .length
  | .lengthTooLarge _ _ => .maximum

theorem Rejection.reason_eq (rejection : Rejection) : rejection.reason = rejection.cause.label := by
  cases rejection <;> rfl

theorem Cause.label_injective {c c' : Cause} (h : c.label = c'.label) : c = c' := by
  cases c <;> cases c' <;> first | rfl | exact absurd h (by decide)

namespace Metrics

section Labels

variable {value : String} {counts : List (String × UInt64)}

/-- The values increase strictly. -/
def Increasing (counts : List (String × UInt64)) : Prop :=
  counts.Pairwise fun a b => a.1 < b.1

theorem mem_bump {e : String × UInt64} (h : e ∈ bump value counts) :
    e.1 = value ∨ ∃ e' ∈ counts, e.1 = e'.1 := by
  fun_induction bump value counts with
  | case1 => exact .inl (by rw [List.mem_singleton.mp h])
  | case2 v n rest heq =>
      rcases List.mem_cons.mp h with rfl | hrest
      · exact .inl (beq_iff_eq.mp heq).symm
      · exact .inr ⟨e, List.mem_cons_of_mem _ hrest, rfl⟩
  | case3 v n rest hne hlt =>
      rcases List.mem_cons.mp h with rfl | hrest
      · exact .inl rfl
      · exact .inr ⟨e, hrest, rfl⟩
  | case4 v n rest hne hlt ih =>
      rcases List.mem_cons.mp h with rfl | hrest
      · exact .inr ⟨_, List.mem_cons_self, rfl⟩
      · refine (ih hrest).imp id ?_
        rintro ⟨e', he', heq⟩
        exact ⟨e', List.mem_cons_of_mem _ he', heq⟩

theorem lt_of_not {v : String} (hne : ¬ (value == v) = true) (hlt : ¬ value < v) : v < value := by
  rw [String.not_lt] at hlt
  exact String.not_le.mp fun hle => hne (beq_iff_eq.mpr (String.le_antisymm hle hlt))

theorem Increasing.bump (h : Increasing counts) : Increasing (bump value counts) := by
  unfold Increasing at h ⊢
  fun_induction Metrics.bump value counts with
  | case1 => exact List.pairwise_singleton _ _
  | case2 v n rest heq =>
      rw [List.pairwise_cons] at h ⊢
      exact h
  | case3 v n rest hne hlt =>
      rw [List.pairwise_cons]
      refine ⟨fun e he => ?_, h⟩
      rcases List.mem_cons.mp he with rfl | hrest
      · exact hlt
      · exact String.lt_trans hlt ((List.pairwise_cons.mp h).1 e hrest)
  | case4 v n rest hne hlt ih =>
      -- Whatever the rest gains is the value, which is greater than the first.
      rw [List.pairwise_cons] at h ⊢
      refine ⟨fun e he => ?_, ih h.2⟩
      rcases mem_bump he with heq | ⟨e', he', heq⟩
      · rw [heq]
        exact lt_of_not hne hlt
      · rw [heq]
        exact h.1 e' he'

theorem lookup_of_below (h : ∀ e ∈ counts, value < e.1) : counts.lookup value = none := by
  rw [List.lookup_eq_none_iff]
  intro e he
  rw [bne_iff_ne]
  rintro rfl
  exact String.lt_irrefl _ (h e he)

/-- A value that is counted is listed with one more, and every other as before. -/
theorem lookup_bump_eq (h : Increasing counts) (other : String) :
    (bump value counts).lookup other
      = if other = value then some ((counts.lookup value).getD 0 + 1) else counts.lookup other := by
  unfold Increasing at h
  fun_induction bump value counts with
  | case1 =>
      by_cases ho : other = value
      · simp [ho]
      · simp [List.lookup_cons, ho, beq_false_of_ne ho]
  | case2 v n rest heq =>
      obtain rfl := beq_iff_eq.mp heq
      by_cases ho : other = value
      · subst ho
        simp
      · simp [List.lookup_cons, ho, beq_false_of_ne ho]
  | case3 v n rest hne hlt =>
      by_cases ho : other = value
      · -- A value below the first one is not there yet.
        subst ho
        have hnone : ((v, n) :: rest).lookup other = none := by
          refine lookup_of_below fun e he => ?_
          rcases List.mem_cons.mp he with rfl | hrest
          · exact hlt
          · exact String.lt_trans hlt ((List.pairwise_cons.mp h).1 e hrest)
        rw [hnone]
        simp
      · simp [List.lookup_cons, ho, beq_false_of_ne ho]
  | case4 v n rest hne hlt ih =>
      have hvalue : (value == v) = false := by simpa using hne
      rw [List.lookup_cons, List.lookup_cons, hvalue, ih (List.pairwise_cons.mp h).2]
      by_cases ho : other = v
      · subst ho
        have hother : other ≠ value := fun heq => hne (beq_iff_eq.mpr heq.symm)
        simp [hother]
      · simp [List.lookup_cons, beq_false_of_ne ho]

/-- Counting a value adds one to it and to no other. -/
theorem lookup_bump (h : Increasing counts) (other : String) :
    ((bump value counts).lookup other).getD 0
      = (counts.lookup other).getD 0 + if other = value then 1 else 0 := by
  rw [lookup_bump_eq h]
  by_cases ho : other = value
  · simp [ho]
  · simp [ho]

end Labels

namespace Tally

/-- The counters tell what came of all requests, the numbers wrapping at 64
    bits. Under no other reason than that of a refusal is anything counted. -/
structure Accounts (t : Tally) (replies : List Reply) : Prop where
  strings : t.strings.toNat = (Reply.texts replies).length % Number.natBound
  characters : t.characters.toNat = (Reply.characters replies).length % Number.natBound
  rejections : ∀ c : Cause, ((t.rejections.lookup c.label).getD 0).toNat
    = (Reply.rejections replies).countP (·.cause = c) % Number.natBound
  reasons : ∀ e ∈ t.rejections, ∃ rejection ∈ Reply.rejections replies,
    e.1 = rejection.cause.label
  increasing : Increasing t.rejections

theorem roundToBinary64_of_le {n : Nat} (h : n ≤ Number.twoTo 53) :
    Number.roundToBinary64 n = n := by
  rcases Nat.lt_or_eq_of_le h with hlt | rfl
  · exact if_pos hlt
  · decide

theorem generated_of_length {length : Int} (h : 0 ≤ length) (t : Tally) :
    t.generated length = ({ t with
      strings := t.strings + 1
      characters := t.characters + UInt64.ofNat (Number.roundToBinary64 length.toNat) },
      .ok ()) := by
  unfold generated
  rw [if_neg (by omega)]

namespace Accounts

variable {t : Tally} {replies : List Reply}

theorem zero : Accounts .zero [] where
  strings := rfl
  characters := rfl
  rejections _ := rfl
  reasons _ he := absurd he List.not_mem_nil
  increasing := List.Pairwise.nil

/-- A reply without string and refusal is not counted. -/
theorem halt (h : t.Accounts replies) (e : Halt) : t.Accounts (replies ++ [.error e]) := by
  have htexts : Reply.texts (replies ++ [.error e]) = Reply.texts replies :=
    (Reply.texts_concat _ _).trans (List.append_nil _)
  have hcharacters : Reply.characters (replies ++ [.error e]) = Reply.characters replies :=
    (Reply.characters_concat _ _).trans (List.append_nil _)
  have hrejections : Reply.rejections (replies ++ [.error e]) = Reply.rejections replies :=
    (Reply.rejections_concat _ _).trans (List.append_nil _)
  exact ⟨htexts ▸ h.strings, hcharacters ▸ h.characters, hrejections ▸ h.rejections,
    hrejections ▸ h.reasons, h.increasing⟩

/-- A refusal is counted under its reason. -/
theorem rejection (h : t.Accounts replies) (rejection : Rejection) :
    (t.rejected rejection.reason).Accounts (replies ++ [.ok (.error rejection)]) := by
  have htexts : Reply.texts (replies ++ [.ok (.error rejection)]) = Reply.texts replies :=
    (Reply.texts_concat _ _).trans (List.append_nil _)
  have hcharacters : Reply.characters (replies ++ [.ok (.error rejection)])
      = Reply.characters replies := (Reply.characters_concat _ _).trans (List.append_nil _)
  have hrejections : Reply.rejections (replies ++ [.ok (.error rejection)])
      = Reply.rejections replies ++ [rejection] := Reply.rejections_concat _ _
  refine ⟨htexts ▸ h.strings, hcharacters ▸ h.characters, fun c => ?_, fun e he => ?_,
    h.increasing.bump⟩
  · have hsame : c.label = rejection.reason ↔ rejection.cause = c := by
      rw [rejection.reason_eq]
      exact ⟨fun heq => (Cause.label_injective heq).symm, fun heq => by rw [heq]⟩
    have hcount := h.rejections c
    rw [hrejections, List.countP_append]
    unfold rejected
    rw [lookup_bump h.increasing, UInt64.toNat_add, hcount]
    by_cases hc : rejection.cause = c
    · rw [if_pos (hsame.mpr hc), List.countP_singleton, if_pos (by simpa using hc)]
      exact Nat.mod_add_mod _ _ _
    · rw [if_neg fun heq => hc (hsame.mp heq), List.countP_singleton, if_neg (by simpa using hc)]
      exact Nat.mod_add_mod _ _ _
  · rw [hrejections]
    rcases mem_bump he with heq | ⟨e', he', heq⟩
    · exact ⟨rejection, by simp, by rw [heq, rejection.reason_eq]⟩
    · obtain ⟨rejection', hmem, hlabel⟩ := h.reasons e' he'
      exact ⟨rejection', List.mem_append_left _ hmem, heq.trans hlabel⟩

/-- A string is counted with its characters. -/
theorem text (h : t.Accounts replies) {length : Int} {text : String}
    (htext : (text.length : Int) = length) (hlength : length ≤ Number.twoTo 53) :
    (t.generated length).1.Accounts (replies ++ [.ok (.ok text)]) := by
  have htexts : Reply.texts (replies ++ [.ok (.ok text)]) = Reply.texts replies ++ [text] :=
    Reply.texts_concat _ _
  have hcharacters : Reply.characters (replies ++ [.ok (.ok text)])
      = Reply.characters replies ++ text.toList :=
    (Reply.characters_concat _ _).trans (congrArg _ (List.append_nil _))
  have hrejections : Reply.rejections (replies ++ [.ok (.ok text)]) = Reply.rejections replies :=
    (Reply.rejections_concat _ _).trans (List.append_nil _)
  have hround : Number.roundToBinary64 length.toNat = text.length := by
    rw [roundToBinary64_of_le (by omega)]
    omega
  rw [generated_of_length (by omega), hround]
  refine ⟨?_, ?_, hrejections ▸ h.rejections, hrejections ▸ h.reasons, h.increasing⟩
  · rw [htexts, List.length_append, List.length_singleton, UInt64.toNat_add, h.strings]
    exact Nat.mod_add_mod _ _ _
  · rw [hcharacters, List.length_append, String.length_toList, UInt64.toNat_add,
      UInt64.toNat_ofNat', h.characters]
    exact (Nat.add_mod _ _ _).symm

/-- Fewer requests than 64 bits can tell are counted exactly. -/
theorem exact (h : t.Accounts replies) (hfew : replies.length < Number.natBound) :
    t.strings.toNat = (Reply.texts replies).length ∧
      ∀ c : Cause, ((t.rejections.lookup c.label).getD 0).toNat
        = (Reply.rejections replies).countP (·.cause = c) := by
  have htexts : (Reply.texts replies).length ≤ replies.length := List.length_filterMap_le _ _
  have hrejections : (Reply.rejections replies).length ≤ replies.length :=
    List.length_filterMap_le _ _
  refine ⟨h.strings.trans (Nat.mod_eq_of_lt (by omega)), fun c => ?_⟩
  have hcount : (Reply.rejections replies).countP (·.cause = c)
      ≤ (Reply.rejections replies).length := List.countP_le_length
  exact (h.rejections c).trans (Nat.mod_eq_of_lt (by omega))

end Accounts

end Tally

namespace Board

/-- The counters of a board. -/
def tally? : Board → Option Tally
  | .absent => none
  | .loose t => some t
  | .registered t => some t

theorem tally?_served (b : Board) (length : Int) :
    (b.served length).tally? = b.tally?.map fun t => (t.generated length).1 := by
  cases b <;> rfl

theorem tally?_rejected (b : Board) (reason : String) :
    (b.rejected reason).tally? = b.tally?.map fun t => t.rejected reason := by
  cases b <;> rfl

/-- Counting a string of any length there is can not fault. -/
theorem generated_of_length {length : Int} (h : 0 ≤ length) (b : Board) :
    generated length b = (.ok (), b.served length) := by
  have hsettle (wrap : Tally → Board) (t : Tally) :
      generated.settle wrap (t.generated length) b = (.ok (), wrap (t.generated length).1) := by
    rw [Tally.generated_of_length h]
    rfl
  cases b with
  | absent => rfl
  | loose t => exact hsettle .loose t
  | registered t => exact hsettle .registered t

end Board

end Metrics

section Runs

open Metrics

variable {σ : Type} {g : Generator} {source : Source σ}

/-- A string has the length that was asked for, whatever the source does. -/
theorem length_of_generate {r : Request} {s s' : σ} {text : String}
    (h : g.generate source r s = (.ok (.ok text), s')) : (text.length : Int) = r.length := by
  rcases hc : g.check r with _ | rejection
  · obtain ⟨-, hlength, -⟩ := (check_eq_none_iff g r).mp hc
    rcases source.exists_answers r.alphabet.size r.length.toNat s with
      ⟨xs, s₁, hxs, hlen | ⟨hlt, ⟨x, s₂, hd, hx⟩ | ⟨e, s₂, hd⟩⟩⟩
    · rw [generate_of_answers g source r hc s s₁ xs hxs hlen] at h
      cases h
      exact (meets_of_answers r xs (by omega) hxs.2).length
    -- A source that strays or halts gives no string.
    · rw [generate_of_stray g source r hc s s₁ s₂ xs x hxs hlt hd hx] at h
      cases h
    · rw [generate_of_halt g source r hc s s₁ s₂ xs e hxs hlt hd] at h
      cases h
  · rw [generate_of_rejection g source r rejection hc s] at h
    cases h

/-- What one request can do to the counters. -/
theorem serve_cases (g : Generator) (source : Source σ) (r : Request) (session : Session σ) :
    (∃ e, (g.serve source r session).1 = .error e ∧
      (g.serve source r session).2.board = session.board) ∨
    (∃ rejection, (g.serve source r session).1 = .ok (.error rejection) ∧
      (g.serve source r session).2.board = session.board.rejected rejection.reason) ∨
    (∃ text, (g.serve source r session).1 = .ok (.ok text) ∧ (text.length : Int) = r.length ∧
      (g.serve source r session).2.board = session.board.served r.length) := by
  rcases hgen : g.generate source r session.supply with ⟨e | rejection | text, s'⟩
  · rw [serve_of_halt hgen]
    exact .inl ⟨e, rfl, rfl⟩
  · rw [serve_of_rejection hgen]
    exact .inr (.inl ⟨rejection, rfl, rfl⟩)
  · rw [serve_of_text hgen]
    exact .inr (.inr ⟨text, rfl, length_of_generate hgen, rfl⟩)

/-- One request keeps the account. -/
theorem Metrics.Tally.Accounts.serve {t : Tally} {past : List Reply} (h : t.Accounts past)
    {r : Request} (hr : r.length ≤ Number.twoTo 53) {session : Session σ}
    (ht : session.board.tally? = some t) :
    ∃ t', (g.serve source r session).2.board.tally? = some t' ∧
      t'.Accounts (past ++ [(g.serve source r session).1]) := by
  rcases serve_cases g source r session with
    ⟨e, hreply, hboard⟩ | ⟨rejection, hreply, hboard⟩ | ⟨text, hreply, htext, hboard⟩
  · rw [hreply, hboard]
    exact ⟨t, ht, h.halt e⟩
  · rw [hreply, hboard, Board.tally?_rejected, ht]
    exact ⟨t.rejected rejection.reason, rfl, h.rejection rejection⟩
  · rw [hreply, hboard, Board.tally?_served, ht]
    exact ⟨(t.generated r.length).1, rfl, h.text htext hr⟩

theorem serveAll_cons (r : Request) (rs : List Request) (session : Session σ) :
    g.serveAll source (r :: rs) session
      = ((g.serve source r session).1
          :: (g.serveAll source rs (g.serve source r session).2).1,
        (g.serveAll source rs (g.serve source r session).2).2) := rfl

/-- So does a run. -/
theorem Metrics.Tally.Accounts.serveAll {t : Tally} {past : List Reply} (h : t.Accounts past)
    (rs : List Request) (hrs : ∀ r ∈ rs, r.length ≤ Number.twoTo 53) {session : Session σ}
    (ht : session.board.tally? = some t) :
    ∃ t', (g.serveAll source rs session).2.board.tally? = some t' ∧
      t'.Accounts (past ++ (g.serveAll source rs session).1) := by
  -- Each request adds its reply to the past ones, so the past is general.
  induction rs generalizing t past session with
  | nil => exact ⟨t, ht, by rw [Generator.serveAll, List.append_nil]; exact h⟩
  | cons r rs ih =>
      rw [List.forall_mem_cons] at hrs
      have hone : ∃ t₁, (g.serve source r session).2.board.tally? = some t₁ ∧
          t₁.Accounts (past ++ [(g.serve source r session).1]) := h.serve hrs.1 ht
      obtain ⟨t₁, ht₁, h₁⟩ := hone
      obtain ⟨t₂, ht₂, h₂⟩ := ih h₁ hrs.2 ht₁
      rw [serveAll_cons]
      exact ⟨t₂, ht₂, by rwa [List.append_assoc] at h₂⟩

/-- Replies and source depend on the source alone. -/
theorem serveAll_congr (g : Generator) (source : Source σ) (rs : List Request)
    {session session' : Session σ}
    (h : session.supply = session'.supply) :
    (g.serveAll source rs session).1 = (g.serveAll source rs session').1 ∧
      (g.serveAll source rs session).2.supply = (g.serveAll source rs session').2.supply := by
  induction rs generalizing session session' with
  | nil => exact ⟨rfl, h⟩
  | cons r rs ih =>
      -- Counters and journals part ways here, but no later draw looks at them.
      have hone := serve_eq_generate g source r session
      have htwo := serve_eq_generate g source r session'
      rw [h] at hone
      obtain ⟨hreplies, hsupply⟩ := ih (hone.2.trans htwo.2.symm)
      rw [serveAll_cons, serveAll_cons, hone.1, htwo.1, hreplies]
      exact ⟨rfl, hsupply⟩

theorem length_serveAll (rs : List Request) (session : Session σ) :
    (g.serveAll source rs session).1.length = rs.length := by
  induction rs generalizing session with
  | nil => rfl
  | cons r rs ih =>
      rw [serveAll_cons, List.length_cons, List.length_cons, ih]

/-- Without counters nothing is counted. -/
theorem serveAll_of_absent (rs : List Request) {session : Session σ}
    (h : session.board = .absent) : (g.serveAll source rs session).2.board = .absent := by
  induction rs generalizing session with
  | nil => exact h
  | cons r rs ih =>
      have hone : (g.serve source r session).2.board = .absent := by
        rcases serve_cases g source r session with
          ⟨_, _, hboard⟩ | ⟨_, _, hboard⟩ | ⟨_, _, _, hboard⟩ <;> rw [hboard, h] <;> rfl
      rw [serveAll_cons]
      exact ih hone

end Runs

/-- The counters account for every request over whole runs, whatever the source
    does and however the requests go. After a run from new counters they hold
    the number of strings, the number of their characters and the number of
    refusals of each cause, and no other reason is listed. A request that comes
    to no end changes none of them, and counting never faults. Without counters
    every reply is the same, and so is what is left of the source. -/
theorem counters_account_for_every_request {σ : Type} (g : Generator) (source : Source σ)
    (requests : List Request) (hlength : ∀ r ∈ requests, r.length ≤ Number.twoTo 53)
    (session : Session σ) :
    -- What the counters hold after a run.
    (session.board.tally? = some .zero →
      ∃ t, (g.serveAll source requests session).2.board.tally? = some t ∧
        t.Accounts (g.serveAll source requests session).1 ∧
        (requests.length < Number.natBound →
          t.strings.toNat = (Reply.texts (g.serveAll source requests session).1).length ∧
          ∀ c : Cause, ((t.rejections.lookup c.label).getD 0).toNat
            = (Reply.rejections (g.serveAll source requests session).1).countP (·.cause = c))) ∧
    -- What one request does to them.
    (∀ r e, (g.serve source r session).1 = .error e →
      (g.serve source r session).2.board = session.board) ∧
    (∀ r text, (g.serve source r session).1 = .ok (.ok text) →
      Metrics.Board.generated r.length session.board
        = (.ok (), (g.serve source r session).2.board)) ∧
    -- What a run is without them.
    (g.serveAll source requests { session with board := .absent }).1
      = (g.serveAll source requests session).1 ∧
    (g.serveAll source requests { session with board := .absent }).2.supply
      = (g.serveAll source requests session).2.supply ∧
    (g.serveAll source requests { session with board := .absent }).2.board = .absent := by
  have hsupply : ({ session with board := .absent } : Session σ).supply = session.supply := rfl
  have hsame := serveAll_congr g source requests hsupply
  refine ⟨fun hzero => ?_, fun r e hhalt => ?_, fun r text htext => ?_,
    hsame.1, hsame.2, serveAll_of_absent requests rfl⟩
  · have hrun : ∃ t, (g.serveAll source requests session).2.board.tally? = some t ∧
        t.Accounts ([] ++ (g.serveAll source requests session).1) :=
      Metrics.Tally.Accounts.zero.serveAll requests hlength hzero
    obtain ⟨t, ht, haccounts⟩ := hrun
    rw [List.nil_append] at haccounts
    exact ⟨t, ht, haccounts, fun hfew => haccounts.exact (by rwa [length_serveAll])⟩
  · rcases serve_cases g source r session with
      ⟨_, _, hboard⟩ | ⟨_, hreply, _⟩ | ⟨_, hreply, _, _⟩
    · exact hboard
    · cases hreply.symm.trans hhalt
    · cases hreply.symm.trans hhalt
  · rcases serve_cases g source r session with
      ⟨_, hreply, _⟩ | ⟨_, hreply, _⟩ | ⟨_, _, hlen, hboard⟩
    · cases hreply.symm.trans htext
    · cases hreply.symm.trans htext
    · rw [hboard, Metrics.Board.generated_of_length (by omega)]

/-- An answer beyond the alphabet, then a string and a refusal of each cause. -/
theorem counters_account_for_every_request_after_stray :
    let xy : Alphabet := .ofChars ['x', 'y']
    let requests : List Request := [⟨xy, 3⟩, ⟨xy, 2⟩, ⟨.ofChars [], 1⟩, ⟨xy, -1⟩, ⟨xy, 4⟩]
    let session : Session ListedSource :=
      ⟨⟨#[0, 7, 1, 0], 0⟩, .registered .zero, .initial ⟨"", "", .ofSwitch ""⟩ .unlimited .empty⟩
    let run := Generator.serveAll ⟨3⟩ ListedSource.source requests session
    run.1.head? = some (.error (.fault (.outOfRange 7 2))) ∧
      ∃ t, run.2.board.tally? = some t ∧ t.strings.toNat = 1 ∧ t.characters.toNat = 2 ∧
        ∀ c : Cause, ((t.rejections.lookup c.label).getD 0).toNat = 1 := by
  intro xy requests session run
  have htexts : Reply.texts run.1 = ["yx"] := by decide +kernel
  have hrejections : Reply.rejections run.1
      = [.invalidAlphabet, .invalidLength (-1), .lengthTooLarge 4 3] := by decide +kernel
  have hfirst : run.1.head? = some (.error (.fault (.outOfRange 7 2))) := by rfl
  have hlength : ∀ r ∈ requests, r.length ≤ Number.twoTo 53 := by decide
  obtain ⟨haccount, -⟩ :=
    counters_account_for_every_request ⟨3⟩ ListedSource.source requests hlength session
  obtain ⟨t, ht, haccounts, hexact⟩ := haccount rfl
  obtain ⟨hstrings, hcauses⟩ := hexact (by decide)
  refine ⟨hfirst, t, ht, ?_, ?_, fun c => ?_⟩
  · exact hstrings.trans (congrArg List.length htexts)
  · rw [haccounts.characters, Reply.characters, htexts]
    decide
  · rw [hcauses c, hrejections]
    cases c <;> decide

end Passforge
