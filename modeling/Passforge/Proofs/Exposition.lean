import Passforge.Proofs.Accounting
import Passforge.Proofs.Streams
import Passforge.Proofs.WholeNumbers

/-!
# What Published Counters Tell

Counters are published as a text, and the text is all that anyone gets to see of
them. It depends on what was counted and not on the order in which it was, and
as long as the numbers are within what is printed exactly, it can be read in one
way only.

The first part follows the counters. A use of them counts a string or a refusal,
or tries to register new ones, which never succeeds. `Tally.Tells` says what the
counters are after any uses, in terms of totals over the uses, and totals do not
depend on order. Refusals are listed in increasing order of their reasons, so
the list is known from its entries (`Increasing.ext`).

The second part takes the text apart from the front. Everything fixed cancels.
A number ends at its line's end, which is not part of any number. A reason ends
at the first quote that is not escaped: an escaped character never starts with a
quote, and none is the beginning of another (`escapeLabelChar_append_inj`).

## Main definitions

* `Use`: A string, a refusal, or an attempt to register counters.
* `Board.after`: The counters after a number of uses.
* `total`: The sum of what each use contributes.
* `Tally.Tells`: The counters tell the totals of the uses.
* `Board.text`: The text published.
* `Tally.Exact`, `Use.Exact`: All numbers, all totals can be printed exactly.

## Theorems

* `Increasing.ext`: Increasing lists are known from what they list.
* `total_perm`: Totals do not depend on order.
* `Tally.Tells.use`, `Tally.Tells.after`: Uses keep the counters true.
* `escape_cancel`, `number_cancel`: The text can be taken apart from the front.
* `Tally.text_injective`: It tells the counters.
* `published_counters_tell_totals`: All of it together.
-/

namespace Passforge.Metrics

section Listing

/-- Nothing below the first value is listed. -/
theorem Increasing.not_lt_head {e : String × UInt64} {counts : List (String × UInt64)}
    {value : String} {n : UInt64} (h : Increasing (e :: counts))
    (hlisted : (e :: counts).lookup value = some n) : ¬ value < e.1 := by
  intro hlt
  rw [lookup_of_below] at hlisted
  · cases hlisted
  · intro e' he'
    rcases List.mem_cons.mp he' with rfl | he'
    · exact hlt
    · exact String.lt_trans hlt ((List.pairwise_cons.mp h).1 e' he')

theorem Increasing.lookup_of_mem {counts : List (String × UInt64)} (h : Increasing counts)
    {e : String × UInt64} (he : e ∈ counts) : counts.lookup e.1 = some e.2 := by
  induction counts with
  | nil => cases he
  | cons e' counts ih =>
      have h' := List.pairwise_cons.mp h
      rcases List.mem_cons.mp he with rfl | he
      · exact List.lookup_cons_self
      · have hne : e.1 ≠ e'.1 := fun heq => String.lt_irrefl _ (heq ▸ h'.1 e he)
        rw [List.lookup_cons, beq_false_of_ne hne]
        exact ih h'.2 he

/-- Increasing lists are equal if they list the same. -/
theorem Increasing.ext {xs ys : List (String × UInt64)} (hx : Increasing xs) (hy : Increasing ys)
    (h : ∀ value, xs.lookup value = ys.lookup value) : xs = ys := by
  induction xs generalizing ys with
  | nil =>
      rcases ys with _ | ⟨⟨w, m⟩, ys⟩
      · rfl
      · have hw := h w
        simp at hw
  | cons e xs ih =>
      obtain ⟨v, n⟩ := e
      rcases ys with _ | ⟨⟨w, m⟩, ys⟩
      · have hv := h v
        simp at hv
      -- The first value of each list is listed in the other, so neither is below the other.
      have hv : ((w, m) :: ys).lookup v = some n := by rw [← h v, List.lookup_cons_self]
      have hw : ((v, n) :: xs).lookup w = some m := by rw [h w, List.lookup_cons_self]
      obtain rfl : v = w := String.le_antisymm (String.not_lt.mp (hx.not_lt_head hw))
        (String.not_lt.mp (hy.not_lt_head hv))
      rw [List.lookup_cons_self, Option.some.injEq] at hv
      subst hv
      have hx' := List.pairwise_cons.mp hx
      have hy' := List.pairwise_cons.mp hy
      rw [ih hx'.2 hy'.2 fun value => ?_]
      by_cases hvalue : value = v
      · subst hvalue
        rw [lookup_of_below hx'.1, lookup_of_below hy'.1]
      · have hrest := h value
        rwa [List.lookup_cons, List.lookup_cons, beq_false_of_ne hvalue] at hrest

end Listing

/-- A use of counters. -/
inductive Use where
  | generated (length : Int)
  | rejected (reason : String)
  | renewed
  deriving DecidableEq

namespace Use

/-- The use counts something. -/
def counts : Use → Bool
  | .renewed => false
  | _ => true

/-- The strings that a use counts. -/
def strings : Use → Nat
  | .generated _ => 1
  | _ => 0

/-- The characters that a use counts; a negative length counts none. -/
def characters : Use → Nat
  | .generated length => length.toNat
  | _ => 0

/-- The refusals for a reason that a use counts. -/
def refusals (reason : String) : Use → Nat
  | .rejected other => if reason = other then 1 else 0
  | _ => 0

end Use

/-- The sum of what each use contributes. -/
def total (f : Use → Nat) : List Use → Nat
  | [] => 0
  | u :: uses => f u + total f uses

section Totals

variable {f : Use → Nat} {uses uses' : List Use}

theorem total_append (uses uses' : List Use) :
    total f (uses ++ uses') = total f uses + total f uses' := by
  induction uses with
  | nil => simp [total]
  | cons u uses ih => rw [List.cons_append, total, total, ih, Nat.add_assoc]

theorem total_concat (uses : List Use) (u : Use) : total f (uses ++ [u]) = total f uses + f u := by
  rw [total_append, total, total, Nat.add_zero]

/-- Totals do not depend on order. -/
theorem total_perm (h : uses.Perm uses') : total f uses = total f uses' := by
  induction h with
  | nil => rfl
  | cons u _ ih => rw [total, total, ih]
  | swap u v uses => simp only [total, Nat.add_left_comm]
  | trans _ _ ih ih' => rw [ih, ih']

/-- Uses that contribute nothing may be left out. -/
theorem total_filter (hf : f .renewed = 0) (uses : List Use) :
    total f (uses.filter Use.counts) = total f uses := by
  induction uses with
  | nil => rfl
  | cons u uses ih =>
      cases u with
      | renewed => rw [List.filter_cons_of_neg (by decide), ih, total, hf, Nat.zero_add]
      | _ => rw [List.filter_cons_of_pos rfl, total, total, ih]

/-- Lengths whose total is small are counted as they are. -/
theorem total_rounded (h : total Use.characters uses ≤ Number.twoTo 53) :
    total (fun u => Number.roundToBinary64 u.characters) uses = total Use.characters uses := by
  induction uses with
  | nil => rfl
  | cons u uses ih =>
      rw [total] at h
      rw [total, total, ih (by omega), Tally.roundToBinary64_of_le (by omega)]

end Totals

namespace Board

/-- Makes use of counters. -/
def use : Use → Run Board Unit
  | .generated length => generated length
  | .rejected reason => modify (·.rejected reason)
  | .renewed => renew

/-- The counters after uses, whether they faulted or not. -/
def after (uses : List Use) (b : Board) : Board :=
  uses.foldl (fun b u => (use u b).2) b

/-- The text published. -/
def text (b : Board) : String :=
  (publish (.ok b.families) .unlimited).1.taken

end Board

/-- The counters tell the totals of the uses. The numbers wrap at 64 bits, and a
    length is rounded before it is counted. A reason without refusals is not
    listed. -/
structure Tally.Tells (t : Tally) (uses : List Use) : Prop where
  strings : t.strings = UInt64.ofNat (total Use.strings uses)
  characters : t.characters
    = UInt64.ofNat (total (fun u => Number.roundToBinary64 u.characters) uses)
  rejections : ∀ reason, t.rejections.lookup reason
    = if total (Use.refusals reason) uses = 0 then none
      else some (UInt64.ofNat (total (Use.refusals reason) uses))
  increasing : Increasing t.rejections

namespace Tally

theorem tells_zero : Tally.zero.Tells [] where
  strings := rfl
  characters := rfl
  rejections _ := rfl
  increasing := List.Pairwise.nil

variable {t t' : Tally} {uses uses' : List Use}

theorem eq_of_counters (hstrings : t.strings = t'.strings)
    (hcharacters : t.characters = t'.characters) (hrejections : t.rejections = t'.rejections) :
    t = t' := by
  cases t
  cases t'
  rw [Tally.mk.injEq]
  exact ⟨hstrings, hcharacters, hrejections⟩

/-- Counters that tell the same totals are the same. -/
theorem Tells.unique (h : t.Tells uses) (h' : t'.Tells uses')
    (hstrings : total Use.strings uses = total Use.strings uses')
    (hcharacters : total (fun u => Number.roundToBinary64 u.characters) uses
      = total (fun u => Number.roundToBinary64 u.characters) uses')
    (hrefusals : ∀ reason, total (Use.refusals reason) uses = total (Use.refusals reason) uses') :
    t = t' := by
  have hrejections : t.rejections = t'.rejections := by
    refine h.increasing.ext h'.increasing fun reason => ?_
    rw [h.rejections, h'.rejections, hrefusals]
  exact eq_of_counters (h.strings.trans (hstrings ▸ h'.strings.symm))
    (h.characters.trans (hcharacters ▸ h'.characters.symm)) hrejections

/-- A string is counted, with the length it is said to have. -/
theorem Tells.generated (h : t.Tells uses) (length : Int) :
    (t.generated length).1.Tells (uses ++ [.generated length]) := by
  -- Nothing is added for a negative length, which is what it counts for.
  have hresult : (t.generated length).1 = { t with
      strings := t.strings + 1
      characters := t.characters + UInt64.ofNat (Number.roundToBinary64 length.toNat) } := by
    by_cases hlength : 0 ≤ length
    · rw [generated_of_length hlength]
    · have hnone : length.toNat = 0 := by omega
      have hzero : UInt64.ofNat (Number.roundToBinary64 0) = 0 := by decide
      unfold Tally.generated
      rw [if_pos (by omega), hnone, hzero, UInt64.add_zero]
  rw [hresult]
  refine ⟨?_, ?_, fun reason => ?_, h.increasing⟩
  · rw [total_concat, UInt64.ofNat_add, ← h.strings]
    rfl
  · rw [total_concat, UInt64.ofNat_add, ← h.characters]
    rfl
  · rw [total_concat]
    exact h.rejections reason

/-- A refusal is counted under its reason. -/
theorem Tells.rejected (h : t.Tells uses) (reason : String) :
    (t.rejected reason).Tells (uses ++ [.rejected reason]) := by
  refine ⟨?_, ?_, fun other => ?_, h.increasing.bump⟩
  · rw [total_concat]
    exact h.strings
  · rw [total_concat]
    exact h.characters
  · have hone : Use.refusals other (.rejected reason) = if other = reason then 1 else 0 := rfl
    unfold Tally.rejected
    rw [total_concat, lookup_bump_eq h.increasing, hone]
    by_cases hother : other = reason
    · subst hother
      rw [if_pos rfl, if_pos rfl, if_neg (by omega), h.rejections, UInt64.ofNat_add]
      by_cases hnone : total (Use.refusals other) uses = 0
      · rw [if_pos hnone, hnone]
        rfl
      · rw [if_neg hnone]
        rfl
    · rw [if_neg hother, if_neg hother]
      exact h.rejections other

/-- An attempt to register counters leaves them as they are. -/
theorem Tells.renewed (h : t.Tells uses) : t.Tells (uses ++ [.renewed]) := by
  refine ⟨?_, ?_, fun reason => ?_, h.increasing⟩
  · rw [total_concat]
    exact h.strings
  · rw [total_concat]
    exact h.characters
  · rw [total_concat]
    exact h.rejections reason

end Tally

/-- All numbers can be printed exactly. -/
structure Tally.Exact (t : Tally) : Prop where
  strings : t.strings.toNat ≤ Number.twoTo 53
  characters : t.characters.toNat ≤ Number.twoTo 53
  rejections : ∀ e ∈ t.rejections, e.2.toNat ≤ Number.twoTo 53

/-- A fault is passed on, and the counters are kept as far as they got. -/
theorem generated_registered (t : Tally) (length : Int) :
    Board.generated length (.registered t)
      = ((t.generated length).2.mapError Halt.fault, .registered (t.generated length).1) := by
  change Board.generated.settle .registered (t.generated length) (.registered t) = _
  rcases t.generated length with ⟨t', e | ⟨⟩⟩
  · rfl
  · rfl

/-- A use keeps the counters true. -/
theorem Tally.Tells.use {t : Tally} {uses : List Use} (h : t.Tells uses) (u : Use) :
    ∃ t', (Board.use u (.registered t)).2 = .registered t' ∧ t'.Tells (uses ++ [u]) := by
  cases u with
  | generated length =>
      refine ⟨(t.generated length).1, ?_, h.generated length⟩
      exact congrArg Prod.snd (generated_registered t length)
  | rejected reason => exact ⟨t.rejected reason, rfl, h.rejected reason⟩
  | renewed => exact ⟨t, rfl, h.renewed⟩

/-- So do any number of them. -/
theorem Tally.Tells.after {t : Tally} {past : List Use} (h : t.Tells past) (uses : List Use) :
    ∃ t', Board.after uses (.registered t) = .registered t' ∧ t'.Tells (past ++ uses) := by
  induction uses generalizing t past with
  | nil => exact ⟨t, rfl, by rwa [List.append_nil]⟩
  | cons u uses ih =>
      obtain ⟨t₁, hstep, htells⟩ := h.use u
      obtain ⟨t', hafter, htells'⟩ := ih htells
      rw [List.append_assoc, List.singleton_append] at htells'
      refine ⟨t', ?_, htells'⟩
      rw [← hafter, ← hstep]
      rfl

section Reading

/-- A character stands for itself, or it is escaped by a backslash and a
    character of its own. -/
theorem escapeLabelChar_cases (c : Char) :
    (escapeLabelChar c = [c] ∧ c ≠ '\\' ∧ c ≠ '"') ∨
      ∃ b, escapeLabelChar c = ['\\', b] ∧
        (c = '\\' ∧ b = '\\' ∨ c = '\n' ∧ b = 'n' ∨ c = '"' ∧ b = '"') := by
  unfold escapeLabelChar
  split
  · exact .inr ⟨_, rfl, by simp⟩
  · exact .inr ⟨_, rfl, by simp⟩
  · exact .inr ⟨_, rfl, by simp⟩
  · exact .inl ⟨rfl, by assumption, by assumption⟩

/-- No escaped character is the beginning of another one. -/
theorem escapeLabelChar_append_inj {c d : Char} {x y : List Char}
    (h : escapeLabelChar c ++ x = escapeLabelChar d ++ y) : c = d ∧ x = y := by
  rcases escapeLabelChar_cases c with ⟨hc, hplain, -⟩ | ⟨b, hc, htable⟩
  · rcases escapeLabelChar_cases d with ⟨hd, -⟩ | ⟨b', hd, -⟩
    · simpa [hc, hd] using h
    · rw [hc, hd, List.cons_append, List.cons_append, List.cons.injEq] at h
      exact absurd h.1 hplain
  · rcases escapeLabelChar_cases d with ⟨hd, hplain, -⟩ | ⟨b', hd, htable'⟩
    · simp only [hc, hd, List.cons_append, List.nil_append, List.cons.injEq] at h
      exact absurd h.1.symm hplain
    -- Both are escaped, and the second characters are the same.
    · simp only [hc, hd, List.cons_append, List.nil_append, List.cons.injEq, true_and] at h
      refine ⟨Eq.symm ?_, h.2⟩
      rw [← h.1] at htable'
      rcases htable with ⟨rfl, rfl⟩ | ⟨rfl, rfl⟩ | ⟨rfl, rfl⟩ <;> simpa using htable'

/-- An escaped character does not start with a quote. -/
theorem escapeLabelChar_ne_quote (c : Char) (x r : List Char) :
    escapeLabelChar c ++ x ≠ '"' :: r := by
  intro h
  rcases escapeLabelChar_cases c with ⟨hc, -, hquote⟩ | ⟨b, hc, -⟩
  · rw [hc, List.cons_append, List.cons.injEq] at h
    exact hquote h.1
  · simp [hc] at h

/-- A label value ends at the first quote that is not escaped. -/
theorem escape_cancel {a b r r' : List Char}
    (h : a.flatMap escapeLabelChar ++ '"' :: r = b.flatMap escapeLabelChar ++ '"' :: r') :
    a = b ∧ r = r' := by
  induction a generalizing b with
  | nil =>
      rcases b with _ | ⟨d, b⟩
      · simpa using h
      · rw [List.flatMap_cons, List.append_assoc] at h
        exact absurd h.symm (escapeLabelChar_ne_quote d _ r)
  | cons c a ih =>
      rcases b with _ | ⟨d, b⟩
      · rw [List.flatMap_cons, List.append_assoc] at h
        exact absurd h (escapeLabelChar_ne_quote c _ r')
      · rw [List.flatMap_cons, List.flatMap_cons, List.append_assoc, List.append_assoc] at h
        obtain ⟨rfl, hrest⟩ := escapeLabelChar_append_inj h
        obtain ⟨rfl, rfl⟩ := ih hrest
        exact ⟨rfl, rfl⟩

/-- A reason can be told from its label. -/
theorem escapeLabel_injective {a b : String} (h : escapeLabel a = escapeLabel b) : a = b := by
  have hchars := congrArg (fun s : String => s.toList ++ ['"']) h
  unfold escapeLabel at hchars
  simp only [String.toList_ofList] at hchars
  exact String.toList_inj.mp (escape_cancel hchars).1

/-- A line ends at the first line break. -/
theorem line_cancel {a b r r' : List Char} (ha : '\n' ∉ a) (hb : '\n' ∉ b)
    (h : a ++ '\n' :: r = b ++ '\n' :: r') : a = b ∧ r = r' := by
  induction a generalizing b with
  | nil =>
      rcases b with _ | ⟨d, b⟩
      · simpa using h
      · rw [List.nil_append, List.cons_append, List.cons.injEq] at h
        exact absurd (List.mem_cons.mpr (.inl h.1)) hb
  | cons c a ih =>
      rcases b with _ | ⟨d, b⟩
      · rw [List.nil_append, List.cons_append, List.cons.injEq] at h
        exact absurd (List.mem_cons.mpr (.inl h.1.symm)) ha
      · rw [List.cons_append, List.cons_append, List.cons.injEq] at h
        obtain ⟨rfl, hrest⟩ := h
        obtain ⟨rfl, rfl⟩ := ih (fun hmem => ha (List.mem_cons_of_mem c hmem))
          (fun hmem => hb (List.mem_cons_of_mem c hmem)) hrest
        exact ⟨rfl, rfl⟩

/-- The number at the end of a line. -/
theorem number_cancel {m n : UInt64} {r r' : List Char} (hm : m.toNat ≤ Number.twoTo 53)
    (hn : n.toNat ≤ Number.twoTo 53)
    (h : (Number.counterText m.toNat).toList ++ '\n' :: r
      = (Number.counterText n.toNat).toList ++ '\n' :: r') : m = n ∧ r = r' := by
  obtain ⟨htext, hrest⟩ := line_cancel (Number.newline_not_mem_write _ _)
    (Number.newline_not_mem_write _ _) h
  exact ⟨UInt64.toNat_inj.mp (Number.counterText_injective hm hn (String.toList_inj.mp htext)),
    hrest⟩

/-- The lines of counts that are told apart by a reason. -/
def reasonLines (name : String) (counts : List (String × UInt64)) : List Char :=
  counts.flatMap fun e => (Sample.line name ⟨[("reason", e.1)], e.2⟩).toList

theorem toList_reasonLine (name : String) (e : String × UInt64) :
    (Sample.line name ⟨[("reason", e.1)], e.2⟩).toList
      = name.toList ++ ("\x7breason=\"".toList ++ (e.1.toList.flatMap escapeLabelChar ++
          '"' :: ("\x7d ".toList ++ ((Number.counterText e.2.toNat).toList ++ ['\n'])))) := by
  unfold Sample.line labelText escapeLabel
  simp

/-- The first line tells its reason and its number. -/
theorem reasonLine_cancel {name : String} {e e' : String × UInt64} {r r' : List Char}
    (he : e.2.toNat ≤ Number.twoTo 53) (he' : e'.2.toNat ≤ Number.twoTo 53)
    (h : (Sample.line name ⟨[("reason", e.1)], e.2⟩).toList ++ r
      = (Sample.line name ⟨[("reason", e'.1)], e'.2⟩).toList ++ r') : e = e' ∧ r = r' := by
  rw [toList_reasonLine, toList_reasonLine] at h
  simp only [List.append_assoc, List.cons_append, List.nil_append] at h
  obtain ⟨hreason, hvalue⟩ := escape_cancel
    (List.append_cancel_left (List.append_cancel_left h))
  obtain ⟨hnumber, hrest⟩ := number_cancel he he' (List.append_cancel_left hvalue)
  exact ⟨Prod.ext (String.toList_inj.mp hreason) hnumber, hrest⟩

theorem reasonLines_cons_ne_nil (name : String) (e : String × UInt64)
    (counts : List (String × UInt64)) : reasonLines name (e :: counts) ≠ [] := by
  unfold reasonLines
  rw [List.flatMap_cons, toList_reasonLine]
  simp

/-- Line by line, the lines tell the counts. -/
theorem reasonLines_injective {name : String} {xs ys : List (String × UInt64)}
    (hx : ∀ e ∈ xs, e.2.toNat ≤ Number.twoTo 53) (hy : ∀ e ∈ ys, e.2.toNat ≤ Number.twoTo 53)
    (h : reasonLines name xs = reasonLines name ys) : xs = ys := by
  induction xs generalizing ys with
  | nil =>
      rcases ys with _ | ⟨e, ys⟩
      · rfl
      · exact absurd h.symm (reasonLines_cons_ne_nil name e ys)
  | cons e xs ih =>
      rcases ys with _ | ⟨e', ys⟩
      · exact absurd h (reasonLines_cons_ne_nil name e xs)
      · obtain ⟨rfl, hrest⟩ := reasonLine_cancel (hx e List.mem_cons_self)
          (hy e' List.mem_cons_self) h
        rw [ih (fun a ha => hx a (List.mem_cons_of_mem e ha))
          (fun a ha => hy a (List.mem_cons_of_mem e ha)) hrest]

/-- The lines that a block starts with. -/
def preamble (name help : String) : String :=
  "# HELP " ++ name ++ " " ++ help ++ "\n" ++ "# TYPE " ++ name ++ " counter\n"

/-- A family of a single counter. -/
theorem toList_block_single (name help : String) (value : UInt64) :
    (Family.block ⟨name, help, [⟨[], value⟩]⟩).toList
      = (preamble name help ++ name ++ " ").toList ++
        ((Number.counterText value.toNat).toList ++ ['\n']) := by
  have hblock : Family.block ⟨name, help, [⟨[], value⟩]⟩
      = preamble name help ++ String.join [Sample.line name ⟨[], value⟩] := rfl
  rw [hblock]
  unfold Sample.line labelText
  simp

/-- A family of counters that are told apart by a reason. -/
theorem toList_block_reasons (name help : String) (counts : List (String × UInt64)) :
    (Family.block ⟨name, help, counts.map fun e => ⟨[("reason", e.1)], e.2⟩⟩).toList
      = (preamble name help).toList ++ reasonLines name counts := by
  have hblock : Family.block ⟨name, help, counts.map fun e => ⟨[("reason", e.1)], e.2⟩⟩
      = preamble name help ++
        String.join ((counts.map fun e => ⟨[("reason", e.1)], e.2⟩).map (Sample.line name)) := rfl
  rw [hblock, String.toList_append, String.toList_join, List.map_map, List.flatMap_map]
  rfl

/-- Two counters and the counts of reasons, which have a block only if there are
    any. The names do not matter. -/
theorem toList_blocks (name name' name'' help help' help'' : String) (value value' : UInt64)
    (counts : List (String × UInt64)) :
    (String.join (blocks [⟨name, help, [⟨[], value⟩]⟩, ⟨name', help', [⟨[], value'⟩]⟩,
        ⟨name'', help'', counts.map fun e => ⟨[("reason", e.1)], e.2⟩⟩])).toList
      = (preamble name help ++ name ++ " ").toList ++
          ((Number.counterText value.toNat).toList ++ '\n' ::
            ((preamble name' help' ++ name' ++ " ").toList ++
              ((Number.counterText value'.toNat).toList ++ '\n' ::
                (if counts = [] then []
                  else (preamble name'' help'').toList ++ reasonLines name'' counts)))) := by
  have hblocks : blocks [⟨name, help, [⟨[], value⟩]⟩, ⟨name', help', [⟨[], value'⟩]⟩,
      ⟨name'', help'', counts.map fun e => ⟨[("reason", e.1)], e.2⟩⟩]
        = [Family.block ⟨name, help, [⟨[], value⟩]⟩, Family.block ⟨name', help', [⟨[], value'⟩]⟩] ++
          (if counts = [] then [] else
            [Family.block ⟨name'', help'', counts.map fun e => ⟨[("reason", e.1)], e.2⟩⟩]) := by
    cases counts with
    | nil => rfl
    | cons e counts => rfl
  rw [hblocks, String.toList_join, List.flatMap_append, List.flatMap_cons, List.flatMap_cons,
    toList_block_single, toList_block_single]
  split
  · simp
  · simp [toList_block_reasons]

/-- So does their block, which may be missing. -/
theorem reasonBlock_injective {first : List Char} {name : String} {xs ys : List (String × UInt64)}
    (hx : ∀ e ∈ xs, e.2.toNat ≤ Number.twoTo 53) (hy : ∀ e ∈ ys, e.2.toNat ≤ Number.twoTo 53)
    (h : (if xs = [] then [] else first ++ reasonLines name xs)
      = if ys = [] then [] else first ++ reasonLines name ys) : xs = ys := by
  rcases xs with _ | ⟨e, xs⟩
  · rcases ys with _ | ⟨e', ys⟩
    · rfl
    · simp [reasonLines_cons_ne_nil] at h
  · rcases ys with _ | ⟨e', ys⟩
    · simp [reasonLines_cons_ne_nil] at h
    · rw [if_neg (List.cons_ne_nil e xs), if_neg (List.cons_ne_nil e' ys)] at h
      exact reasonLines_injective hx hy (List.append_cancel_left h)

theorem toList_text (t : Tally) : (Board.registered t).text.toList
    = (String.join (blocks t.families)).toList := by
  unfold Board.text
  rw [publish_of_unlimited _ rfl]
  exact congrArg String.toList String.empty_append

/-- Counters that can be printed exactly are told by their text. -/
theorem Tally.text_injective {t t' : Tally} (ht : t.Exact) (ht' : t'.Exact)
    (h : (Board.registered t).text = (Board.registered t').text) : t = t' := by
  have hchars := congrArg String.toList h
  rw [toList_text, toList_text] at hchars
  unfold families at hchars
  rw [toList_blocks, toList_blocks] at hchars
  obtain ⟨hcharacters, hrest⟩ := number_cancel ht.characters ht'.characters
    (List.append_cancel_left hchars)
  obtain ⟨hstrings, hrest⟩ := number_cancel ht.strings ht'.strings (List.append_cancel_left hrest)
  have hrejections := reasonBlock_injective ht.rejections ht'.rejections hrest
  exact eq_of_counters hstrings hcharacters hrejections

end Reading

section Runs

/-- The totals of the uses can be printed exactly. -/
structure Use.Exact (uses : List Use) : Prop where
  strings : total Use.strings uses ≤ Number.twoTo 53
  characters : total Use.characters uses ≤ Number.twoTo 53
  refusals : ∀ reason, total (Use.refusals reason) uses ≤ Number.twoTo 53

variable {t : Tally} {uses uses' : List Use}

theorem toNat_ofNat_of_exact {n : Nat} (h : n ≤ Number.twoTo 53) : (UInt64.ofNat n).toNat = n := by
  refine UInt64.toNat_ofNat_of_lt' (Nat.lt_of_le_of_lt h ?_)
  decide

/-- Totals that can be printed exactly are what the counters hold. -/
theorem Tally.Tells.totals (h : t.Tells uses) (hexact : Use.Exact uses) :
    t.strings.toNat = total Use.strings uses ∧
      t.characters.toNat = total Use.characters uses ∧
      ∀ reason, ((t.rejections.lookup reason).getD 0).toNat
        = total (Use.refusals reason) uses := by
  refine ⟨?_, ?_, fun reason => ?_⟩
  · rw [h.strings, toNat_ofNat_of_exact hexact.strings]
  · rw [h.characters, total_rounded hexact.characters, toNat_ofNat_of_exact hexact.characters]
  · rw [h.rejections]
    split
    · rename_i hnone
      rw [hnone]
      rfl
    · exact toNat_ofNat_of_exact (hexact.refusals reason)

theorem Tally.Tells.exact (h : t.Tells uses) (hexact : Use.Exact uses) : t.Exact := by
  obtain ⟨hstrings, hcharacters, hrefusals⟩ := h.totals hexact
  refine ⟨hstrings ▸ hexact.strings, hcharacters ▸ hexact.characters, fun e he => ?_⟩
  have hcount := hrefusals e.1
  rw [h.increasing.lookup_of_mem he, Option.getD_some] at hcount
  exact hcount ▸ hexact.refusals e.1

/-- Every number of counters that can be printed exactly is. -/
theorem Tally.Exact.denotes (h : t.Exact) : ∀ f ∈ t.families, ∀ s ∈ f.samples,
    (Number.Numeral.read (Number.counterText s.value.toNat).toList).Denotes s.value.toNat := by
  intro f hf s hs
  refine Number.denotes_counterText ?_
  simp only [Tally.families, List.mem_cons, List.not_mem_nil, or_false] at hf
  rcases hf with rfl | rfl | rfl
  · rw [List.mem_singleton.mp hs]
    exact h.characters
  · rw [List.mem_singleton.mp hs]
    exact h.strings
  · obtain ⟨e, he, rfl⟩ := List.mem_map.mp hs
    exact h.rejections e he

end Runs

/-- What published counters tell, whatever uses are made of counters registered
    at a new registry. Registering others faults each time and leaves everything
    as it was; a negative length faults too, once its string is counted. The
    order of the uses makes no difference, nor do attempts to register between
    them: on every sink the same is published. And nothing is lost. As long as
    no total exceeds `2^53`, the counters hold the totals and every number
    printed denotes its counter; and the texts of two runs are the same only if
    they agree on the strings, on the characters and on the refusals for every
    reason. A reason is known from its label in any case. -/
theorem published_counters_tell_totals :
    let fresh : Board := .registered .zero
    (∀ uses : List Use, Board.renew (Board.after uses fresh)
        = (.error (.fault .duplicateCounters), Board.after uses fresh)) ∧
      (∀ (uses : List Use) (length : Int), (Board.generated length (Board.after uses fresh)).1
        = if length < 0 then .error (.fault .counterDecrease) else .ok ()) ∧
      (∀ uses uses' : List Use, (uses.filter Use.counts).Perm (uses'.filter Use.counts) →
        ∀ sink, publish (.ok (Board.after uses fresh).families) sink
          = publish (.ok (Board.after uses' fresh).families) sink) ∧
      (∀ uses : List Use, Use.Exact uses → ∃ t, Board.after uses fresh = .registered t ∧
        t.strings.toNat = total Use.strings uses ∧
        t.characters.toNat = total Use.characters uses ∧
        (∀ reason, ((t.rejections.lookup reason).getD 0).toNat
          = total (Use.refusals reason) uses) ∧
        ∀ f ∈ t.families, ∀ s ∈ f.samples,
          (Number.Numeral.read (Number.counterText s.value.toNat).toList).Denotes s.value.toNat) ∧
      (∀ uses uses' : List Use, Use.Exact uses → Use.Exact uses' →
        ((Board.after uses fresh).text = (Board.after uses' fresh).text ↔
          total Use.strings uses = total Use.strings uses' ∧
          total Use.characters uses = total Use.characters uses' ∧
          ∀ reason, total (Use.refusals reason) uses = total (Use.refusals reason) uses')) ∧
      ∀ a b : String, escapeLabel a = escapeLabel b → a = b := by
  intro fresh
  have hafter (uses : List Use) := Tally.tells_zero.after uses
  refine ⟨fun uses => ?_, fun uses length => ?_, fun uses uses' hperm sink => ?_,
    fun uses hexact => ?_, fun uses uses' hexact hexact' => ?_, fun _ _ => escapeLabel_injective⟩
  · obtain ⟨t, ht, -⟩ := hafter uses
    rw [ht]
    rfl
  · obtain ⟨t, ht, -⟩ := hafter uses
    rw [ht, generated_registered, Tally.generated]
    split
    · rfl
    · rfl
  · obtain ⟨t, ht, htells⟩ := hafter uses
    obtain ⟨t', ht', htells'⟩ := hafter uses'
    -- Every total is one over the uses that count, and so the same.
    have htotal (f : Use → Nat) (hf : f .renewed = 0) : total f uses = total f uses' := by
      rw [← total_filter hf uses, total_perm hperm, total_filter hf]
    have hsame : t = t' := htells.unique htells' (htotal _ rfl) (htotal _ rfl)
      fun reason => htotal _ rfl
    rw [ht, ht', hsame]
  · obtain ⟨t, ht, htells⟩ := hafter uses
    obtain ⟨hstrings, hcharacters, hrefusals⟩ := htells.totals hexact
    exact ⟨t, ht, hstrings, hcharacters, hrefusals, (htells.exact hexact).denotes⟩
  · obtain ⟨t, ht, htells⟩ := hafter uses
    obtain ⟨t', ht', htells'⟩ := hafter uses'
    rw [ht, ht']
    constructor
    · intro htext
      obtain rfl := Tally.text_injective (htells.exact hexact) (htells'.exact hexact') htext
      obtain ⟨hstrings, hcharacters, hrefusals⟩ := htells.totals hexact
      obtain ⟨hstrings', hcharacters', hrefusals'⟩ := htells'.totals hexact'
      exact ⟨hstrings.symm.trans hstrings', hcharacters.symm.trans hcharacters',
        fun reason => (hrefusals reason).symm.trans (hrefusals' reason)⟩
    · rintro ⟨hstrings, hcharacters, hrefusals⟩
      have hrounded : total (fun u => Number.roundToBinary64 u.characters) uses
          = total (fun u => Number.roundToBinary64 u.characters) uses' := by
        rw [total_rounded hexact.characters, total_rounded hexact'.characters, hcharacters]
      rw [htells.unique htells' hstrings hrounded hrefusals]

/-- Uses in two orders, one of them with an attempt to register in between, and
    uses that differ in one character. -/
theorem published_counters_tell_totals_at_limit :
    let fresh : Board := .registered .zero
    let uses : List Use := [.rejected "a\"\n", .renewed, .generated 9007199254740992]
    let uses' : List Use := [.generated 9007199254740992, .rejected "a\"\n"]
    let others : List Use := [.generated 9007199254740991, .rejected "a\"\n"]
    (uses.filter Use.counts).Perm (uses'.filter Use.counts) ∧ Use.Exact uses' ∧
      Use.Exact others ∧ (Board.after uses fresh).text = (Board.after uses' fresh).text ∧
      (Board.after uses' fresh).text ≠ (Board.after others fresh).text := by
  intro fresh uses uses' others
  have hperm : (uses.filter Use.counts).Perm (uses'.filter Use.counts) := List.Perm.swap _ _ _
  have hrefusals (n : Int) (reason : String) :
      total (Use.refusals reason) [.generated n, .rejected "a\"\n"] ≤ Number.twoTo 53 := by
    simp only [total, Use.refusals]
    split <;> decide
  have hexact : Use.Exact uses' := ⟨by decide, by decide, hrefusals _⟩
  have hexact' : Use.Exact others := ⟨by decide, by decide, hrefusals _⟩
  obtain ⟨-, -, horder, -, htotals, -⟩ := published_counters_tell_totals
  refine ⟨hperm, hexact, hexact', ?_, fun htext => ?_⟩
  · unfold Board.text
    rw [horder uses uses' hperm]
  · have hcharacters := ((htotals uses' others hexact hexact').mp htext).2.1
    exact absurd hcharacters (by decide)

end Passforge.Metrics
