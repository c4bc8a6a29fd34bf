import Passforge.Log.Journal
import Passforge.Proofs.Streams

/-!
# Publishing on a Limited Sink

Counters are published block by block, and a sink with a limit takes a block as
a whole or not at all. So what arrives is a run of whole blocks from the first
one on, and the question is which. It is the longest run that stays within the
limit: the first block that does not fit ends it, and no smaller block after
that one slips in.

`LongestRun` says this without the loop, by comparing with every other run from
the first block on. There is only one such run, and a larger limit can only
make it longer; both are read off the comparison. That offering texts in turn
gives this run is one induction on the texts, where a text that fits goes in
front of the longest run of the others (`LongestRun.cons`) and one that does not
fit leaves nothing but the empty run (`LongestRun.nil_of_lt`).

## Main definitions

* `Sink.limitedTo`: A sink with another limit.
* `Sink.LongestRun`: The texts from the first one on that fit, as many as can.

## Theorems

* `Sink.LongestRun.mono`: A larger limit makes the run longer.
* `Sink.LongestRun.eq_iff`: It is all of the texts if they fit together.
* `Sink.putAll_longestRun`: What a limited sink takes.
* `Metrics.dump_keeps_whole_blocks`: What is published on a limited sink.
-/

namespace Passforge

namespace Sink

/-- The same sink with another limit. -/
def limitedTo (s : Sink) (limit : Nat) : Sink :=
  { s with limit := some limit }

/-- The texts up to some place that stay within the limit together with what the
    sink has taken before, and as many of them as there can be. -/
structure LongestRun (s : Sink) (limit : Nat) (texts front : List String) : Prop where
  initial : front <+: texts
  fits : (s.taken ++ String.join front).utf8ByteSize ≤ limit
  longest : ∀ other, other <+: texts → (s.taken ++ String.join other).utf8ByteSize ≤ limit →
    other <+: front

namespace LongestRun

variable {s : Sink} {limit limit' : Nat} {text : String} {texts front front' : List String}

/-- A larger limit makes the run longer. -/
theorem mono (h : s.LongestRun limit texts front) (h' : s.LongestRun limit' texts front')
    (hle : limit ≤ limit') : front <+: front' :=
  h'.longest front h.initial (Nat.le_trans h.fits hle)

/-- The run is all of the texts if and only if they fit together. -/
theorem eq_iff (h : s.LongestRun limit texts front) :
    front = texts ↔ (s.taken ++ String.join texts).utf8ByteSize ≤ limit := by
  constructor
  · intro heq
    rw [← heq]
    exact h.fits
  · intro hfits
    exact h.initial.eq_of_length_le (h.longest texts (List.prefix_refl texts) hfits).length_le

/-- A text that is taken goes in front of the longest run of the others. -/
theorem cons (h : LongestRun { s with taken := s.taken ++ text } limit texts front) :
    s.LongestRun limit (text :: texts) (text :: front) where
  initial := List.cons_prefix_cons.mpr ⟨rfl, h.initial⟩
  fits := by
    rw [String.join_cons, ← String.append_assoc]
    exact h.fits
  longest other hinitial hfits := by
    rcases other with _ | ⟨text', other⟩
    · exact List.nil_prefix
    · obtain ⟨rfl, hrest⟩ := List.cons_prefix_cons.mp hinitial
      rw [String.join_cons, ← String.append_assoc] at hfits
      exact List.cons_prefix_cons.mpr ⟨rfl, h.longest other hrest hfits⟩

/-- Nothing is taken if the first text does not fit, however small the others
    are. -/
theorem nil_of_lt (hroom : s.taken.utf8ByteSize ≤ limit)
    (hlt : limit < s.taken.utf8ByteSize + text.utf8ByteSize) :
    s.LongestRun limit (text :: texts) [] where
  initial := List.nil_prefix
  fits := by simpa using hroom
  longest other hinitial hfits := by
    rcases other with _ | ⟨text', other⟩
    · exact List.nil_prefix
    -- A run with the first text is at least as large as that text.
    · obtain ⟨rfl, -⟩ := List.cons_prefix_cons.mp hinitial
      rw [String.join_cons, String.utf8ByteSize_append, String.utf8ByteSize_append] at hfits
      omega

end LongestRun

/-- A limited sink takes the longest run that fits, and reports whether that is
    all of the texts. -/
theorem putAll_longestRun (s : Sink) {limit : Nat} (hlimit : s.limit = some limit)
    (hroom : s.taken.utf8ByteSize ≤ limit) (texts : List String) :
    ∃ front, s.LongestRun limit texts front ∧
      (s.putAll texts).1 = { s with taken := s.taken ++ String.join front } ∧
      ((s.putAll texts).2 = true ↔ front = texts) := by
  induction texts generalizing s with
  | nil =>
      refine ⟨[], ⟨List.prefix_refl [], by simpa using hroom, fun other h _ => h⟩, ?_, ?_⟩
      · simp [putAll]
      · simp [putAll]
  | cons text rest ih =>
      have hfits : s.fits text = decide (s.taken.utf8ByteSize + text.utf8ByteSize ≤ limit) := by
        unfold fits
        rw [hlimit]
      by_cases hle : s.taken.utf8ByteSize + text.utf8ByteSize ≤ limit
      -- The text is taken, and the others meet a sink with less room.
      · have hput : s.put text = ({ s with taken := s.taken ++ text }, true) := by
          unfold put
          rw [hfits, decide_eq_true hle, if_pos rfl]
        have hroom' : (s.taken ++ text).utf8ByteSize ≤ limit := by
          rw [String.utf8ByteSize_append]
          exact hle
        obtain ⟨front, hrun, htaken, hall⟩ := ih { s with taken := s.taken ++ text } hlimit hroom'
        refine ⟨text :: front, hrun.cons, ?_, ?_⟩
        · rw [putAll, hput]
          simp only [htaken, String.join_cons, String.append_assoc]
        · rw [putAll, hput, List.cons.injEq]
          simpa using hall
      -- The text is refused, and the others are not offered any more.
      · have hput : s.put text = (s, false) := by
          unfold put
          rw [hfits, decide_eq_false hle, if_neg Bool.false_ne_true]
        refine ⟨[], LongestRun.nil_of_lt hroom (by omega), ?_, ?_⟩
        · rw [putAll, hput]
          simp
        · rw [putAll, hput]
          simp

end Sink

namespace Metrics

/-- The registry of a generator lists its families by increasing names. -/
theorem Board.families_increasing (b : Board) :
    (b.families.map Family.name).Pairwise (· < ·) := by
  rcases b with _ | t | t
  · exact List.Pairwise.nil
  · exact List.Pairwise.nil
  · have hnames : (Board.registered t).families.map Family.name
        = ["pwgen_generated_characters_total", "pwgen_generated_strings_total",
          "pwgen_rejected_requests_total"] := rfl
    rw [hnames]
    decide +kernel

/-- Publishing reports whether the sink took every block. -/
theorem publish_snd (families : List Family) (s : Sink) :
    (publish (.ok families) s).2 = if (s.putAll (blocks families)).2 then .ok ()
      else .error (.encode (s.putAll (blocks families)).1.refusal) := by
  unfold publish
  simp only
  rcases s.putAll (blocks families) with ⟨sink, _ | _⟩
  · rfl
  · rfl

variable {sink : Sink} {limit : Nat}

/-- What is published on a limited sink, and what is reported about it. -/
theorem publish_longestRun (families : List Family) (hroom : sink.taken.utf8ByteSize ≤ limit) :
    ∃ front, sink.LongestRun limit (blocks families) front ∧
      (publish (.ok families) (sink.limitedTo limit)).1.taken = sink.taken ++ String.join front ∧
      (publish (.ok families) (sink.limitedTo limit)).2
        = if front = blocks families then .ok () else .error (.encode sink.refusal) := by
  obtain ⟨front, hrun, htaken, hall⟩ :=
    (sink.limitedTo limit).putAll_longestRun rfl hroom (blocks families)
  refine ⟨front, ⟨hrun.initial, hrun.fits, hrun.longest⟩, ?_, ?_⟩
  · rw [publish_fst, htaken]
    rfl
  · rw [publish_snd, htaken]
    by_cases hfront : front = blocks families
    · rw [if_pos (hall.mpr hfront), if_pos hfront]
    · rw [if_neg fun h => hfront (hall.mp h), if_neg hfront]
      rfl

/-- A dump that fails is clean as far as it goes. On a sink with a limit it is
    the longest run of whole blocks, from the first one on, that stays within
    the limit. Publishing succeeds exactly if all of them do, and reports
    otherwise that the sink refused a block. A larger limit only adds to what is
    taken. If the families could not be collected, nothing is written and that
    is reported. The registries of the program list their families by increasing
    names. -/
theorem dump_keeps_whole_blocks (families : List Family) (sink : Sink) (limit : Nat)
    (hroom : sink.taken.utf8ByteSize ≤ limit) :
    (∃ front, sink.LongestRun limit (blocks families) front ∧
      (publish (.ok families) (sink.limitedTo limit)).1.taken
        = sink.taken ++ String.join front) ∧
    ((publish (.ok families) (sink.limitedTo limit)).2 = .ok () ↔
      (sink.taken ++ String.join (blocks families)).utf8ByteSize ≤ limit) ∧
    ((publish (.ok families) (sink.limitedTo limit)).2 = .ok () ∨
      (publish (.ok families) (sink.limitedTo limit)).2 = .error (.encode sink.refusal)) ∧
    (∀ limit', limit ≤ limit' →
      ∃ rest, (publish (.ok families) (sink.limitedTo limit')).1.taken
        = (publish (.ok families) (sink.limitedTo limit)).1.taken ++ rest) ∧
    (∀ cause, publish (.error cause) sink = (sink, .error (.gather cause))) ∧
    (∀ b : Board, (b.families.map Family.name).Pairwise (· < ·)) ∧
    ∀ j : Log.Journal, (j.families.map Family.name).Pairwise (· < ·) := by
  obtain ⟨front, hrun, htaken, hresult⟩ := publish_longestRun families hroom
  refine ⟨⟨front, hrun, htaken⟩, ?_, ?_, fun limit' hle => ?_, fun cause => rfl,
    Board.families_increasing, fun j => ?_⟩
  · rw [hresult, ← hrun.eq_iff]
    by_cases hfront : front = blocks families
    · simp [hfront]
    · simp [hfront]
  · rw [hresult]
    by_cases hfront : front = blocks families
    · exact .inl (if_pos hfront)
    · exact .inr (if_neg hfront)
  · obtain ⟨front', hrun', htaken', -⟩ := publish_longestRun families (Nat.le_trans hroom hle)
    obtain ⟨more, hmore⟩ := hrun.mono hrun' hle
    refine ⟨String.join more, ?_⟩
    rw [htaken', htaken, ← hmore, String.join_append, String.append_assoc]
  · unfold Log.Journal.families
    rcases j.statements with _ | count
    · exact List.Pairwise.nil
    · exact List.pairwise_singleton _ _

/-- The second of three blocks does not fit, and the third, which would, is not
    taken in its place. -/
theorem dump_keeps_whole_blocks_at_gap :
    let families : List Family := [⟨"a", "", [⟨[], 1⟩]⟩, ⟨"b", "much longer", [⟨[], 2⟩]⟩,
      ⟨"c", "", [⟨[], 3⟩]⟩]
    let sink : Sink := ⟨none, "no room", "# "⟩
    (publish (.ok families) (sink.limitedTo 65)).1.taken = "# # HELP a \n# TYPE a counter\na 1\n" ∧
      (publish (.ok families) (sink.limitedTo 65)).2 = .error (.encode "no room") ∧
      ∃ rest, (publish (.ok families) (sink.limitedTo 105)).1.taken
        = "# # HELP a \n# TYPE a counter\na 1\n" ++ rest := by
  intro families sink
  have hroom : sink.taken.utf8ByteSize ≤ 65 := by decide
  have htaken : (publish (.ok families) (sink.limitedTo 65)).1.taken
      = "# # HELP a \n# TYPE a counter\na 1\n" := by decide +kernel
  have hsize : ¬ (sink.taken ++ String.join (blocks families)).utf8ByteSize ≤ 65 := by
    decide +kernel
  obtain ⟨-, hall, hresult, hmore, -⟩ := dump_keeps_whole_blocks families sink 65 hroom
  refine ⟨htaken, hresult.resolve_left fun h => hsize (hall.mp h), ?_⟩
  rw [← htaken]
  exact hmore 105 (by decide)

end Metrics

end Passforge
