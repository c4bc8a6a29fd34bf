import Passforge.Proofs.Generating

/-!
# Texts Offered to a Stream

All that a run does to its second stream is to offer texts to it, which the
stream takes or refuses: log lines, reports of refusals, and the counters. So a
condition on sinks that holds whatever is offered is in force on that stream
throughout the run. That the sink has no limit is such a condition, and that it
is like another one is.

The conditions are followed once, from a line of the log up to the beginning of
a run, and later modules choose the one they need.

## Main definitions

* `Sink.Keeps`: Offering texts leaves a condition in force.

## Theorems

* `Sink.put_of_unlimited`, `Sink.putAll_of_unlimited`: A sink without a limit
  takes every text.
* `Log.Journal.log_keeps`, `Log.Journal.configure_keeps`: Logging leaves a
  condition in force.
* `Metrics.publish_fst`, `Metrics.publish_of_unlimited`: What publishing comes to.
* `Command.Invocation.Begins.console`: The second stream when a run begins.
-/

namespace Passforge

namespace Sink

/-- Whatever is offered to a sink, taken or refused, the condition stays in
    force. -/
def Keeps (C : Sink → Prop) : Prop :=
  ∀ (s : Sink) (text : String), C s → C (s.put text).1

section Conditions

variable {C : Sink → Prop} {s : Sink}

theorem Keeps.of_put {sink : Sink} {text : String} {taken : Bool} (hC : Keeps C) (h : C s)
    (hput : s.put text = (sink, taken)) : C sink := by
  have hkept := hC s text h
  rwa [hput] at hkept

theorem Keeps.putAll (hC : Keeps C) (h : C s) (texts : List String) : C (s.putAll texts).1 := by
  induction texts generalizing s with
  | nil => exact h
  | cons text rest ih =>
      unfold Sink.putAll
      rcases hput : s.put text with ⟨sink, _ | _⟩
      · exact hC.of_put h hput
      · exact ih (hC.of_put h hput)

theorem keeps_true : Keeps fun _ => True :=
  fun _ _ h => h

theorem keeps_limit (limit : Option Nat) : Keeps fun s => s.limit = limit :=
  fun s text h => (s.put_limit text).trans h

end Conditions

theorem put_of_unlimited {s : Sink} (h : s.limit = none) (text : String) :
    s.put text = ({ s with taken := s.taken ++ text }, true) := by
  unfold put fits
  rw [h]
  rfl

/-- Texts are taken one after the other, all of them. -/
theorem putAll_of_unlimited {s : Sink} (h : s.limit = none) (texts : List String) :
    s.putAll texts = ({ s with taken := s.taken ++ String.join texts }, true) := by
  induction texts generalizing s with
  | nil => simp [putAll]
  | cons text rest ih =>
      unfold putAll
      rw [put_of_unlimited h]
      simp only
      rw [ih (s := { s with taken := s.taken ++ text }) h, String.join_cons, String.append_assoc]

end Sink

namespace Metrics

theorem publish_fst (families : List Family) (s : Sink) :
    (publish (.ok families) s).1 = (s.putAll (blocks families)).1 := by
  unfold publish
  simp only
  rcases s.putAll (blocks families) with ⟨sink, _ | _⟩
  · rfl
  · rfl

theorem publish_of_unlimited (families : List Family) {s : Sink} (h : s.limit = none) :
    publish (.ok families) s
      = ({ s with taken := s.taken ++ String.join (blocks families) }, .ok ()) := by
  unfold publish
  simp only [Sink.putAll_of_unlimited h]

end Metrics

namespace Log.Journal

variable {C : Sink → Prop}

theorem count_console (j : Journal) (l : Level) : (j.count l).console = j.console := by
  unfold count
  split <;> rfl

theorem writeConsole_keeps (hC : Sink.Keeps C) (j : Journal)
    (members : List (String × FieldValue)) (h : C j.console) :
    C (j.writeConsole members).1.console := by
  unfold writeConsole
  rcases j.logger.console with _ | form
  · exact h
  · simp only
    split
    all_goals
      rename_i console hput
      exact hC.of_put h hput

theorem writeFile_console (j : Journal) (l : Level) (members : List (String × FieldValue)) :
    (j.writeFile l members).1.console = j.console := by
  unfold writeFile
  split
  · rfl
  · rfl

/-- All that logging does to the console is to offer texts to it. -/
theorem log_keeps (hC : Sink.Keeps C) (j : Journal) (e : Event) (h : C j.console) :
    C (j.log e).console := by
  have hwritten : C (((j.count e.level).writeConsole
      (e.members (j.count e.level).stamp)).1.writeFile e.level
        (e.members (j.count e.level).stamp)).1.console := by
    rw [writeFile_console]
    refine writeConsole_keeps hC _ _ ?_
    rw [count_console]
    exact h
  unfold log
  split
  · simp only
    split
    · exact hwritten
    · exact hC _ _ hwritten
  · exact h

theorem foldl_log_keeps (hC : Sink.Keeps C) (es : List Event) (j : Journal) (h : C j.console) :
    C (es.foldl log j).console := by
  induction es generalizing j with
  | nil => exact h
  | cons e es ih => exact ih (j.log e) (log_keeps hC j e h)

theorem prepareFiles_keeps (hC : Sink.Keeps C) (j : Journal) (s : FileSettings) (h : C j.console) :
    C (j.prepareFiles s).1.console := by
  unfold prepareFiles
  split
  · exact h
  · split
    · exact h
    · exact log_keeps hC j _ h

theorem configure_keeps (hC : Sink.Keeps C) (j : Journal) (s : LogSettings) (h : C j.console) :
    C (j.configure s).1.console := by
  unfold configure
  split
  · exact h
  · exact prepareFiles_keeps hC _ s.file h

end Log.Journal

/-- What is in force on the second stream is so when the run begins. -/
theorem Command.Invocation.Begins.console {C : Sink → Prop} (hC : Sink.Keeps C) {i : Invocation}
    {flags : Parsed} {settings : Settings} {s : Stage} (h : i.Begins flags settings s)
    (hstart : C i.diagnostics) : C s.session.journal.console := by
  have hprepared := h.prepared
  obtain ⟨loaded, -, hload, -⟩ := h.loaded
  rw [prepare_of_load hload] at hprepared
  have hconfigured := Log.Journal.configure_keeps hC i.stage.session.journal
    (flags.levelled loaded).log hstart
  rcases hconfigure : i.stage.session.journal.configure (flags.levelled loaded).log
    with ⟨journal, e | ⟨⟩⟩
  · rw [hconfigure] at hprepared
    cases hprepared
  · rw [hconfigure] at hprepared hconfigured
    cases hprepared
    exact Log.Journal.log_keeps hC journal _ hconfigured

end Passforge
