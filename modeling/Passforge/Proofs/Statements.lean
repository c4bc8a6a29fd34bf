import Passforge.Log.Journal
import Passforge.Proofs.Accounting
import Passforge.Proofs.Numerals

/-!
# Logging over Whole Runs

A journal is configured again and again, and events are logged in between. The
settings given may be unusable, and what is in force, the logger, the level and
the count of statements, are all changed by the one function that configures.
This module follows them through any sequence of such acts.

What an act can do is said once: `log_cases` for an event and
`configure_of_level`, `configure_of_none` for settings. Everything later is
read off these, and none of it opens the writers. An event that is let through
is counted before it is written, so it makes no difference where lines go, or
whether they go anywhere.

`Journal.emitted` is the second account of a run: the levels of the events that
get past the level in force, one act after the other. Configuring emits one
itself, when the directory for the log files can not be made. It goes through
the logger that was there before, so the first configuration reports it without
counting it, and every later one counts it.

Counts are kept under the names of levels. Different levels have different
names (`Level.text_injective`): those without a name go by their number, and no
name looks like one.

## Main definitions

* `Act`: Settings or an event.
* `Act.level?`: The level that an act puts in force.
* `Journal.after`: The journal after a run of acts.
* `Journal.emitted`: The levels of the events emitted during a run.
* `StatementCount.Tells`: The count tells the levels that were emitted.
* `Journal.Quiet`: Nothing is counted yet.

## Theorems

* `Level.text_injective`: Levels are told apart by their names.
* `log_cases`: What logging an event can do.
* `configure_of_none`, `configure_of_level`: What settings can do.
* `after_threshold`: The level in force is that of the last usable settings.
* `StatementCount.Tells.concat`: One more event that is emitted is counted.
* `act_statements`, `after_statements`: Acts keep the count true.
* `statements_counted_over_runs`: All of it together.
-/

namespace Passforge

namespace Number

/-- Integers are told apart by their numerals. -/
theorem signedDigits_injective {m n : Int} (h : signedDigits m = signedDigits n) : m = n := by
  -- Reading the numeral gives the sign and the magnitude back.
  have hsplit := congrArg splitSign h
  rw [splitSign_signedDigits, splitSign_signedDigits, Prod.mk.injEq] at hsplit
  have hvalue (k : Nat) : Nat.ofDigitChars 10 (digitsOf k) 0 = k :=
    Nat.ofDigitChars_toDigits (by decide) (by decide)
  have habs : m.natAbs = n.natAbs := by
    rw [← hvalue m.natAbs, ← hvalue n.natAbs, hsplit.2]
  have hsign : m < 0 ↔ n < 0 := by simpa using hsplit.1
  omega

theorem toList_toString (n : Int) : (toString n).toList = signedDigits n := by
  rw [Int.toString_eq_repr, Int.repr_eq_if]
  unfold signedDigits digitsOf
  by_cases hneg : n < 0
  · rw [if_neg (by omega), if_pos hneg, show (-n).toNat = n.natAbs by omega]
    simp
  · rw [if_pos (by omega), if_neg hneg, show n.toNat = n.natAbs by omega]
    simp

end Number

namespace Log

namespace Level

theorem text_cases (l : Level) : l ∈ named ∨ l.text = toString l := by
  unfold text
  split
  case h_10 => exact .inr rfl
  all_goals exact .inl (by decide)

/-- No name of a level looks like a number. -/
theorem text_ne_toString {l : Level} (h : l ∈ named) (n : Int) : l.text ≠ toString n := by
  intro heq
  -- A number starts with a digit or a sign, a name with neither.
  have hhead : ∀ l ∈ named,
      l.text.toList.head?.all (fun c => !('0' ≤ c && c ≤ '9') && c != '-') = true := by decide
  obtain ⟨c, cs, hcs, hc⟩ := Number.signedDigits_exists_cons n
  have hfirst := hhead l h
  rw [heq, Number.toList_toString, hcs, List.head?_cons, Option.all_some] at hfirst
  rcases hc with hc | rfl
  · rw [hc] at hfirst
    cases hfirst
  · exact absurd hfirst (by decide)

/-- Levels are told apart by their names. -/
theorem text_injective {l l' : Level} (h : l.text = l'.text) : l = l' := by
  have hnamed : ∀ a ∈ named, ∀ b ∈ named, a.text = b.text → a = b := by decide
  rcases text_cases l with hl | hl
  · rcases text_cases l' with hl' | hl'
    · exact hnamed l hl l' hl' h
    · exact absurd (h.trans hl') (text_ne_toString hl l')
  · rcases text_cases l' with hl' | hl'
    · exact absurd (h.symm.trans hl) (text_ne_toString hl' l)
    · apply Number.signedDigits_injective
      rw [← Number.toList_toString, ← Number.toList_toString, ← hl, ← hl', h]

end Level

/-- What can happen to a journal: it is given settings, or an event to log. -/
inductive Act where
  | configure (s : LogSettings)
  | log (e : Event)

/-- The level that settings put in force. Without a service, without an
    application or without a level there is none. -/
def levelOf? (s : LogSettings) : Option Level :=
  if s.serviceName = "" ∨ s.appName = "" then none else (Level.parse s.level).toOption

theorem levelOf?_eq_none_iff (s : LogSettings) :
    levelOf? s = none ↔
      (∃ cause, Level.parse s.level = .error cause) ∨ s.serviceName = "" ∨ s.appName = "" := by
  unfold levelOf?
  split
  · rename_i hnames
    simp [hnames]
  · rename_i hnames
    rcases Level.parse s.level with cause | level
    · simp [Except.toOption]
    · simp [Except.toOption, hnames]

/-- The level that an act puts in force. -/
def Act.level? : Act → Option Level
  | .configure s => levelOf? s
  | .log _ => none

namespace Journal

/-- One act. -/
def act (j : Journal) : Act → Journal
  | .configure s => (j.configure s).1
  | .log e => j.log e

/-- A run of acts. -/
def after (j : Journal) (acts : List Act) : Journal :=
  acts.foldl act j

/-- The levels of the events that settings emit: an error if the directory for
    log files can not be made, unless the level they put in force keeps it
    back. -/
def troubles (j : Journal) (s : LogSettings) (level : Level) : List Level :=
  if s.file.enabled && (j.disk.makeDirectories s.file.path).toOption.isNone &&
    level ≤ Level.error then [Level.error] else []

/-- The levels of the events that an act emits. -/
def emits (j : Journal) : Act → List Level
  | .log e => if j.admits e.level then [e.level] else []
  | .configure s => (levelOf? s).elim [] (j.troubles s)

@[simp] theorem act_configure (j : Journal) (s : LogSettings) :
    j.act (.configure s) = (j.configure s).1 := rfl

@[simp] theorem act_log (j : Journal) (e : Event) : j.act (.log e) = j.log e := rfl

theorem emits_log (j : Journal) (e : Event) :
    j.emits (.log e) = if j.admits e.level then [e.level] else [] := rfl

theorem emits_of_none {s : LogSettings} (h : levelOf? s = none) (j : Journal) :
    j.emits (.configure s) = [] := by
  rw [emits, h, Option.elim_none]

theorem emits_of_level {s : LogSettings} {level : Level} (h : levelOf? s = some level)
    (j : Journal) : j.emits (.configure s) = j.troubles s level := by
  rw [emits, h, Option.elim_some]

/-- The levels of the events that a run emits, in turn. -/
def emitted (j : Journal) : List Act → List Level
  | [] => []
  | a :: acts => j.emits a ++ (j.act a).emitted acts

end Journal

section Counts

/-- One more statement is counted, unless it has no level. -/
def StatementCount.add (c : StatementCount) (l : Level) : StatementCount :=
  if l = Level.unleveled then c else { c with byLevel := Metrics.bump l.text c.byLevel }

/-- The count of each level is the number of statements of that level, wrapping
    at 64 bits. Under no other name than that of a level counted is anything
    listed. -/
structure StatementCount.Tells (c : StatementCount) (emitted : List Level) : Prop where
  increasing : Metrics.Increasing c.byLevel
  counted : ∀ l : Level, l ≠ Level.unleveled →
    ((c.byLevel.lookup l.text).getD 0).toNat = emitted.count l % Number.natBound
  names : ∀ e ∈ c.byLevel, ∃ l ∈ emitted, l ≠ Level.unleveled ∧ e.1 = l.text

namespace StatementCount

theorem add_service (c : StatementCount) (l : Level) : (c.add l).service = c.service := by
  unfold add
  split <;> rfl

theorem foldl_add_service (ls : List Level) (c : StatementCount) :
    (ls.foldl add c).service = c.service := by
  induction ls generalizing c with
  | nil => rfl
  | cons l ls ih => rw [List.foldl_cons, ih, add_service]

namespace Tells

theorem empty (service : String) : Tells ⟨service, []⟩ [] where
  increasing := List.Pairwise.nil
  counted _ _ := rfl
  names _ he := absurd he List.not_mem_nil

/-- One more statement is told. -/
theorem concat {c : StatementCount} {emitted : List Level} (h : c.Tells emitted) (l : Level) :
    (c.add l).Tells (emitted ++ [l]) := by
  unfold add
  by_cases hl : l = Level.unleveled
  · rw [if_pos hl]
    refine ⟨h.increasing, fun m hm => ?_, fun e he => ?_⟩
    · -- A statement without a level is none of those counted.
      rw [h.counted m hm, List.count_append, List.count_singleton]
      have hne : (l == m) = false := beq_false_of_ne fun heq => hm (heq ▸ hl)
      simp [hne]
    · obtain ⟨m, hm, hname⟩ := h.names e he
      exact ⟨m, List.mem_append_left _ hm, hname⟩
  · rw [if_neg hl]
    refine ⟨h.increasing.bump, fun m hm => ?_, fun e he => ?_⟩
    · rw [Metrics.lookup_bump h.increasing, UInt64.toNat_add, h.counted m hm, List.count_append,
        List.count_singleton]
      -- Only the name of this level is counted up, and no other level has it.
      by_cases heq : l = m
      · subst heq
        simp only [if_true, beq_self_eq_true]
        exact Nat.mod_add_mod _ _ _
      · rw [if_neg fun htext => heq (Level.text_injective htext).symm]
        simp only [beq_false_of_ne heq, Bool.false_eq_true, if_false]
        exact Nat.mod_add_mod _ _ _
    · rcases Metrics.mem_bump he with hname | ⟨e', he', hname⟩
      · exact ⟨l, by simp, hl, hname⟩
      · obtain ⟨m, hm, hne, htext⟩ := h.names e' he'
        exact ⟨m, List.mem_append_left _ hm, hne, hname.trans htext⟩

theorem foldl_add (ls : List Level) {c : StatementCount} {emitted : List Level}
    (h : c.Tells emitted) : (ls.foldl add c).Tells (emitted ++ ls) := by
  induction ls generalizing c emitted with
  | nil => rwa [List.append_nil]
  | cons l ls ih =>
      have hrest := ih (h.concat l)
      rwa [List.append_assoc, List.singleton_append] at hrest

end Tells

end StatementCount

end Counts

namespace Journal

section Acts

variable {j : Journal} {s : LogSettings}

theorem writeConsole_eq (j : Journal) (members : List (String × FieldValue)) :
    ∃ console, (j.writeConsole members).1 = { j with console } := by
  unfold writeConsole
  rcases j.logger.console with _ | form
  · exact ⟨j.console, rfl⟩
  · simp only
    split
    all_goals exact ⟨_, rfl⟩

theorem writeFile_eq (j : Journal) (l : Level) (members : List (String × FieldValue)) :
    ∃ disk files, (j.writeFile l members).1
      = { j with disk, logger := { j.logger with files } } := by
  unfold writeFile
  split
  · exact ⟨_, _, rfl⟩
  · exact ⟨j.disk, j.logger.files, rfl⟩

theorem count_logger (j : Journal) (l : Level) : (j.count l).logger = j.logger := by
  unfold count
  split <;> rfl

/-- Logging an event does nothing, or the event is let through: it is counted,
    and then all that changes is what the writers hold. -/
theorem log_cases (j : Journal) (e : Event) :
    (j.admits e.level = false ∧ j.log e = j) ∨
      (j.admits e.level = true ∧ ∃ console disk files, j.log e
        = { j.count e.level with console, disk, logger := { j.logger with files } }) := by
  unfold log
  by_cases hadmits : j.admits e.level = true
  · refine .inr ⟨hadmits, ?_⟩
    rw [if_pos hadmits]
    have hlogger := j.count_logger e.level
    obtain ⟨console, hconsole⟩ := writeConsole_eq (j.count e.level)
      (e.members (j.count e.level).stamp)
    obtain ⟨disk, files, hfile⟩ := writeFile_eq
      ((j.count e.level).writeConsole (e.members (j.count e.level).stamp)).1 e.level
      (e.members (j.count e.level).stamp)
    rw [hconsole] at hfile
    simp only [hconsole, hlogger] at hfile ⊢
    rw [hfile]
    -- A refusal is one more line on the console.
    split
    · exact ⟨console, disk, files, rfl⟩
    · exact ⟨_, disk, files, rfl⟩
  · rw [if_neg hadmits]
    exact .inl ⟨by simpa using hadmits, rfl⟩

/-- An event that is let through is counted if the logger counts. -/
theorem count_statements {c : StatementCount} (hcounts : j.logger.counts = true)
    (hc : j.statements = some c) (l : Level) : (j.count l).statements = some (c.add l) := by
  unfold count StatementCount.add
  by_cases hl : l = Level.unleveled
  · rw [if_neg (by simp [hl]), if_pos hl, hc]
  · rw [if_pos (by simp [hcounts, hl]), if_neg hl, hc]
    rfl

theorem count_of_silent (hcounts : j.logger.counts = false) (l : Level) : j.count l = j := by
  unfold count
  rw [hcounts]
  rfl

theorem checkSettings_of_level {level : Level} (h : levelOf? s = some level) :
    checkSettings s = .ok level := by
  unfold levelOf? at h
  split at h
  · cases h
  · rename_i hnames
    rw [not_or] at hnames
    unfold checkSettings
    rcases hparse : Level.parse s.level with cause | parsed
    · rw [hparse] at h
      cases h
    · rw [hparse] at h
      cases h
      simp [hnames.1, hnames.2]

theorem checkSettings_of_none (h : levelOf? s = none) :
    ∃ e, checkSettings s = .error e := by
  unfold levelOf? at h
  unfold checkSettings
  rcases hparse : Level.parse s.level with cause | parsed
  · exact ⟨_, rfl⟩
  · -- The level can be read, so a name is missing.
    rw [hparse] at h
    simp only
    split
    · exact ⟨_, rfl⟩
    · split
      · exact ⟨_, rfl⟩
      · rename_i hservice happ
        rw [if_neg (not_or.mpr ⟨by simpa using hservice, by simpa using happ⟩)] at h
        cases h

/-- Settings that put no level in force change nothing at all. -/
theorem configure_of_none (h : levelOf? s = none) (j : Journal) :
    ∃ e, j.configure s = (j, .error e) := by
  obtain ⟨e, he⟩ := checkSettings_of_none h
  refine ⟨e, ?_⟩
  unfold configure
  rw [he]

/-- The journal that settings start from: their level is in force, and there is
    something to count in, but the logger is the one there was before. -/
def levelled (j : Journal) (s : LogSettings) (level : Level) : Journal :=
  { j with
    threshold := level
    reportsRefusals := true
    tracesErrors := j.tracesErrors || level == Level.trace
    statements := some (j.statements.getD ⟨s.serviceName, []⟩) }

/-- Preparing the log files emits an event or none, through the logger there
    was before. -/
theorem prepareFiles_statements (j : Journal) (s : LogSettings) (level : Level) :
    ((j.levelled s level).prepareFiles s.file).1.statements
        = ((j.troubles s level).foldl count (j.levelled s level)).statements ∧
      ((j.levelled s level).prepareFiles s.file).1.threshold = level := by
  unfold prepareFiles troubles
  cases s.file.enabled with
  | false => exact ⟨rfl, rfl⟩
  | true =>
      have hdisk : (j.levelled s level).disk = j.disk := rfl
      rw [hdisk]
      rcases hmake : j.disk.makeDirectories s.file.path with t | disk
      · -- The directory can not be made, and the level decides who gets to know.
        simp only [Bool.not_true, Bool.false_eq_true, if_false, Except.toOption, Option.isNone_none,
          Bool.true_and]
        have hadmits : (j.levelled s level).admits Level.error = decide (level ≤ Level.error) := by
          simp only [admits, levelled, Level.trace, Level.error, Level.disabled]
          rw [Bool.and_assoc]
          exact Bool.and_true _
        rcases log_cases (j.levelled s level)
          { level := Level.error,
            fields := [("error", .text t.message), ("path", .text s.file.path)],
            message := "can't create log directory" } with ⟨hno, hlog⟩ | ⟨hyes, _, _, _, hlog⟩
        · rw [hlog]
          rw [hadmits] at hno
          rw [hno]
          exact ⟨rfl, rfl⟩
        · rw [hlog]
          rw [hadmits] at hyes
          rw [hyes]
          refine ⟨rfl, ?_⟩
          unfold count
          split <;> rfl
      · exact ⟨rfl, rfl⟩

/-- Settings that put a level in force do so, replace the logger by one that
    counts, and count what they emit by the one there was. -/
theorem configure_of_level {level : Level} (h : levelOf? s = some level)
    (j : Journal) :
    ∃ j', j.configure s = (j', .ok ()) ∧ j'.threshold = level ∧ j'.logger.counts = true ∧
      j'.statements
        = ((j.troubles s level).foldl count (j.levelled s level)).statements := by
  obtain ⟨hstatements, hthreshold⟩ := prepareFiles_statements j s level
  unfold configure
  rw [checkSettings_of_level h]
  exact ⟨_, rfl, hthreshold, rfl, hstatements⟩

theorem act_threshold (j : Journal) (a : Act) :
    (j.act a).threshold = a.level?.getD j.threshold := by
  rcases a with s | e
  · rw [act_configure, Act.level?]
    rcases h : levelOf? s with _ | level
    · obtain ⟨e, he⟩ := configure_of_none h j
      rw [he, Option.getD_none]
    · obtain ⟨j', hj', hthreshold, -⟩ := configure_of_level h j
      rw [hj', Option.getD_some]
      exact hthreshold
  · rw [act_log, Act.level?, Option.getD_none]
    rcases log_cases j e with ⟨-, hlog⟩ | ⟨-, _, _, _, hlog⟩
    · rw [hlog]
    · rw [hlog]
      unfold count
      split <;> rfl

/-- The level in force is that of the last settings that put one in force. -/
theorem after_threshold (j : Journal) (acts : List Act) :
    (j.after acts).threshold = ((acts.filterMap Act.level?).getLast?).getD j.threshold := by
  induction acts generalizing j with
  | nil => rfl
  | cons a acts ih =>
      have hafter : j.after (a :: acts) = (j.act a).after acts := rfl
      rw [hafter, ih, act_threshold]
      rcases h : a.level? with _ | level
      · simp [h]
      · rw [List.filterMap_cons_some h, List.getLast?_cons]
        simp

/-- A journal that counts goes on counting, and an act adds what it emits. -/
theorem act_statements {c : StatementCount} (hcounts : j.logger.counts = true)
    (hc : j.statements = some c) (a : Act) :
    (j.act a).logger.counts = true ∧
      (j.act a).statements = some ((j.emits a).foldl StatementCount.add c) := by
  rcases a with s | e
  · rw [act_configure]
    rcases h : levelOf? s with _ | level
    · obtain ⟨e, he⟩ := configure_of_none h j
      rw [he, emits_of_none h]
      exact ⟨hcounts, hc⟩
    · obtain ⟨j', hj', -, hcounts', hstatements⟩ := configure_of_level h j
      rw [hj', emits_of_level h]
      refine ⟨hcounts', hstatements.trans ?_⟩
      have hlevelled : (j.levelled s level).statements = some c := by
        simp [levelled, hc]
      -- Settings emit one event at most.
      unfold troubles
      split
      · exact count_statements (j := j.levelled s level) hcounts hlevelled Level.error
      · exact hlevelled
  · rw [act_log, emits_log]
    rcases log_cases j e with ⟨hno, hlog⟩ | ⟨hyes, _, _, _, hlog⟩
    · rw [hlog, hno]
      exact ⟨hcounts, hc⟩
    · rw [hlog, hyes]
      exact ⟨hcounts, count_statements hcounts hc e.level⟩

/-- So does a run. -/
theorem after_statements {c : StatementCount} (hcounts : j.logger.counts = true)
    (hc : j.statements = some c) (acts : List Act) :
    (j.after acts).statements = some ((j.emitted acts).foldl StatementCount.add c) := by
  induction acts generalizing j c with
  | nil => exact hc
  | cons a acts ih =>
      obtain ⟨hcounts', hc'⟩ := act_statements hcounts hc a
      rw [emitted, List.foldl_append]
      exact ih hcounts' hc'

/-- Nothing is counted yet, and the logger would not count. -/
structure Quiet (j : Journal) : Prop where
  statements : j.statements = none
  counts : j.logger.counts = false

theorem Quiet.act (h : j.Quiet) {a : Act} (ha : a.level? = none) : (j.act a).Quiet := by
  rcases a with s | e
  · obtain ⟨e, he⟩ := configure_of_none ha j
    rw [act_configure, he]
    exact h
  · rw [act_log]
    rcases log_cases j e with ⟨-, hlog⟩ | ⟨-, _, _, _, hlog⟩
    · rw [hlog]
      exact h
    · rw [hlog, count_of_silent h.counts]
      exact ⟨h.statements, h.counts⟩

theorem Quiet.after (h : j.Quiet) {acts : List Act} (hacts : ∀ a ∈ acts, a.level? = none) :
    (j.after acts).Quiet := by
  induction acts generalizing j with
  | nil => exact h
  | cons a acts ih =>
      rw [List.forall_mem_cons] at hacts
      exact ih (h.act hacts.1) hacts.2

/-- The first settings that put a level in force begin a count of nothing. What
    they emit themselves goes through a logger that does not count. -/
theorem Quiet.configure (h : j.Quiet) {level : Level} (hs : levelOf? s = some level) :
    (j.act (.configure s)).logger.counts = true ∧
      (j.act (.configure s)).statements = some ⟨s.serviceName, []⟩ := by
  obtain ⟨j', hj', -, hcounts, hstatements⟩ := configure_of_level hs j
  rw [act_configure, hj']
  refine ⟨hcounts, hstatements.trans ?_⟩
  have hlevelled : (j.levelled s level).statements = some ⟨s.serviceName, []⟩ := by
    simp [levelled, h.statements]
  unfold troubles
  split
  · rw [List.foldl_cons, List.foldl_nil, count_of_silent (j := j.levelled s level) h.counts]
    exact hlevelled
  · exact hlevelled

theorem after_append (j : Journal) (acts acts' : List Act) :
    j.after (acts ++ acts') = (j.after acts).after acts' :=
  List.foldl_append

theorem length_emits (j : Journal) (a : Act) : (j.emits a).length ≤ 1 := by
  rcases a with s | e
  · rcases h : levelOf? s with _ | level
    · simp [emits_of_none h]
    · rw [emits_of_level h]
      unfold troubles
      split <;> simp
  · rw [emits_log]
    split <;> simp

theorem length_emitted (j : Journal) (acts : List Act) :
    (j.emitted acts).length ≤ acts.length := by
  induction acts generalizing j with
  | nil => exact Nat.le_refl 0
  | cons a acts ih =>
      have hone := j.length_emits a
      have hrest := ih (j.act a)
      rw [emitted, List.length_append, List.length_cons]
      omega

end Acts

end Journal

/-- Logging over whole runs of settings and events, in any order. Settings are
    refused if their level can not be read or if the service or the application
    has no name, and settings that are refused leave the journal exactly as it
    was. The level in force is that of the last settings that were not refused.
    Of a journal that has counted nothing, nothing is published until settings
    are first put into effect. From then on one count is published under the
    service name of those first settings, whatever the later ones say, and it
    holds for each level the number of events of that level emitted since: those
    that the level in force lets through, the reports of later settings that
    their directory can not be made among them, whatever is written and wherever
    it goes. Events without a level are not counted. -/
theorem statements_counted_over_runs :
    -- Settings that are refused.
    (∀ (j : Journal) (s : LogSettings),
      ((∃ e, (j.configure s).2 = .error e) ↔
        (∃ cause, Level.parse s.level = .error cause) ∨ s.serviceName = "" ∨ s.appName = "") ∧
      ((j.configure s).2 = .ok () ↔ ∃ level, levelOf? s = some level) ∧
      ∀ e, (j.configure s).2 = .error e → (j.configure s).1 = j) ∧
    -- The level in force.
    (∀ (j : Journal) (acts : List Act),
      (j.after acts).threshold = (acts.filterMap Act.level?).getLast?.getD j.threshold) ∧
    -- What is counted.
    ∀ j : Journal, j.Quiet →
      (∀ acts : List Act, (∀ a ∈ acts, a.level? = none) → (j.after acts).families = []) ∧
      ∀ (before : List Act) (s : LogSettings) (level : Level) (acts : List Act),
        (∀ a ∈ before, a.level? = none) → levelOf? s = some level →
        let first := j.after (before ++ [.configure s])
        ∃ c : StatementCount, (first.after acts).statements = some c ∧
          (first.after acts).families = [⟨"log_statements_total",
            "Number of log statements, differentiated by log level.",
            c.byLevel.map fun l => ⟨[("level", l.1), ("service", s.serviceName)], l.2⟩⟩] ∧
          c.Tells (first.emitted acts) ∧
          (acts.length < Number.natBound → ∀ l : Level, l ≠ Level.unleveled →
            ((c.byLevel.lookup l.text).getD 0).toNat = (first.emitted acts).count l) := by
  refine ⟨fun j s => ?_, Journal.after_threshold, fun j hj => ⟨fun acts hacts => ?_, ?_⟩⟩
  · rcases h : levelOf? s with _ | level
    · obtain ⟨e, he⟩ := Journal.configure_of_none h j
      rw [he]
      refine ⟨⟨fun _ => (levelOf?_eq_none_iff s).mp h, fun _ => ⟨e, rfl⟩⟩, ?_, fun _ _ => rfl⟩
      simp
    · obtain ⟨j', hj', -⟩ := Journal.configure_of_level h j
      have hsome : levelOf? s ≠ none := by simp [h]
      rw [hj', ← levelOf?_eq_none_iff]
      simp [hsome]
  · unfold Journal.families
    rw [(hj.after hacts).statements]
  · intro before s level acts hbefore hs first
    -- The first settings begin a count, and every act after them adds to it.
    have hfirst : first = (j.after before).act (.configure s) := j.after_append before _
    obtain ⟨hcounts, hstatements⟩ := (hj.after hbefore).configure hs
    rw [← hfirst] at hcounts hstatements
    have hafter := Journal.after_statements hcounts hstatements acts
    have htells := (StatementCount.Tells.empty s.serviceName).foldl_add (first.emitted acts)
    rw [List.nil_append] at htells
    refine ⟨_, hafter, ?_, htells, fun hfew l hl => ?_⟩
    · unfold Journal.families
      rw [hafter]
      simp only [StatementCount.foldl_add_service]
    · have hcount : (first.emitted acts).count l ≤ (first.emitted acts).length :=
        List.count_le_length
      have hlength := first.length_emitted acts
      rw [htells.counted l hl, Nat.mod_eq_of_lt (by omega)]

/-- Settings that are refused, then some that can not make their directory, and
    behind them events that are let through, kept back or without a level, and
    further settings of both kinds. -/
theorem statements_counted_over_runs_with_troubles :
    let j := Journal.initial ⟨"", "", .ofSwitch ""⟩ .unlimited .empty
    let settings (level service : String) : LogSettings :=
      { Settings.standard.log with
        level, serviceName := service
        file := { Settings.standard.log.file with enabled := true, path := "" } }
    let event (l : Level) : Act := .log { level := l }
    let before : List Act := [.configure (settings "loud" "a"), event Level.info]
    let acts : List Act := [event Level.info, event Level.debug, event Level.unleveled,
      .configure (settings "debug" "c"), .configure (settings "info" ""), event Level.debug,
      event 9]
    let last := (j.after (before ++ [.configure (settings "info" "b")])).after acts
    last.threshold = Level.debug ∧ ∃ c : StatementCount, last.statements = some c ∧
      last.families.map (·.samples.map (·.labels)) = [c.byLevel.map fun l =>
        [("level", l.1), ("service", "b")]] ∧
      ∀ l ∈ [Level.debug, Level.info, Level.error, 9],
        ((c.byLevel.lookup l.text).getD 0).toNat = 1 := by
  intro j settings event before acts last
  have hbefore : ∀ a ∈ before, a.level? = none := by decide +kernel
  have hlevel : levelOf? (settings "info" "b") = some Level.info := by decide +kernel
  have hlast : (acts.filterMap Act.level?).getLast? = some Level.debug := by decide +kernel
  have hemitted : (j.after (before ++ [.configure (settings "info" "b")])).emitted acts
      = [Level.info, Level.unleveled, Level.error, Level.debug, 9] := by decide +kernel
  obtain ⟨-, hthreshold, hcounted⟩ := statements_counted_over_runs
  obtain ⟨c, hstatements, hfamilies, -, hexact⟩ := (hcounted j ⟨rfl, rfl⟩).2 before
    (settings "info" "b") Level.info acts hbefore hlevel
  refine ⟨?_, c, hstatements, ?_, ?_⟩
  · rw [hthreshold, hlast, Option.getD_some]
  · rw [hfamilies]
    simp [settings]
  · rw [hemitted] at hexact
    intro l hl
    rw [hexact (by decide) l (by revert l; decide)]
    revert l
    decide

end Log

end Passforge
