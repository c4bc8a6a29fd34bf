import Passforge.Command.Run
import Passforge.Proofs.Run

/-!
# Steps of a Run

A step of a run can go three ways: it gives a value, it fails, or it halts.
Each of them says what a sequence of two steps does, and that is all the later
modules need to know about how steps are put together.

Most of what a run does besides generating concerns the journal only, from
which everything goes to the second output stream. Loading the settings,
logging and publishing the counters are such steps. They may fail, and then the
journal is all they have touched.

## Main definitions

* `Parsed.levelled`: The settings a run works with.
* `Stage.planned`: The stage that a plan starts from.
* `Ending.ends`: The run did not draw for ever.

## Theorems

* `Step.bind_of_ok`, `Step.bind_of_failure`, `Step.bind_of_halt`: A sequence of
  two steps, by how the first one goes.
* `Step.lift_of_ok`, `Step.lift_of_error`: A computation that can not fail.
* `forM_log`: Logging events changes the journal.
* `prepare_of_load`: Loading the settings, once they are read.
* `prepare_cases`: What loading the settings can do.
* `write_eq`: Writing a result.
* `publishCounters_eq`: Publishing the counters.
* `generateStrings_of_plan`: The generating command is its loop, run from the
  planned stage.
-/

namespace Passforge

namespace Sink

@[simp] theorem put_limit (s : Sink) (text : String) : (s.put text).1.limit = s.limit := by
  unfold put
  split <;> rfl

@[simp] theorem put_refusal (s : Sink) (text : String) : (s.put text).1.refusal = s.refusal := by
  unfold put
  split <;> rfl

end Sink

namespace Command

namespace Step

variable {α β : Type} {x : Step α} {f : α → Step β} {s s' : Stage}

theorem bind_of_ok {a : α} (h : x s = (.ok (.ok a), s')) : (x >>= f) s = f a s' :=
  Run.bind_of_ok (x := (x : Run Stage (Except Failure α))) h

theorem bind_of_failure {e : Failure} (h : x s = (.ok (.error e), s')) :
    (x >>= f) s = (.ok (.error e), s') :=
  Run.bind_of_ok (x := (x : Run Stage (Except Failure α))) h

theorem bind_of_halt {e : Halt} (h : x s = (.error e, s')) : (x >>= f) s = (.error e, s') :=
  Run.bind_of_error (x := (x : Run Stage (Except Failure α))) h

theorem get_bind (f : Stage → Step β) (s : Stage) : ((get : Step Stage) >>= f) s = f s s :=
  bind_of_ok rfl

theorem modify_bind (g : Stage → Stage) (f : PUnit → Step β) (s : Stage) :
    ((modify g : Step PUnit) >>= f) s = f ⟨⟩ (g s) :=
  bind_of_ok rfl

/-- A computation that can not fail gives a value or halts. -/
theorem lift_of_ok {y : Run Stage α} {a : α} (h : y s = (.ok a, s')) :
    (ExceptT.lift y : Step α) s = (.ok (.ok a), s') := by
  simp only [ExceptT.lift, ExceptT.mk, Functor.map, ExceptT.map, bind, StateT.bind, h]
  rfl

theorem lift_of_error {y : Run Stage α} {e : Halt} (h : y s = (.error e, s')) :
    (ExceptT.lift y : Step α) s = (.error e, s') := by
  simp only [ExceptT.lift, ExceptT.mk, Functor.map, ExceptT.map, bind, StateT.bind, h]
  rfl

end Step

theorem write_eq (text : String) (s : Stage) :
    write text s = if s.output.fits text then
        (.ok (.ok ()), { s with output := { s.output with taken := s.output.taken ++ text } })
      else (.ok (.error (.output s.output.refusal)), s) := by
  unfold write
  rw [Step.get_bind]
  unfold Sink.put
  cases s.output.fits text <;> rfl

theorem forM_log (es : List Log.Event) (s : Stage) :
    es.forM log s = (.ok (.ok ⟨⟩), s.withJournal fun j => es.foldl Log.Journal.log j) := by
  induction es generalizing s with
  | nil => rfl
  | cons e es ih =>
      have hlog : log e s = (.ok (.ok ⟨⟩), s.withJournal fun j => j.log e) := rfl
      exact (Step.bind_of_ok hlog).trans (ih _)

/-- A level given by a flag replaces the one that was loaded. -/
def Parsed.levelled (p : Parsed) (loaded : Settings) : Settings :=
  match p.text? .logLevel with
  | some level => { loaded with log := { loaded.log with level } }
  | none => loaded

theorem Parsed.levelled_generator (p : Parsed) (loaded : Settings) :
    (p.levelled loaded).generator = loaded.generator := by
  unfold levelled
  split <;> rfl

/-- What is logged about settings once they are in effect. -/
def loadedEvent (c : Command) (p : Parsed) : Log.Event where
  level := Log.Level.debug
  fields := [("config", .text ((p.text? .config).getD standardDirectory)),
    ("command", .text c.name)]
  message := "config loaded"

theorem prepare_of_error {i : Invocation} {c : Command} {p : Parsed} {loaded : Settings}
    {e : LoadError} (h : Settings.load i.disk i.environment
      ((p.text? .config).getD standardDirectory) = (loaded, some e)) (s : Stage) :
    prepare i c p s = (.ok (.error (.load e)), s) := by
  unfold prepare
  simp only [h]
  rfl

theorem prepare_of_load {i : Invocation} {c : Command} {p : Parsed} {loaded : Settings}
    (h : Settings.load i.disk i.environment ((p.text? .config).getD standardDirectory)
      = (loaded, none)) (s : Stage) :
    prepare i c p s = match s.session.journal.configure (p.levelled loaded).log with
      | (_, .error e) => (.ok (.error (.logging e)), s)
      | (journal, .ok ()) => (.ok (.ok (p.levelled loaded)),
          s.withJournal fun _ => journal.log (loadedEvent c p)) := by
  unfold prepare Parsed.levelled
  simp only [h]
  rw [Step.bind_of_ok (show (pure loaded : Step Settings) s = (.ok (.ok loaded), s) from rfl),
    Step.get_bind]
  -- The level is settled before logging is, so each of the two cases has its own settings.
  rcases p.text? .logLevel with _ | level
  · rcases s.session.journal.configure loaded.log with ⟨journal, e | ⟨⟩⟩
    · rfl
    · rfl
  · simp only
    rcases s.session.journal.configure { loaded.log with level } with ⟨journal, e | ⟨⟩⟩
    · rfl
    · rfl

/-- Loading the settings and setting up logging fails without a trace, or it
    gives the settings that were loaded, apart from the level of the log, and
    changes the journal. -/
theorem prepare_cases (i : Invocation) (c : Command) (p : Parsed) (s : Stage) :
    (∃ e, prepare i c p s = (.ok (.error e), s)) ∨
      ∃ loaded settings journal,
        Settings.load i.disk i.environment ((p.text? .config).getD standardDirectory)
          = (loaded, none) ∧
        settings.generator = loaded.generator ∧
        prepare i c p s = (.ok (.ok settings), s.withJournal fun _ => journal) := by
  rcases hload : Settings.load i.disk i.environment ((p.text? .config).getD standardDirectory)
    with ⟨loaded, _ | e⟩
  · rw [prepare_of_load hload]
    rcases s.session.journal.configure (p.levelled loaded).log with ⟨journal, e | ⟨⟩⟩
    · exact .inl ⟨.logging e, rfl⟩
    · exact .inr ⟨loaded, p.levelled loaded, _, rfl, p.levelled_generator loaded, rfl⟩
  · exact .inl ⟨.load e, prepare_of_error hload s⟩

/-- Publishing the counters goes as the second stream takes them. -/
theorem publishCounters_eq (s : Stage) :
    publishCounters s
      = (.ok ((Metrics.publish (.ok s.session.board.families) s.session.journal.console).2.mapError
          Failure.publish),
        s.withJournal fun j => { j with console :=
          (Metrics.publish (.ok s.session.board.families) s.session.journal.console).1 }) := by
  unfold publishCounters
  rw [Step.get_bind]
  rcases Metrics.publish (.ok s.session.board.families) s.session.journal.console
    with ⟨console, e | ⟨⟩⟩
  · rfl
  · rfl

/-- The stage that a plan starts from: its announcements are logged and its
    source is in place. -/
def Stage.planned (s : Stage) (plan : Plan) : Stage :=
  let s' := s.withJournal fun j => plan.announcements.foldl Log.Journal.log j
  { s' with session :=
    { s'.session with supply := { s'.session.supply with drawer := plan.drawer } } }

theorem generateStrings_of_error {i : Invocation} {settings : Settings} {p : Parsed} {e : PlanError}
    (h : Plan.make (.ofParsed p) settings.generator i.freshSeed p.arguments = .error e)
    (s : Stage) : generateStrings i settings p s = (.ok (.error (.plan e)), s) := by
  unfold generateStrings
  simp only [h]
  rfl

theorem generateStrings_of_plan {i : Invocation} {settings : Settings} {p : Parsed} {plan : Plan}
    (h : Plan.make (.ofParsed p) settings.generator i.freshSeed p.arguments = .ok plan)
    (s : Stage) : generateStrings i settings p s
      = (writeRecords (.ofMaximum settings.generator.maxLength) plan.request
          (if (Choice.ofParsed p).hash then some i.hashParameters else none)
          (Choice.ofParsed p).count.toNat >>= fun _ =>
        if (Choice.ofParsed p).metrics then publishCounters else pure ()) (s.planned plan) := by
  unfold generateStrings
  simp only [h]
  rw [Step.bind_of_ok (forM_log plan.announcements s), Step.modify_bind]
  rfl

/-- The run came to an end, if only by a fault, and did not draw for ever. -/
def Ending.ends : Ending → Bool
  | .halt .endless => false
  | _ => true

/-- What comes after the records may fail, and changes the journal only. -/
theorem finish_cases (metrics : Bool) (s : Stage) :
    ∃ result journal, (if metrics then publishCounters else pure () : Step Unit) s
      = (.ok result, s.withJournal fun _ => journal) := by
  cases metrics with
  | false => exact ⟨.ok (), s.session.journal, rfl⟩
  | true => exact ⟨_, _, publishCounters_eq s⟩

end Command

end Passforge
