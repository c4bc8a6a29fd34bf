import Mathlib.Logic.Function.Basic
import Passforge.Proofs.LogLines
import Passforge.Proofs.OrdinaryFiles
import Passforge.Proofs.Streams

/-!
# Log Files Split by Level

Where the lines of events go once log files are in use. An event that gets past
the level in force has one class, and its line is appended to the file of that
class and to no other. The four files are written through handles of two kinds,
opened when the first line arrives, and the invariant that carries a run has to
say for each of them that it is not open yet or that its handle writes at the
end.

Different classes have files at different places, so what is written to one
leaves the others as they are. Nothing is asked about the order of levels in a
run, nor about the console, which may refuse its lines. If the console is a
plain one that takes every text, it gets each line as well, so that what it
shows is a merge of the four files.

A line that is longer than its file may ever be is refused. That is the one way
in which an ordinary file can lose an event, so it is asked of a run that all of
its lines are short enough.

## Main definitions

* `Merges`: A list made of others, each of which keeps its order.
* `FileClass.takes`: The levels of a class.
* `LogFile.Serves`: A log file whose lines go to the end of an ordinary file.
* `Journal.line`, `Journal.admitted`, `Journal.lines`: The line of an event, the
  events that get past the level, and the lines of those of a class.
* `Journal.Filing`: What the files of a journal hold.

## Theorems

* `merges_filter`: A list is a merge of its parts.
* `FileClass.exists_takes_iff`: Every level belongs to one class.
* `LogFile.write_of_serves`: A line is appended.
* `Journal.linesOf_lines`: The lines of a class can be told apart.
* `Filing.log`, `Filing.foldl_log`: What logging adds to the files and to the
  console, for one event and for a run.
* `filing_of_configure`: Where a run starts.
* `log_files_partition`: The log files partition the log.
-/

namespace Passforge

section Merging

variable {ι α β : Type} [DecidableEq ι]

/-- The list is made of the parts: each step takes the next element of one of
    them. -/
inductive Merges : (ι → List α) → List α → Prop where
  | nil : Merges (fun _ => []) []
  | cons {parts : ι → List α} {xs : List α} (i : ι) (x : α) (h : Merges parts xs) :
      Merges (Function.update parts i (x :: parts i)) (x :: xs)

/-- An element is added to the part it belongs to. -/
theorem parts_cons (p : ι → α → Bool) (g : α → β) (x : α) (xs : List α) {i : ι}
    (hi : ∀ k, p k x = true ↔ k = i) :
    (fun k => ((x :: xs).filter (p k)).map g)
      = Function.update (fun k => (xs.filter (p k)).map g) i (g x :: (xs.filter (p i)).map g) := by
  funext k
  by_cases hk : k = i
  · subst hk
    rw [Function.update_self, List.filter_cons_of_pos ((hi k).mpr rfl), List.map_cons]
  · rw [Function.update_of_ne hk, List.filter_cons_of_neg fun hp => hk ((hi k).mp hp)]

/-- A list is a merge of its parts, if each element belongs to one of them. -/
theorem merges_filter (p : ι → α → Bool) (g : α → β) {xs : List α}
    (h : ∀ x ∈ xs, ∃ i, ∀ k, p k x = true ↔ k = i) :
    Merges (fun i => (xs.filter (p i)).map g) (xs.map g) := by
  induction xs with
  | nil => exact .nil
  | cons x xs ih =>
      obtain ⟨i, hi⟩ := h x List.mem_cons_self
      rw [parts_cons p g x xs hi]
      exact (ih fun y hy => h y (List.mem_cons_of_mem x hy)).cons i (g x)

end Merging

namespace Log

open Storage

namespace FileClass

/-- The levels whose events go to the file of a class. -/
def takes : FileClass → Level → Bool
  | .trace, l => l = Level.trace
  | .warn, l => l = Level.warn
  | .error, l => Level.warn < l
  | .info, l => l ≠ Level.trace ∧ l < Level.warn

/-- Every level belongs to one class. -/
theorem exists_takes_iff (l : Level) : ∃ c : FileClass, ∀ c', takes c' l = true ↔ c' = c := by
  have hwarn : Level.trace < Level.warn := by decide
  -- The warning divides the levels, and below it only one has a file of its own.
  rcases Int.lt_trichotomy l Level.warn with hlt | heq | hgt
  · by_cases htrace : l = Level.trace
    · exact ⟨.trace, fun c' => by cases c' <;> grind [takes]⟩
    · exact ⟨.info, fun c' => by cases c' <;> grind [takes]⟩
  · exact ⟨.warn, fun c' => by cases c' <;> grind [takes]⟩
  · exact ⟨.error, fun c' => by cases c' <;> grind [takes]⟩

theorem ofLevel?_eq_some_iff {l : Level} (hl : l ≠ Level.disabled) (c : FileClass) :
    ofLevel? l = some c ↔ c.takes l = true := by
  have hwarn : Level.trace < Level.warn := by decide
  unfold ofLevel?
  rw [if_neg hl]
  cases c <;> simp only [takes, decide_eq_true_eq] <;> grind

end FileClass

namespace ByClass

variable {α : Type}

theorem get_set_self (b : ByClass α) (c : FileClass) (a : α) : (b.set c a).get c = a := by
  cases c <;> rfl

theorem get_set_of_ne (b : ByClass α) {c c' : FileClass} (h : c' ≠ c) (a : α) :
    (b.set c a).get c' = b.get c' := by
  cases c <;> cases c' <;> first | rfl | exact absurd rfl h

end ByClass

namespace LogFile

variable {f : LogFile} {d d' : Disk} {l m : Location} {content : ByteArray}

/-- The lines of this file go to the end of the ordinary file at `l`. It is not
    open yet, or its handle writes there. -/
structure Serves (f : LogFile) (d : Disk) (l : Location) : Prop where
  writable : d.Writable f.path l
  handle : ∀ h ∈ f.handle, h = .atEnd l ∨ h = .atOffset l (d.contentAt l).size

/-- What is stored elsewhere makes no difference. -/
theorem Serves.stored (h : f.Serves d m) (hstored : d.Stored l content d')
    (hl : d.hasDirectory l = false) (hm : m ≠ l) : f.Serves d' m where
  writable := h.writable.stored hstored hl
  handle := by
    rw [hstored.contentAt_of_ne hm]
    exact h.handle

/-- Opening a file that can be written finds it or makes an empty one. -/
theorem openFile_of_writable {path : String} (h : d.Writable path l) :
    openFile d path = .ok (d, .atEnd l) ∨
      d.contentAt l = .empty ∧ openFile d path = .ok (d.put l (.file .empty), .atOffset l 0) := by
  rcases h.node?_cases with hnode | ⟨content, hnode⟩
  · obtain ⟨m, hparent⟩ := h.parent
    have hcreate : create d path = .ok (d.put l (.file .empty), .atOffset l 0) := by
      unfold create
      rw [Disk.makeDirectories_of_directory hparent]
      simp only
      rw [h.createFile_eq]
    refine .inr ⟨?_, ?_⟩
    · rw [Disk.contentAt, hnode]
    · unfold openFile
      rw [h.locate_of_none hnode]
      exact hcreate
  · left
    unfold openFile
    rw [h.locate_of_file hnode]

/-- Through a handle at the end of a file, bytes are appended, and the handle
    is at the end again. -/
theorem writeThrough_of_end (hl : d.hasDirectory l = false) (bytes : ByteArray) {h : Handle}
    (hh : h = .atEnd l ∨ h = .atOffset l (d.contentAt l).size) :
    ∃ d' h', writeThrough d bytes h = (d', h') ∧ d.Stored l (d.contentAt l ++ bytes) d' ∧
      (h' = .atEnd l ∨ h' = .atOffset l (d'.contentAt l).size) := by
  have hstored := Disk.stored_put hl (d.contentAt l ++ bytes)
  have hwritten : d.writeAt l (d.contentAt l).size bytes
      = d.put l (.file (d.contentAt l ++ bytes)) := by
    rw [Disk.writeAt, Disk.overwrite_size]
  rcases hh with rfl | rfl
  · exact ⟨_, _, rfl, hwritten ▸ hstored, .inl rfl⟩
  · refine ⟨_, _, rfl, hwritten ▸ hstored, .inr ?_⟩
    rw [hwritten, hstored.contentAt_self, ByteArray.size_append]

/-- A line that is short enough is written through the handle of the file, or
    else through the one that opening it gives. -/
theorem write_eq {line : String} (hfits : (line.toUTF8.size : Int) ≤ f.limit) {d₁ : Disk}
    {h h' : Handle} (hopened : f.handle = some h ∧ d₁ = d ∨
      f.handle = none ∧ openFile d f.path = .ok (d₁, h))
    (hwritten : writeThrough d₁ line.toUTF8 h = (d', h')) :
    f.write d line = (d', { f with handle := some h' }, .ok ()) := by
  unfold write
  simp only
  rw [if_neg (by omega)]
  rcases hopened with ⟨hhandle, rfl⟩ | ⟨hhandle, hopen⟩
  · simp only [hhandle, hwritten]
  · simp only [hhandle, hopen, hwritten]

/-- A line is appended. -/
theorem write_of_serves (h : f.Serves d l) {line : String}
    (hfits : (line.toUTF8.size : Int) ≤ f.limit) :
    ∃ d' handle, f.write d line = (d', { f with handle := some handle }, .ok ()) ∧
      d.Stored l (d.contentAt l ++ line.toUTF8) d' ∧
      Serves { f with handle := some handle } d' l := by
  have hl := h.writable.ordinary
  -- Whichever way the file is opened, the content is the same and the handle at its end.
  obtain ⟨d₁, h₁, hopened, hordinary, hcontent, hend, hkept⟩ : ∃ d₁ h₁,
      (f.handle = some h₁ ∧ d₁ = d ∨ f.handle = none ∧ openFile d f.path = .ok (d₁, h₁)) ∧
      d₁.hasDirectory l = false ∧ d₁.contentAt l = d.contentAt l ∧
      (h₁ = .atEnd l ∨ h₁ = .atOffset l (d₁.contentAt l).size) ∧
      ∀ content d', d₁.Stored l content d' → d.Stored l content d' := by
    rcases hhandle : f.handle with _ | handle
    · rcases openFile_of_writable h.writable with hopen | ⟨hempty, hopen⟩
      · exact ⟨d, .atEnd l, .inr ⟨rfl, hopen⟩, hl, rfl, .inl rfl, fun _ _ => id⟩
      · have hstored := Disk.stored_put hl .empty
        refine ⟨_, _, .inr ⟨rfl, hopen⟩, (hstored.hasDirectory hl l).trans hl, ?_, .inr ?_,
          fun _ _ => hstored.trans⟩
        · rw [hstored.contentAt_self, hempty]
        · rw [hstored.contentAt_self]
          rfl
    · exact ⟨d, handle, .inl ⟨rfl, rfl⟩, hl, rfl, h.handle handle hhandle, fun _ _ => id⟩
  obtain ⟨d', h', hwritten, hstored, hend'⟩ := writeThrough_of_end hordinary line.toUTF8 hend
  have hstored := hcontent ▸ hkept _ _ hstored
  refine ⟨d', h', write_eq hfits hopened hwritten, hstored, h.writable.stored hstored hl, ?_⟩
  intro k hk
  cases hk
  exact hend'

end LogFile

namespace Journal

/-- The plain line of an event. -/
def line (j : Journal) (e : Event) : String :=
  objectLine (e.members j.stamp)

/-- The events that get past the level in force. -/
def admitted (j : Journal) (es : List Event) : List Event :=
  es.filter fun e => j.admits e.level

/-- The lines of the events of a class that get past the level in force. -/
def lines (j : Journal) (es : List Event) (c : FileClass) : List String :=
  ((j.admitted es).filter fun e => c.takes e.level).map j.line

/-- The lines of a class can be told apart when they stand behind each other. -/
theorem linesOf_lines (j : Journal) (es : List Event) (c : FileClass) :
    Text.linesOf (String.join (j.lines es c)) = j.lines es c := by
  refine Text.linesOf_join fun line hline => ?_
  obtain ⟨e, -, rfl⟩ := List.mem_map.mp hline
  exact objectLine_isLine _

section Lines

variable {j : Journal} {e : Event} {es : List Event}

theorem admitted_cons_of_admits (h : j.admits e.level = true) :
    j.admitted (e :: es) = e :: j.admitted es :=
  List.filter_cons_of_pos h

theorem admitted_cons_of_not (h : j.admits e.level = false) :
    j.admitted (e :: es) = j.admitted es :=
  List.filter_cons_of_neg (by simp [h])

theorem ne_disabled_of_admits {l : Level} (h : j.admits l = true) : l ≠ Level.disabled := by
  unfold admits at h
  simp only [Bool.and_eq_true, bne_iff_ne] at h
  exact h.2

/-- What is in force while events are logged. -/
theorem log_alike (j : Journal) (e : Event) :
    (j.log e).threshold = j.threshold ∧ (j.log e).stamp = j.stamp ∧
      (j.log e).logger.console = j.logger.console := by
  rcases log_cases j e with ⟨-, hlog⟩ | ⟨-, _, _, _, hlog⟩
  · rw [hlog]
    exact ⟨rfl, rfl, rfl⟩
  · rw [hlog]
    unfold count
    split
    · exact ⟨rfl, rfl, rfl⟩
    · exact ⟨rfl, rfl, rfl⟩

theorem log_admitted (j : Journal) (e : Event) : (j.log e).admitted = j.admitted := by
  funext es
  unfold admitted admits
  rw [(log_alike j e).1]

theorem log_line (j : Journal) (e : Event) : (j.log e).line = j.line := by
  funext e'
  unfold line
  rw [(log_alike j e).2.1]

theorem log_lines (j : Journal) (e : Event) : (j.log e).lines = j.lines := by
  funext es c
  unfold lines
  rw [log_admitted, log_line]

theorem lines_subset {c : FileClass} : j.lines es c ⊆ j.lines (e :: es) c :=
  ((((List.sublist_cons_self e es).filter _).filter _).map _).subset

theorem lines_cons_of_not (h : j.admits e.level = false) : j.lines (e :: es) = j.lines es := by
  funext c
  unfold lines
  rw [admitted_cons_of_not h]

/-- The line of an event is one more line of its class. -/
theorem lines_cons_of_admits (h : j.admits e.level = true) {c : FileClass}
    (hc : ∀ c', FileClass.takes c' e.level = true ↔ c' = c) (es : List Event) :
    j.lines (e :: es) = Function.update (j.lines es) c (j.line e :: j.lines es c) := by
  have hparts := parts_cons (fun c e => FileClass.takes c e.level) j.line e (j.admitted es) hc
  rw [← admitted_cons_of_admits h] at hparts
  exact hparts

end Lines

/-- The files of a journal are those of the settings, each of them serves its
    place, and this is what they hold. -/
structure Filing (s : FileSettings) (place : FileClass → Location)
    (held : FileClass → ByteArray) (j : Journal) : Prop where
  files : ∃ files, j.logger.files = some files ∧ ∀ c, (files.get c).Serves j.disk (place c) ∧
    (files.get c).path = ((openFiles s).get c).path ∧
    (files.get c).limit = ((openFiles s).get c).limit
  held : ∀ c, j.disk.contentAt (place c) = held c

section Writing

variable {s : FileSettings} {place : FileClass → Location} {held : FileClass → ByteArray}
  {j j' : Journal} {c : FileClass}

theorem Filing.congr (h : Filing s place held j) (hdisk : j'.disk = j.disk)
    (hfiles : j'.logger.files = j.logger.files) : Filing s place held j' where
  files := by
    rw [hdisk, hfiles]
    exact h.files
  held := by
    rw [hdisk]
    exact h.held

/-- A line is appended to the file of its class, and to no other. -/
theorem Filing.writeFile (h : Filing s place held j) (hplaces : Function.Injective place)
    {l : Level} (hc : FileClass.ofLevel? l = some c) {members : List (String × FieldValue)}
    (hfits : ((objectLine members).toUTF8.size : Int) ≤ ((openFiles s).get c).limit) :
    ∃ j', j.writeFile l members = (j', none) ∧
      Filing s place (Function.update held c (held c ++ (objectLine members).toUTF8)) j' := by
  obtain ⟨files, hfiles, hall⟩ := h.files
  obtain ⟨hserves, hpath, hlimit⟩ := hall c
  obtain ⟨d', handle, hwrite, hstored, hserves'⟩ := LogFile.write_of_serves hserves (hlimit ▸ hfits)
  have hordinary := hserves.writable.ordinary
  refine ⟨{ j with
    disk := d'
    logger := { j.logger with
      files := some (files.set c { files.get c with handle := some handle }) } }, ?_, ?_, ?_⟩
  · unfold Journal.writeFile
    rw [hfiles, hc]
    simp only [hwrite]
  -- The files of the other classes are elsewhere.
  · refine ⟨_, rfl, fun c' => ?_⟩
    by_cases hc' : c' = c
    · subst hc'
      rw [ByClass.get_set_self]
      exact ⟨hserves', hpath, hlimit⟩
    · rw [ByClass.get_set_of_ne files hc']
      exact ⟨(hall c').1.stored hstored hordinary fun heq => hc' (hplaces heq), (hall c').2⟩
  · intro c'
    by_cases hc' : c' = c
    · subst hc'
      rw [Function.update_self, ← h.held c']
      exact hstored.contentAt_self
    · rw [Function.update_of_ne hc', ← h.held c']
      exact hstored.contentAt_of_ne fun heq => hc' (hplaces heq)

/-- On a plain console that takes every text, the line is shown. -/
theorem writeConsole_of_plain (hform : j.logger.console = some .object)
    (hlimit : j.console.limit = none) (members : List (String × FieldValue)) :
    j.writeConsole members
      = ({ j with console := { j.console with taken := j.console.taken ++ objectLine members } },
        none) := by
  unfold writeConsole
  rw [hform]
  simp only [Sink.put_of_unlimited hlimit]

theorem count_alike (j : Journal) (l : Level) :
    (j.count l).disk = j.disk ∧ (j.count l).stamp = j.stamp := by
  unfold count
  split
  · exact ⟨rfl, rfl⟩
  · exact ⟨rfl, rfl⟩

/-- An event that gets past the level is added to the file of its class, and
    shown on the console. -/
theorem Filing.log (h : Filing s place held j) (hplaces : Function.Injective place) {e : Event}
    (hadmits : j.admits e.level = true) (hc : c.takes e.level = true)
    (hfits : ((j.line e).toUTF8.size : Int) ≤ ((openFiles s).get c).limit) :
    Filing s place (Function.update held c (held c ++ (j.line e).toUTF8)) (j.log e) ∧
      (j.logger.console = some .object → j.console.limit = none →
        (j.log e).console.taken = j.console.taken ++ j.line e) := by
  obtain ⟨hdisk, hstamp⟩ := j.count_alike e.level
  have hlogger := j.count_logger e.level
  have hclass := (FileClass.ofLevel?_eq_some_iff (ne_disabled_of_admits hadmits) c).mpr hc
  rcases hwritten : (j.count e.level).writeConsole (e.members j.stamp) with ⟨j₁, first⟩
  obtain ⟨console, hj₁⟩ := writeConsole_eq (j.count e.level) (e.members j.stamp)
  rw [hwritten] at hj₁
  simp only at hj₁
  -- Counting the event and showing it leave the files alone.
  have hfiling : Filing s place held j₁ := by
    rw [hj₁]
    exact h.congr hdisk (congrArg Logger.files hlogger)
  obtain ⟨j₂, hfile, hfiling'⟩ := hfiling.writeFile hplaces hclass hfits
  have hconsole : j₂.console = j₁.console := by
    have := writeFile_console j₁ e.level (e.members j.stamp)
    rwa [hfile] at this
  unfold Journal.log
  rw [if_pos hadmits]
  simp only [hstamp, hwritten, hfile, Option.or_none]
  constructor
  -- If the console refused the line, one more text is offered to it.
  · rcases first with _ | reason
    · exact hfiling'
    · exact hfiling'.congr rfl rfl
  · intro hform hlimit
    have hplain := writeConsole_of_plain (j := j.count e.level) (hlogger ▸ hform)
      (j.count_console e.level ▸ hlimit) (e.members j.stamp)
    rw [hwritten, Prod.mk.injEq] at hplain
    obtain ⟨hj₁', rfl⟩ := hplain
    simp only
    rw [hconsole, hj₁', j.count_console]
    rfl

/-- A run of events adds to each file the lines of its class, and shows all of
    them on the console. -/
theorem Filing.foldl_log (hplaces : Function.Injective place) {es : List Event}
    (h : Filing s place held j)
    (hfits : ∀ c, ∀ text ∈ j.lines es c,
      (text.toUTF8.size : Int) ≤ ((openFiles s).get c).limit) :
    Filing s place (fun c => held c ++ (String.join (j.lines es c)).toUTF8)
        (es.foldl Journal.log j) ∧
      (j.logger.console = some .object → j.console.limit = none →
        (es.foldl Journal.log j).console.taken
          = j.console.taken ++ String.join ((j.admitted es).map j.line)) := by
  induction es generalizing j held with
  | nil =>
      refine ⟨?_, fun _ _ => (by simp [admitted])⟩
      simpa [lines, admitted] using h
  | cons e es ih =>
      rw [List.foldl_cons]
      rcases hadmits : j.admits e.level with _ | _
      · rcases log_cases j e with ⟨-, hlog⟩ | ⟨hyes, -⟩
        · rw [hlog, admitted_cons_of_not hadmits, lines_cons_of_not hadmits]
          rw [lines_cons_of_not hadmits] at hfits
          exact ih h hfits
        · rw [hadmits] at hyes
          cases hyes
      -- One file grows by the line, and what the rest of the run adds comes behind it.
      · obtain ⟨c, hc⟩ := FileClass.exists_takes_iff e.level
        have hlines := lines_cons_of_admits hadmits hc es
        obtain ⟨hfiling, hshown⟩ := h.log hplaces hadmits ((hc c).mpr rfl) <|
          hfits c (j.line e) (by rw [hlines, Function.update_self]; exact List.mem_cons_self)
        obtain ⟨hfiling', hshown'⟩ := ih hfiling fun c' text htext =>
          hfits c' text (lines_subset (log_lines j e ▸ htext))
        have hheld : (fun c' => Function.update held c (held c ++ (j.line e).toUTF8) c'
              ++ (String.join ((j.log e).lines es c')).toUTF8)
            = fun c' => held c' ++ (String.join (j.lines (e :: es) c')).toUTF8 := by
          funext c'
          rw [hlines, log_lines]
          by_cases hc' : c' = c
          · subst hc'
            rw [Function.update_self, Function.update_self, String.join_cons,
              ByteArray.append_assoc]
            exact congrArg (held c' ++ ·) String.toByteArray_append.symm
          · rw [Function.update_of_ne hc', Function.update_of_ne hc']
        refine ⟨hheld ▸ hfiling', fun hform hlimit => ?_⟩
        rw [hshown' ((log_alike j e).2.2.trans hform)
            (log_keeps (Sink.keeps_limit none) j e hlimit), hshown hform hlimit, log_admitted,
          log_line, admitted_cons_of_admits hadmits, List.map_cons, String.join_cons,
          String.append_assoc]

end Writing

theorem parse_of_checkSettings {s : LogSettings} {level : Level}
    (h : checkSettings s = .ok level) : Level.parse s.level = .ok level := by
  unfold checkSettings at h
  rcases hparse : Level.parse s.level with cause | parsed
  · rw [hparse] at h
    cases h
  · rw [hparse] at h
    simp only at h
    split at h
    · cases h
    · split at h
      · cases h
      · rw [Except.ok.injEq] at h
        rw [h]

theorem prepareFiles_of_directory {j : Journal} {s : FileSettings} {d : Disk}
    (henabled : s.enabled = true) (hdirectory : j.disk.makeDirectories s.path = .ok d) :
    j.prepareFiles s = ({ j with disk := d }, some (openFiles s)) := by
  unfold prepareFiles
  rw [henabled, hdirectory]
  rfl

/-- Settings in effect whose directory for log files could be made: the files
    are not open yet, and nothing was written. -/
theorem filing_of_configure {j : Journal} {s : LogSettings} {d : Disk}
    {place : FileClass → Location} (hsettings : (j.configure s).2 = .ok ())
    (henabled : s.file.enabled = true) (hdirectory : j.disk.makeDirectories s.file.path = .ok d)
    (hwritable : ∀ c, d.Writable ((openFiles s.file).get c).path (place c)) :
    Filing s.file place (fun c => d.contentAt (place c)) (j.configure s).1 ∧
      Level.parse s.level = .ok (j.configure s).1.threshold ∧
      (j.configure s).1.console = j.console ∧
      (j.configure s).1.logger.console = if s.console.enabled then
        some (if s.console.readable then .readable else .object) else none := by
  unfold configure at hsettings ⊢
  rcases hcheck : checkSettings s with e | level
  · rw [hcheck] at hsettings
    cases hsettings
  · have hprepare := prepareFiles_of_directory (j := j.levelled s level) henabled hdirectory
    have hdisk := congrArg (·.1.disk) hprepare
    have hfiles := congrArg Prod.snd hprepare
    refine ⟨⟨⟨openFiles s.file, hfiles, fun c => ⟨⟨?_, ?_⟩, rfl, rfl⟩⟩, fun c => ?_⟩, ?_,
      congrArg (·.1.console) hprepare, rfl⟩
    · exact hdisk ▸ hwritable c
    · cases c <;> exact fun _ hh => (by cases hh)
    · exact congrArg (Disk.contentAt · (place c)) hdisk
    · exact (parse_of_checkSettings hcheck).trans
        (congrArg Except.ok (congrArg (·.1.threshold) hprepare).symm)

end Journal

/-- The log files partition the log. Take log settings in effect that ask for
    files, whose directory could be made, and under whose four paths ordinary
    files can be written, at four different places. After any number of events
    at any levels, each file holds what it held before and then, in the order of
    the events, the lines of those that got past the level and belong to its
    class, provided that no line is longer than its file may be; and these lines
    can be told apart in what was added. Every level belongs to one class. A
    plain console that takes every text shows the lines of all events that got
    past the level, in their order, and so a merge of what was added to the
    files. -/
theorem log_files_partition (j : Journal) (s : LogSettings) (d : Disk)
    (place : FileClass → Location) (es : List Event) (hsettings : (j.configure s).2 = .ok ())
    (henabled : s.file.enabled = true) (hdirectory : j.disk.makeDirectories s.file.path = .ok d)
    (hwritable : ∀ c, d.Writable ((openFiles s.file).get c).path (place c))
    (hplaces : Function.Injective place)
    (hfits : ∀ c, ∀ text ∈ (j.configure s).1.lines es c,
      (text.utf8ByteSize : Int) ≤ ((openFiles s.file).get c).limit) :
    let k := (j.configure s).1
    let last := es.foldl Journal.log k
    Level.parse s.level = .ok k.threshold ∧
      (∀ c, last.disk.held ((openFiles s.file).get c).path
          = d.held ((openFiles s.file).get c).path ++ (String.join (k.lines es c)).toUTF8 ∧
        Text.linesOf (String.join (k.lines es c)) = k.lines es c) ∧
      (∀ l, ∃! c, FileClass.takes c l = true) ∧
      Merges (k.lines es) ((k.admitted es).map k.line) ∧
      (s.console.enabled = true → s.console.readable = false → j.console.limit = none →
        last.console.taken
          = j.console.taken ++ String.join ((k.admitted es).map k.line)) := by
  intro k last
  obtain ⟨hfiling, hparse, hconsole, hform⟩ :=
    Journal.filing_of_configure hsettings henabled hdirectory hwritable
  obtain ⟨hlast, hshown⟩ := hfiling.foldl_log hplaces hfits
  refine ⟨hparse, fun c => ⟨?_, k.linesOf_lines es c⟩, fun l => ?_, ?_,
    fun hplain hobject hlimit => ?_⟩
  · obtain ⟨files, -, hall⟩ := hlast.files
    obtain ⟨hserves, hpath, -⟩ := hall c
    have hthere : last.disk.Writable ((openFiles s.file).get c).path (place c) :=
      hpath ▸ hserves.writable
    rw [(hwritable c).held_eq, hthere.held_eq]
    exact hlast.held c
  · obtain ⟨c, hc⟩ := FileClass.exists_takes_iff l
    exact ⟨c, (hc c).mpr rfl, fun c' htakes => (hc c').mp htakes⟩
  · exact merges_filter (fun c e => FileClass.takes c e.level) k.line
      fun e _ => FileClass.exists_takes_iff e.level
  · rw [hplain, hobject] at hform
    rw [← hconsole]
    exact hshown hform (hconsole ▸ hlimit)

/-- One file is there already and the others are made. Of nine events, two do
    not get past the level. -/
theorem log_files_partition_of_nine :
    let d : Disk := ⟨[(["log"], .directory), (["log", "warn.log"], .file "old\n".toUTF8)]⟩
    let j := Journal.initial ⟨"", "", .ofSwitch ""⟩ .unlimited d
    let s : LogSettings :=
      { Settings.standard.log with
        level := "trace"
        console := ⟨true, false⟩
        file := { Settings.standard.log.file with enabled := true, path := "log" } }
    let es : List Event := [3, 2, -1, 7, 0, 6, -2, 1, 9].map fun level => { level }
    let names : ByClass String := ⟨"error.log", "info.log", "trace.log", "warn.log"⟩
    let place (c : FileClass) : Location := ["log", names.get c]
    let k := (j.configure s).1
    let last := es.foldl Journal.log k
    (j.configure s).2 = .ok () ∧ j.disk.makeDirectories s.file.path = .ok d ∧
      (∀ c, d.Writable ((openFiles s.file).get c).path (place c)) ∧ Function.Injective place ∧
      (∀ c, last.disk.held ((openFiles s.file).get c).path
        = d.held ((openFiles s.file).get c).path ++ (String.join (k.lines es c)).toUTF8) ∧
      (∀ c, (k.lines es c).length = (ByClass.mk 3 2 1 1).get c) ∧
      last.console.taken = j.console.taken ++ String.join ((k.admitted es).map k.line) := by
  intro d j s es names place
  have hsettings : (j.configure s).2 = .ok () := by
    have hlevel : levelOf? s = some Level.trace := by decide +kernel
    obtain ⟨_, hj, -⟩ := Journal.configure_of_level hlevel j
    rw [hj]
  have hdirectory : d.locate "log" = .ok (["log"], .directory) :=
    Disk.locate_eq_ok_iff.mpr ⟨by decide +kernel, by decide +kernel, by rfl, .inl rfl⟩
  have hmade := Disk.makeDirectories_of_directory hdirectory
  have hwritable : ∀ c, d.Writable ((openFiles s.file).get c).path (place c) := by
    intro c
    have hpath : ((openFiles s.file).get c).path = "log/" ++ names.get c := by
      cases c <;> decide +kernel
    have hparent : parentPath ("log/" ++ names.get c) = "log" := by cases c <;> decide +kernel
    have hentry : d.newEntry ("log/" ++ names.get c) = .ok (["log"], names.get c) := by
      cases c <;> decide +kernel
    have hordinary : d.hasDirectory (place c) = false := by cases c <;> decide +kernel
    have hnamed : Disk.demandsDirectory ("log/" ++ names.get c) = false := by
      cases c <;> decide +kernel
    rw [hpath]
    exact ⟨⟨["log"], names.get c, hentry, rfl⟩, ⟨["log"], by rw [hparent, hdirectory]⟩, hordinary,
      hnamed⟩
  have hplaces : Function.Injective place := by
    intro a b hab
    cases a <;> cases b <;> first | rfl | exact absurd hab (by decide)
  have hfits : ∀ c, ∀ text ∈ (j.configure s).1.lines es c,
      (text.utf8ByteSize : Int) ≤ ((openFiles s.file).get c).limit := by
    intro c
    cases c <;> decide +kernel
  have hall := log_files_partition j s d place es hsettings rfl hmade hwritable hplaces hfits
  have hcount (c : FileClass) :
      ((j.configure s).1.lines es c).length = (ByClass.mk 3 2 1 1).get c := by
    cases c <;> decide +kernel
  exact ⟨hsettings, hmade, hwritable, hplaces, fun c => (hall.2.1 c).1, hcount,
    hall.2.2.2.2 rfl rfl rfl⟩

end Log

end Passforge
