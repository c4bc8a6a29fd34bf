import Passforge.Proofs.HashLine
import Passforge.Proofs.Serving
import Passforge.Proofs.Step

/-!
# Generating Runs

What a generating run does, up to the first string and for every string.

Before the first string the words are made sense of, the settings are loaded
and logging is set up. Each of these can fail, and then nothing else has
happened. If none of them does, the run *begins*.

Every string is one turn. A refused request ends the run before anything is
drawn. Otherwise a string is drawn, it is counted and logged, it is hashed if
that is asked for, and it is written; a draw that never ends is the only thing
that can come between, as long as the source is one of the program's own. Each
part of a turn is a step whose outcome is known from the stage it starts at, so
a turn is known from its parts, and whoever follows a run need not open them.

## Main definitions

* `Invocation.Begins`: A run gets to generating.
* `serveRequest`: Serving a request, as a step of a run.
* `writeText`: Writing a string, with its hash if that is asked for.
* `Stage.refused`, `Stage.served`, `Stage.salted`: The stage after a refusal,
  after a served request, and after reading a salt.

## Theorems

* `obey_cases`: A run without a trace of its own, or one that begins.
* `obey_of_begins`: A run that begins generates strings.
* `Invocation.exists_begins`: What it takes to begin.
* `writeRecord_of_rejection`, `writeRecord_of_halt`, `writeRecord_of_text`: A
  turn, by what becomes of its request.
* `writeRecord_native`: A turn with one of the program's own sources.
* `writeText_of_fault`, `writeText_of_line`: What is written of a string that is
  to be hashed.
-/

namespace Passforge.Command

/-- The words ask for strings, nothing is wrong with them, and once the settings
    are in effect the run is at the stage `s`. -/
structure Invocation.Begins (i : Invocation) (flags : Parsed) (settings : Settings) (s : Stage) :
    Prop where
  words : ∃ words, find i.words = (.generate, words) ∧
    parse Command.generate.flags words = .ok flags
  help : flags.isOn .help = false
  arguments : Command.generate.checkArguments flags.arguments = none
  prepared : prepare i .generate flags i.stage = (.ok (.ok settings), s)

/-- What was read is known from the flags and arguments it holds, which can be
    compared. -/
theorem parse_of_given {known : List Flag} {words : List String}
    {given : List (Flag × FlagValue)} {arguments : List String}
    (h : (parse known words).toOption.map (fun p => (p.given, p.arguments))
      = some (given, arguments)) : parse known words = .ok ⟨given, arguments⟩ := by
  rcases hparse : parse known words with e | ⟨given', arguments'⟩
  · rw [hparse] at h
    cases h
  · rw [hparse] at h
    cases h
    rfl

section Beginning

variable {i : Invocation} {words : List String} {flags : Parsed} {settings : Settings} {s : Stage}

/-- Preparing fails without a trace, and not for the counters. -/
theorem prepare_failure {c : Command} {s s' : Stage} {f : Failure}
    (h : prepare i c flags s = (.ok (.error f), s')) : (∀ e, f ≠ .publish e) ∧ s' = s := by
  rcases hload : Settings.load i.disk i.environment ((flags.text? .config).getD standardDirectory)
    with ⟨loaded, _ | e⟩
  · rw [prepare_of_load hload] at h
    split at h
    · cases h
      simp
    · cases h
  · rw [prepare_of_error hload] at h
    cases h
    simp

theorem obey_of_error {e : FlagError} (hfind : find i.words = (.generate, words))
    (hparse : parse Command.generate.flags words = .error e) (s : Stage) :
    obey i s = (.ok (.error (.flag e)), s) := by
  unfold obey
  simp only [hfind, hparse]
  rfl

theorem obey_of_parse (hfind : find i.words = (.generate, words))
    (hparse : parse Command.generate.flags words = .ok flags) (hhelp : flags.isOn .help = false) :
    obey i = match Command.generate.checkArguments flags.arguments with
      | some e => throw (.arguments e)
      | none => prepare i .generate flags >>= fun settings => generateStrings i settings flags := by
  unfold obey
  simp only [hfind, hparse]
  unfold perform
  -- Help was not asked for, neither by the flag nor as a command.
  refine (if_neg (by rw [hhelp]; decide)).trans ((if_neg (by decide)).trans ?_)
  rcases Command.generate.checkArguments flags.arguments with _ | e
  · rfl
  · rfl

theorem obey_of_begins (h : i.Begins flags settings s) :
    obey i i.stage = generateStrings i settings flags s := by
  rcases h.words with ⟨words, hfind, hparse⟩
  rw [obey_of_parse hfind hparse h.help, h.arguments]
  exact Step.bind_of_ok h.prepared

/-- A run fails by what its command fails by. -/
theorem Invocation.run_failure_iff (i : Invocation) (f : Failure) :
    i.run.1 = .failure f ↔ (obey i i.stage).1 = .ok (.error f) := by
  unfold Invocation.run
  rcases obey i i.stage with ⟨h | f' | ⟨⟩, s⟩ <;> simp

/-- A run that does not begin fails without a trace. -/
theorem obey_cases (hfind : find i.words = (.generate, words))
    (hhelp : ∀ flags, parse Command.generate.flags words = .ok flags → flags.isOn .help = false) :
    (∃ f, (∀ e, f ≠ .publish e) ∧ obey i i.stage = (.ok (.error f), i.stage)) ∨
      ∃ flags settings s, i.Begins flags settings s := by
  rcases hparse : parse Command.generate.flags words with e | flags
  · exact .inl ⟨.flag e, (by simp), obey_of_error hfind hparse i.stage⟩
  rw [obey_of_parse hfind hparse (hhelp flags hparse)]
  rcases harguments : Command.generate.checkArguments flags.arguments with _ | e
  · simp only
    rcases hprepare : prepare i .generate flags i.stage with ⟨h | f | settings, s⟩
    -- Neither of the two ways that preparing can go is a halt.
    · rcases prepare_cases i .generate flags i.stage with ⟨e, he⟩ | ⟨_, _, _, _, _, he⟩
      all_goals
        rw [hprepare] at he
        cases he
    · rcases prepare_failure hprepare with ⟨hf, rfl⟩
      exact .inl ⟨f, hf, Step.bind_of_failure hprepare⟩
    · exact .inr ⟨flags, settings, s, ⟨words, hfind, hparse⟩, hhelp flags hparse, harguments,
        hprepare⟩
  · exact .inl ⟨.arguments e, (by simp), rfl⟩

/-- A run begins if its settings can be put into effect, and with the settings
    that are. -/
theorem Invocation.exists_begins (p : Settings → Bool) (hfind : find i.words = (.generate, words))
    (hparse : parse Command.generate.flags words = .ok flags) (hhelp : flags.isOn .help = false)
    (harguments : Command.generate.checkArguments flags.arguments = none)
    (hprepares : ((prepare i .generate flags i.stage).1.toOption.bind Except.toOption).any p
      = true) : ∃ settings s, i.Begins flags settings s ∧ p settings = true := by
  rcases hprepare : prepare i .generate flags i.stage with ⟨h | f | settings, s⟩
  · rw [hprepare] at hprepares
    cases hprepares
  · rw [hprepare] at hprepares
    cases hprepares
  · rw [hprepare] at hprepares
    exact ⟨settings, s, ⟨⟨words, hfind, hparse⟩, hhelp, harguments, hprepare⟩, hprepares⟩

/-- The settings in effect are those that were loaded, apart from the level of
    the log. -/
theorem Invocation.Begins.loaded (h : i.Begins flags settings s) :
    ∃ loaded journal, Settings.load i.disk i.environment
        ((flags.text? .config).getD standardDirectory) = (loaded, none) ∧
      settings.generator = loaded.generator ∧ s = i.stage.withJournal fun _ => journal := by
  rcases prepare_cases i .generate flags i.stage with
    ⟨e, he⟩ | ⟨loaded, settings', journal, hload, hgenerator, hprepare⟩
  · rw [h.prepared] at he
    cases he
  · rw [h.prepared] at hprepare
    cases hprepare
    exact ⟨loaded, journal, hload, hgenerator, rfl⟩

end Beginning

/-- The first part of a turn, as a step of a run. -/
def serveRequest (g : Generator) (r : Request) : Step (Except Rejection String) :=
  ExceptT.lift (Run.within (fun s : Stage => s.session) (fun session s => { s with session })
    (g.serve Supply.source r))

/-- The second part of a turn: a string is written, with its hash if that is
    asked for. -/
def writeText (hash : Option Hash.HashParameters) (text : String) : Step Unit :=
  match hash with
  | none => write (text ++ "\n")
  | some p => do
    let line ← hashString p text
    write (text ++ "\t" ++ line ++ "\n")

namespace Stage

/-- A refusal is counted. -/
def refused (s : Stage) (rejection : Rejection) : Stage :=
  { s with session := { s.session with board := s.session.board.rejected rejection.reason } }

/-- A served request is counted and logged, and the supply has moved on. -/
def served (s : Stage) (r : Request) (supply : Supply) : Stage :=
  { s with session := ⟨supply, s.session.board.served r.length, s.session.journal.log r.event⟩ }

/-- The bytes that the next salt of this length is made of. -/
def salt (s : Stage) (length : Nat) : List UInt8 :=
  s.session.supply.entropy.slice s.session.supply.entropy.position length

/-- The stream has moved on by a salt. -/
def salted (s : Stage) (length : Nat) : Stage :=
  let entropy := s.session.supply.entropy
  { s with session := { s.session with supply := { s.session.supply with
    entropy := { entropy with position := entropy.position + length } } } }

end Stage

variable {g : Generator} {r : Request} {hash : Option Hash.HashParameters} {s : Stage}

theorem writeRecord_eq (g : Generator) (r : Request) (hash : Option Hash.HashParameters) :
    writeRecord g r hash = serveRequest g r >>= fun served => match served with
      | .error rejection => throw (.rejected rejection)
      | .ok text => writeText hash text := rfl

/-- A refused request ends a turn, and all it leaves is its count. -/
theorem writeRecord_of_rejection {rejection : Rejection} (hc : g.check r = some rejection) :
    writeRecord g r hash s = (.ok (.error (.rejected rejection)), s.refused rejection) := by
  have hserve := serve_of_rejection (generate_of_rejection g Supply.source r rejection hc
    s.session.supply)
  have hstep : serveRequest g r s = (.ok (.ok (.error rejection)), s.refused rejection) :=
    Step.lift_of_ok (by rw [Run.within_apply, hserve]; rfl)
  rw [writeRecord_eq, Step.bind_of_ok hstep]
  rfl

theorem writeRecord_of_halt {e : Halt} {supply : Supply}
    (h : g.generate Supply.source r s.session.supply = (.error e, supply)) :
    writeRecord g r hash s = (.error e, { s with session := { s.session with supply } }) := by
  have hstep : serveRequest g r s = (.error e, { s with session := { s.session with supply } }) :=
    Step.lift_of_error (by rw [Run.within_apply, serve_of_halt h])
  rw [writeRecord_eq, Step.bind_of_halt hstep]

theorem writeRecord_of_text {text : String} {supply : Supply}
    (h : g.generate Supply.source r s.session.supply = (.ok (.ok text), supply)) :
    writeRecord g r hash s = writeText hash text (s.served r supply) := by
  have hstep : serveRequest g r s = (.ok (.ok (.ok text)), s.served r supply) :=
    Step.lift_of_ok (by rw [Run.within_apply, serve_of_text h]; rfl)
  rw [writeRecord_eq, Step.bind_of_ok hstep]

/-- With one of the program's own sources, a request that is not refused is
    drawn and written, unless a draw never ends. -/
theorem writeRecord_native (hc : g.check r = none) (hash : Option Hash.HashParameters)
    (hs : s.session.supply.Native) :
    (∃ s', writeRecord g r hash s = (.error .endless, s') ∧ s'.output = s.output) ∨
      ∃ text supply, r.Meets text ∧ supply.Native ∧
        writeRecord g r hash s = writeText hash text (s.served r supply) := by
  rcases Supply.source_soundOn.generate_cases g r hs with
    ⟨rejection, hc', -⟩ | ⟨-, supply, hnative, ⟨text, hmeets, hgen⟩ | hgen⟩
  · rw [hc] at hc'
    cases hc'
  · exact .inr ⟨text, supply, hmeets, hnative, writeRecord_of_text hgen⟩
  · exact .inl ⟨_, writeRecord_of_halt hgen, rfl⟩

theorem hashString_eq (p : Hash.HashParameters) (text : String) (s : Stage) :
    hashString p text s
      = ((hashWith p text.toUTF8.toList (s.salt p.saltLength)).map .ok, s.salted p.saltLength) := by
  have hhash : Run.within (fun s : Stage => s.session.supply.entropy)
      (fun entropy s =>
        { s with session := { s.session with supply := { s.session.supply with entropy } } })
      (Hash.hashPassword p text.toUTF8.toList) s
        = (hashWith p text.toUTF8.toList (s.salt p.saltLength), s.salted p.saltLength) := by
    rw [Run.within_apply, hashPassword_eq]
    rfl
  rcases h : hashWith p text.toUTF8.toList (s.salt p.saltLength) with e | line
  · rw [h] at hhash
    exact Step.lift_of_error hhash
  · rw [h] at hhash
    exact Step.lift_of_ok hhash

/-- Parameters that allow no key stop a turn before anything is written. -/
theorem writeText_of_fault {p : Hash.HashParameters} {f : Fault}
    (h : Hash.keyFault? p.cost p.keyLength = some f) (text : String) :
    writeText (some p) text s = (.error (.fault f), s.salted p.saltLength) := by
  have hline : hashString p text s = (.error (.fault f), s.salted p.saltLength) := by
    rw [hashString_eq, Hash.hashWith_of_fault h]
    rfl
  exact Step.bind_of_halt hline

theorem writeText_of_line {p : Hash.HashParameters}
    (h : Hash.keyFault? p.cost p.keyLength = none) (text : String) (s : Stage) :
    ∃ line, hashWith p text.toUTF8.toList (s.salt p.saltLength) = .ok line ∧
      writeText (some p) text s
        = write (text ++ "\t" ++ line ++ "\n") (s.salted p.saltLength) := by
  rcases Hash.exists_hashWith h text.toUTF8.toList (s.salt p.saltLength) with ⟨key, hhash, -⟩
  refine ⟨_, hhash, ?_⟩
  have hline := hashString_eq p text s
  rw [hhash] at hline
  exact Step.bind_of_ok hline

end Passforge.Command
