import Passforge.Proofs.Keys
import Passforge.Proofs.Lookup
import Passforge.Settings.Load

/-!
# Layers Key by Key

Where the value of each setting comes from. For a file whose keys are distinct
without regard to case and whose sections, if it has them, are tables, and for
an environment in which no variable hides a section, every setting is decided
by itself: its variable if that is set to something, else what the file gives,
else the standard value.

The program decodes section by section and asks each section whether it can be
decoded at all. In such a file every section can, so all that is left is the
list of all settings, each of them converted from its own layers
(`outcomes_of_fine`). What a decoded setting is, which problems are reported and
in which order, and that nothing else of file and environment matters are
readings of that one equation.

## Main definitions

* `Toml.Document.Orderly`: Distinct keys, and tables for sections.
* `Environment.HidesNothing`: No variable is named like a section.
* `Setting.layered`: What the layers say about a setting.
* `Setting.problem?`: What is wrong with a value of a setting.
* `FileSays`: The document of the configuration file.
* `Settings.decoded`: The settings before the override.

## Theorems

* `Setting.raw_eq_layered`: A setting has the value of its first layer.
* `Section.standing_fine`: Every section can be decoded.
* `decode_eq_ok_iff`, `decode_eq_error_iff`: What decoding gives.
* `settings_layered_key_by_key`: Where the value of each setting comes from.
-/

namespace Passforge

/-- The paths are distinct without regard to case, and whatever is named like a
    section is a table. -/
structure Toml.Document.Orderly (d : Toml.Document) : Prop where
  distinct : d.caseless.paths.Nodup
  tables : ∀ p v, (p, v) ∈ d.caseless → ∀ home : Section, home ≠ .root →
    Toml.dotted p = Toml.dotted home.path → v.isTable = true

/-- No variable named like a section is set. -/
def Environment.HidesNothing (env : Environment) : Prop :=
  ∀ home : Section, home ≠ .root → env home.variable = ""

/-- What the layers say about a setting: its variable if that is set to
    something, else the file, else the standard value. -/
def Setting.layered (env : Environment) (file : Toml.Document) (l : Setting) : Toml.Value :=
  if env l.variable ≠ "" then .text (env l.variable)
  else (file.gives l.path).getD (Settings.standard.get l).toValue

namespace Section

/-- The names on the way to a section lead to a section. -/
theorem exists_of_prefix {home : Section} {front back : Toml.Path} (h : home.path = front ++ back)
    (hne : front ≠ []) : ∃ outer : Section, outer ≠ .root ∧ front = outer.path := by
  have hfront : front = home.path.take front.length := by rw [h, List.take_left']; rfl
  have hlen : front.length ≤ home.path.length := by rw [h, List.length_append]; omega
  have hpos : 0 < front.length := List.length_pos_iff.mpr hne
  rw [hfront]
  generalize front.length = n at hlen hpos
  cases home with
  | root => exact absurd hpos (by simp [path] at hlen; omega)
  | log =>
      obtain rfl : n = 1 := by simp [path] at hlen; omega
      exact ⟨.log, by decide, rfl⟩
  | generator =>
      obtain rfl : n = 1 := by simp [path] at hlen; omega
      exact ⟨.generator, by decide, rfl⟩
  | console =>
      obtain rfl | rfl : n = 1 ∨ n = 2 := by simp [path] at hlen; omega
      · exact ⟨.log, by decide, rfl⟩
      · exact ⟨.console, by decide, rfl⟩
  | file =>
      obtain rfl | rfl : n = 1 ∨ n = 2 := by simp [path] at hlen; omega
      · exact ⟨.log, by decide, rfl⟩
      · exact ⟨.file, by decide, rfl⟩

theorem lower_path (home : Section) : home.path.map Text.lower = home.path := by
  cases home <;> decide +kernel

theorem path_ne_nil {home : Section} (h : home ≠ .root) : home.path ≠ [] := by
  cases home with
  | root => exact absurd rfl h
  | _ => decide

end Section

/-- The names on the way to a setting lead to a section. -/
theorem Setting.exists_of_prefix {l : Setting} {front back : Toml.Path}
    (h : l.lookupPath = front ++ back) (hfront : front ≠ []) (hback : back ≠ []) :
    ∃ outer : Section, outer ≠ .root ∧ front = outer.path := by
  have hpath : l.lookupPath = l.home.path ++ [Text.lower l.key] := by
    unfold Setting.lookupPath Setting.path
    rw [List.map_append, l.home.lower_path]
    rfl
  obtain ⟨init, last, rfl⟩ : ∃ init last, back = init ++ [last] :=
    ⟨_, _, (List.dropLast_append_getLast hback).symm⟩
  rw [hpath, ← List.append_assoc] at h
  exact Section.exists_of_prefix (List.append_inj_left' h rfl) hfront

section Layers

variable {env : Environment} {d : Toml.Document}

theorem Environment.has_eq_false {name : String} (h : env name = "") : env.has name = false := by
  unfold Environment.has
  rw [h]
  rfl

theorem Section.hidden_eq_false (henv : env.HidesNothing) (home : Section) :
    home.hidden env = false := by
  have hset (s : Section) (hs : s ≠ .root) : env.has s.variable = false :=
    Environment.has_eq_false (henv s hs)
  cases home with
  | root => rfl
  | _ => simp [hidden, hiddenAround, around, hset]

/-- A search in an orderly file tries the spellings of the path. -/
theorem search_of_orderly (hd : d.Sound) (ho : d.Orderly) {path : Toml.Path} (hne : path ≠ [])
    (hsections : ∀ front back, path = front ++ back → front ≠ [] → back ≠ [] →
      ∃ outer : Section, outer ≠ .root ∧ front = outer.path) :
    d.lowered.search path = (Toml.spellings path).findSome? (List.lookup · d.caseless) := by
  rw [Toml.Document.lowered_eq_caseless hd ho.distinct]
  refine Toml.Document.search_eq_findSome? (Toml.Document.caseless_sound hd) hne ?_
  intro front back hpath hfront hback p v hmem hdotted
  obtain ⟨outer, houter, rfl⟩ := hsections front back hpath hfront hback
  exact ho.tables p v hmem outer houter hdotted

theorem Setting.lookupPath_ne_nil (l : Setting) : l.lookupPath ≠ [] := by
  simp [Setting.lookupPath, Setting.path]

/-- A setting has the value of its first layer. -/
theorem Setting.raw_eq_layered (hd : d.Sound) (ho : d.Orderly) (henv : env.HidesNothing)
    (l : Setting) : l.raw env d.lowered = some (l.layered env d) := by
  have hsearch : d.lowered.search l.lookupPath = d.gives l.path :=
    search_of_orderly hd ho l.lookupPath_ne_nil fun _ _ => Setting.exists_of_prefix
  unfold Setting.raw Setting.layered
  by_cases hset : env l.variable = ""
  · rw [Environment.has_eq_false hset, l.home.hidden_eq_false henv, hsearch]
    simp only [Bool.false_eq_true, if_false, hset, ne_eq, not_true_eq_false]
    rcases d.gives l.path with _ | v
    · rfl
    · rfl
  · have hhas : env.has l.variable = true := bne_iff_ne.mpr hset
    rw [if_pos hhas, if_pos hset]

/-- Every section can be decoded. -/
theorem Section.standing_fine (hd : d.Sound) (ho : d.Orderly) (home : Section) :
    home.standing env d.lowered = .fine := by
  unfold standing
  by_cases hroot : home = .root
  · rw [if_pos hroot]
  · have hsearch := search_of_orderly hd ho (path_ne_nil hroot)
      fun front back hpath hfront _ => exists_of_prefix hpath hfront
    rw [if_neg hroot, hsearch]
    split
    · rfl
    · rename_i v hv
      obtain ⟨q, hq, hlookup⟩ := List.exists_of_findSome?_eq_some hv
      have htable := ho.tables q v (Toml.Document.mem_of_lookup hlookup) home hroot
        (Toml.dotted_of_mem_spellings hq).1
      rw [if_pos htable]

end Layers

section Decoding

variable {env : Environment} {file : Toml.Document} {x : Setting → Toml.Value}

/-- What is wrong with a value of a setting. -/
def Setting.problem? (l : Setting) (v : Toml.Value) : Option Problem :=
  match convert l.kind v with
  | .ok _ => none
  | .error e => some (.setting l e)

theorem convert_kind {kind : Kind} {v : Toml.Value} {y : Scalar} (h : convert kind v = .ok y) :
    y.kind = kind := by
  cases v <;> cases kind <;> simp only [convert] at h
  all_goals
    first
    | (cases h; rfl)
    | (split at h
       · cases h; rfl
       · split at h
         · cases h; rfl
         · cases h)
    | cases h

theorem Setting.decode_of_raw (hraw : ∀ l : Setting, l.raw env file = some (x l)) (l : Setting) :
    l.decode env file = ((convert l.kind (x l)).map (l, ·)).mapError (.setting l) := by
  unfold Setting.decode
  rw [hraw]
  rcases hconvert : convert l.kind (x l) with e | y
  · simp only [hconvert, Except.map, Except.mapError]
  · simp only [hconvert, Except.map, Except.mapError]

/-- If every section can be decoded, all settings are decoded in turn. -/
theorem outcomes_of_fine (hfine : ∀ home : Section, home.standing env file = .fine) :
    Section.all.flatMap (Section.decode env file) = Setting.all.map (Setting.decode env file) := by
  unfold Setting.all
  rw [List.map_flatMap]
  refine List.flatMap_congr fun home _ => ?_
  have haround : (home.around.any fun outer => outer.standing env file != .fine) = false :=
    List.any_eq_false.mpr fun outer _ => by simp [hfine]
  unfold Section.decode
  rw [haround, hfine]
  rfl

theorem problemsOf_map (hraw : ∀ l : Setting, l.raw env file = some (x l)) (ls : List Setting) :
    problemsOf (ls.map (Setting.decode env file)) = ls.filterMap fun l => l.problem? (x l) := by
  unfold problemsOf
  rw [List.filterMap_map]
  refine List.filterMap_congr fun l _ => ?_
  simp only [Function.comp, Setting.decode_of_raw hraw, Setting.problem?]
  rcases convert l.kind (x l) with e | y
  · rfl
  · rfl

theorem valuesOf_map {y : Setting → Scalar}
    (h : ∀ l : Setting, l.decode env file = .ok (l, y l)) (ls : List Setting) :
    valuesOf (ls.map (Setting.decode env file)) = ls.map fun l => (l, y l) := by
  induction ls with
  | nil => rfl
  | cons l ls ih =>
      rw [List.map_cons, List.map_cons, h l, ← ih]
      rfl

/-- Values that can all be converted are put where they belong. -/
theorem decode_of_converts (hfine : ∀ home : Section, home.standing env file = .fine)
    (hraw : ∀ l : Setting, l.raw env file = some (x l)) {y : Setting → Scalar}
    (h : ∀ l : Setting, convert l.kind (x l) = .ok (y l)) :
    ∃ s, decode env file = .ok s ∧ ∀ l, s.get l = y l := by
  have hdecode (l : Setting) : l.decode env file = .ok (l, y l) := by
    rw [Setting.decode_of_raw hraw, h]
    rfl
  have hnone : problemsOf (Setting.all.map (Setting.decode env file)) = [] := by
    rw [problemsOf_map hraw, List.filterMap_eq_nil_iff]
    intro l _
    unfold Setting.problem?
    rw [h]
  refine ⟨Settings.ofValues (Setting.all.map fun l => (l, y l)), ?_, fun l => ?_⟩
  · unfold decode
    simp only [outcomes_of_fine hfine, hnone, valuesOf_map hdecode]
  · have hget := Settings.get_foldl_set .zero y (fun l => convert_kind (h l)) Setting.all l
    rw [if_pos l.mem_all] at hget
    exact hget

/-- Settings are decoded if every value can be converted, each to its own. -/
theorem decode_eq_ok_iff (hfine : ∀ home : Section, home.standing env file = .fine)
    (hraw : ∀ l : Setting, l.raw env file = some (x l)) (s : Settings) :
    decode env file = .ok s ↔ ∀ l, convert l.kind (x l) = .ok (s.get l) := by
  constructor
  · intro h
    -- A value that can not be converted would be a problem.
    have hall : ∀ l : Setting, ∃ y, convert l.kind (x l) = .ok y := by
      intro l
      unfold decode at h
      rw [outcomes_of_fine hfine] at h
      simp only at h
      split at h
      · rename_i hnone
        rw [problemsOf_map hraw, List.filterMap_eq_nil_iff] at hnone
        have hl := hnone l l.mem_all
        unfold Setting.problem? at hl
        split at hl
        · rename_i y hy
          exact ⟨y, hy⟩
        · cases hl
      · cases h
    choose y hy using hall
    obtain ⟨t, ht, hget⟩ := decode_of_converts hfine hraw hy
    rw [h, Except.ok.injEq] at ht
    intro l
    rw [ht, hget, hy]
  · intro h
    obtain ⟨t, ht, hget⟩ := decode_of_converts hfine hraw h
    rw [ht, Settings.ext_get hget]

/-- Otherwise the problems are reported, in the order of the settings. -/
theorem decode_eq_error_iff (hfine : ∀ home : Section, home.standing env file = .fine)
    (hraw : ∀ l : Setting, l.raw env file = some (x l)) (problems : List Problem) :
    decode env file = .error problems ↔
      problems ≠ [] ∧ problems = Setting.all.filterMap fun l => l.problem? (x l) := by
  unfold decode
  rw [outcomes_of_fine hfine, ← problemsOf_map hraw]
  simp only
  split
  · rename_i hnone
    rw [hnone]
    simp
  · rename_i hsome
    rw [Except.error.injEq]
    exact ⟨fun heq => ⟨fun hc => hsome (heq.trans hc), heq.symm⟩, fun hp => hp.2.symm⟩

end Decoding

/-- The configuration file in a directory reads as a document. One that is
    missing says nothing. -/
def FileSays (disk : Storage.Disk) (directory : String) (d : Toml.Document) : Prop :=
  (∃ content text, disk.readFile (configPath directory) = .ok content ∧
      String.fromUTF8? content = some text ∧ Toml.Document.parse text = some d) ∨
    ∃ t, disk.readFile (configPath directory) = .error t ∧ t.trouble = .missing ∧
      d = Toml.Document.empty

/-- The settings before the override. -/
def Settings.decoded (disk : Storage.Disk) (env : Environment) (directory : String) :
    Except LoadError Settings :=
  match readDocument disk directory with
  | .error e => .error e
  | .ok document => (decode env document).mapError LoadError.undecodable

/-- What the override makes of settings. -/
def Settings.overridden (env : Environment) (s : Settings) : Except LoadError Settings :=
  if env.has overrideVariable then
    match s.override (env overrideVariable) with
    | some s => .ok s
    | none => .error .badOverride
  else .ok s

section Loading

variable {disk : Storage.Disk} {env : Environment} {directory : String} {d : Toml.Document}

theorem Settings.gather_eq (disk : Storage.Disk) (env : Environment) (directory : String) :
    Settings.gather disk env directory
      = (Settings.decoded disk env directory).bind (Settings.overridden env) := by
  unfold Settings.gather Settings.decoded
  rcases readDocument disk directory with e | document
  · rfl
  · rcases hdecode : decode env document with problems | s
    · simp only [bind, Except.bind, hdecode, Except.mapError]
    · simp only [bind, Except.bind, hdecode, Except.mapError]
      rfl

theorem readDocument_of_fileSays (h : FileSays disk directory d) :
    readDocument disk directory = .ok d.lowered := by
  unfold readDocument
  rcases h with ⟨content, text, hread, htext, hparse⟩ | ⟨t, hread, hmissing, rfl⟩
  · rw [hread]
    simp only [htext, Option.bind_some, hparse]
  · rw [hread]
    simp only [hmissing, if_true]
    rfl

theorem FileSays.sound (h : FileSays disk directory d) : d.Sound := by
  rcases h with ⟨content, text, -, -, hparse⟩ | ⟨t, -, -, rfl⟩
  · exact Toml.Document.parse_sound hparse
  · exact Toml.Document.empty_sound

theorem decoded_of_fileSays (h : FileSays disk directory d) (env : Environment) :
    Settings.decoded disk env directory
      = (decode env d.lowered).mapError LoadError.undecodable := by
  unfold Settings.decoded
  rw [readDocument_of_fileSays h]

theorem fromUTF8?_toUTF8 (text : String) : String.fromUTF8? text.toUTF8 = some text := by
  unfold String.fromUTF8?
  exact dif_pos text.isValidUTF8

theorem FileSays.of_text {text : String}
    (hread : disk.readFile (configPath directory) = .ok text.toUTF8)
    (hparse : Toml.Document.parse text = some d) : FileSays disk directory d :=
  .inl ⟨text.toUTF8, text, hread, fromUTF8?_toUTF8 text, hparse⟩

/-- A disk with a configuration file in the standard directory and nothing
    else. -/
def diskHolding (content : ByteArray) : Storage.Disk :=
  ⟨[(["etc"], .directory), (["etc", "main.toml"], .file content)]⟩

theorem readFile_diskHolding (content : ByteArray) :
    (diskHolding content).readFile (configPath "") = .ok content := by
  have hpath : configPath "" = "etc/main.toml" := by decide +kernel
  have husable : Storage.Disk.unusable? "etc/main.toml" = none := by decide +kernel
  have hstart : Storage.Disk.start "etc/main.toml" = [] := by decide +kernel
  have hsplit : Storage.splitPath "etc/main.toml" = ["etc", "main.toml"] := by decide +kernel
  have hplain : Storage.Disk.demandsDirectory "etc/main.toml" = false := by decide +kernel
  have hwalk : (diskHolding content).walk [] ["etc", "main.toml"] = .ok ["etc", "main.toml"] := by
    rfl
  have hnode : (diskHolding content).node? ["etc", "main.toml"] = some (.file content) := by rfl
  unfold Storage.Disk.readFile Storage.Disk.locate
  rw [hpath, husable, hstart, hsplit, hwalk, hplain]
  simp only [bind, Except.bind, hnode]
  rfl

/-- A file that is missing is like one that is empty. -/
theorem load_of_missing {disk' : Storage.Disk} {t : Storage.PathTrouble}
    (hmissing : disk.readFile (configPath directory) = .error t) (ht : t.trouble = .missing)
    (hempty : disk'.readFile (configPath directory) = .ok "".toUTF8) (env : Environment) :
    Settings.load disk env directory = Settings.load disk' env directory := by
  have hdocument : readDocument disk directory = readDocument disk' directory := by
    rw [readDocument_of_fileSays (.inr ⟨t, hmissing, ht, rfl⟩),
      readDocument_of_fileSays (FileSays.of_text (d := .empty) hempty rfl)]
  unfold Settings.load Settings.gather
  rw [hdocument]

/-- The settings before the override are the values of the layers, converted. -/
theorem decoded_eq_ok_iff (hfile : FileSays disk directory d) (ho : d.Orderly)
    (henv : env.HidesNothing) (s : Settings) :
    Settings.decoded disk env directory = .ok s ↔
      ∀ l, convert l.kind (l.layered env d) = .ok (s.get l) := by
  have hraw (l : Setting) := l.raw_eq_layered hfile.sound ho henv
  rw [decoded_of_fileSays hfile, ← decode_eq_ok_iff (Section.standing_fine hfile.sound ho) hraw]
  rcases decode env d.lowered with problems | s
  · simp [Except.mapError]
  · simp [Except.mapError]

/-- There are none if some of the values can not be converted. -/
theorem decoded_eq_error_iff (hfile : FileSays disk directory d) (ho : d.Orderly)
    (henv : env.HidesNothing) (e : LoadError) :
    Settings.decoded disk env directory = .error e ↔ ∃ problems, problems ≠ [] ∧
      problems = (Setting.all.filterMap fun l => l.problem? (l.layered env d)) ∧
      e = .undecodable problems := by
  have hraw (l : Setting) := l.raw_eq_layered hfile.sound ho henv
  have hiff := decode_eq_error_iff (Section.standing_fine hfile.sound ho) hraw
  rw [decoded_of_fileSays hfile]
  constructor
  · intro h
    rcases hdecode : decode env d.lowered with problems | s
    · rw [hdecode] at h
      cases h
      obtain ⟨hne, heq⟩ := (hiff problems).mp hdecode
      exact ⟨problems, hne, heq, rfl⟩
    · rw [hdecode] at h
      cases h
  · rintro ⟨problems, hne, heq, rfl⟩
    rw [(hiff problems).mpr ⟨hne, heq⟩]
    rfl

theorem Setting.layered_congr {env' : Environment} {l : Setting}
    (h : env' l.variable = env l.variable) (d : Toml.Document) :
    l.layered env' d = l.layered env d := by
  unfold Setting.layered
  rw [h]

end Loading

theorem Setting.dotless (l : Setting) : ∀ name ∈ l.path.map Text.lower, Toml.Dotless name := by
  revert l
  decide +kernel

/-- Where the value of each setting comes from. The file has keys that are
    distinct without regard to case and tables for sections, and no variable
    is named like a section. Then a setting has the value of its variable if
    that is set to something, else of the file, whatever that value is, else
    the standard one; and it is that value converted to the kind of the
    setting. Nothing else of file and environment matters, so one variable
    changes the setting it is named after and no other. -/
theorem settings_layered_key_by_key (disk : Storage.Disk) (env : Environment) (directory : String)
    (d : Toml.Document) (hfile : FileSays disk directory d) (ho : d.Orderly)
    (henv : env.HidesNothing) :
    -- What is read for each setting, and what the file gives it.
    (∃ document, readDocument disk directory = .ok document ∧
      ∀ l : Setting, l.raw env document = some (l.layered env d)) ∧
    ((d.caseless.paths.map Toml.dotted).Nodup → ∀ (l : Setting) v, d.gives l.path = some v ↔
      ∃ p, (p, v) ∈ d ∧ Toml.dotted (p.map Text.lower) = Toml.dotted (l.path.map Text.lower)) ∧
    -- What is decoded from it, before the override.
    (∀ s, Settings.decoded disk env directory = .ok s ↔
      ∀ l, convert l.kind (l.layered env d) = .ok (s.get l)) ∧
    (∀ e, Settings.decoded disk env directory = .error e ↔ ∃ problems, problems ≠ [] ∧
      problems = (Setting.all.filterMap fun l => l.problem? (l.layered env d)) ∧
      e = .undecodable problems) ∧
    Settings.gather disk env directory
      = (Settings.decoded disk env directory).bind (Settings.overridden env) ∧
    -- What does not matter.
    (∀ disk' env' directory' d', FileSays disk' directory' d' → d'.Orderly → env'.HidesNothing →
      (∀ l : Setting, l.layered env' d' = l.layered env d) →
      Settings.decoded disk' env' directory' = Settings.decoded disk env directory) ∧
    (∀ disk₁ disk₂ t, disk₁.readFile (configPath directory) = .error t → t.trouble = .missing →
      disk₂.readFile (configPath directory) = .ok "".toUTF8 →
      Settings.load disk₁ env directory = Settings.load disk₂ env directory) ∧
    ∀ env' name, env'.HidesNothing → (∀ n, n ≠ name → env' n = env n) →
      ∀ s s', Settings.decoded disk env directory = .ok s →
        Settings.decoded disk env' directory = .ok s' →
        ∀ l : Setting, l.variable ≠ name → s'.get l = s.get l := by
  refine ⟨⟨_, readDocument_of_fileSays hfile, fun l => l.raw_eq_layered hfile.sound ho henv⟩,
    fun hdotted l v => ?_, decoded_eq_ok_iff hfile ho henv, decoded_eq_error_iff hfile ho henv,
    Settings.gather_eq disk env directory, ?_, ?_, ?_⟩
  · exact Toml.Document.gives_eq_some_iff hdotted l.dotless (by simp [Setting.path])
  · intro disk' env' directory' d' hfile' ho' henv' hsame
    rcases h : Settings.decoded disk env directory with e | s
    · rw [decoded_eq_error_iff hfile ho henv] at h
      simpa only [decoded_eq_error_iff hfile' ho' henv', hsame] using h
    · rw [decoded_eq_ok_iff hfile ho henv] at h
      simpa only [decoded_eq_ok_iff hfile' ho' henv', hsame] using h
  · intro disk₁ disk₂ t hmissing ht hempty
    exact load_of_missing hmissing ht hempty env
  -- Both sides are converted from the same value.
  · intro env' name henv' hother s s' hs hs' l hl
    have hl' := (decoded_eq_ok_iff hfile ho henv' s').mp hs' l
    rw [Setting.layered_congr (hother _ hl), (decoded_eq_ok_iff hfile ho henv s).mp hs l,
      Except.ok.injEq] at hl'
    exact hl'.symm

/-- A file with an empty text and a zero, and a variable in hexadecimal. -/
theorem settings_layered_key_by_key_at_zero :
    let text := "title = ''\n[Generator]\nmaxLength = 0\n"
    let env : Environment := fun name => if name = Setting.defaultLength.variable then "0x7" else ""
    let s : Settings := { Settings.standard with
      title := ""
      generator := { Settings.standard.generator with defaultLength := 7, maxLength := 0 } }
    ∃ d, FileSays (diskHolding text.toUTF8) "" d ∧ d.Orderly ∧ env.HidesNothing ∧
      Settings.decoded (diskHolding text.toUTF8) env "" = .ok s := by
  intro text env s
  let d : Toml.Document := (Toml.Document.parse text).getD []
  have hparses : (Toml.Document.parse text).isSome = true := by decide +kernel
  have hparse : Toml.Document.parse text = some d := by
    obtain ⟨d', hd'⟩ := Option.isSome_iff_exists.mp hparses
    simp only [d, hd', Option.getD_some]
  have hfile : FileSays (diskHolding text.toUTF8) "" d :=
    FileSays.of_text (readFile_diskHolding _) hparse
  have hdistinct : d.caseless.paths.Nodup := by decide +kernel
  have htables : ∀ e ∈ d.caseless, ∀ home : Section, home ≠ .root →
      Toml.dotted e.1 = Toml.dotted home.path → e.2.isTable = true := by decide +kernel
  have ho : d.Orderly :=
    ⟨hdistinct, fun p v hmem => htables (p, v) hmem⟩
  have henv : env.HidesNothing := fun home _ => if_neg (home.variable_ne .defaultLength)
  refine ⟨d, hfile, ho, henv, ?_⟩
  refine ((settings_layered_key_by_key _ env "" d hfile ho henv).2.2.1 s).mpr fun l => ?_
  by_cases hl : l = .defaultLength
  · subst hl
    have hvalue : env Setting.defaultLength.variable = "0x7" := if_pos rfl
    unfold Setting.layered
    rw [hvalue]
    rfl
  · have hunset : env l.variable = "" := if_neg fun h => hl (Setting.variable_injective h)
    have hall : ∀ l : Setting, l ≠ .defaultLength → (convert l.kind ((d.gives l.path).getD
        (Settings.standard.get l).toValue)).toOption = some (s.get l) := by decide +kernel
    have hconvert := hall l hl
    unfold Setting.layered
    rw [hunset, if_neg (by simp)]
    rcases h : convert l.kind ((d.gives l.path).getD (Settings.standard.get l).toValue) with e | y
    · rw [h] at hconvert
      cases hconvert
    · rw [h] at hconvert
      cases hconvert
      rfl

end Passforge
