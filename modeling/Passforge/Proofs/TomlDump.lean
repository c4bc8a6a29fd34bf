import Passforge.Proofs.Layering
import Passforge.Proofs.TomlText

/-!
# Dumped Settings Read Back

Settings that are dumped as a configuration file and loaded from it again are
the same settings, whatever they are.

The lines of a dump give every setting its value below the header of its
section. Carried out on an empty document, each adds its entry at the end: the
keys are distinct and no dotted key is among them, so neither the order nor the
values matter for that (`foldlM_binds`). The names are those of the program, so
what the layers ask of a file can be decided for all dumps at once.

## Main definitions

* `Settings.statements`, `Settings.entries`: The lines of a section in a dump.
* `Environment.SetsNothing`: None of the program's variables is set.

## Theorems

* `statements_toToml`: The lines of a dump read back.
* `parse_toToml`: A dump reads as the document of its settings.
* `decode_document`: The document of a dump is decoded to the settings.
* `load_toToml`: Dumped settings are loaded again.
-/

namespace Passforge

/-- What the lines of a section say, its header included. -/
def Settings.statements (s : Settings) (home : Section) : List Toml.Statement :=
  (if home = .root then [] else [.table home.path]) ++
    home.settings.map fun l => .bind [l.key] (s.get l).toValue

/-- The entries that the lines of a section make. -/
def Settings.entries (s : Settings) (home : Section) : Toml.Document :=
  (if home = .root then [] else [(home.path, .table .header)]) ++
    home.settings.map fun l => (l.path, (s.get l).toValue)

/-- The document of a dump of some sections. -/
def Settings.document (s : Settings) (homes : List Section) : Toml.Document :=
  homes.flatMap s.entries

/-- The paths of a section and its settings. -/
def Section.paths (home : Section) : List Toml.Path :=
  (if home = .root then [] else [home.path]) ++ home.settings.map Setting.path

section Lines

open Toml (Reads)

variable {s : Settings} {rest : List Char} {ss : List Toml.Statement}

theorem Setting.bareName_key (l : Setting) : Toml.BareName l.key := by
  revert l
  decide +kernel

theorem Section.bareName_path (home : Section) : ∀ name ∈ home.path, Toml.BareName name := by
  cases home <;> decide +kernel

theorem reads_settings (hs : s.Fits) (ls : List Setting) (h : Reads rest ss) :
    Reads ((ls.flatMap fun l => Toml.line l.key (s.get l).toToml) ++ rest)
      ((ls.map fun l => .bind [l.key] (s.get l).toValue) ++ ss) := by
  induction ls with
  | nil => exact h
  | cons l ls ih =>
      rw [List.flatMap_cons, List.append_assoc]
      exact ih.line l.bareName_key (s.get l) (hs l)

theorem reads_section (hs : s.Fits) (home : Section) (h : Reads rest ss) :
    Reads (s.tomlSection home ++ rest) (s.statements home ++ ss) := by
  have hsettings := reads_settings hs home.settings h
  unfold Settings.tomlSection Settings.statements
  by_cases hroot : home = .root
  · rw [if_pos hroot, if_pos hroot]
    exact hsettings
  · rw [if_neg hroot, if_neg hroot, List.append_assoc, List.append_assoc]
    exact hsettings.header (Section.path_ne_nil hroot) home.bareName_path

theorem reads_sections (hs : s.Fits) (homes : List Section) :
    Reads (homes.flatMap s.tomlSection) (homes.flatMap s.statements) := by
  induction homes with
  | nil => exact .nil
  | cons home homes ih =>
      rw [List.flatMap_cons, List.flatMap_cons]
      exact reads_section hs home ih

/-- The lines of a dump read back. -/
theorem statements_toToml (hs : s.Fits) :
    Toml.statements s.toToml.toList = some (Section.all.flatMap s.statements) := by
  unfold Settings.toToml Toml.statements
  rw [String.toList_ofList]
  exact reads_sections hs Section.all _ (by omega)

end Lines

section Entries

variable {d : Toml.Document} {p : Toml.Path}

theorem Toml.Document.lookup_eq_none (h : p ∉ d.paths) : d.lookup p = none := by
  rw [← Option.not_isSome_iff_eq_none, isSome_lookup_iff]
  exact h

/-- A key of one name that is new is added at the end. -/
theorem Toml.Document.bind_fresh {base : Toml.Path} {name : String} (v : Scalar)
    (h : base ++ [name] ∉ d.paths) :
    d.bind base [name] v.toValue = some (d ++ [(base ++ [name], v.toValue)]) := by
  have hway : d.dottedWay base [name] = some d := rfl
  unfold Toml.Document.bind
  rw [hway]
  simp only [Option.bind_eq_bind, Option.bind_some, lookup_eq_none h]
  cases v <;> rfl

/-- New keys are added at the end in turn. -/
theorem foldlM_binds (s : Settings) (home : Section) (ls : List Setting)
    (hhome : ∀ l ∈ ls, l.home = home) (h : (d.paths ++ ls.map Setting.path).Nodup) :
    (ls.map fun l => .bind [l.key] (s.get l).toValue).foldlM Toml.Statement.apply (d, home.path)
      = some (d ++ ls.map fun l => (l.path, (s.get l).toValue), home.path) := by
  induction ls generalizing d with
  | nil => simp
  | cons l ls ih =>
      have hpath : home.path ++ [l.key] = l.path := by
        rw [← hhome l List.mem_cons_self]
        rfl
      have hfresh : home.path ++ [l.key] ∉ d.paths := by
        rw [hpath]
        intro hmem
        exact (List.nodup_append.mp h).2.2 _ hmem _ List.mem_cons_self rfl
      -- The paths are the same ones, but one more of them has a value.
      have hrest := ih (d := d ++ [(l.path, (s.get l).toValue)])
        (fun x hx => hhome x (List.mem_cons_of_mem l hx))
        (by simpa [Toml.Document.paths] using h)
      rw [List.map_cons, List.foldlM_cons]
      simp only [Toml.Statement.apply, Toml.Document.bind_fresh _ hfresh, hpath,
        Option.bind_eq_bind, Option.bind_some]
      rw [hrest, List.append_assoc]
      rfl

/-- The way to a section is there if the sections around it are. -/
theorem headerWay_section {home : Section}
    (h : ∀ outer ∈ home.around, d.lookup outer.path = some (.table .header)) :
    d.headerWay [] home.path = some d := by
  have hlog (hmem : Section.log ∈ home.around) : d.lookup ["log"] = some (.table .header) :=
    h .log hmem
  cases home with
  | console =>
      simp only [Section.path, Toml.Document.headerWay, List.nil_append, hlog (by decide)]
  | file =>
      simp only [Section.path, Toml.Document.headerWay, List.nil_append, hlog (by decide)]
  | _ => rfl

theorem Toml.Document.lookup_of_mem {v : Toml.Value} (h : d.paths.Nodup) (hmem : (p, v) ∈ d) :
    d.lookup p = some v := by
  obtain ⟨w, hw⟩ := Option.isSome_iff_exists.mp (isSome_lookup_iff.mpr (List.mem_map_of_mem hmem))
  rw [hw, eq_of_mem_of_mem h (mem_of_lookup hw) hmem]

theorem Section.home_of_mem {home : Section} {l : Setting} (h : l ∈ home.settings) :
    l.home = home := by
  revert home l
  decide

theorem paths_document (s : Settings) (homes : List Section) :
    (s.document homes).paths = homes.flatMap Section.paths := by
  unfold Toml.Document.paths Settings.document
  rw [List.map_flatMap]
  refine List.flatMap_congr fun home _ => ?_
  unfold Settings.entries Section.paths
  rw [List.map_append, List.map_map]
  by_cases hroot : home = .root
  · rw [if_pos hroot, if_pos hroot]
    rfl
  · rw [if_neg hroot, if_neg hroot]
    rfl

/-- The header of a section of its own opens its table. -/
theorem openTable_section (s : Settings) {homes : List Section} {home : Section}
    (haround : ∀ outer ∈ home.around, outer ∈ homes)
    (h : (homes.flatMap Section.paths).Nodup) (hfresh : home.path ∉ homes.flatMap Section.paths) :
    (s.document homes).openTable home.path
      = some (s.document homes ++ [(home.path, .table .header)]) := by
  rw [← paths_document s homes] at h hfresh
  have hway : (s.document homes).headerWay [] home.path = some (s.document homes) := by
    refine headerWay_section fun outer houter => Toml.Document.lookup_of_mem h ?_
    have hroot : outer ≠ .root := by
      have hall : ∀ home : Section, ∀ outer ∈ home.around, outer ≠ .root := by decide
      exact hall home outer houter
    refine List.mem_flatMap.mpr ⟨outer, haround outer houter, List.mem_append_left _ ?_⟩
    rw [if_neg hroot]
    exact List.mem_singleton.mpr rfl
  unfold Toml.Document.openTable
  rw [hway]
  simp only [Option.bind_eq_bind, Option.bind_some, Toml.Document.lookup_eq_none hfresh]

/-- The lines of a section add its entries at the end. -/
theorem foldlM_section (s : Settings) (homes : List Section) (home : Section) (base : Toml.Path)
    (hbase : home = .root → base = []) (haround : ∀ outer ∈ home.around, outer ∈ homes)
    (h : ((homes ++ [home]).flatMap Section.paths).Nodup) :
    (s.statements home).foldlM Toml.Statement.apply (s.document homes, base)
      = some (s.document (homes ++ [home]), home.path) := by
  have hsettings : ∀ l ∈ home.settings, l.home = home := fun l => Section.home_of_mem
  have hdocument : s.document (homes ++ [home]) = s.document homes ++ s.entries home := by
    simp [Settings.document]
  rw [List.flatMap_append, List.flatMap_singleton] at h
  rw [hdocument]
  unfold Section.paths at h
  unfold Settings.statements Settings.entries
  by_cases hroot : home = .root
  · -- The settings of no section come first, without a header.
    rw [if_pos hroot, List.nil_append] at h
    have hbinds := foldlM_binds (d := s.document homes) s home home.settings hsettings
      (by rw [paths_document]; exact h)
    rw [if_pos hroot, if_pos hroot, hbase hroot, List.nil_append, List.nil_append]
    subst hroot
    exact hbinds
  · rw [if_neg hroot, ← List.append_assoc] at h
    have hbinds := foldlM_binds (d := s.document homes ++ [(home.path, .table .header)]) s home
      home.settings hsettings (by
        simp only [Toml.Document.paths, List.map_append]
        rw [← Toml.Document.paths, paths_document]
        exact h)
    have hparts := List.nodup_append.mp (List.nodup_append.mp h).1
    have hopen := openTable_section s haround hparts.1
      fun hmem => hparts.2.2 _ hmem _ (List.mem_singleton.mpr rfl) rfl
    rw [if_neg hroot, if_neg hroot, List.singleton_append, List.foldlM_cons]
    simp only [Toml.Statement.apply, hopen, Option.bind_eq_bind, Option.bind_some]
    rw [hbinds, List.append_assoc]

end Entries

section Dumps

variable {s : Settings}

/-- A dump reads as the document of all sections. -/
theorem parse_toToml (hs : s.Fits) :
    Toml.Document.parse s.toToml = some (s.document Section.all) := by
  -- Each section finds those around it already there, and no path of its own.
  have hroot := foldlM_section s [] .root [] (fun _ => rfl) (by decide) (by decide +kernel)
  have hlog := foldlM_section s [.root] .log Section.root.path (by decide) (by decide)
    (by decide +kernel)
  have hconsole := foldlM_section s [.root, .log] .console Section.log.path (by decide) (by decide)
    (by decide +kernel)
  have hfile := foldlM_section s [.root, .log, .console] .file Section.console.path (by decide)
    (by decide) (by decide +kernel)
  have hgenerator := foldlM_section s [.root, .log, .console, .file] .generator Section.file.path
    (by decide) (by decide) (by decide +kernel)
  have hstart : (Toml.Document.empty, ([] : Toml.Path)) = (s.document [], []) := rfl
  unfold Toml.Document.parse
  rw [statements_toToml hs, hstart]
  simp only [Option.bind_eq_bind, Option.bind_some, Section.all, List.flatMap_cons,
    List.flatMap_nil, List.foldlM_append, List.foldlM_nil, hroot, hlog, hconsole, hfile,
    hgenerator, List.nil_append, List.cons_append]
  rfl

theorem nodup_document (s : Settings) :
    ((s.document Section.all).caseless.paths.map Toml.dotted).Nodup := by
  rw [Toml.Document.paths_caseless, paths_document]
  decide +kernel

theorem mem_document_of_section (s : Settings) {home : Section} (h : home ≠ .root) :
    (home.path, .table .header) ∈ s.document Section.all := by
  refine List.mem_flatMap.mpr ⟨home, home.mem_all, List.mem_append_left _ ?_⟩
  rw [if_neg h]
  exact List.mem_singleton.mpr rfl

theorem mem_document (s : Settings) (l : Setting) :
    (l.path, (s.get l).toValue) ∈ s.document Section.all :=
  List.mem_flatMap.mpr ⟨l.home, l.home.mem_all,
    List.mem_append_right _ (List.mem_map.mpr ⟨l, l.mem_settings, rfl⟩)⟩

/-- The document of a dump is what the layers ask of a file. -/
theorem document_orderly (s : Settings) : (s.document Section.all).Orderly where
  distinct := (nodup_document s).of_map _
  tables p v hmem home hroot hdotted := by
    -- Nothing else is named like the section, so this is its header.
    have hheader : (home.path, .table .header) ∈ (s.document Section.all).caseless :=
      List.mem_map.mpr ⟨_, mem_document_of_section s hroot, by simp only [home.lower_path]⟩
    have hnodup := nodup_document s
    unfold Toml.Document.paths at hnodup
    rw [List.map_map] at hnodup
    have heq := List.inj_on_of_nodup_map hnodup hmem hheader hdotted
    cases heq
    rfl

theorem gives_document (s : Settings) (l : Setting) :
    (s.document Section.all).gives l.path = some (s.get l).toValue := by
  rw [Toml.Document.gives_eq_some_iff (nodup_document s) l.dotless (by simp [Setting.path])]
  exact ⟨l.path, mem_document s l, rfl⟩

theorem convert_toValue (v : Scalar) : convert v.kind v.toValue = .ok v := by
  cases v <;> rfl

/-- None of the program's variables is set. -/
def Environment.SetsNothing (env : Environment) : Prop :=
  ∀ rest, env ("PWGEN_" ++ rest) = ""

/-- The document of a dump is decoded to the dumped settings if no variable
    says otherwise. -/
theorem decode_document {env : Environment} (hs : s.Fits)
    (hunset : ∀ l : Setting, env l.variable = "") (henv : env.HidesNothing) :
    decode env (s.document Section.all).lowered = .ok s := by
  have hsound := Toml.Document.parse_sound (parse_toToml hs)
  have hlayered (l : Setting) : l.layered env (s.document Section.all) = (s.get l).toValue := by
    unfold Setting.layered
    rw [hunset, if_neg (by simp), gives_document]
    rfl
  rw [decode_eq_ok_iff (Section.standing_fine hsound (document_orderly s))
    fun l => l.raw_eq_layered hsound (document_orderly s) henv]
  intro l
  rw [hlayered, ← s.get_kind l]
  exact convert_toValue _

/-- Dumped settings are loaded again, and they are as valid as before. -/
theorem load_toToml {disk : Storage.Disk} {env : Environment} {directory : String} (hs : s.Fits)
    (hfile : disk.readFile (configPath directory) = .ok s.toToml.toUTF8)
    (henv : env.SetsNothing) :
    Settings.load disk env directory = (s, s.validate.map LoadError.invalid) := by
  have hdocument := readDocument_of_fileSays (FileSays.of_text hfile (parse_toToml hs))
  have hdecode : decode env (s.document Section.all).lowered = .ok s :=
    decode_document hs (fun l => henv _) fun home _ => henv _
  have hoverride : env.has overrideVariable = false :=
    Environment.has_eq_false (henv "CONFIG_JSON")
  unfold Settings.load Settings.gather
  rw [hdocument]
  simp only [bind, Except.bind, hdecode, hoverride, Bool.false_eq_true, if_false]

end Dumps

end Passforge
