import Passforge.Proofs.JsonText
import Passforge.Proofs.Range
import Passforge.Proofs.TomlDump

/-!
# Dumped Settings Override Everything

Settings that are dumped as an override replace all settings there are, from
whatever layers those came.

A dump holds an object for each section, with the settings of the section and
then the sections inside it. Both reading it and merging it go down the same
way, so both are followed by induction on the depth. The fields of a section
differ without regard to case, from each other and from those of the sections
inside, so each member of a dump finds the setting it was written for
(`find?_field`); what is merged is one `set` after the other.

## Main definitions

* `Settings.members`: The members of a section in a dump.
* `Section.within`: The settings of a section and of those inside it.

## Theorems

* `parse_toJson`: A dump reads as the object of its settings.
* `mergeSection_members`: Merging a section of a dump sets its settings.
* `override_toJson`: A dump replaces all settings.
* `dumped_override_replaces_all`: So it does when settings are loaded.
-/

namespace Passforge

/-- The members of a section in a dump, down to a depth. -/
def Settings.members (s : Settings) : (depth : Nat) → Section → List (String × Json.Value)
  | 0, _ => []
  | depth + 1, home =>
    home.settings.map (fun l => (l.field, (s.get l).toJsonValue)) ++
      home.children.map fun c => (c.field, .object (s.members depth c))

/-- The settings of a section and of the sections inside it, down to a depth. -/
def Section.within : (depth : Nat) → Section → List Setting
  | 0, _ => []
  | depth + 1, home => home.settings ++ home.children.flatMap (Section.within depth)

/-- How deep the sections inside a section are nested, itself included. -/
def Section.height : Section → Nat
  | .root => 3
  | .log => 2
  | _ => 1

section Reading

open Json (Reads)

theorem Section.height_of_child {home c : Section} (h : c ∈ home.children) :
    c.height < home.height := by
  revert home c
  decide

theorem Section.height_pos (home : Section) : 0 < home.height := by
  cases home <;> decide

theorem Section.settings_ne_nil (home : Section) : home.settings ≠ [] := by
  cases home <;> decide

/-- The object of a section reads back. -/
theorem reads_jsonSection (s : Settings) (depth level nesting : Nat) (home : Section)
    (hdepth : home.height ≤ depth) (hnesting : home.height ≤ nesting) :
    Reads nesting (s.jsonSection depth level home) (.object (s.members depth home)) := by
  -- The depth of the printer and the nesting of the reader go down together.
  induction depth generalizing level nesting home with
  | zero => exact absurd home.height_pos (by omega)
  | succ depth ih =>
      have hpos := home.height_pos
      obtain ⟨nesting, rfl⟩ : ∃ k, nesting = k + 1 := ⟨nesting - 1, by omega⟩
      unfold Settings.jsonSection Settings.members
      refine Json.reads_object (List.rel_append ?_ ?_) ?_
      · rw [List.forall₂_map_left_iff, List.forall₂_map_right_iff, List.forall₂_same]
        exact fun l _ => ⟨rfl, Json.reads_toJson nesting (s.get l)⟩
      · rw [List.forall₂_map_left_iff, List.forall₂_map_right_iff, List.forall₂_same]
        intro c hc
        have hchild := Section.height_of_child hc
        exact ⟨rfl, ih (level + 1) nesting c (by omega) (by omega)⟩
      · intro hnil
        exact home.settings_ne_nil (List.map_eq_nil_iff.mp (List.append_eq_nil_iff.mp hnil).1)

/-- A dump reads as the object of its settings. -/
theorem parse_toJson (s : Settings) :
    Json.Value.parse s.toJson = some (.object (s.members sectionDepth .root)) := by
  have hreads := reads_jsonSection s sectionDepth 0 Json.nestingLimit .root (by decide) (by decide)
  have hcloses : Json.Closes ['\n'] := ⟨'\n', [], rfl, .inr rfl⟩
  obtain ⟨c, tail, hstart, hc⟩ := hreads.starts
  have hblanks : Json.skipBlanks (s.jsonSection sectionDepth 0 .root ++ ['\n'])
      = s.jsonSection sectionDepth 0 .root ++ ['\n'] := by
    rw [hstart]
    exact Json.skipBlanks_of_not hc _
  unfold Json.Value.parse Settings.toJson
  rw [String.toList_ofList]
  simp only [hblanks, Option.bind_eq_bind]
  rw [hreads.value ['\n'] _ hcloses (by rw [List.length_append]; omega)]
  rfl

end Reading

section Merging

variable {s : Settings}

theorem scalarOf_toJsonValue {v : Scalar} (h : v.Fits) :
    scalarOf v.kind v.toJsonValue = some v := by
  cases v with
  | text t => rfl
  | flag b => rfl
  | number n =>
      unfold Scalar.toJsonValue Scalar.kind scalarOf
      simp only [Number.decimalInt_signedDigits n (h n rfl)]
      rfl

theorem assign_toJsonValue (hs : s.Fits) (b : Settings) (l : Setting) :
    assign b l (s.get l).toJsonValue = some (b.set l (s.get l)) := by
  have hscalar := scalarOf_toJsonValue (hs l)
  rw [s.get_kind] at hscalar
  unfold assign
  split
  · -- No value of a setting is written as null.
    rename_i hnull
    rcases hv : s.get l with t | n | f
    all_goals rw [hv] at hnull; cases hnull
  · rw [hscalar]
    rfl

/-- The field of a setting finds the setting. -/
theorem find?_field {home : Section} {l : Setting} (h : l ∈ home.settings) :
    home.settings.find? (fun l' => Text.sameFolded l.field l'.field) = some l := by
  revert home l
  decide +kernel

/-- The field of a section finds no setting but the section. -/
theorem find?_field_of_child {home c : Section} (h : c ∈ home.children) :
    home.settings.find? (fun l => Text.sameFolded c.field l.field) = none ∧
      home.children.find? (fun c' => Text.sameFolded c.field c'.field) = some c := by
  revert home c
  decide +kernel

/-- Settings taken over from others. -/
def Settings.take (b s : Settings) (ls : List Setting) : Settings :=
  (ls.map fun l => (l, s.get l)).foldl (fun b p => b.set p.1 p.2) b

theorem take_append (b s : Settings) (ls ls' : List Setting) :
    b.take s (ls ++ ls') = (b.take s ls).take s ls' := by
  unfold Settings.take
  rw [List.map_append, List.foldl_append]

theorem foldlM_settings (hs : s.Fits) (b : Settings) {home : Section}
    (inner : Section → Settings → List (String × Json.Value) → Option Settings)
    (ls : List Setting) (h : ∀ l ∈ ls, l ∈ home.settings) :
    (ls.map fun l => (l.field, (s.get l).toJsonValue)).foldlM (mergeMember inner home) b
      = some (b.take s ls) := by
  induction ls generalizing b with
  | nil => rfl
  | cons l ls ih =>
      rw [List.forall_mem_cons] at h
      rw [List.map_cons, List.foldlM_cons, mergeMember, find?_field h.1]
      simp only [assign_toJsonValue hs, Option.bind_eq_bind, Option.bind_some, ih _ h.2]
      rfl

theorem foldlM_children (b : Settings) {home : Section} {depth : Nat}
    (ih : ∀ (c : Section) (b : Settings),
      mergeSection depth c b (s.members depth c) = some (b.take s (c.within depth)))
    (cs : List Section) (h : ∀ c ∈ cs, c ∈ home.children) :
    (cs.map fun c => (c.field, .object (s.members depth c))).foldlM
        (mergeMember (mergeSection depth) home) b
      = some (b.take s (cs.flatMap (Section.within depth))) := by
  induction cs generalizing b with
  | nil => rfl
  | cons c cs ihcs =>
      rw [List.forall_mem_cons] at h
      have hfind := find?_field_of_child h.1
      rw [List.map_cons, List.foldlM_cons, mergeMember, hfind.1]
      simp only [hfind.2, ih, Option.bind_eq_bind, Option.bind_some, ihcs _ h.2,
        List.flatMap_cons, take_append]

/-- Merging a section of a dump takes its settings over. -/
theorem mergeSection_members (hs : s.Fits) (depth : Nat) (home : Section) (b : Settings) :
    mergeSection depth home b (s.members depth home) = some (b.take s (home.within depth)) := by
  induction depth generalizing home b with
  | zero => rfl
  | succ depth ih =>
      unfold mergeSection Settings.members Section.within
      rw [List.foldlM_append, foldlM_settings hs b _ _ fun l hl => hl, take_append]
      exact foldlM_children _ ih _ fun c hc => hc

/-- A dump replaces all settings. -/
theorem override_toJson (hs : s.Fits) (b : Settings) : b.override s.toJson = some s := by
  have hall : ∀ l : Setting, l ∈ Section.root.within sectionDepth := by decide
  have htake : b.take s (Section.root.within sectionDepth) = s := by
    refine Settings.ext_get fun l => ?_
    have hget := b.get_foldl_set s.get (fun l => s.get_kind l) (Section.root.within sectionDepth) l
    rw [if_pos (hall l)] at hget
    exact hget
  unfold Settings.override
  rw [parse_toJson]
  simp only [Option.bind_eq_bind, Option.bind_some, Settings.merge]
  rw [mergeSection_members hs, htake]

end Merging

/-- Dumped settings override everything. Whatever settings there are, the
    override makes them the dumped ones, which may hold any text and any number
    of 64 bits, valid or not. So if the variable of the override holds a dump,
    it is what is loaded over any file and environment that can be read and
    decoded, and no error is reported but that it is not valid if it is not. -/
theorem dumped_override_replaces_all (s : Settings) (hs : s.Fits) :
    (∀ b : Settings, b.override s.toJson = some s) ∧
    ∀ (disk : Storage.Disk) (env : Environment) (directory : String) (document : Toml.Document)
      (b : Settings), readDocument disk directory = .ok document → decode env document = .ok b →
      env overrideVariable = s.toJson →
      Settings.load disk env directory = (s, s.validate.map LoadError.invalid) ∧
        ((Settings.load disk env directory).2 = none ↔ s.validate = none) := by
  refine ⟨override_toJson hs, fun disk env directory document b hdocument hdecode hvariable => ?_⟩
  have hset : env.has overrideVariable = true := by
    unfold Environment.has
    rw [hvariable, bne_iff_ne]
    intro hempty
    have hlist := congrArg String.toList hempty
    simp [Settings.toJson] at hlist
  have hgather : Settings.gather disk env directory = .ok s := by
    unfold Settings.gather
    rw [hdocument]
    simp only [bind, Except.bind, hdecode, hset, if_true, hvariable, override_toJson hs b]
  unfold Settings.load
  rw [hgather]
  exact ⟨rfl, Option.map_eq_none_iff⟩

/-- Texts of every awkward kind and the ends of the range, over a file that
    says otherwise. -/
theorem dumped_override_replaces_all_at_extremes :
    let s : Settings := { Settings.standard with
      title := "it's \"so\"\\\n\t\x00\x7f<\u2028>"
      log := { Settings.standard.log with
        appName := ""
        file := { Settings.standard.log.file with
          error := ⟨"/", -9223372036854775808, 9223372036854775807, 0⟩ } }
      generator := { Settings.standard.generator with defaultLength := -1 } }
    let env : Environment := fun name => if name = overrideVariable then s.toJson else ""
    s.Fits ∧ Settings.load (diskHolding Settings.standard.toToml.toUTF8) env ""
      = (s, some (.invalid (.violations [.negativeDefaultLength]))) := by
  intro s env
  have hs : s.Fits := by decide +kernel
  have hinvalid : s.validate = some (.violations [.negativeDefaultLength]) := by decide +kernel
  -- No variable but that of the override is set.
  have hother (path : List String) (h : spelled path ≠ "CONFIG_JSON".toList) :
      env (variableName path) = "" := by
    refine if_neg fun heq => h ?_
    have hlist := congrArg String.toList heq
    rw [toList_variableName] at hlist
    exact List.append_cancel_left hlist
  have hsettings : ∀ l : Setting, spelled l.path ≠ "CONFIG_JSON".toList := by decide +kernel
  have hsections : ∀ home : Section, spelled home.path ≠ "CONFIG_JSON".toList := by decide +kernel
  have hdecode : decode env (Settings.standard.document Section.all).lowered = .ok .standard :=
    decode_document Settings.standard_fits (fun l => hother _ (hsettings l))
      fun home _ => hother _ (hsections home)
  have hfile := FileSays.of_text (readFile_diskHolding _) (parse_toToml Settings.standard_fits)
  have hload := (dumped_override_replaces_all s hs).2 _ env "" _ _ (readDocument_of_fileSays hfile)
    hdecode (if_pos rfl)
  rw [hinvalid] at hload
  exact ⟨hs, hload.1⟩

end Passforge
