import Mathlib.Data.List.Nodup
import Passforge.Proofs.Numerals
import Passforge.Settings.Key

/-!
# Settings One by One

All settings together are the same thing as one value of the right kind for
each single setting. Reading a setting gives what was last put there, putting a
value there leaves every other setting alone, and settings that agree one by one
are equal. With these laws whatever goes through the list of all settings, the
layers, the override and the dumps, is followed for one setting at a time.

## Main definitions

* `Setting.all`: Every setting, in the order they are written.
* `Scalar.Fits`, `Settings.Fits`: Every number has 64 bits.

## Theorems

* `Setting.mem_all`: No setting is missing from the list.
* `Settings.get_kind`: A value is of the kind its setting takes.
* `Settings.get_set_self`, `Settings.get_set_other`: Reading after writing.
* `Settings.ext_get`: Settings that agree one by one are equal.
* `Settings.get_foldl_set`: Reading after writing any number of settings.
* `Settings.Fits.set`: Setting a value that fits keeps the range.
* `Setting.variable_injective`: No two settings share a variable.
* `Section.variable_ne`: No setting shares its variable with a section.
-/

namespace Passforge

/-- If the value is a number, it has 64 bits. -/
def Scalar.Fits (v : Scalar) : Prop :=
  ∀ n, v = .number n → Number.Fits n

instance (v : Scalar) : Decidable v.Fits :=
  match v with
  | .number n =>
    decidable_of_iff (Number.Fits n) ⟨fun h _ hn => by cases hn; exact h, fun h => h n rfl⟩
  | .text _ => .isTrue fun _ hn => by cases hn
  | .flag _ => .isTrue fun _ hn => by cases hn

/-- Every setting, in the order they are written. -/
def Setting.all : List Setting :=
  Section.all.flatMap Section.settings

theorem Setting.mem_settings (l : Setting) : l ∈ l.home.settings := by
  cases l with
  | rolling c p => cases c <;> cases p <;> decide
  | _ => decide

theorem Section.mem_all (home : Section) : home ∈ Section.all := by
  cases home <;> decide

/-- No setting is missing from the list. -/
theorem Setting.mem_all (l : Setting) : l ∈ Setting.all :=
  List.mem_flatMap.mpr ⟨l.home, l.home.mem_all, l.mem_settings⟩

/-- What is said of all sections can be checked for one after the other. -/
instance Section.decidableForall (P : Section → Prop) [DecidablePred P] :
    Decidable (∀ home, P home) :=
  decidable_of_iff (∀ home ∈ Section.all, P home)
    ⟨fun h home => h home home.mem_all, fun h home _ => h home⟩

/-- So can what is said of all settings. -/
instance Setting.decidableForall (P : Setting → Prop) [DecidablePred P] : Decidable (∀ l, P l) :=
  decidable_of_iff (∀ l ∈ Setting.all, P l) ⟨fun h l => h l l.mem_all, fun h l _ => h l⟩

namespace RollingSettings

theorem get_set_self (r : RollingSettings) (p : RollingPart) (v : Scalar)
    (h : v.kind = (r.get p).kind) : (r.set p v).get p = v := by
  cases p <;> cases v <;> first | rfl | cases h

theorem get_set_other (r : RollingSettings) {p p' : RollingPart} (v : Scalar) (h : p ≠ p') :
    (r.set p v).get p' = r.get p' := by
  cases p <;> cases p' <;> cases v <;> first | rfl | exact absurd rfl h

theorem ext_get {r r' : RollingSettings} (h : ∀ p, r.get p = r'.get p) : r = r' := by
  have hname := h .name
  have hsize := h .maxSize
  have hbackups := h .maxBackups
  have hage := h .maxAge
  simp only [get, Scalar.text.injEq, Scalar.number.injEq] at hname hsize hbackups hage
  cases r
  cases r'
  simp_all only

end RollingSettings

namespace FileSettings

theorem rolling_setRolling_self (f : FileSettings) (c : Log.FileClass) (r : RollingSettings) :
    (f.setRolling c r).rolling c = r := by
  cases c <;> rfl

theorem rolling_setRolling_other (f : FileSettings) {c c' : Log.FileClass} (r : RollingSettings)
    (h : c ≠ c') : (f.setRolling c r).rolling c' = f.rolling c' := by
  cases c <;> cases c' <;> first | rfl | exact absurd rfl h

end FileSettings

namespace Settings

variable (s : Settings)

/-- A value is of the kind its setting takes. -/
theorem get_kind (l : Setting) : (s.get l).kind = l.kind := by
  cases l with
  | rolling c p => cases p <;> rfl
  | _ => rfl

theorem set_rolling (c : Log.FileClass) (p : RollingPart) (v : Scalar) :
    s.set (.rolling c p) v
      = s.setFile (s.log.file.setRolling c ((s.log.file.rolling c).set p v)) := by
  cases v <;> rfl

theorem get_set_self (l : Setting) (v : Scalar) (h : v.kind = l.kind) : (s.set l v).get l = v := by
  cases l with
  | rolling c p =>
      -- A part of a log file's settings, which are a part themselves.
      rw [set_rolling]
      change ((s.log.file.setRolling c _).rolling c).get p = v
      rw [FileSettings.rolling_setRolling_self]
      exact RollingSettings.get_set_self _ p v (h.trans (s.get_kind (.rolling c p)).symm)
  | _ => cases v <;> first | rfl | cases h

/-- Nothing but a log file's own settings changes when one of them does. -/
theorem get_setRolling (f : Log.FileClass) (r : RollingSettings) {l : Setting}
    (h : ∀ p, l ≠ .rolling f p) : (s.setFile (s.log.file.setRolling f r)).get l = s.get l := by
  cases l with
  | rolling c p =>
      have hc : f ≠ c := fun heq => h p (by rw [heq])
      change ((s.log.file.setRolling f r).rolling c).get p = _
      rw [FileSettings.rolling_setRolling_other _ _ hc]
      rfl
  | _ => cases f <;> rfl

theorem get_set_other {l l' : Setting} (v : Scalar) (h : l ≠ l') :
    (s.set l v).get l' = s.get l' := by
  cases l with
  | rolling c p =>
      rw [set_rolling]
      by_cases hsame : ∃ p', l' = .rolling c p'
      · obtain ⟨p', rfl⟩ := hsame
        have hp : p ≠ p' := fun heq => h (by rw [heq])
        change ((s.log.file.setRolling c _).rolling c).get p' = _
        rw [FileSettings.rolling_setRolling_self, RollingSettings.get_set_other _ v hp]
        rfl
      · exact s.get_setRolling c _ fun p' heq => hsame ⟨p', heq⟩
  | _ =>
      cases v <;> cases l' <;> first | rfl | exact absurd rfl h

/-- Settings that agree one by one are equal. -/
theorem ext_get {s t : Settings} (h : ∀ l, s.get l = t.get l) : s = t := by
  have hrolling (c : Log.FileClass) : s.log.file.rolling c = t.log.file.rolling c :=
    RollingSettings.ext_get fun p => h (.rolling c p)
  have hfile : s.log.file = t.log.file := by
    have henabled := h .fileEnabled
    have hpath := h .filePath
    have herror := hrolling .error
    have hinfo := hrolling .info
    have htrace := hrolling .trace
    have hwarn := hrolling .warn
    simp only [get, Scalar.flag.injEq, Scalar.text.injEq] at henabled hpath
    simp only [FileSettings.rolling] at herror hinfo htrace hwarn
    cases hs : s.log.file
    cases ht : t.log.file
    simp_all only
  have htitle := h .title
  have hlevel := h .level
  have hcaller := h .reportCaller
  have happ := h .appName
  have hservice := h .serviceName
  have hconsole := h .consoleEnabled
  have hreadable := h .consoleReadable
  have hdefault := h .defaultLength
  have hmax := h .maxLength
  have halphabet := h .alphabet
  have hcharset := h .charset
  have hsource := h .source
  have hunique := h .unique
  obtain ⟨title, ⟨level, caller, app, service, ⟨enabled, readable⟩, file⟩,
    ⟨default, max, alphabet, charset, source, unique⟩⟩ := s
  obtain ⟨title', ⟨level', caller', app', service', ⟨enabled', readable'⟩, file'⟩,
    ⟨default', max', alphabet', charset', source', unique'⟩⟩ := t
  simp only [get, Scalar.flag.injEq, Scalar.text.injEq, Scalar.number.injEq] at *
  simp only [htitle, hlevel, hcaller, happ, hservice, hconsole, hreadable, hfile, hdefault, hmax,
    halphabet, hcharset, hsource, hunique]

/-- Reading after writing any number of settings. -/
theorem get_foldl_set (x : Setting → Scalar) (hkind : ∀ l, (x l).kind = l.kind)
    (ls : List Setting) (l : Setting) :
    ((ls.map fun l => (l, x l)).foldl (fun s p => s.set p.1 p.2) s).get l
      = if l ∈ ls then x l else s.get l := by
  induction ls generalizing s with
  | nil => rfl
  | cons l' ls ih =>
      rw [List.map_cons, List.foldl_cons, ih]
      by_cases hmem : l ∈ ls
      · rw [if_pos hmem, if_pos (List.mem_cons_of_mem l' hmem)]
      · rw [if_neg hmem]
        by_cases heq : l' = l
        · subst heq
          rw [if_pos List.mem_cons_self, s.get_set_self l' _ (hkind l')]
        · have hnot : l ∉ l' :: ls := by
            rw [List.mem_cons]
            rintro (rfl | hl)
            · exact heq rfl
            · exact hmem hl
          rw [if_neg hnot, s.get_set_other _ heq]

/-- Every number has 64 bits. -/
def Fits : Prop :=
  ∀ l, (s.get l).Fits

instance : Decidable s.Fits :=
  inferInstanceAs (Decidable (∀ l, (s.get l).Fits))

/-- A setting that is set has the new value, or the old one. -/
theorem get_set_cases (l l' : Setting) (v : Scalar) :
    (s.set l v).get l' = v ∨ (s.set l v).get l' = s.get l' := by
  by_cases hl : l = l'
  · subst hl
    by_cases hkind : v.kind = l.kind
    · exact .inl (s.get_set_self l v hkind)
    · right
      cases l with
      | rolling c p => cases c <;> cases p <;> cases v <;> first | rfl | exact absurd rfl hkind
      | _ => cases v <;> first | rfl | exact absurd rfl hkind
  · exact .inr (s.get_set_other v hl)

theorem Fits.set {s : Settings} (hs : s.Fits) (l : Setting) {v : Scalar} (hv : v.Fits) :
    (s.set l v).Fits := by
  intro l' n h
  rcases s.get_set_cases l l' v with hget | hget
  · exact hv n (hget ▸ h)
  · exact hs l' n (hget ▸ h)

end Settings

/-- The names of a path, as a variable spells them. -/
def spelled (path : List String) : List Char :=
  (['_'].intercalate (path.map String.toList)).map Char.toUpper

theorem toList_variableName (path : List String) :
    (variableName path).toList = "PWGEN_".toList ++ spelled path := by
  unfold variableName spelled
  rw [String.toList_append, String.toList_map, String.toList_intercalate]
  rfl

theorem spelled_of_variableName {path path' : List String}
    (h : variableName path = variableName path') : spelled path = spelled path' := by
  have hlist : (variableName path).toList = (variableName path').toList := by rw [h]
  rw [toList_variableName, toList_variableName] at hlist
  exact List.append_cancel_left hlist

/-- No two settings share a variable. -/
theorem Setting.variable_injective {l l' : Setting} (h : l.variable = l'.variable) : l = l' := by
  have hnodup : (Setting.all.map fun l => spelled l.path).Nodup := by decide +kernel
  exact List.inj_on_of_nodup_map hnodup l.mem_all l'.mem_all (spelled_of_variableName h)

/-- No setting shares its variable with a section. -/
theorem Section.variable_ne (home : Section) (l : Setting) : home.variable ≠ l.variable := by
  have hall : ∀ (home : Section) (l : Setting), spelled home.path ≠ spelled l.path := by
    decide +kernel
  exact fun h => hall home l (spelled_of_variableName h)

end Passforge
