import Passforge.Proofs.Layering

/-!
# Loaded Settings Fit 64 Bits

Whatever the file, the environment and the override say, the numbers of loaded
settings are integers of 64 bits. Every number comes out of a reader that keeps
the range: the reader of files (`Toml.Document.parse_sound`), the reader of
literals for variables and overrides, or the conversion of a real number, which
cuts off what does not fit.

Settings are put together one `set` after the other, so it is enough that the
values that are set fit. What has to be followed is where those come from.

## Theorems

* `convert_fits`: What is converted fits.
* `decode_fits`: What is decoded fits.
* `override_fits`: What is overridden fits.
* `load_fits`: What is loaded fits.
-/

namespace Passforge

theorem Kind.zero_fits (kind : Kind) : kind.zero.Fits := by
  intro n h
  cases kind <;> cases h
  decide

theorem Settings.zero_fits : Settings.zero.Fits := by
  decide +kernel

theorem Settings.standard_fits : Settings.standard.Fits := by
  decide +kernel

theorem Number.Binary64.truncate_fits (x : Number.Binary64) : Number.Fits x.truncate := by
  have hcut (n : Int) : Number.Fits
      (if Number.leastInt ≤ n ∧ n < -Number.leastInt then n else Number.leastInt) := by
    by_cases h : Number.leastInt ≤ n ∧ n < -Number.leastInt
    · rw [if_pos h]
      exact h
    · rw [if_neg h]
      decide
  cases x with
  | finite negative m e => exact hcut _
  | _ => exact (by decide : Number.Fits Number.leastInt)

/-- What is converted fits if an integer of the file does. -/
theorem convert_fits {kind : Kind} {v : Toml.Value} {x : Scalar} (h : convert kind v = .ok x)
    (hv : ∀ n, v = .integer n → Number.Fits n) : x.Fits := by
  rintro n rfl
  obtain rfl : .number = kind := convert_kind h
  cases v with
  | text s =>
      simp only [convert] at h
      split at h
      · cases h
        decide
      · split at h
        · rename_i hmarked
          cases h
          exact Number.markedInt_fits hmarked
        · cases h
  | integer m =>
      cases h
      exact hv n rfl
  | real x =>
      cases h
      exact x.truncate_fits
  | boolean b =>
      cases h
      cases b <;> decide
  | _ => cases h

section Files

variable {d : Toml.Document} {env : Environment}

theorem Toml.Document.Sound.lowered_fits (hd : d.Sound) : d.lowered.Fits := by
  intro p n hmem
  obtain ⟨⟨q, v⟩, hq, heq⟩ := List.mem_map.mp hmem
  cases heq
  exact hd.fits q n (List.mem_of_mem_filter hq)

theorem Toml.Document.mem_of_searchBelow {steps : Nat} {base names : Toml.Path} {v : Toml.Value}
    (h : d.searchBelow steps base names = some v) : ∃ p, (p, v) ∈ d := by
  induction steps generalizing base names with
  | zero => cases h
  | succ steps ih =>
      obtain ⟨k, -, hk⟩ := List.exists_of_findSome?_eq_some h
      simp only at hk
      split at hk
      · cases hk
      · rename_i w hlookup
        split at hk
        · cases hk
          exact ⟨_, mem_of_lookup hlookup⟩
        · split at hk
          · exact ih hk
          · cases hk

theorem Setting.raw_fits (hd : d.Fits) {l : Setting} {n : Int}
    (h : l.raw env d = some (.integer n)) : Number.Fits n := by
  unfold Setting.raw at h
  split at h
  · cases h
  · split at h
    · cases h
    · split at h
      · rename_i v hsearch
        cases h
        obtain ⟨p, hp⟩ := Toml.Document.mem_of_searchBelow hsearch
        exact hd p n hp
      -- Not in the file, so it is the standard value.
      · have hstandard : (Settings.standard.get l).toValue = .integer n := Option.some.inj h
        rcases hget : Settings.standard.get l with t | m | b
        · rw [hget] at hstandard
          cases hstandard
        · rw [hget] at hstandard
          cases hstandard
          exact Settings.standard_fits l n hget
        · rw [hget] at hstandard
          cases hstandard

theorem Setting.decode_fits (hd : d.Fits) {l l' : Setting} {x : Scalar}
    (h : l.decode env d = .ok (l', x)) : x.Fits := by
  unfold Setting.decode at h
  split at h
  · cases h
    exact l.kind.zero_fits
  · rename_i v hraw
    split at h
    · rename_i y hconvert
      cases h
      refine convert_fits hconvert ?_
      rintro n rfl
      exact Setting.raw_fits hd hraw
    · cases h

theorem Section.decode_fits (hd : d.Fits) {home : Section} {l : Setting} {x : Scalar}
    (h : .ok (l, x) ∈ home.decode env d) : x.Fits := by
  unfold Section.decode at h
  split at h
  · cases h
  · split at h
    · obtain ⟨l', -, hl'⟩ := List.mem_map.mp h
      exact Setting.decode_fits hd hl'
    · cases h
    · cases List.mem_singleton.mp h

theorem ofValues_fits {values : List (Setting × Scalar)} (h : ∀ e ∈ values, e.2.Fits) :
    (Settings.ofValues values).Fits := by
  unfold Settings.ofValues
  -- The values are set one after the other, starting from the zero settings.
  generalize hs : Settings.zero = s
  have hfits : s.Fits := hs ▸ Settings.zero_fits
  clear hs
  induction values generalizing s with
  | nil => exact hfits
  | cons e values ih =>
      rw [List.forall_mem_cons] at h
      exact ih h.2 _ (hfits.set e.1 h.1)

/-- What is decoded fits. -/
theorem decode_fits (hd : d.Fits) {s : Settings} (h : decode env d = .ok s) : s.Fits := by
  unfold decode at h
  simp only at h
  split at h
  · cases h
    refine ofValues_fits fun e he => ?_
    obtain ⟨outcome, houtcome, hvalue⟩ := List.mem_filterMap.mp he
    split at hvalue
    · cases hvalue
    · cases hvalue
      obtain ⟨home, -, hhome⟩ := List.mem_flatMap.mp houtcome
      exact Section.decode_fits hd hhome
  · cases h

theorem readDocument_fits {disk : Storage.Disk} {directory : String}
    (h : readDocument disk directory = .ok d) : d.Fits := by
  unfold readDocument at h
  split at h
  · split at h
    · cases h
      exact Toml.Document.empty_sound.fits
    · cases h
  · split at h
    · rename_i d' hparse
      cases h
      obtain ⟨text, -, htext⟩ := Option.bind_eq_some_iff.mp hparse
      exact (Toml.Document.parse_sound htext).lowered_fits
    · cases h

end Files

section Overrides

variable {s s' : Settings}

theorem scalarOf_fits {kind : Kind} {v : Json.Value} {x : Scalar} (h : scalarOf kind v = some x) :
    x.Fits := by
  rintro n rfl
  unfold scalarOf at h
  split at h
  · cases h
  · rename_i written
    rcases hread : Number.decimalInt (String.ofList written) with e | m
    · rw [hread] at h
      cases h
    · rw [hread] at h
      cases h
      exact Number.decimalInt_fits hread
  · cases h
  · cases h

theorem assign_fits (hs : s.Fits) {l : Setting} {v : Json.Value} (h : assign s l v = some s') :
    s'.Fits := by
  unfold assign at h
  split at h
  · cases h
    exact hs
  · obtain ⟨x, hx, rfl⟩ := Option.map_eq_some_iff.mp h
    exact hs.set l (scalarOf_fits hx)

/-- What is overridden fits. -/
theorem mergeSection_fits (depth : Nat) (home : Section) (members : List (String × Json.Value))
    (hs : s.Fits) (h : mergeSection depth home s members = some s') : s'.Fits := by
  induction depth generalizing home members s s' with
  | zero =>
      cases h
      exact hs
  | succ depth ih =>
      refine foldlM_invariant members (fun member _ t t' ht hmember => ?_) hs h
      unfold mergeMember at hmember
      split at hmember
      · exact assign_fits ht hmember
      · split at hmember
        · split at hmember
          · cases hmember
            exact ht
          -- A section inside, one level down.
          · exact ih _ _ ht hmember
          · cases hmember
        · cases hmember
          exact ht

theorem override_fits {text : String} (hs : s.Fits) (h : s.override text = some s') : s'.Fits := by
  obtain ⟨v, -, hmerge⟩ := Option.bind_eq_some_iff.mp h
  unfold Settings.merge at hmerge
  split at hmerge
  · cases hmerge
    exact hs
  · exact mergeSection_fits _ _ _ hs hmerge
  · cases hmerge

end Overrides

theorem decoded_fits {disk : Storage.Disk} {env : Environment} {directory : String} {s : Settings}
    (h : Settings.decoded disk env directory = .ok s) : s.Fits := by
  unfold Settings.decoded at h
  rcases hdocument : readDocument disk directory with e | d
  · rw [hdocument] at h
    cases h
  · rw [hdocument] at h
    rcases hdecode : decode env d with problems | t
    · simp only [hdecode] at h
      cases h
    · simp only [hdecode] at h
      cases h
      exact decode_fits (readDocument_fits hdocument) hdecode

/-- What is loaded fits. -/
theorem load_fits (disk : Storage.Disk) (env : Environment) (directory : String) :
    (Settings.load disk env directory).1.Fits := by
  unfold Settings.load
  rw [Settings.gather_eq]
  rcases hdecoded : Settings.decoded disk env directory with e | s
  · exact Settings.zero_fits
  · simp only [Except.bind, Settings.overridden]
    split
    · exact Settings.zero_fits
    · rename_i t hoverridden
      split at hoverridden
      · split at hoverridden
        · rename_i t' hoverride
          cases hoverridden
          exact override_fits (decoded_fits hdecoded) hoverride
        · cases hoverridden
      · cases hoverridden
        exact decoded_fits hdecoded

end Passforge
