import Passforge.Proofs.Keys
import Passforge.Proofs.Lookup
import Passforge.Settings.Dump
import Passforge.Settings.Layers
import Passforge.Toml.Parser

/-!
# Printed Lines Read Back

What the program prints into a configuration file, it reads as what it printed:
the two quoted forms of a text, numbers, truth values, a line that gives a key
a value, and a header.

All of these stand before the end of a line. That end is what stops the
readers: a numeral is cut off at the first character that can not belong to it,
and an empty text in single quotes is told from an opening triple quote by the
third character.

A whole file is then read line by line. `Reads` leaves the limit on lines open,
so that putting a line before the rest is one lemma for either kind of line.

## Main definitions

* `BareName`: A name that is written without quotes.
* `Reads`: What a file says.

## Theorems

* `valueWithin_toToml`: A printed value reads back.
* `keyPath_dotted`: A printed key reads back.
* `Reads.line`, `Reads.header`: A printed line reads back.
-/

namespace Passforge.Toml

section Texts

theorem literalBody_of_isPlain {cs : List Char} (h : isPlain cs = true) (rest : List Char) :
    literalBody (cs ++ '\x27' :: rest) = some (cs, rest) := by
  induction cs with
  | nil => rfl
  | cons c cs ih =>
      have hc : (c != '\x27' && !isControl c) = true ∧ isPlain cs = true := by
        simpa only [isPlain, List.all_cons, Bool.and_eq_true] using h
      have hquote : c ≠ '\x27' := by
        rintro rfl
        exact absurd hc.1 (by decide)
      have hcontrol : isControl c = false := by
        have := hc.1
        simp only [Bool.and_eq_true, Bool.not_eq_true'] at this
        exact this.2
      rw [List.cons_append, literalBody.eq_3 _ _ hquote, hcontrol, ih hc.2]
      rfl

theorem codePoint?_upperHex {c : Char} (h : isControl c = true) :
    codePoint? (Text.upperHex 4 c.toNat) = some c := by
  have hsmall : c.toNat < 128 := by
    simp only [isControl, Bool.or_eq_true, Bool.and_eq_true, decide_eq_true_eq, beq_iff_eq] at h
    omega
  have hnumber : Text.hexNumber? (Text.upperHex 4 c.toNat) = some c.toNat :=
    Text.hexNumber?_four Text.upperHexDigit Text.hexValue?_upperHexDigit _ (by omega)
  unfold codePoint?
  rw [hnumber]
  simp only [Option.bind_eq_bind, Option.bind_some]
  rw [if_pos (by simp; omega), Char.ofNat_toNat]

/-- An escaped character reads as itself. -/
theorem basicBody_escape (c : Char) (rest : List Char) :
    basicBody (escape c ++ rest) = consRead c (basicBody rest) := by
  unfold escape
  split
  case h_8 hslash hquote _ _ _ _ _ =>
    by_cases hcontrol : isControl c = true
    · rw [if_pos hcontrol]
      have hdigits : '\\' :: 'u' :: Text.upperHex 4 c.toNat ++ rest
          = '\\' :: 'u' :: Text.upperHexDigit (c.toNat / 16 / 16 / 16)
            :: Text.upperHexDigit (c.toNat / 16 / 16) :: Text.upperHexDigit (c.toNat / 16)
            :: Text.upperHexDigit c.toNat :: rest := rfl
      have hpoint : codePoint? [Text.upperHexDigit (c.toNat / 16 / 16 / 16),
          Text.upperHexDigit (c.toNat / 16 / 16), Text.upperHexDigit (c.toNat / 16),
          Text.upperHexDigit c.toNat] = some c := codePoint?_upperHex hcontrol
      rw [hdigits, basicBody, hpoint]
      rfl
    · rw [if_neg hcontrol, List.singleton_append, basicBody.eq_6 c rest hquote
        (fun _ _ _ _ _ h _ => hslash h) (fun _ _ _ _ _ _ _ _ _ h _ => hslash h)
        (fun _ _ h _ => hslash h), if_neg hcontrol]
  all_goals rfl

theorem basicBody_flatMap_escape (cs rest : List Char) :
    basicBody (cs.flatMap escape ++ '"' :: rest) = some (cs, rest) := by
  induction cs with
  | nil => rfl
  | cons c cs ih =>
      rw [List.flatMap_cons, List.append_assoc, basicBody_escape, ih]
      rfl

end Texts

section Numbers

/-- A numeral consists of digits, but for a sign in front. -/
theorem signedDigits_cases {n : Int} {c : Char} (h : c ∈ Number.signedDigits n) :
    isDigit c = true ∨ c = '-' := by
  unfold Number.signedDigits at h
  split at h
  · rcases List.mem_cons.mp h with rfl | h
    · exact .inr rfl
    · exact .inl (Number.between_of_mem_digitsOf h)
  · exact .inl (Number.between_of_mem_digitsOf h)

theorem withoutUnderscores_of_notMem {cs : List Char} (h : '_' ∉ cs) (afterDigit : Bool) :
    withoutUnderscores afterDigit cs = some cs := by
  induction cs generalizing afterDigit with
  | nil => rfl
  | cons c cs ih =>
      have hc : c ≠ '_' := fun heq => h (by rw [heq]; exact List.mem_cons_self)
      rw [withoutUnderscores.eq_4 _ _ _ (fun heq _ => hc heq) hc,
        ih fun hmem => h (List.mem_cons_of_mem c hmem)]
      rfl

/-- A printed integer of 64 bits is read as a whole. -/
theorem integer?_signedDigits {n : Int} (h : Number.Fits n) :
    integer? (Number.signedDigits n) = some n := by
  have hnone : '_' ∉ Number.signedDigits n := by
    intro hmem
    rcases signedDigits_cases hmem with hc | hc
    · exact absurd hc (by decide)
    · exact absurd hc (by decide)
  unfold integer?
  rw [withoutUnderscores_of_notMem hnone]
  simp only [Option.bind_eq_bind, Option.bind_some, Number.splitSign_signedDigits]
  split
  · rename_i hzero
    exact absurd (Number.tail_of_zero_cons hzero) (List.cons_ne_nil _ _)
  · rw [Number.decimalNat_digitsOf _ (Number.natAbs_lt_natBound h)]
    simp only [Except.toOption, Option.bind_some, Number.signed_natAbs h]

/-- After digits from the start comes one more, or the end of the line. -/
theorem digit_or_lineEnd {ds rest front tail : List Char} {c : Char}
    (hds : ∀ x ∈ ds, isDigit x = true) (h : ds ++ '\n' :: rest = front ++ c :: tail)
    (hfront : ∀ x ∈ front, isDigit x = true) : isDigit c = true ∨ c = '\n' := by
  induction ds generalizing front with
  | nil =>
      cases front with
      | nil =>
          rw [List.nil_append, List.nil_append, List.cons.injEq] at h
          exact .inr h.1.symm
      | cons x front =>
          rw [List.nil_append, List.cons_append, List.cons.injEq] at h
          exact absurd (hfront x List.mem_cons_self) (by rw [← h.1]; decide)
  | cons d ds ih =>
      cases front with
      | nil =>
          rw [List.cons_append, List.nil_append, List.cons.injEq] at h
          exact .inl (h.1 ▸ hds d List.mem_cons_self)
      | cons x front =>
          rw [List.cons_append, List.cons_append, List.cons.injEq] at h
          exact ih (fun y hy => hds y (List.mem_cons_of_mem d hy)) h.2
            fun y hy => hfront y (List.mem_cons_of_mem x hy)

theorem signedDigits_continues (front : List Char) {n : Int} {rest tail : List Char} {c : Char}
    (h : Number.signedDigits n ++ '\n' :: rest = front ++ c :: tail) (hne : front ≠ [])
    (hfront : ∀ x ∈ front, isDigit x = true) : isDigit c = true ∨ c = '\n' := by
  unfold Number.signedDigits at h
  split at h
  · obtain ⟨x, front, rfl⟩ := List.exists_cons_of_ne_nil hne
    rw [List.cons_append, List.cons_append, List.cons.injEq] at h
    exact absurd (hfront x List.mem_cons_self) (by rw [← h.1]; decide)
  · exact digit_or_lineEnd (fun x => Number.between_of_mem_digitsOf) h hfront

/-- A numeral before the end of a line announces no date or time. -/
theorem announcesMoment_signedDigits (n : Int) (rest : List Char) :
    announcesMoment (Number.signedDigits n ++ '\n' :: rest) = false := by
  rw [Bool.eq_false_iff]
  intro hmoment
  unfold announcesMoment at hmoment
  -- In a date or time, some other character follows the first digits.
  split at hmoment
  · rename_i a b tail heq
    rw [Bool.and_eq_true] at hmoment
    have hcolon := signedDigits_continues [a, b] (c := ':') heq
      (List.cons_ne_nil _ _) (by simpa using hmoment)
    exact absurd hcolon (by decide)
  · rename_i a b c d tail _ heq
    simp only [Bool.and_eq_true] at hmoment
    have hdash := signedDigits_continues [a, b, c, d] (c := '-') heq
      (List.cons_ne_nil _ _) (by simpa [and_assoc] using hmoment)
    exact absurd hdash (by decide)
  · cases hmoment

theorem decimalNumber_signedDigits {n : Int} (h : Number.Fits n) (rest : List Char) :
    decimalNumber (Number.signedDigits n ++ '\n' :: rest) = some (.integer n, '\n' :: rest) := by
  have hchars : ∀ c ∈ Number.signedDigits n, isNumberChar c = true := by
    intro c hc
    rcases signedDigits_cases hc with hdigit | rfl
    · simp [isNumberChar, hdigit]
    · rfl
  have htake : (Number.signedDigits n ++ '\n' :: rest).takeWhile isNumberChar
      = Number.signedDigits n := by
    rw [List.takeWhile_append_of_pos hchars, List.takeWhile_cons_of_neg (by decide),
      List.append_nil]
  have hdrop : (Number.signedDigits n ++ '\n' :: rest).dropWhile isNumberChar = '\n' :: rest := by
    rw [List.dropWhile_append_of_pos hchars, List.dropWhile_cons_of_neg (by decide)]
  have hwhole : (Number.signedDigits n).any (fun c => c == '.' || c == 'e' || c == 'E')
      = false := by
    rw [List.any_eq_false]
    intro c hc hpoint
    simp only [Bool.or_eq_true, beq_iff_eq] at hpoint
    rcases signedDigits_cases hc with hdigit | rfl
    · rcases hpoint with (rfl | rfl) | rfl
      all_goals exact absurd hdigit (by decide)
    · exact absurd hpoint (by decide)
  unfold decimalNumber
  simp only [htake, hdrop, hwhole, Bool.false_eq_true, if_false, integer?_signedDigits h]
  rfl

/-- A printed integer of 64 bits reads back. -/
theorem number_signedDigits {n : Int} (h : Number.Fits n) (rest : List Char) :
    number (Number.signedDigits n ++ '\n' :: rest) = some (.integer n, '\n' :: rest) := by
  unfold number
  rw [announcesMoment_signedDigits]
  simp only [Bool.false_eq_true, if_false]
  split
  · rename_i mark tail heq
    -- Neither a digit nor the end of the line marks a base.
    have hmark : markedBase? mark = none := by
      rcases signedDigits_continues ['0'] heq (List.cons_ne_nil _ _)
        (List.forall_mem_singleton.mpr rfl) with hdigit | rfl
      · unfold markedBase?
        split
        all_goals first | rfl | exact absurd hdigit (by decide)
      · rfl
    rw [hmark]
    exact decimalNumber_signedDigits h rest
  · exact decimalNumber_signedDigits h rest

end Numbers

section Values

variable (depth : Nat)

theorem valueWithin_single {cs : List Char} (h : ∀ rest, cs ≠ '\x27' :: '\x27' :: rest) :
    valueWithin (depth + 1) ('\x27' :: cs) = textValue (literalBody cs) := by
  unfold valueWithin
  split
  case h_4 heq => cases heq; rfl
  case h_3 heq => cases heq; exact absurd rfl (h _)
  case h_9 hsingle _ _ _ _ => exact absurd rfl (hsingle cs)
  all_goals rename_i heq; cases heq

theorem valueWithin_double {cs : List Char} (h : ∀ rest, cs ≠ '"' :: '"' :: rest) :
    valueWithin (depth + 1) ('"' :: cs) = textValue (basicBody cs) := by
  unfold valueWithin
  split
  case h_2 heq => cases heq; rfl
  case h_1 heq => cases heq; exact absurd rfl (h _)
  case h_9 hdouble _ _ _ _ _ _ => exact absurd rfl (hdouble cs)
  all_goals rename_i heq; cases heq

theorem valueWithin_number {c : Char} {cs : List Char} (h : isDigit c = true ∨ c = '-') :
    valueWithin (depth + 1) (c :: cs) = number (c :: cs) := by
  unfold valueWithin
  split
  case h_9 => rfl
  all_goals rename_i heq; cases heq; exact absurd h (by decide)

/-- A printed text reads back. -/
theorem valueWithin_quoted (s : String) (rest : List Char) :
    valueWithin (depth + 1) (quoted s ++ '\n' :: rest) = some (.text s, '\n' :: rest) := by
  unfold quoted
  split
  · rename_i hplain
    -- Three quotes in a row would need one inside the text.
    have hopen : ∀ tail, s.toList ++ '\x27' :: '\n' :: rest ≠ '\x27' :: '\x27' :: tail := by
      intro tail heq
      rcases hs : s.toList with _ | ⟨c, cs⟩
      · rw [hs] at heq
        cases heq
      · rw [hs, List.cons_append, List.cons.injEq] at heq
        rw [hs, heq.1] at hplain
        exact absurd hplain (by simp [isPlain])
    rw [List.cons_append, List.cons_append, List.append_assoc, List.singleton_append,
      valueWithin_single depth hopen, literalBody_of_isPlain hplain]
    simp only [textValue, Option.map_some, String.ofList_toList]
  · rename_i hplain
    have hopen : ∀ tail, s.toList.flatMap escape ++ '"' :: '\n' :: rest ≠ '"' :: '"' :: tail := by
      intro tail heq
      -- Read from a quote on, the text would be empty, and an empty text is plain.
      have hread := basicBody_flatMap_escape s.toList ('\n' :: rest)
      rw [heq] at hread
      have hnil : s.toList = [] := (Prod.mk.inj (Option.some.inj hread)).1.symm
      exact hplain (by rw [hnil]; rfl)
    rw [List.cons_append, List.cons_append, List.append_assoc, List.singleton_append,
      valueWithin_double depth hopen, basicBody_flatMap_escape]
    simp only [textValue, Option.map_some, String.ofList_toList]

/-- A printed value reads back. -/
theorem valueWithin_toToml (v : Scalar) (h : v.Fits) (rest : List Char) :
    valueWithin (depth + 1) (v.toToml ++ '\n' :: rest) = some (v.toValue, '\n' :: rest) := by
  cases v with
  | text s => exact valueWithin_quoted depth s rest
  | flag b => cases b <;> rfl
  | number n =>
      have hread := number_signedDigits (h n rfl) rest
      have hdigits : Scalar.toToml (.number n) = Number.signedDigits n := rfl
      rw [hdigits]
      obtain ⟨c, cs, hcs, hc⟩ := Number.signedDigits_exists_cons n
      rw [hcs, List.cons_append, valueWithin_number depth hc, ← List.cons_append, ← hcs, hread]
      rfl

end Values

theorem skipBlanks_of_not {c : Char} (h : isSpacing c = false) (cs : List Char) :
    skipBlanks (c :: cs) = c :: cs :=
  List.dropWhile_cons_of_neg (by simp [h])

section Lines

/-- A name that is written without quotes. -/
def BareName (name : String) : Prop :=
  name ≠ "" ∧ ∀ c ∈ name.toList, isBare c = true

instance (name : String) : Decidable (BareName name) :=
  haveI := List.decidableBAll (fun c => isBare c = true) name.toList
  inferInstanceAs (Decidable (_ ∧ _))

variable {name : String} {rest : List Char}

theorem BareName.exists_cons (h : BareName name) :
    ∃ c cs, name.toList = c :: cs ∧ isBare c = true ∧ ∀ x ∈ cs, isBare x = true := by
  rcases hcs : name.toList with _ | ⟨c, cs⟩
  · exact absurd (String.toList_eq_nil_iff.mp hcs) h.1
  · have hall := h.2
    rw [hcs, List.forall_mem_cons] at hall
    exact ⟨c, cs, rfl, hall⟩

theorem isBare_ne {c x : Char} (h : isBare c = true) (hx : isBare x = false) : c ≠ x := by
  rintro rfl
  rw [h] at hx
  cases hx

theorem keyName_of_bare (h : BareName name) (hrest : ∀ c ∈ rest.head?, isBare c = false) :
    keyName (name.toList ++ rest) = some (name, rest) := by
  obtain ⟨c, cs, hcs, hc, hall⟩ := h.exists_cons
  have htake : rest.takeWhile isBare = [] ∧ rest.dropWhile isBare = rest := by
    cases rest with
    | nil => exact ⟨rfl, rfl⟩
    | cons x rest =>
        have hx := hrest x rfl
        simp [hx]
  rw [hcs, List.cons_append, keyName.eq_4 _ _ (isBare_ne hc (by decide)) (isBare_ne hc (by decide)),
    if_pos hc, List.takeWhile_append_of_pos hall, List.dropWhile_append_of_pos hall, htake.1,
    htake.2, List.append_nil, ← hcs, String.ofList_toList]

theorem isSpacing_of_bare {c : Char} (h : isBare c = true) : isSpacing c = false := by
  unfold isSpacing
  simp [isBare_ne h (x := ' ') (by decide), isBare_ne h (x := '\t') (by decide)]

theorem dotted_exists_cons {path : Path} (hne : path ≠ []) (hbare : ∀ name ∈ path, BareName name) :
    ∃ c cs, (dotted path).toList = c :: cs ∧ isBare c = true := by
  obtain ⟨name, path, rfl⟩ := List.exists_cons_of_ne_nil hne
  obtain ⟨c, cs, hcs, hc, -⟩ := (hbare name List.mem_cons_self).exists_cons
  by_cases hpath : path = []
  · subst hpath
    exact ⟨c, cs, by rw [← hcs]; simp [dotted], hc⟩
  · rw [dotted_cons name hpath, String.toList_append, String.toList_append, hcs]
    exact ⟨c, _, rfl, hc⟩

/-- A printed key reads back, and blanks behind it are left out. -/
theorem keyNames_dotted {path : Path} (hne : path ≠ []) (hbare : ∀ name ∈ path, BareName name)
    {limit : Nat} (hlimit : path.length ≤ limit) (hrest : ∀ c ∈ rest.head?, isBare c = false)
    (hdot : ∀ tail, skipBlanks rest ≠ '.' :: tail) :
    keyNames limit ((dotted path).toList ++ rest) = some (path, skipBlanks rest) := by
  induction path generalizing limit with
  | nil => exact absurd rfl hne
  | cons name path ih =>
      obtain ⟨limit, rfl⟩ : ∃ k, limit = k + 1 := ⟨limit - 1, by simp at hlimit; omega⟩
      have hname := hbare name List.mem_cons_self
      by_cases hpath : path = []
      · subst hpath
        have hdotted : dotted [name] = name := by simp [dotted]
        rw [hdotted, keyNames, keyName_of_bare hname hrest]
        simp only [Option.bind_eq_bind, Option.bind_some]
      · have hbare' : ∀ x ∈ path, BareName x := fun x hx => hbare x (List.mem_cons_of_mem name hx)
        obtain ⟨c, cs, hcs, hc⟩ := dotted_exists_cons hpath hbare'
        have hread : keyNames limit ((dotted path).toList ++ rest) = some (path, skipBlanks rest) :=
          ih hpath hbare' (by simpa using hlimit)
        rw [hcs, List.cons_append] at hread
        have hdotted : (dotted (name :: path)).toList ++ rest
            = name.toList ++ '.' :: c :: (cs ++ rest) := by
          rw [dotted_cons name hpath, String.toList_append, String.toList_append, hcs]
          simp
        have hblanks : skipBlanks ('.' :: c :: (cs ++ rest)) = '.' :: c :: (cs ++ rest) := rfl
        rw [hdotted, keyNames, keyName_of_bare hname (by simp; decide)]
        simp only [Option.bind_eq_bind, Option.bind_some, hblanks,
          skipBlanks_of_not (isSpacing_of_bare hc), hread]

theorem length_le_dotted {path : Path} (hbare : ∀ name ∈ path, BareName name) :
    path.length ≤ (dotted path).toList.length := by
  induction path with
  | nil => exact Nat.zero_le _
  | cons name path ih =>
      by_cases hpath : path = []
      · subst hpath
        obtain ⟨c, cs, hcs, -⟩ := dotted_exists_cons (List.cons_ne_nil name []) hbare
        rw [hcs]
        simp
      · have hrec := ih fun x hx => hbare x (List.mem_cons_of_mem name hx)
        rw [dotted_cons name hpath, String.toList_append, String.toList_append]
        simp only [List.length_append, List.length_cons]
        have hdot : ".".toList.length = 1 := rfl
        omega

theorem keyPath_dotted {path : Path} (hne : path ≠ []) (hbare : ∀ name ∈ path, BareName name)
    (rest : List Char) (hrest : ∀ c ∈ rest.head?, isBare c = false)
    (hdot : ∀ tail, skipBlanks rest ≠ '.' :: tail) :
    keyPath ((dotted path).toList ++ rest) = some (path, skipBlanks rest) := by
  refine keyNames_dotted hne hbare ?_ hrest hdot
  have := length_le_dotted hbare
  rw [List.length_append]
  omega

theorem skipBlanks_toToml (v : Scalar) (rest : List Char) :
    skipBlanks (v.toToml ++ rest) = v.toToml ++ rest := by
  have hfirst : ∃ c cs, v.toToml = c :: cs ∧ isSpacing c = false := by
    cases v with
    | text s =>
        by_cases hplain : isPlain s.toList = true
        · exact ⟨'\x27', _, if_pos hplain, by decide⟩
        · exact ⟨'"', _, if_neg hplain, by decide⟩
    | flag b => cases b <;> exact ⟨_, _, rfl, by decide⟩
    | number n =>
        obtain ⟨c, cs, hcs, hc⟩ := Number.signedDigits_exists_cons n
        refine ⟨c, cs, hcs, Bool.eq_false_iff.mpr fun hspace => ?_⟩
        simp only [isSpacing, Bool.or_eq_true, beq_iff_eq] at hspace
        rcases hspace with rfl | rfl
        · exact absurd hc (by decide)
        · exact absurd hc (by decide)
  obtain ⟨c, cs, hcs, hc⟩ := hfirst
  rw [hcs, List.cons_append, skipBlanks_of_not hc]

theorem value_toToml (v : Scalar) (h : v.Fits) (rest : List Char) :
    value (skipBlanks (' ' :: (v.toToml ++ '\n' :: rest))) = some (v.toValue, '\n' :: rest) := by
  have hblanks : skipBlanks (' ' :: (v.toToml ++ '\n' :: rest)) = v.toToml ++ '\n' :: rest :=
    skipBlanks_toToml v ('\n' :: rest)
  rw [hblanks]
  exact valueWithin_toToml _ v h rest

/-- A printed line gives its key its value. -/
theorem statement_line (hname : BareName name) (v : Scalar) (hv : v.Fits) (rest : List Char) :
    statement (line name v.toToml ++ rest) = some (.bind [name] v.toValue, '\n' :: rest) := by
  have hline : line name v.toToml ++ rest
      = (dotted [name]).toList ++ ' ' :: '=' :: ' ' :: (v.toToml ++ '\n' :: rest) := by
    simp [line, dotted]
  have hbare : ∀ x ∈ [name], BareName x := by simpa using hname
  have hkey := keyPath_dotted (List.cons_ne_nil name []) hbare
    (' ' :: '=' :: ' ' :: (v.toToml ++ '\n' :: rest)) (by simp; decide) (by rintro tail ⟨⟩)
  obtain ⟨c, cs, hcs, hc⟩ := dotted_exists_cons (List.cons_ne_nil name []) hbare
  have hopen : ∀ tail, (dotted [name]).toList ++ ' ' :: '=' :: ' ' :: (v.toToml ++ '\n' :: rest)
      ≠ '[' :: tail := by
    intro tail heq
    rw [hcs, List.cons_append, List.cons.injEq] at heq
    exact isBare_ne hc (by decide) heq.1
  have hblanks : skipBlanks (' ' :: '=' :: ' ' :: (v.toToml ++ '\n' :: rest))
      = '=' :: ' ' :: (v.toToml ++ '\n' :: rest) := rfl
  rw [hline, statement.eq_3 _ (fun tail => hopen _) hopen, hkey, hblanks]
  simp only [Option.bind_eq_bind, Option.bind_some, value_toToml v hv]

/-- A printed header opens its table. -/
theorem statement_header {path : Path} (hne : path ≠ []) (hbare : ∀ name ∈ path, BareName name)
    (rest : List Char) :
    statement ('[' :: ((dotted path).toList ++ ']' :: '\n' :: rest))
      = some (.table path, '\n' :: rest) := by
  have hkey := keyPath_dotted hne hbare (']' :: '\n' :: rest) (by simp; decide)
    (by rintro tail ⟨⟩)
  obtain ⟨c, cs, hcs, hc⟩ := dotted_exists_cons hne hbare
  have hblanks : skipBlanks (']' :: '\n' :: rest) = ']' :: '\n' :: rest := rfl
  rw [hcs, List.cons_append] at hkey ⊢
  have hopen : ∀ tail, c :: (cs ++ ']' :: '\n' :: rest) ≠ '[' :: tail := by
    intro tail heq
    exact isBare_ne hc (by decide) (List.cons.inj heq).1
  rw [statement.eq_2 _ hopen, skipBlanks_of_not (isSpacing_of_bare hc), hkey, hblanks]
  rfl

end Lines

section Files

/-- The file says the statements, whatever limit on lines is enough for it. -/
def Reads (cs : List Char) (ss : List Statement) : Prop :=
  ∀ limit, cs.length < limit → statementsWithin limit cs = some ss

namespace Reads

variable {rest : List Char} {ss : List Statement}

theorem nil : Reads [] [] := by
  intro limit hlimit
  obtain ⟨limit, rfl⟩ : ∃ k, limit = k + 1 := ⟨limit - 1, by simp at hlimit; omega⟩
  rfl

/-- A line that starts with something to say. -/
theorem cons {c : Char} {cs : List Char} {s : Statement} (hblank : isSpacing c = false)
    (hstart : startsStatement (c :: cs) = true)
    (hstatement : statement (c :: cs) = some (s, '\n' :: rest))
    (hlt : rest.length < (c :: cs).length) (h : Reads rest ss) : Reads (c :: cs) (s :: ss) := by
  intro limit hlimit
  obtain ⟨limit, rfl⟩ : ∃ k, limit = k + 1 := ⟨limit - 1, by omega⟩
  have hend : lineEnd ('\n' :: rest) = some rest := rfl
  unfold statementsWithin
  simp only [skipBlanks_of_not hblank, hstart, if_true, hstatement, Option.bind_eq_bind,
    Option.bind_some, hend]
  rw [h limit (by omega)]
  rfl

theorem blank (h : Reads rest ss) : Reads ('\n' :: rest) ss := by
  intro limit hlimit
  obtain ⟨limit, rfl⟩ : ∃ k, limit = k + 1 := ⟨limit - 1, by omega⟩
  exact h limit (by simpa using hlimit)

theorem line {name : String} (hname : BareName name) (v : Scalar) (hv : v.Fits)
    (h : Reads rest ss) :
    Reads (Toml.line name v.toToml ++ rest) (.bind [name] v.toValue :: ss) := by
  have hstatement := statement_line hname v hv rest
  have hlt : rest.length < (Toml.line name v.toToml ++ rest).length := by
    simp only [Toml.line, List.length_append, List.length_cons]
    omega
  obtain ⟨c, cs, hcs, hc, -⟩ := hname.exists_cons
  have hline : Toml.line name v.toToml = c :: (cs ++ ' ' :: '=' :: ' ' :: v.toToml ++ ['\n']) := by
    simp [Toml.line, hcs]
  have hstart (tail : List Char) : startsStatement (c :: tail) = true := by
    simp [startsStatement, isBare_ne hc (x := '\n') (by decide),
      isBare_ne hc (x := '\r') (by decide), isBare_ne hc (x := '#') (by decide)]
  rw [hline, List.cons_append] at hstatement hlt ⊢
  exact cons (isSpacing_of_bare hc) (hstart _) hstatement hlt h

theorem header {path : Path} (hne : path ≠ []) (hbare : ∀ name ∈ path, BareName name)
    (h : Reads rest ss) : Reads (Toml.header path ++ rest) (.table path :: ss) := by
  have hheader : Toml.header path ++ rest
      = '\n' :: '[' :: ((dotted path).toList ++ ']' :: '\n' :: rest) := by
    simp [Toml.header, dotted]
  rw [hheader]
  refine blank (cons (by decide) rfl (statement_header hne hbare rest) ?_ h)
  simp only [List.length_append, List.length_cons]
  omega

end Reads

end Files

end Passforge.Toml
