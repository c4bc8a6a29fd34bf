import Passforge.Proofs.Numerals
import Passforge.Toml.Parser

/-!
# Documents That Come From Files

A document is a list of paths with values, and not every such list can come
from a file. One that does is *sound*: the table around each entry is an entry
too, and every integer has 64 bits. Both are kept by every statement of a file,
and the empty document has them, so every document that was read has them.

A table in braces is where the argument turns back on itself. Its entries are
put beside it when it is bound, so they must form a sound document of their
own, and its members may be tables in braces again. What carries this through
is a statement about values, `Value.Sound`, by induction on the depth that the
parser allows.

## Main definitions

* `Document.paths`: The paths that have a value.
* `Document.Reaches`: A path that leads to the whole document or has a value.
* `Document.Fits`: Every integer has 64 bits.
* `Document.Sound`: Every entry lies in a table, every integer has 64 bits.
* `Value.Sound`: The same of what a value brings into a document.

## Theorems

* `Document.bind_sound`: Binding a sound value keeps a document sound.
* `Document.openTable_sound`, `Document.openElement_sound`: So do headers.
* `valueWithin_sound`: Values are sound.
* `Document.parse_sound`: A document that was read is sound.
-/

namespace Passforge

/-- What each step of a fold keeps, the whole fold keeps. -/
theorem foldlM_invariant {α β : Type} {P : β → Prop} {f : β → α → Option β} (xs : List α)
    (hstep : ∀ x ∈ xs, ∀ b b', P b → f b x = some b' → P b') {b b' : β} (hb : P b)
    (h : xs.foldlM f b = some b') : P b' := by
  induction xs generalizing b with
  | nil =>
      cases h
      exact hb
  | cons x xs ih =>
      rw [List.forall_mem_cons] at hstep
      obtain ⟨b₁, hx, hrest⟩ := Option.bind_eq_some_iff.mp h
      exact ih hstep.2 (hstep.1 b b₁ hb hx) hrest

namespace Toml

namespace Document

/-- The paths that have a value. -/
def paths (d : Document) : List Path :=
  d.map Prod.fst

/-- The path leads to the whole document, or it has a value. -/
def Reaches (d : Document) (p : Path) : Prop :=
  p = [] ∨ p ∈ d.paths

/-- Every integer has 64 bits. -/
def Fits (d : Document) : Prop :=
  ∀ p n, (p, Value.integer n) ∈ d → Number.Fits n

/-- Every entry lies in a table that is an entry too, and integers have 64 bits. -/
structure Sound (d : Document) : Prop where
  above : ∀ p ∈ d.paths, d.Reaches p.dropLast
  fits : d.Fits

end Document

/-- What the value brings into a document is sound. -/
structure Value.Sound (v : Value) : Prop where
  fits : ∀ n, v = .integer n → Number.Fits n
  entries : ∀ d, v = .inline d → Document.Sound d

namespace Document

variable {d d' : Document} {base key p : Path} {v : Value}

@[simp] theorem paths_nil : paths [] = [] := rfl

@[simp] theorem paths_cons (e : Path × Value) (d : Document) :
    paths (e :: d) = e.1 :: paths d := rfl

@[simp] theorem paths_append (d d' : Document) : paths (d ++ d') = paths d ++ paths d' :=
  List.map_append

theorem isSome_lookup_iff : (d.lookup p).isSome = true ↔ p ∈ d.paths := by
  rw [List.lookup_isSome_iff, paths, List.mem_map]
  constructor
  · rintro ⟨e, he, heq⟩
    exact ⟨e, he, (beq_iff_eq.mp heq).symm⟩
  · rintro ⟨e, he, rfl⟩
    exact ⟨e, he, beq_self_eq_true e.1⟩

theorem mem_paths_of_lookup (h : d.lookup p = some v) : p ∈ d.paths :=
  isSome_lookup_iff.mp (by rw [h]; rfl)

theorem mem_of_lookup (h : d.lookup p = some v) : (p, v) ∈ d := by
  obtain ⟨before, after, rfl, -⟩ := List.lookup_eq_some_iff.mp h
  simp

theorem Reaches.mono (h : d.Reaches p) (hsub : d.paths ⊆ d'.paths) : d'.Reaches p :=
  h.imp id fun hp => hsub hp

theorem Reaches.append_right (h : d.Reaches p) (d' : Document) : (d ++ d').Reaches p :=
  h.mono (by rw [paths_append]; exact List.subset_append_left _ _)

/-- Below a path that is reached, an entry has its table. -/
theorem Sound.reaches_above (hd : d.Sound) (hbase : d.Reaches base) (name : Path)
    (hname : d.Reaches (base ++ name.dropLast)) : d.Reaches (base ++ name).dropLast := by
  by_cases hnil : name = []
  · subst hnil
    rw [List.append_nil]
    rcases hbase with rfl | hmem
    · exact .inl rfl
    · exact hd.above base hmem
  · rw [List.dropLast_append_of_ne_nil hnil]
    exact hname

theorem empty_sound : empty.Sound :=
  ⟨fun _ hp => absurd hp List.not_mem_nil, fun _ _ hp => absurd hp List.not_mem_nil⟩

theorem Sound.add (hd : d.Sound) (hp : d.Reaches p.dropLast)
    (hv : ∀ n, v = .integer n → Number.Fits n) : Sound (d ++ [(p, v)]) where
  above q hq := by
    rw [paths_append, List.mem_append] at hq
    rcases hq with hq | hq
    · exact (hd.above q hq).append_right _
    · rw [paths_cons, paths_nil, List.mem_singleton] at hq
      rw [hq]
      exact hp.append_right _
  fits q n hq := by
    rw [List.mem_append, List.mem_singleton, Prod.mk.injEq] at hq
    rcases hq with hq | ⟨-, hq⟩
    · exact hd.fits q n hq
    · exact hv n hq.symm

/-- A table on the way is added below what is there. -/
theorem Sound.add_table (hd : d.Sound) (hbase : d.Reaches base) (name : String) (o : Origin) :
    Sound (d ++ [(base ++ [name], .table o)]) :=
  hd.add (by rw [List.dropLast_append_of_ne_nil (by simp)]; simpa using hbase)
    (fun n hn => by cases hn)

theorem reaches_last (d : Document) (p : Path) (v : Value) : Reaches (d ++ [(p, v)]) p :=
  .inr (by simp)

/-- What lies above a path that is reached is reached. -/
theorem Sound.reaches_base (hd : d.Sound) (name : String) (h : d.Reaches (base ++ [name])) :
    d.Reaches base := by
  rcases h with h | h
  · simp at h
  · simpa [List.dropLast_append_of_ne_nil] using hd.above _ h

/-- A way that leads on from the table of its first name leads on from where it
    started. -/
theorem way_cons {name : String} {rest : Path} (hrest : rest ≠ [])
    (h : d.Sound ∧ d.Reaches (base ++ [name]) ∧ d.Reaches (base ++ [name] ++ rest.dropLast)) :
    d.Sound ∧ d.Reaches base ∧ d.Reaches (base ++ (name :: rest).dropLast) := by
  obtain ⟨hd, hhere, hlast⟩ := h
  refine ⟨hd, hd.reaches_base name hhere, ?_⟩
  rw [List.dropLast_cons_of_ne_nil hrest]
  simpa using hlast

/-- The tables on the way of a dotted key keep a document sound, and the last
    of them is there. -/
theorem dottedWay_sound (hd : d.Sound) (hbase : d.Reaches base)
    (h : d.dottedWay base key = some d') :
    d'.Sound ∧ d'.Reaches base ∧ d'.Reaches (base ++ key.dropLast) := by
  fun_induction dottedWay d base key with
  | case1 d base =>
      cases h
      exact ⟨hd, hbase, by simpa using hbase⟩
  | case2 d base name =>
      cases h
      exact ⟨hd, hbase, by simpa using hbase⟩
  | case3 d base name rest hrest here _ ih =>
      exact way_cons hrest (ih (hd.add_table hbase name .dotted) (reaches_last d here _) h)
  | case4 d base name rest hrest here hlookup ih =>
      exact way_cons hrest (ih hd (.inr (mem_paths_of_lookup hlookup)) h)
  | case5 d base name rest hrest here hlookup ih =>
      exact way_cons hrest (ih hd (.inr (mem_paths_of_lookup hlookup)) h)
  | case6 => cases h

/-- So do the tables on the way of a header. -/
theorem headerWay_sound (hd : d.Sound) (hbase : d.Reaches base)
    (h : d.headerWay base key = some d') :
    d'.Sound ∧ d'.Reaches base ∧ d'.Reaches (base ++ key.dropLast) := by
  fun_induction headerWay d base key with
  | case1 d base =>
      cases h
      exact ⟨hd, hbase, by simpa using hbase⟩
  | case2 d base name =>
      cases h
      exact ⟨hd, hbase, by simpa using hbase⟩
  | case3 d base name rest hrest here _ ih =>
      exact way_cons hrest (ih (hd.add_table hbase name .implied) (reaches_last d here _) h)
  | case4 d base name rest hrest here _ hlookup ih =>
      exact way_cons hrest (ih hd (.inr (mem_paths_of_lookup hlookup)) h)
  | case5 d base name rest hrest here hlookup ih =>
      exact way_cons hrest (ih hd (.inr (mem_paths_of_lookup hlookup)) h)
  | case6 => cases h

/-- The entries of a sound document go below a path that has a value. -/
theorem Sound.add_below (hd : d.Sound) (hp : p ∈ d.paths) (hd' : d'.Sound) :
    Sound (d ++ d'.map fun e => (p ++ e.1, e.2)) where
  above q hq := by
    have hbelow : ∀ r ∈ d'.paths, (d ++ d'.map fun e => (p ++ e.1, e.2)).Reaches (p ++ r) := by
      intro r hr
      obtain ⟨e, he, rfl⟩ := List.mem_map.mp hr
      refine .inr (List.mem_map_of_mem (a := (p ++ e.1, e.2)) (List.mem_append_right d ?_))
      exact List.mem_map_of_mem (f := fun e : Path × Value => (p ++ e.1, e.2)) he
    have hhere : (d ++ d'.map fun e => (p ++ e.1, e.2)).Reaches p :=
      Reaches.append_right (.inr hp) _
    rw [paths_append, List.mem_append] at hq
    rcases hq with hq | hq
    · exact (hd.above q hq).append_right _
    · simp only [paths, List.map_map, List.mem_map, Function.comp] at hq
      obtain ⟨e, he, rfl⟩ := hq
      by_cases hnil : e.1 = []
      · rw [hnil, List.append_nil]
        exact (hd.above p hp).append_right _
      · rw [List.dropLast_append_of_ne_nil hnil]
        rcases hd'.above e.1 (List.mem_map_of_mem he) with htop | hmem
        · rw [htop, List.append_nil]
          exact hhere
        · exact hbelow _ hmem
  fits q n hq := by
    rw [List.mem_append, List.mem_map] at hq
    rcases hq with hq | ⟨e, he, heq⟩
    · exact hd.fits q n hq
    · rw [Prod.mk.injEq] at heq
      exact hd'.fits e.1 n (by rw [← heq.2]; exact he)

/-- Binding a sound value keeps a document sound. -/
theorem bind_sound (hd : d.Sound) (hbase : d.Reaches base) (hv : v.Sound)
    (h : d.bind base key v = some d') : d'.Sound ∧ d'.Reaches base := by
  unfold Document.bind at h
  rcases hway : d.dottedWay base key with _ | way
  · rw [hway] at h
    cases h
  obtain ⟨hsound, hbase', hlast⟩ := dottedWay_sound hd hbase hway
  have hadd : Sound (way ++ [(base ++ key, v)]) :=
    hsound.add (hsound.reaches_above hbase' key hlast) hv.fits
  simp only [hway, Option.bind_eq_bind, Option.bind_some] at h
  split at h
  · cases h
  split at h
  -- A table in braces brings its entries along.
  · rename_i entries
    rw [Option.some.injEq] at h
    have hbelow := hadd.add_below (p := base ++ key) (by simp) (hv.entries entries rfl)
    rw [List.append_assoc, List.singleton_append] at hbelow
    rw [← h]
    exact ⟨hbelow, hbase'.append_right _⟩
  · rw [Option.some.injEq] at h
    rw [← h]
    exact ⟨hadd, hbase'.append_right _⟩

theorem ofMembers_sound (members : List (Path × Value)) (hm : ∀ m ∈ members, m.2.Sound)
    (h : ofMembers members = some d) : d.Sound := by
  refine foldlM_invariant members (fun m hmem d₀ d₁ hd₀ hbind => ?_) empty_sound h
  exact (bind_sound hd₀ (.inl rfl) (hm m hmem) hbind).1

theorem paths_replace (d : Document) (p : Path) (v : Value) : (d.replace p v).paths = d.paths := by
  unfold replace paths
  rw [List.map_map]
  refine List.map_congr_left fun e _ => ?_
  simp only [Function.comp]
  split
  · rename_i heq
    exact (beq_iff_eq.mp heq).symm
  · rfl

/-- A header opens a table and keeps a document sound. -/
theorem openTable_sound (hd : d.Sound) (h : d.openTable p = some d') :
    d'.Sound ∧ d'.Reaches p := by
  unfold openTable at h
  rcases hway : d.headerWay [] p with _ | way
  · rw [hway] at h
    cases h
  obtain ⟨hsound, -, hlast⟩ := headerWay_sound hd (.inl rfl) hway
  simp only [hway, Option.bind_eq_bind, Option.bind_some] at h
  split at h
  · rw [Option.some.injEq] at h
    rw [← h]
    exact ⟨hsound.add (by simpa using hlast) (fun n hn => by cases hn), reaches_last way p _⟩
  · rename_i hlookup
    rw [Option.some.injEq] at h
    rw [← h]
    -- The table was there, so no path is new.
    refine ⟨⟨fun q hq => ?_, fun q n hq => ?_⟩, .inr ?_⟩
    · rw [paths_replace] at hq
      exact (hsound.above q hq).mono (by rw [paths_replace]; exact List.Subset.refl _)
    · obtain ⟨e, he, heq⟩ := List.mem_map.mp hq
      split at heq
      · cases heq
      · exact hsound.fits q n (heq ▸ he)
    · rw [paths_replace]
      exact mem_paths_of_lookup hlookup
  · cases h

/-- What lies below a path can be left out: nothing that stays loses its
    table. -/
theorem Sound.forget (hd : d.Sound) (hp : p ∈ d.paths) :
    Sound (d.filter fun e => e.1 == p || !p.isPrefixOf e.1) ∧
      p ∈ paths (d.filter fun e => e.1 == p || !p.isPrefixOf e.1) := by
  have hkeep : ∀ q, q ∈ paths (d.filter fun e => e.1 == p || !p.isPrefixOf e.1) ↔
      q ∈ d.paths ∧ (q = p ∨ ¬ p <+: q) := by
    intro q
    simp only [paths, List.mem_map, List.mem_filter, Bool.or_eq_true, beq_iff_eq,
      Bool.not_eq_true', ← Bool.not_eq_true, List.isPrefixOf_iff_prefix]
    constructor
    · rintro ⟨e, ⟨he, hq⟩, rfl⟩
      exact ⟨⟨e, he, rfl⟩, hq⟩
    · rintro ⟨⟨e, he, rfl⟩, hq⟩
      exact ⟨e, ⟨he, hq⟩, rfl⟩
  refine ⟨⟨fun q hq => ?_, fun q n hq => hd.fits q n (List.mem_filter.mp hq).1⟩,
    (hkeep p).mpr ⟨hp, .inl rfl⟩⟩
  obtain ⟨hmem, hq⟩ := (hkeep q).mp hq
  rcases hd.above q hmem with htop | habove
  · exact .inl htop
  -- If the table around `q` lay below `p`, then `q` would lie there as well.
  refine .inr ((hkeep _).mpr ⟨habove, ?_⟩)
  rcases hq with rfl | hq
  · by_cases hnil : q = []
    · exact .inl (by rw [hnil]; rfl)
    · refine .inr fun hpre => ?_
      have hle := hpre.length_le
      have hpos := List.length_pos_iff.mpr hnil
      rw [List.length_dropLast] at hle
      omega
  · exact .inr fun hpre => hq (hpre.trans (List.dropLast_prefix q))

/-- So does a header that opens the next table of a list. -/
theorem openElement_sound (hd : d.Sound) (h : d.openElement p = some d') :
    d'.Sound ∧ d'.Reaches p := by
  unfold openElement at h
  rcases hway : d.headerWay [] p with _ | way
  · rw [hway] at h
    cases h
  obtain ⟨hsound, -, hlast⟩ := headerWay_sound hd (.inl rfl) hway
  simp only [hway, Option.bind_eq_bind, Option.bind_some] at h
  split at h
  · rw [Option.some.injEq] at h
    rw [← h]
    exact ⟨hsound.add (by simpa using hlast) (fun n hn => by cases hn), reaches_last way p _⟩
  · rename_i hlookup
    rw [Option.some.injEq] at h
    rw [← h]
    exact (hsound.forget (mem_paths_of_lookup hlookup)).imp id Or.inr
  · cases h

end Document

section Values

variable {cs rest : List Char} {v : Value}

theorem Value.Sound.of_plain (hinteger : ∀ n, v ≠ .integer n) (hinline : ∀ d, v ≠ .inline d) :
    v.Sound :=
  ⟨fun n h => absurd h (hinteger n), fun d h => absurd h (hinline d)⟩

theorem Value.Sound.of_integer {n : Int} (h : Number.Fits n) : (Value.integer n).Sound :=
  ⟨fun _ heq => by cases heq; exact h, fun _ heq => by cases heq⟩

theorem textValue_sound {read : Option (List Char × List Char)}
    (h : textValue read = some (v, rest)) : v.Sound := by
  obtain ⟨⟨s, rest'⟩, -, heq⟩ := Option.map_eq_some_iff.mp h
  cases heq
  exact .of_plain (by simp) (by simp)

theorem fits_of_signed {negative : Bool} {magnitude : Nat} {n : Int}
    (h : (Number.signed negative magnitude).toOption = some n) : Number.Fits n := by
  rcases hs : Number.signed negative magnitude with e | m
  · rw [hs] at h
    cases h
  · rw [hs] at h
    cases h
    exact Number.signed_fits hs

theorem integer?_fits {n : Int} (h : integer? cs = some n) : Number.Fits n := by
  obtain ⟨clean, -, h⟩ := Option.bind_eq_some_iff.mp h
  simp only at h
  split at h
  · cases h
  · obtain ⟨magnitude, -, hsigned⟩ := Option.bind_eq_some_iff.mp h
    exact fits_of_signed hsigned

theorem markedInteger?_fits {base : Nat} {n : Int} (h : markedInteger? base cs = some n) :
    Number.Fits n := by
  obtain ⟨clean, -, h⟩ := Option.bind_eq_some_iff.mp h
  split at h
  · cases h
  · obtain ⟨magnitude, -, hsigned⟩ := Option.bind_eq_some_iff.mp h
    exact fits_of_signed hsigned

theorem decimalNumber_sound (h : decimalNumber cs = some (v, rest)) : v.Sound := by
  unfold decimalNumber at h
  simp only at h
  split at h
  · obtain ⟨x, -, heq⟩ := Option.map_eq_some_iff.mp h
    cases heq
    exact .of_plain (by simp) (by simp)
  · obtain ⟨x, -, heq⟩ := Option.map_eq_some_iff.mp h
    cases heq
    exact .of_plain (by simp) (by simp)
  · split at h
    · obtain ⟨x, -, heq⟩ := Option.map_eq_some_iff.mp h
      cases heq
      exact .of_plain (by simp) (by simp)
    · obtain ⟨n, hn, heq⟩ := Option.map_eq_some_iff.mp h
      cases heq
      exact .of_integer (integer?_fits hn)

theorem number_sound (h : number cs = some (v, rest)) : v.Sound := by
  unfold number at h
  split at h
  · simp only at h
    split at h
    · cases h
      exact .of_plain (by simp) (by simp)
    · cases h
  · split at h
    · split at h
      · obtain ⟨n, hn, heq⟩ := Option.map_eq_some_iff.mp h
        cases heq
        exact .of_integer (markedInteger?_fits hn)
      · exact decimalNumber_sound h
    · exact decimalNumber_sound h

/-- The members of a table are sound if the values of the depths below are. -/
theorem membersWithin_sound (depth : Nat)
    (hvalue : ∀ k < depth, ∀ cs v rest, valueWithin k cs = some (v, rest) → v.Sound)
    (first : Bool) (cs : List Char) (members : List (Path × Value)) (rest : List Char)
    (h : membersWithin depth first cs = some (members, rest)) : ∀ m ∈ members, m.2.Sound := by
  induction depth generalizing first cs members rest with
  | zero =>
      rw [membersWithin] at h
      cases h
  | succ depth ih =>
      rw [membersWithin] at h
      split at h
      · cases h
        simp
      -- A comma or none before the member makes no difference to it.
      · simp only [Option.bind_eq_bind, Option.bind_some, Option.bind_none] at h
        split at h
        case h_3 => cases h
        all_goals
          obtain ⟨⟨key, rest₁⟩, -, h⟩ := Option.bind_eq_some_iff.mp h
          simp only at h
          split at h
          case h_2 => cases h
          obtain ⟨⟨v, rest₂⟩, hv, h⟩ := Option.bind_eq_some_iff.mp h
          obtain ⟨⟨others, rest₃⟩, hothers, h⟩ := Option.bind_eq_some_iff.mp h
          cases h
          intro m hm
          rcases List.mem_cons.mp hm with rfl | hm
          · exact hvalue depth (Nat.lt_succ_self depth) _ _ _ hv
          · exact ih (fun k hk => hvalue k (Nat.lt_succ_of_lt hk)) _ _ _ _ hothers m hm

/-- Values are sound, whatever depth they are nested to. -/
theorem valueWithin_sound (depth : Nat) (cs : List Char) (v : Value) (rest : List Char)
    (h : valueWithin depth cs = some (v, rest)) : v.Sound := by
  induction depth using Nat.strongRecOn generalizing cs v rest with
  | ind depth ih =>
      rcases depth with _ | depth
      · rw [valueWithin] at h
        cases h
      unfold valueWithin at h
      split at h
      · exact textValue_sound h
      · exact textValue_sound h
      · exact textValue_sound h
      · exact textValue_sound h
      · cases h
        exact .of_plain (by simp) (by simp)
      · cases h
        exact .of_plain (by simp) (by simp)
      · obtain ⟨⟨elements, rest₁⟩, -, h⟩ := Option.bind_eq_some_iff.mp h
        cases h
        exact .of_plain (by simp) (by simp)
      -- Only a table in braces goes back to the values below.
      · obtain ⟨⟨members, rest₁⟩, hmembers, h⟩ := Option.bind_eq_some_iff.mp h
        obtain ⟨entries, hentries, h⟩ := Option.bind_eq_some_iff.mp h
        cases h
        refine ⟨by simp, fun d heq => ?_⟩
        cases heq
        have hsound := membersWithin_sound depth
          (fun k hk => ih k (Nat.lt_succ_of_lt hk)) true _ _ _ hmembers
        exact Document.ofMembers_sound members hsound hentries
      · exact number_sound h

end Values

section Statements

variable {d : Document} {state state' : Document × Path}

/-- What a statement brings into a document is sound. -/
def Statement.Sound : Statement → Prop
  | .bind _ v => v.Sound
  | _ => True

theorem statement_sound {cs rest : List Char} {s : Statement}
    (h : statement cs = some (s, rest)) : s.Sound := by
  unfold statement at h
  split at h
  · obtain ⟨⟨path, rest₁⟩, -, h⟩ := Option.bind_eq_some_iff.mp h
    split at h
    · cases h
      trivial
    · cases h
  · obtain ⟨⟨path, rest₁⟩, -, h⟩ := Option.bind_eq_some_iff.mp h
    split at h
    · cases h
      trivial
    · cases h
  · obtain ⟨⟨key, rest₁⟩, -, h⟩ := Option.bind_eq_some_iff.mp h
    split at h
    · obtain ⟨⟨v, rest₂⟩, hv, h⟩ := Option.bind_eq_some_iff.mp h
      cases h
      exact valueWithin_sound _ _ _ _ hv
    · cases h

theorem statementsWithin_sound (limit : Nat) (cs : List Char) (ss : List Statement)
    (h : statementsWithin limit cs = some ss) : ∀ s ∈ ss, s.Sound := by
  induction limit generalizing cs ss with
  | zero =>
      rw [statementsWithin] at h
      cases h
  | succ limit ih =>
      rcases cs with _ | ⟨c, cs⟩
      · rw [statementsWithin] at h
        cases h
        simp
      · unfold statementsWithin at h
        simp only at h
        split at h
        · obtain ⟨⟨s, rest₁⟩, hs, h⟩ := Option.bind_eq_some_iff.mp h
          obtain ⟨rest₂, -, h⟩ := Option.bind_eq_some_iff.mp h
          obtain ⟨following, hfollowing, h⟩ := Option.bind_eq_some_iff.mp h
          cases h
          intro s' hs'
          rcases List.mem_cons.mp hs' with rfl | hs'
          · exact statement_sound hs
          · exact ih _ _ hfollowing s' hs'
        · obtain ⟨rest₁, -, h⟩ := Option.bind_eq_some_iff.mp h
          exact ih _ _ h

/-- A statement keeps a document sound, and leaves a table open that is there. -/
theorem Statement.apply_sound {s : Statement} (hs : s.Sound)
    (hstate : state.1.Sound ∧ state.1.Reaches state.2) (h : s.apply state = some state') :
    state'.1.Sound ∧ state'.1.Reaches state'.2 := by
  cases s with
  | table path =>
      obtain ⟨d', hopen, h⟩ := Option.bind_eq_some_iff.mp h
      cases h
      exact Document.openTable_sound hstate.1 hopen
  | element path =>
      obtain ⟨d', hopen, h⟩ := Option.bind_eq_some_iff.mp h
      cases h
      exact Document.openElement_sound hstate.1 hopen
  | bind key v =>
      obtain ⟨d', hbind, h⟩ := Option.bind_eq_some_iff.mp h
      cases h
      exact Document.bind_sound hstate.1 hstate.2 hs hbind

/-- A document that was read is sound. -/
theorem Document.parse_sound {text : String} (h : Document.parse text = some d) : d.Sound := by
  obtain ⟨lines, hlines, h⟩ := Option.bind_eq_some_iff.mp h
  obtain ⟨⟨_, table⟩, hrun, h⟩ := Option.bind_eq_some_iff.mp h
  cases h
  have hsound := statementsWithin_sound _ _ _ hlines
  -- The table that is open has to be there for the next key.
  have hstate : d.Sound ∧ d.Reaches table :=
    foldlM_invariant (P := fun state => state.1.Sound ∧ state.1.Reaches state.2) lines
      (fun s hs _ _ hstate hstep => Statement.apply_sound (hsound s hs) hstate hstep)
      ⟨empty_sound, .inl rfl⟩ hrun
  exact hstate.1

end Statements

end Toml

end Passforge
