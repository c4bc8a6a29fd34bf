import Mathlib.Data.List.Nodup
import Passforge.Proofs.Documents
import Passforge.Toml.Lookup

/-!
# Looking Up Keys

What a search for a key finds in a document that came from a file. Two things
stand between the path that is searched for and the entries: the case of
letters, and names with dots in them, which count for several names.

Case is settled once, for the whole document. If no two paths differ in case
only, none of them gives way to another, and lowering a document loses nothing
(`lowered_eq_caseless`). This is where the document must be sound: a path gives
way because of a single name in it, and the two paths that end in that name are
entries themselves.

Dots are settled for one path. `spellings` lists the ways to write a path with
some neighbours joined, the longest joints first, and the search tries them in
this order (`search_eq_findSome?`). It only goes on below what is a table, so
this needs that nothing but tables stands on the way.

## Main definitions

* `dotted`: A path as a single name.
* `Dotless`: A name that is one name only.
* `spellings`: The ways to write a path with some neighbours joined by dots.
* `Document.caseless`: A document with all names in lower case.
* `Document.gives`: What a document says about a path.

## Theorems

* `Text.lower_lower`: Lower case is in lower case.
* `mem_spellings_of_dotted`, `dotted_of_mem_spellings`: A path is spelled by what
  reads the same.
* `Document.Sound.take`: The tables around an entry are entries.
* `Document.lowered_eq_caseless`: Nothing gives way among distinct paths.
* `Document.search_eq_findSome?`: A search tries the spellings in turn.
* `Document.gives_eq_some_iff`: The value of the key that reads like a path.
-/

theorem List.findSome?_congr_left {α β : Type} {f g : α → Option β} (xs : List α)
    (h : ∀ x ∈ xs, f x = g x) : xs.findSome? f = xs.findSome? g := by
  induction xs with
  | nil => rfl
  | cons x xs ih =>
      rw [List.findSome?_cons, List.findSome?_cons, h x List.mem_cons_self,
        ih fun y hy => h y (List.mem_cons_of_mem x hy)]

namespace Passforge

namespace Text

theorem lowerChar_lowerChar (c : Char) : lowerChar (lowerChar c) = lowerChar c := by
  by_cases hcap : c.val ≥ 'A'.val ∧ c.val ≤ 'Z'.val
  · -- A capital becomes one of the small letters, which stay as they are.
    have hletters : ∀ n < 26, lowerChar (lowerChar (Char.ofNat (65 + n)))
        = lowerChar (Char.ofNat (65 + n)) := by decide
    have hlow : 65 ≤ c.toNat := UInt32.le_iff_toNat_le.mp hcap.1
    have hhigh : c.toNat ≤ 90 := UInt32.le_iff_toNat_le.mp hcap.2
    have hc : Char.ofNat (65 + (c.toNat - 65)) = c := by
      rw [show 65 + (c.toNat - 65) = c.toNat by omega, Char.ofNat_toNat]
    rw [← hc]
    exact hletters _ (by omega)
  · have hlower : c.toLower = c := dif_neg hcap
    have hstay : lowerChar c = 'i' ∨ lowerChar c = 'k' ∨ lowerChar c = c := by
      unfold lowerChar
      rw [hlower]
      split
      · exact .inl rfl
      · split
        · exact .inr (.inl rfl)
        · exact .inr (.inr rfl)
    rcases hstay with h | h | h
    · rw [h]
      decide
    · rw [h]
      decide
    · rw [h, h]

theorem lower_lower (s : String) : lower (lower s) = lower s := by
  unfold lower
  rw [String.toList_ofList, List.map_map]
  congr 1
  exact List.map_congr_left fun c _ => lowerChar_lowerChar c

end Text

namespace Toml

/-- A path as a single name. -/
def dotted (p : Path) : String :=
  ".".intercalate p

theorem dotted_cons (name : String) {p : Path} (h : p ≠ []) :
    dotted (name :: p) = name ++ "." ++ dotted p :=
  String.intercalate_cons_of_ne_nil h

theorem dotted_append {p q : Path} (hp : p ≠ []) (hq : q ≠ []) :
    dotted (p ++ q) = dotted p ++ "." ++ dotted q := by
  induction p with
  | nil => exact absurd rfl hp
  | cons name p ih =>
      by_cases hnil : p = []
      · subst hnil
        exact dotted_cons name hq
      · rw [List.cons_append, dotted_cons name (by simp [hq]), ih hnil, dotted_cons name hnil]
        simp only [String.append_assoc]

/-- Joins a name to the first one of a path. -/
def attach (name : String) : Path → Path
  | [] => [name]
  | head :: tail => (name ++ "." ++ head) :: tail

/-- The ways to write a path with some neighbours joined by dots, the longest
    joints first. -/
def spellings : Path → List Path
  | [] => [[]]
  | [name] => [[name]]
  | name :: rest => (spellings rest).map (attach name) ++ (spellings rest).map (name :: ·)

/-- Joining names does not change what a path spells. -/
theorem dotted_of_mem_spellings {p q : Path} (h : q ∈ spellings p) :
    dotted q = dotted p ∧ (q = [] ↔ p = []) := by
  fun_induction spellings p generalizing q with
  | case1 => simp [List.mem_singleton.mp h]
  | case2 name => simp [List.mem_singleton.mp h]
  | case3 name rest hrest ih =>
      have hne : rest ≠ [] := fun hc => hrest hc
      rw [List.mem_append, List.mem_map, List.mem_map] at h
      rcases h with ⟨r, hr, rfl⟩ | ⟨r, hr, rfl⟩
      · obtain ⟨hdotted, hnil⟩ := ih hr
        rcases r with _ | ⟨head, tail⟩
        · exact absurd (hnil.mp rfl) hne
        refine ⟨?_, by simp [attach]⟩
        rw [dotted_cons name hne, ← hdotted]
        by_cases htail : tail = []
        · subst htail
          rfl
        · rw [attach, dotted_cons _ htail, dotted_cons _ htail]
          simp only [String.append_assoc]
      · obtain ⟨hdotted, hnil⟩ := ih hr
        refine ⟨?_, by simp⟩
        rw [dotted_cons name hne, dotted_cons name (fun hc => hne (hnil.mp hc)), hdotted]

/-- A name that is not empty and holds no dot. -/
def Dotless (name : String) : Prop :=
  name ≠ "" ∧ '.' ∉ name.toList

instance (name : String) : Decidable (Dotless name) :=
  inferInstanceAs (Decidable (_ ∧ _))

/-- The first name of a path that reads like `name` and more behind a dot is
    `name`, or it goes beyond the dot. -/
theorem split_at_dot {name x tail : String} {r : Path} (hname : Dotless name)
    (h : dotted (x :: r) = name ++ "." ++ tail) :
    x = name ∧ dotted r = tail ∨ ∃ y, x = name ++ "." ++ y ∧ dotted (y :: r) = tail := by
  by_cases hr : r = []
  · subst hr
    exact .inr ⟨tail, h, rfl⟩
  have hchars : x.toList ++ '.' :: (dotted r).toList = name.toList ++ '.' :: tail.toList := by
    have := congrArg String.toList (dotted_cons x hr ▸ h)
    simpa [String.toList_append] using this
  rcases List.append_eq_append_iff.mp hchars with ⟨more, hmore, hdot⟩ | ⟨more, hmore, hdot⟩
  · rcases more with _ | ⟨c, more⟩
    · rw [List.append_nil] at hmore
      rw [List.nil_append, List.cons.injEq] at hdot
      exact .inl ⟨(String.toList_inj.mp hmore).symm, String.toList_inj.mp hdot.2⟩
    -- The name would hold the dot that ends `x`.
    · rw [List.cons_append, List.cons.injEq] at hdot
      refine absurd ?_ hname.2
      rw [hmore, ← hdot.1]
      simp
  · rcases more with _ | ⟨c, more⟩
    · rw [List.append_nil] at hmore
      rw [List.nil_append, List.cons.injEq] at hdot
      exact .inl ⟨String.toList_inj.mp hmore, (String.toList_inj.mp hdot.2).symm⟩
    · rw [List.cons_append, List.cons.injEq] at hdot
      refine .inr ⟨String.ofList more, String.toList_inj.mp ?_, String.toList_inj.mp ?_⟩
      · simp [String.toList_append, hmore, ← hdot.1]
      · rw [dotted_cons _ hr, hdot.2]
        simp [String.toList_append]

/-- A path of names without dots is spelled by every path that reads the same
    with dots. -/
theorem mem_spellings_of_dotted {p q : Path} (hp : ∀ name ∈ p, Dotless name) (hne : p ≠ [])
    (h : dotted q = dotted p) : q ∈ spellings p := by
  fun_induction spellings p generalizing q with
  | case1 => exact absurd rfl hne
  | case2 name =>
      have hname := hp name List.mem_cons_self
      have h : dotted q = name := h
      rcases q with _ | ⟨x, r⟩
      · exact absurd h.symm hname.1
      · by_cases hr : r = []
        · subst hr
          rw [show x = name from h]
          exact List.mem_singleton.mpr rfl
        · refine absurd ?_ hname.2
          rw [← h, dotted_cons x hr, String.toList_append, String.toList_append]
          simp
  | case3 name rest hrest ih =>
      have hnr : rest ≠ [] := fun hc => hrest hc
      have hname := hp name List.mem_cons_self
      have ih := fun {q} => ih (q := q) (fun n hn => hp n (List.mem_cons_of_mem name hn)) hnr
      rw [dotted_cons name hnr] at h
      rcases q with _ | ⟨x, r⟩
      · have hempty : (name ++ "." ++ dotted rest).toList = [] := by rw [← h]; rfl
        simp at hempty
      · rw [List.mem_append, List.mem_map, List.mem_map]
        rcases split_at_dot hname h with ⟨rfl, hr⟩ | ⟨y, rfl, hy⟩
        · exact .inr ⟨r, ih hr, rfl⟩
        · exact .inl ⟨y :: r, ih hy, rfl⟩

/-- The spellings of a path, by how many names their first joint takes. -/
theorem findSome?_spellings {names : Path} (h : names ≠ []) (f : Path → Option Value) :
    (spellings names).findSome? f = (List.range names.length).reverse.findSome? fun k =>
      (spellings (names.drop (k + 1))).findSome? fun q =>
        f (dotted (names.take (k + 1)) :: q) := by
  fun_induction spellings names generalizing f with
  | case1 => exact absurd rfl h
  | case2 name => simp [dotted, spellings, List.range_succ]
  | case3 name rest hrest ih =>
      have hne : rest ≠ [] := fun hc => hrest hc
      have hattach (k : Nat) (q : Path) :
          attach name (dotted (rest.take (k + 1)) :: q)
            = dotted (name :: rest.take (k + 1)) :: q := by
        rw [attach, dotted_cons name (by simp [hne])]
      rw [List.findSome?_append, List.findSome?_map, List.findSome?_map, ih hne, List.length_cons,
        List.range_succ_eq_map, List.reverse_cons, List.findSome?_append, ← List.map_reverse,
        List.findSome?_map]
      simp only [Function.comp_def, hattach]
      simp [dotted]

namespace Document

variable {d : Document} {p : Path} {v : Value}

/-- The document with all names in lower case. -/
def caseless (d : Document) : Document :=
  d.map fun e => (e.1.map Text.lower, e.2)

theorem paths_caseless (d : Document) : d.caseless.paths = d.paths.map (List.map Text.lower) := by
  simp only [caseless, paths, List.map_map]
  rfl

/-- The tables around an entry are entries. -/
theorem Sound.take (hd : d.Sound) (hp : p ∈ d.paths) {n : Nat} (hn : 0 < n) :
    p.take n ∈ d.paths := by
  induction hlen : p.length generalizing p with
  | zero =>
      rw [List.take_of_length_le (by omega)]
      exact hp
  | succ k ih =>
      by_cases hle : p.length ≤ n
      · rw [List.take_of_length_le hle]
        exact hp
      · have hshort : p.take n = p.dropLast.take n := by
          rw [List.dropLast_eq_take, List.take_take, Nat.min_eq_left (by omega)]
        have habove : p.dropLast ∈ d.paths := by
          rcases hd.above p hp with htop | habove
          · have := congrArg List.length htop
            rw [List.length_dropLast, List.length_nil] at this
            omega
          · exact habove
        rw [hshort]
        exact ih habove (by rw [List.length_dropLast]; omega)

theorem caseless_sound (hd : d.Sound) : d.caseless.Sound where
  above q hq := by
    rw [paths_caseless, List.mem_map] at hq
    obtain ⟨p, hp, rfl⟩ := hq
    rw [← List.map_dropLast]
    rcases hd.above p hp with htop | habove
    · exact .inl (by rw [htop]; rfl)
    · exact .inr (by rw [paths_caseless]; exact List.mem_map_of_mem habove)
  fits q n hq := by
    obtain ⟨e, he, heq⟩ := List.mem_map.mp hq
    rw [Prod.mk.injEq] at heq
    exact hd.fits e.1 n (by rw [← heq.2]; exact he)

/-- A path that gives way does so to an entry that differs from one of the
    tables around it in case only. -/
theorem exists_of_givesWay (hd : d.Sound) (hp : p ∈ d.paths) (h : d.givesWay p = true) :
    ∃ q ∈ d.paths, ∃ r ∈ d.paths, q ≠ r ∧ q.map Text.lower = r.map Text.lower := by
  obtain ⟨i, hi, h⟩ := List.any_eq_true.mp h
  unfold givesWayAt at h
  split at h
  · cases h
  rename_i name hname
  obtain ⟨⟨q, w⟩, hq, h⟩ := List.any_eq_true.mp h
  simp only [Bool.and_eq_true, beq_iff_eq, Option.any_eq_true, bne_iff_ne] at h
  obtain ⟨hfront, other, hother, hne, hlower⟩ := h
  have hsplit (r : Path) (x : String) (hx : r[i]? = some x) : r.take (i + 1) = r.take i ++ [x] := by
    rw [List.take_add_one, hx]
    rfl
  refine ⟨_, hd.take hp (Nat.succ_pos i), _, hd.take (List.mem_map_of_mem hq) (Nat.succ_pos i),
    ?_, ?_⟩
  · rw [hsplit p name hname, hsplit q other hother, hfront]
    simpa using fun heq : name = other => hne heq.symm
  -- The name that gives way is in lower case already.
  · rw [hsplit p name hname, hsplit q other hother, hfront, List.map_append, List.map_append,
      List.map_singleton, List.map_singleton, ← hlower, Text.lower_lower]

/-- Nothing gives way among paths that are distinct without regard to case. -/
theorem lowered_eq_caseless (hd : d.Sound) (h : d.caseless.paths.Nodup) :
    d.lowered = d.caseless := by
  have hkeep : (d.filter fun e => !d.givesWay e.1) = d := by
    rw [List.filter_eq_self]
    intro e he
    by_contra hgives
    rw [Bool.not_eq_true, Bool.not_eq_false'] at hgives
    obtain ⟨q, hq, r, hr, hne, heq⟩ := exists_of_givesWay hd (List.mem_map_of_mem he) hgives
    rw [paths_caseless] at h
    exact hne (List.inj_on_of_nodup_map h hq hr heq)
  unfold lowered caseless
  exact congrArg (List.map _) hkeep

theorem lookup_append_of_none (hd : d.Sound) (name : String) (h : d.lookup (p ++ [name]) = none)
    (q : Path) : d.lookup (p ++ name :: q) = none := by
  rw [← Option.not_isSome_iff_eq_none, isSome_lookup_iff] at h ⊢
  intro hmem
  have htake := hd.take hmem (n := p.length + 1) (Nat.succ_pos _)
  rw [List.take_append, List.take_of_length_le (by omega), Nat.add_sub_cancel_left] at htake
  exact h htake

/-- A search goes through the spellings of what is left of the path, below the
    names that were found so far. -/
theorem searchBelow_eq_findSome? (hd : d.Sound) {path : Path}
    (htables : ∀ front back, path = front ++ back → front ≠ [] → back ≠ [] →
      ∀ p v, (p, v) ∈ d → dotted p = dotted front → v.isTable = true)
    (steps : Nat) (base front names : Path) (hpath : path = front ++ names)
    (hbase : dotted base = dotted front ∧ (base = [] ↔ front = [])) (hne : names ≠ [])
    (hsteps : names.length ≤ steps) :
    d.searchBelow steps base names = (spellings names).findSome? fun q => d.lookup (base ++ q) := by
  induction steps generalizing base front names with
  | zero => exact absurd (List.length_eq_zero_iff.mp (by omega)) hne
  | succ steps ih =>
      rw [searchBelow, findSome?_spellings hne]
      refine List.findSome?_congr_left _ fun k hk => ?_
      rw [List.mem_reverse, List.mem_range] at hk
      have htake : names.take (k + 1) ≠ [] := by simp [hne]
      -- The joint that is tried spells the names it takes, after those found before.
      have hhere : dotted (base ++ [dotted (names.take (k + 1))])
          = dotted (front ++ names.take (k + 1)) := by
        by_cases hnil : front = []
        · rw [hnil, hbase.2.mpr hnil]
          rfl
        · rw [dotted_append (fun hc => hnil (hbase.2.mp hc)) (by simp), dotted_append hnil htake,
            hbase.1]
          rfl
      have hdotted : ".".intercalate (names.take (k + 1)) = dotted (names.take (k + 1)) := rfl
      simp only [hdotted]
      rcases hlookup : d.lookup (base ++ [dotted (names.take (k + 1))]) with _ | v
      · symm
        rw [List.findSome?_eq_none_iff]
        exact fun q _ => lookup_append_of_none hd _ hlookup q
      · by_cases hlast : k + 1 = names.length
        · simp only [hlast, beq_self_eq_true, if_true, List.drop_length, spellings]
          rw [← hlast]
          simp [hlookup]
        · have hdrop : names.drop (k + 1) ≠ [] := by
            rw [Ne, List.drop_eq_nil_iff]
            omega
          have htable : v.isTable = true :=
            htables (front ++ names.take (k + 1)) (names.drop (k + 1)) (by simp [hpath])
              (by simp [htake]) hdrop _ v (mem_of_lookup hlookup) hhere
          simp only [beq_eq_false_iff_ne.mpr hlast, htable, Bool.false_eq_true, if_false, if_true]
          rw [ih _ (front ++ names.take (k + 1)) _ (by simp [hpath]) ⟨hhere, by simp [htake]⟩ hdrop
            (by rw [List.length_drop]; omega)]
          simp only [List.append_assoc, List.singleton_append]

/-- A search tries the spellings of a path in turn, if nothing but tables stands
    on the way. -/
theorem search_eq_findSome? (hd : d.Sound) {path : Path} (hne : path ≠ [])
    (htables : ∀ front back, path = front ++ back → front ≠ [] → back ≠ [] →
      ∀ p v, (p, v) ∈ d → dotted p = dotted front → v.isTable = true) :
    d.search path = (spellings path).findSome? (List.lookup · d) :=
  searchBelow_eq_findSome? hd htables path.length [] [] path rfl ⟨rfl, Iff.rfl⟩ hne
    (Nat.le_refl _)

/-- What a document says about a path, in any case and in any spelling. -/
def gives (d : Document) (path : Path) : Option Value :=
  (spellings (path.map Text.lower)).findSome? (List.lookup · d.caseless)

theorem eq_of_mem_of_mem {w : Value} (h : d.paths.Nodup) (hv : (p, v) ∈ d) (hw : (p, w) ∈ d) :
    v = w := by
  have heq := List.inj_on_of_nodup_map (f := Prod.fst) h hv hw rfl
  exact (Prod.mk.inj heq).2

/-- If no two keys read the same with dots and in lower case, a document gives a
    path the value of the key that reads like it. -/
theorem gives_eq_some_iff (h : (d.caseless.paths.map dotted).Nodup) {path : Path}
    (hdotless : ∀ name ∈ path.map Text.lower, Dotless name) (hne : path ≠ []) :
    d.gives path = some v ↔
      ∃ p, (p, v) ∈ d ∧ dotted (p.map Text.lower) = dotted (path.map Text.lower) := by
  constructor
  · intro hgives
    obtain ⟨q, hq, hlookup⟩ := List.exists_of_findSome?_eq_some hgives
    obtain ⟨e, he, heq⟩ := List.mem_map.mp (mem_of_lookup hlookup)
    rw [Prod.mk.injEq] at heq
    obtain ⟨rfl, rfl⟩ := heq
    exact ⟨e.1, he, (dotted_of_mem_spellings hq).1⟩
  · rintro ⟨p, hp, hdotted⟩
    have hspelled := mem_spellings_of_dotted hdotless (by simpa using hne) hdotted
    have hmem : (p.map Text.lower, v) ∈ d.caseless := List.mem_map.mpr ⟨(p, v), hp, rfl⟩
    have hhere : p.map Text.lower ∈ d.caseless.paths := List.mem_map_of_mem hmem
    rcases hgives : d.gives path with _ | w
    · have hnone := List.findSome?_eq_none_iff.mp hgives _ hspelled
      rw [← Option.not_isSome_iff_eq_none, isSome_lookup_iff] at hnone
      exact absurd hhere hnone
    · obtain ⟨q, hq, hlookup⟩ := List.exists_of_findSome?_eq_some hgives
      -- Another spelling would read the same.
      have hqp : q = p.map Text.lower :=
        List.inj_on_of_nodup_map h (mem_paths_of_lookup hlookup) hhere
          ((dotted_of_mem_spellings hq).1.trans hdotted.symm)
      rw [hqp] at hlookup
      rw [eq_of_mem_of_mem (h.of_map _) (mem_of_lookup hlookup) hmem]

end Document

end Toml

end Passforge
