import Passforge.Storage.Disk

/-!
# Ordinary Files

What writing an ordinary file does to a disk, and what it leaves alone. A file
is put where there is a file already or nothing yet, never where a directory is.
So every directory stays one, nothing becomes a directory, and a path that can be
followed before can be followed afterwards and leads to the same place. That is
all a later writer needs, of this file or of another.

A disk is compared with another one by what exists at each location, not by how
it lists its entries. `Disk.Stored` says that a file with a given content is at
a location and that nothing else has changed. Writing twice to one place is then
the same as writing once, whether or not the file was there before.

## Main definitions

* `Disk.Enters`: Where one part of a path leads.
* `Disk.Stored`: One file is stored, and nothing else changes.
* `Disk.held`: What is read under a path, nothing if there is no file.
* `Disk.Writable`: A path under which an ordinary file can be written.

## Theorems

* `walk_cons_eq_ok_iff`, `locate_eq_ok_iff`, `newEntry_eq_ok_iff`: When a path
  can be followed.
* `node?_put`: What exists after something is put at a location.
* `Stored.walk`, `Stored.newEntry`: Paths that can be followed still can be.
* `Writable.stored`: What can be written still can be, whatever was stored.
* `Writable.locate_of_none`, `Writable.locate_of_file`, `Writable.createFile_eq`:
  Looking for the file, and making it.
* `Writable.held_eq`: What is read under a path is what its location holds.
* `overwrite_size`: Overwriting from the end on is appending.
-/

namespace Passforge.Storage.Disk

section Lookup

variable {k l m : Location} {n : Node}

theorem lookup_cons_eq (old : Node) (nodes : List (Location × Node)) :
    ((k, old) :: nodes).lookup m = if m = k then some old else nodes.lookup m := by
  rw [List.lookup_cons]
  by_cases h : m = k
  · rw [if_pos h, beq_iff_eq.mpr h]
  · rw [if_neg h, beq_false_of_ne h]

theorem lookup_map_replace (nodes : List (Location × Node)) :
    (nodes.map fun entry => if entry.1 == l then (l, n) else entry).lookup m
      = if m = l then (nodes.lookup l).map fun _ => n else nodes.lookup m := by
  induction nodes with
  | nil => simp
  | cons entry nodes ih =>
      obtain ⟨k, old⟩ := entry
      rw [List.map_cons]
      by_cases hk : k = l
      · rw [if_pos (beq_iff_eq.mpr hk)]
        simp only [lookup_cons_eq, ih]
        grind
      · rw [if_neg (by simpa using hk)]
        simp only [lookup_cons_eq, ih]
        grind

theorem isSome_lookup (nodes : List (Location × Node)) :
    (nodes.lookup l).isSome = nodes.any (·.1 == l) := by
  induction nodes with
  | nil => rfl
  | cons entry nodes ih =>
      obtain ⟨k, old⟩ := entry
      rw [lookup_cons_eq, List.any_cons, ← ih]
      grind

theorem lookup_put (d : Disk) :
    (d.put l n).nodes.lookup m = if m = l then some n else d.nodes.lookup m := by
  have hany := isSome_lookup (l := l) d.nodes
  unfold put
  split
  · rename_i hthere
    rw [lookup_map_replace]
    rw [hthere, Option.isSome_iff_exists] at hany
    obtain ⟨old, hold⟩ := hany
    rw [hold, Option.map_some]
  · rename_i hmissing
    rw [Bool.eq_false_iff.mpr hmissing, Option.isSome_eq_false_iff, Option.isNone_iff_eq_none]
      at hany
    rw [List.lookup_append, lookup_cons_eq, List.lookup_nil]
    by_cases hm : m = l
    · rw [if_pos hm, if_pos hm, hm, hany, Option.none_or]
    · rw [if_neg hm, if_neg hm, Option.or_none]

end Lookup

section Paths

variable {d : Disk} {l m : Location}

/-- One part of a path leads from a directory to another location. -/
inductive Enters (d : Disk) (l : Location) : String → Location → Prop where
  | self : Enters d l "." l
  | up : Enters d l ".." (above l)
  | down {name : String} (hself : name ≠ ".") (hup : name ≠ "..")
      (hsize : name.utf8ByteSize ≤ partLimit)
      (hthere : d.node? (l ++ [name]) ≠ none) : Enters d l name (l ++ [name])

theorem walk_cons_of_enters {part : String} (hdirectory : d.hasDirectory l = true)
    (h : d.Enters l part m) (rest : List String) : d.walk l (part :: rest) = d.walk m rest := by
  rw [walk, hdirectory]
  cases h with
  | self => rfl
  | up => rfl
  | down hself hup hsize hthere =>
      rw [if_neg (by decide), if_neg (by simpa using hself), if_neg (by simpa using hup),
        if_neg (by omega), if_neg (by simpa using hthere)]

theorem walk_cons_eq_ok_iff {part : String} {rest : List String} :
    d.walk l (part :: rest) = .ok m ↔
      d.hasDirectory l = true ∧ ∃ l', d.Enters l part l' ∧ d.walk l' rest = .ok m := by
  constructor
  · intro h
    rw [walk] at h
    split at h
    · cases h
    rename_i hdirectory
    refine ⟨by simpa using hdirectory, ?_⟩
    split at h
    · rename_i hpart
      obtain rfl := beq_iff_eq.mp hpart
      exact ⟨l, .self, h⟩
    rename_i hself
    split at h
    · rename_i hpart
      obtain rfl := beq_iff_eq.mp hpart
      exact ⟨above l, .up, h⟩
    rename_i hup
    split at h
    · cases h
    rename_i hsize
    split at h
    · cases h
    rename_i hthere
    exact ⟨l ++ [part], .down (by simpa using hself) (by simpa using hup) (by omega)
      (by simpa using hthere), h⟩
  · rintro ⟨hdirectory, l', henters, hrest⟩
    rw [walk_cons_of_enters hdirectory henters, hrest]

theorem walk_append_of_ok {parts : List String} (h : d.walk l parts = .ok m)
    (rest : List String) : d.walk l (parts ++ rest) = d.walk m rest := by
  induction parts generalizing l with
  | nil =>
      cases h
      rfl
  | cons part parts ih =>
      obtain ⟨hdirectory, l', henters, hparts⟩ := walk_cons_eq_ok_iff.mp h
      rw [List.cons_append, walk_cons_of_enters hdirectory henters, ih hparts]

theorem locate_eq_ok_iff {path : String} {n : Node} :
    d.locate path = .ok (m, n) ↔
      unusable? path = none ∧ d.walk (start path) (splitPath path) = .ok m ∧ d.node? m = some n ∧
        (n.isDirectory = true ∨ demandsDirectory path = false) := by
  unfold locate
  rcases unusable? path with _ | t
  · rcases d.walk (start path) (splitPath path) with t | m'
    · simp [bind, Except.bind]
    · rcases hnode : d.node? m' with _ | n'
      · simp only [bind, Except.bind, hnode]
        grind
      · simp only [bind, Except.bind, hnode]
        grind
  · simp

theorem newEntry_eq_ok_iff {path : String} {parent : Location} {name : String} :
    d.newEntry path = .ok (parent, name) ↔
      unusable? path = none ∧ ∃ before, splitPath path = before ++ [name] ∧
        d.walk (start path) before = .ok parent ∧ d.hasDirectory parent = true ∧
        name ≠ "." ∧ name ≠ ".." ∧ name.utf8ByteSize ≤ partLimit := by
  unfold newEntry
  rcases unusable? path with _ | t
  · rcases hparts : (splitPath path).reverse with _ | ⟨last, before⟩
    · rw [List.reverse_eq_nil_iff] at hparts
      simp [hparts]
    · rw [List.reverse_eq_cons_iff] at hparts
      have hsame (b : List String) :
          before.reverse ++ [last] = b ++ [name] ↔ before.reverse = b ∧ last = name := by
        simp
      rcases hwalk : d.walk (start path) before.reverse with t | m'
      · simp only [bind, Except.bind, hparts, hwalk, hsame]
        grind
      · simp only [bind, Except.bind, hparts, hwalk, hsame]
        grind
  · simp

end Paths

section Stored

variable {d d' : Disk} {l m : Location} {content : ByteArray}

/-- What exists after something is put where no directory is. -/
theorem node?_put (h : d.hasDirectory l = false) (n : Node) :
    (d.put l n).node? m = if m = l then some n else d.node? m := by
  unfold node?
  rw [lookup_put]
  by_cases hm : m = l
  · -- What is always a directory is not here.
    have hnil : l ≠ [] := by
      rintro rfl
      cases h
    have hroot : l ≠ ["/"] := by
      rintro rfl
      cases h
    rw [if_pos hm, if_pos hm, if_neg (by simp [hm, hnil, hroot])]
  · rw [if_neg hm, if_neg hm]

/-- The disk `d'` is `d` with a file at `l` that has this content. -/
structure Stored (d : Disk) (l : Location) (content : ByteArray) (d' : Disk) : Prop where
  here : d'.node? l = some (.file content)
  elsewhere : ∀ m, m ≠ l → d'.node? m = d.node? m

theorem stored_put (h : d.hasDirectory l = false) (content : ByteArray) :
    d.Stored l content (d.put l (.file content)) where
  here := by rw [node?_put h, if_pos rfl]
  elsewhere m hm := by rw [node?_put h, if_neg hm]

namespace Stored

theorem trans {d'' : Disk} {content' : ByteArray} (h : d.Stored l content d')
    (h' : d'.Stored l content' d'') : d.Stored l content' d'' where
  here := h'.here
  elsewhere m hm := (h'.elsewhere m hm).trans (h.elsewhere m hm)

/-- Directories stay as they are. -/
theorem hasDirectory (h : d.Stored l content d') (hl : d.hasDirectory l = false) (m : Location) :
    d'.hasDirectory m = d.hasDirectory m := by
  by_cases hm : m = l
  · subst hm
    rw [hl, Disk.hasDirectory, h.here]
    rfl
  · rw [Disk.hasDirectory, h.elsewhere m hm]
    rfl

theorem contentAt_self (h : d.Stored l content d') : d'.contentAt l = content := by
  rw [contentAt, h.here]

theorem contentAt_of_ne (h : d.Stored l content d') (hm : m ≠ l) :
    d'.contentAt m = d.contentAt m := by
  rw [contentAt, h.elsewhere m hm]
  rfl

/-- What is there stays there. -/
theorem node?_ne_none (h : d.Stored l content d') (hm : d.node? m ≠ none) :
    d'.node? m ≠ none := by
  by_cases hml : m = l
  · rw [hml, h.here]
    exact Option.some_ne_none _
  · rwa [h.elsewhere m hml]

/-- Parts that can be followed still can be, to the same place. -/
theorem walk (h : d.Stored l content d') (hl : d.hasDirectory l = false) {parts : List String}
    {m₀ : Location} (hwalk : d.walk m₀ parts = .ok m) : d'.walk m₀ parts = .ok m := by
  induction parts generalizing m₀ with
  | nil => exact hwalk
  | cons part rest ih =>
      -- The part leads where it led: directories are the same, and what was there still is.
      obtain ⟨hdirectory, m₁, henters, hrest⟩ := walk_cons_eq_ok_iff.mp hwalk
      refine walk_cons_eq_ok_iff.mpr ⟨(h.hasDirectory hl m₀).trans hdirectory, m₁, ?_, ih hrest⟩
      cases henters with
      | self => exact .self
      | up => exact .up
      | down hself hup hsize hthere => exact .down hself hup hsize (h.node?_ne_none hthere)

theorem newEntry (h : d.Stored l content d') (hl : d.hasDirectory l = false) {path : String}
    {parent : Location} {name : String} (hentry : d.newEntry path = .ok (parent, name)) :
    d'.newEntry path = .ok (parent, name) := by
  obtain ⟨husable, before, hsplit, hwalk, hdirectory, hname⟩ := newEntry_eq_ok_iff.mp hentry
  exact newEntry_eq_ok_iff.mpr ⟨husable, before, hsplit, h.walk hl hwalk,
    (h.hasDirectory hl parent).trans hdirectory, hname⟩

/-- A path that leads to a directory still does. -/
theorem locate_directory (h : d.Stored l content d') (hl : d.hasDirectory l = false)
    {path : String} (hlocate : d.locate path = .ok (m, .directory)) :
    d'.locate path = .ok (m, .directory) := by
  obtain ⟨husable, hwalk, hnode, -⟩ := locate_eq_ok_iff.mp hlocate
  -- The directory is not where the file was stored.
  have hne : m ≠ l := by
    rintro rfl
    rw [Disk.hasDirectory, hnode] at hl
    cases hl
  exact locate_eq_ok_iff.mpr ⟨husable, h.walk hl hwalk, (h.elsewhere m hne).trans hnode, .inl rfl⟩

end Stored

end Stored

theorem makeDirectories_of_directory {d : Disk} {m : Location} {path : String}
    (h : d.locate path = .ok (m, .directory)) : d.makeDirectories path = .ok d := by
  unfold makeDirectories makeWithin
  rw [h]

/-- What is read under a path, nothing if there is no file. -/
def held (d : Disk) (path : String) : ByteArray :=
  (d.readFile path).toOption.getD .empty

/-- An ordinary file can be written under the path, and it is at `l`: the
    directory it lies in is there, and in it there is no directory of this
    name. -/
structure Writable (d : Disk) (path : String) (l : Location) : Prop where
  entry : ∃ parent name, d.newEntry path = .ok (parent, name) ∧ l = parent ++ [name]
  parent : ∃ m, d.locate (parentPath path) = .ok (m, .directory)
  ordinary : d.hasDirectory l = false
  named : demandsDirectory path = false

namespace Writable

variable {d d' : Disk} {path : String} {l m : Location} {content : ByteArray}

/-- What can be written still can be, whatever was stored. -/
theorem stored (h : d.Writable path m) (hstored : d.Stored l content d')
    (hl : d.hasDirectory l = false) : d'.Writable path m where
  entry := by
    obtain ⟨parent, name, hentry, hm⟩ := h.entry
    exact ⟨parent, name, hstored.newEntry hl hentry, hm⟩
  parent := by
    obtain ⟨p, hparent⟩ := h.parent
    exact ⟨p, hstored.locate_directory hl hparent⟩
  ordinary := (hstored.hasDirectory hl m).trans h.ordinary
  named := h.named

/-- There is a file, or nothing yet. -/
theorem node?_cases (h : d.Writable path l) :
    d.node? l = none ∨ ∃ content, d.node? l = some (.file content) := by
  have hordinary := h.ordinary
  unfold hasDirectory at hordinary
  rcases hnode : d.node? l with _ | _ | content
  · exact .inl rfl
  · rw [hnode] at hordinary
    cases hordinary
  · exact .inr ⟨content, rfl⟩

theorem locate_of_none (h : d.Writable path l) (hnode : d.node? l = none) :
    d.locate path = .error .missing := by
  obtain ⟨parent, name, hentry, rfl⟩ := h.entry
  obtain ⟨husable, before, hsplit, hwalk, hdirectory, hself, hup, hsize⟩ :=
    newEntry_eq_ok_iff.mp hentry
  -- All parts but the last can be followed, and the last one leads nowhere.
  have hlast : d.walk parent [name] = .error .missing := by
    rw [walk, hdirectory, if_neg (by decide), if_neg (by simpa using hself),
      if_neg (by simpa using hup), if_neg (by omega), if_pos (by rw [hnode]; rfl)]
  unfold locate
  rw [husable, hsplit, walk_append_of_ok hwalk, hlast]
  rfl

theorem locate_of_file (h : d.Writable path l) (hnode : d.node? l = some (.file content)) :
    d.locate path = .ok (l, .file content) := by
  obtain ⟨parent, name, hentry, rfl⟩ := h.entry
  obtain ⟨husable, before, hsplit, hwalk, hdirectory, hself, hup, hsize⟩ :=
    newEntry_eq_ok_iff.mp hentry
  have hthere : d.node? (parent ++ [name]) ≠ none := by
    rw [hnode]
    exact Option.some_ne_none _
  refine locate_eq_ok_iff.mpr ⟨husable, ?_, hnode, .inr h.named⟩
  rw [hsplit, walk_append_of_ok hwalk,
    walk_cons_of_enters hdirectory (.down hself hup hsize hthere), walk]

theorem createFile_eq (h : d.Writable path l) :
    d.createFile path = .ok (d.put l (.file .empty), l) := by
  obtain ⟨parent, name, hentry, rfl⟩ := h.entry
  unfold createFile
  rw [hentry]
  simp only
  rw [if_neg (by simp [h.ordinary, h.named])]

/-- What is read under a path is what its location holds. -/
theorem held_eq (h : d.Writable path l) : d.held path = d.contentAt l := by
  unfold held readFile contentAt
  rcases h.node?_cases with hnode | ⟨content, hnode⟩
  · rw [h.locate_of_none hnode, hnode]
    rfl
  · rw [h.locate_of_file hnode, hnode]
    rfl

end Writable

/-- Overwriting from the end on is appending. -/
theorem overwrite_size (content bytes : ByteArray) :
    overwrite content content.size bytes = content ++ bytes := by
  have hpadded : content ++ ⟨Array.replicate (content.size - content.size) 0⟩ = content := by
    rw [Nat.sub_self]
    exact ByteArray.append_empty
  have hrest : content.extract (content.size + bytes.size) content.size = .empty :=
    ByteArray.extract_eq_empty_iff.mpr (by omega)
  simp only [overwrite, hpadded, hrest, ByteArray.extract_zero_size, ByteArray.append_empty]

end Passforge.Storage.Disk
