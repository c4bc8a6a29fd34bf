import Passforge.Proofs.Planning

/-!
# What the Character Tables Say

The tables of compositions and decompositions are data, and what the normal form
needs from them is a handful of facts about all their rows: the parts of a
character have no parts themselves, joining two characters puts the second
behind the parts of the first, and the accented letters of the first blocks are
joined again from their parts. Only a few characters of these blocks are retired:
they have parts, and these give another character or stay apart.

Each fact is settled by looking up every row of a table in a table, and a table
is searched from its start. So the rows are kept as a `Table`, with keys that
increase, and the search is done by halves: it cuts the rows in the middle again
and again, and `Table.search_eq_find?` says that it finds what is found from the
start.

## Main definitions

* `Table`: Rows with increasing keys, and what they have in common.
* `Table.search`: The row with a key, by halves.
* `partsTable`, `pairTable`: Decompositions and compositions.
* `partsOf?`, `joinedChar?`: The two tables, searched by halves.
* `retired`: The characters below U+0800 that are never joined again.

## Theorems

* `Table.search_eq_find?`: Searching by halves finds what is found from the start.
* `parts_have_no_parts`, `rejoined_rows`: What the rows say about each other.
* `tableDecomposition_eq`, `tableComposition_eq`: Characters are looked up in
  these tables.
-/

namespace Passforge.Text.Canonical

section Searching

variable {ρ : Type} {key : ρ → Nat} {Fits : ρ → Prop}

/-- Rows with increasing keys, all of which fit. -/
structure Table (key : ρ → Nat) (Fits : ρ → Prop) where
  rows : List ρ
  increases : rows.Pairwise fun row other => key row < key other
  fits : ∀ row ∈ rows, Fits row

/-- Takes up to `2 ^ depth - 1` rows: a search among those taken, and the rows
    that are left. -/
def takeRows (key : ρ → Nat) : (depth : Nat) → List ρ → (Nat → Option ρ) × List ρ
  | 0, rows => (fun _ => none, rows)
  | depth + 1, rows =>
    match takeRows key depth rows with
    | (before, []) => (before, [])
    | (before, row :: rows) =>
      match takeRows key depth rows with
      | (behind, rest) =>
        (fun k =>
          bif k.blt (key row) then before k else bif (key row).blt k then behind k else some row,
          rest)

/-- The row with the key. -/
def Table.search (t : Table key Fits) (k : Nat) : Option ρ :=
  ((takeRows key (t.rows.length.log2 + 1) t.rows).1 k).or
    ((takeRows key (t.rows.length.log2 + 1) t.rows).2.find? (key · == k))

theorem find?_eq_none_of_forall_ne {rows : List ρ} {k : Nat} (h : ∀ row ∈ rows, key row ≠ k) :
    rows.find? (key · == k) = none :=
  List.find?_eq_none.mpr fun row hrow heq => h row hrow (beq_iff_eq.mp heq)

/-- A row cuts the rows around it into those before and those behind its key. -/
theorem find?_append_cons {before behind : List ρ} {row : ρ}
    (h : (before ++ row :: behind).Pairwise fun row other => key row < key other) (k : Nat) :
    (before ++ row :: behind).find? (key · == k)
      = bif k.blt (key row) then before.find? (key · == k)
        else bif (key row).blt k then behind.find? (key · == k) else some row := by
  obtain ⟨-, hcons, hbefore⟩ := List.pairwise_append.mp h
  have hbehind := (List.pairwise_cons.mp hcons).1
  have hblt (m n : Nat) : m.blt n = decide (m < n) := Bool.eq_iff_iff.mpr (by simp)
  rw [List.find?_append, List.find?_cons, hblt, hblt, Bool.cond_decide, Bool.cond_decide]
  rcases Nat.lt_trichotomy k (key row) with hlt | rfl | hgt
  · have hnone : behind.find? (key · == k) = none := find?_eq_none_of_forall_ne fun other hother =>
      Nat.ne_of_gt (Nat.lt_trans hlt (hbehind other hother))
    rw [if_pos hlt, hnone, beq_eq_false_iff_ne.mpr (Nat.ne_of_gt hlt)]
    exact Option.or_none
  · have hnone : before.find? (key · == key row) = none :=
      find?_eq_none_of_forall_ne fun other hother =>
        Nat.ne_of_lt (hbefore other hother row List.mem_cons_self)
    rw [if_neg (Nat.lt_irrefl _), if_neg (Nat.lt_irrefl _), hnone, beq_self_eq_true]
    rfl
  · have hnone : before.find? (key · == k) = none := find?_eq_none_of_forall_ne fun other hother =>
      Nat.ne_of_lt (Nat.lt_trans (hbefore other hother row List.mem_cons_self) hgt)
    rw [if_neg (Nat.lt_asymm hgt), if_pos hgt, hnone, beq_eq_false_iff_ne.mpr (Nat.ne_of_lt hgt)]
    rfl

theorem takeRows_eq_find? (depth : Nat) {rows : List ρ}
    (h : rows.Pairwise fun row other => key row < key other) :
    ∃ taken, rows = taken ++ (takeRows key depth rows).2 ∧
      ∀ k, (takeRows key depth rows).1 k = taken.find? (key · == k) := by
  induction depth generalizing rows with
  | zero => exact ⟨[], rfl, fun k => rfl⟩
  | succ depth ih =>
      obtain ⟨before, hrows, hbefore⟩ := ih h
      rw [takeRows]
      generalize takeRows key depth rows = taken at hrows hbefore ⊢
      rcases taken with ⟨search, _ | ⟨row, more⟩⟩
      · exact ⟨before, hrows, hbefore⟩
      · simp only at hrows hbefore ⊢
        subst hrows
        obtain ⟨behind, hmore, hbehind⟩ :=
          ih (List.pairwise_cons.mp (List.pairwise_append.mp h).2.1).2
        generalize takeRows key depth more = taken at hmore hbehind ⊢
        rcases taken with ⟨search', rest⟩
        simp only at hmore hbehind ⊢
        subst hmore
        -- What is taken is what the two halves took, with the row between them.
        have hsplit : before ++ row :: (behind ++ rest) = (before ++ row :: behind) ++ rest := by
          simp
        rw [hsplit] at h ⊢
        refine ⟨_, rfl, fun k => ?_⟩
        rw [find?_append_cons (List.pairwise_append.mp h).1, ← hbefore, ← hbehind]

namespace Table

/-- Searching by halves finds what is found from the start. -/
theorem search_eq_find? (t : Table key Fits) (k : Nat) :
    t.search k = t.rows.find? (key · == k) := by
  obtain ⟨taken, hrows, htaken⟩ := takeRows_eq_find? (t.rows.length.log2 + 1) t.increases
  unfold search
  rw [htaken, ← List.find?_append, ← hrows]

theorem mem_of_search {t : Table key Fits} {k : Nat} {row : ρ} (h : t.search k = some row) :
    row ∈ t.rows ∧ key row = k := by
  rw [search_eq_find?] at h
  have hkey := List.find?_some h
  exact ⟨List.mem_of_find?_eq_some h, beq_iff_eq.mp hkey⟩

end Table

/-- The keys increase, and the first is larger than `k`. -/
def increasesFrom (key : ρ → Nat) (k : Nat) : List ρ → Bool
  | [] => true
  | row :: rows => decide (k < key row) && increasesFrom key (key row) rows

theorem pairwise_of_increasesFrom {k : Nat} {rows : List ρ} (h : increasesFrom key k rows = true) :
    rows.Pairwise fun row other => key row < key other := by
  have hlarger : (∀ row ∈ rows, k < key row) ∧
      rows.Pairwise fun row other => key row < key other := by
    induction rows generalizing k with
    | nil => exact ⟨List.forall_mem_nil _, List.Pairwise.nil⟩
    | cons row rows ih =>
        rw [increasesFrom, Bool.and_eq_true, decide_eq_true_iff] at h
        obtain ⟨hlarger, hpairwise⟩ := ih h.2
        refine ⟨List.forall_mem_cons.mpr ⟨h.1, fun other hother => ?_⟩,
          List.pairwise_cons.mpr ⟨hlarger, hpairwise⟩⟩
        exact Nat.lt_trans h.1 (hlarger other hother)
  exact hlarger.2

end Searching

section Rows

/-- The number of a character that is no Hangul syllable. The surrogates are right
    behind the syllables. -/
def isPlain (n : Nat) : Bool :=
  n.blt 0xAC00 || (Nat.ble 0xE000 n && n.blt 0x110000)

/-- The decompositions by their characters. No row is for a Hangul letter, and no
    part is a syllable. -/
def partsTable : Table Prod.fst fun row : Nat × List Nat =>
    0xC0 ≤ row.1 ∧ (row.1 < 0x1100 ∨ 0x1200 ≤ row.1) ∧ row.2.length ≤ 4 ∧
      row.2.all isPlain = true where
  rows := [latinDecompositions, greekCyrillicDecompositions, semiticIndicDecompositions,
    latinAdditionalDecompositions, greekExtendedDecompositions, symbolsDecompositions,
    kanaDecompositions, ideographsDecompositions, moreIdeographsDecompositions,
    presentationDecompositions, supplementaryDecompositions, supplementaryIdeographsDecompositions,
    lastIdeographsDecompositions].flatten
  increases := pairwise_of_increasesFrom (k := 0) (by decide +kernel)
  fits := by decide +kernel

theorem decompositions_eq : decompositions = partsTable.rows := by
  simp only [decompositions, partsTable, List.flatten_cons, List.flatten_nil,
    List.append_nil, List.append_assoc]

/-- The parts that the table gives. -/
def partsOf? (n : Nat) : Option (List Nat) :=
  (partsTable.search n).map Prod.snd

theorem mem_of_partsOf? {n : Nat} {parts : List Nat} (h : partsOf? n = some parts) :
    (n, parts) ∈ partsTable.rows := by
  obtain ⟨row, hsearch, rfl⟩ := Option.map_eq_some_iff.mp h
  obtain ⟨hrow, rfl⟩ := Table.mem_of_search hsearch
  exact hrow

theorem parts_have_no_parts :
    ∀ row ∈ partsTable.rows, ∀ part ∈ row.2, partsOf? part = none := by
  decide +kernel

/-- A pair of characters as one number. -/
def pairKey (a b : Nat) : Nat :=
  a * 0x110000 + b

/-- The compositions by their pairs. What two characters are joined into has the
    parts of the first and then the second, and the second extends a run of
    marks. -/
def pairTable : Table (fun t => pairKey t.1 t.2.1) fun t : Nat × Nat × Nat =>
    (0x300 ≤ t.2.1 ∧ t.2.1 < 0x110000) ∧ (isPlain t.1 = true ∧ t.1 ≠ 0xFFFD) ∧
      isPlain t.2.2 = true ∧ partsOf? t.2.2 = some ((partsOf? t.1).getD [t.1] ++ [t.2.1]) ∧
      freshRun? (Char.ofNat t.2.1) = none where
  rows := [latinCompositions, latinExtendedCompositions, greekCyrillicCompositions,
    semiticIndicCompositions, extendedCompositions, symbolCompositions, kanaCompositions,
    supplementaryCompositions].flatten
  increases := pairwise_of_increasesFrom (k := 0) (by decide +kernel)
  fits := by decide +kernel

theorem compositions_eq : compositions = pairTable.rows := by
  simp only [compositions, pairTable, List.flatten_cons, List.flatten_nil,
    List.append_nil, List.append_assoc]

/-- The character that the table joins a pair into. -/
def joinedChar? (a b : Char) : Option Char :=
  (pairTable.search (pairKey a.toNat b.toNat)).map fun t => Char.ofNat t.2.2

/-- The characters below U+0800 that have parts and are not joined again. -/
def retired : List Char :=
  ['\u0340', '\u0341', '\u0343', '\u0344', '\u0374', '\u037E', '\u0387']

/-- Below U+0800 the parts are one that starts a run and marks in order, and they
    are joined again, unless the character is retired. -/
theorem rejoined_rows : ∀ row ∈ partsTable.rows, row.1 < 0x800 → Char.ofNat row.1 ∈ retired ∨
    ∃ first ∈ row.2.head?, (freshRun? (Char.ofNat first)).isSome = true ∧
      (∀ n ∈ row.2.tail, n < 0x1100) ∧
      (row.2.tail.map Char.ofNat).foldlM joinedChar? (Char.ofNat first) = some (Char.ofNat row.1) ∧
      (row.2.tail.map fun n => combiningClass (Char.ofNat n)).Pairwise (· ≤ ·) := by
  decide +kernel

end Rows

section Tables

theorem lookup_eq_find? {α : Type} (rows : List (Nat × α)) (n : Nat) :
    rows.lookup n = (rows.find? (·.1 == n)).map Prod.snd := by
  induction rows with
  | nil => rfl
  | cons row rows ih =>
      rw [List.lookup_cons, List.find?_cons, BEq.comm, ih]
      rcases row.1 == n with _ | _
      · rfl
      · rfl

theorem tableDecomposition_eq (c : Char) :
    tableDecomposition c = (partsOf? c.toNat).map (·.map Char.ofNat) := by
  unfold tableDecomposition partsOf?
  rw [lookup_eq_find?, decompositions_eq, ← Table.search_eq_find?]
  split
  · rename_i hlt
    rcases hsearch : partsTable.search c.toNat with _ | row
    · rfl
    -- No row is for so small a number.
    · obtain ⟨hrow, hkey⟩ := Table.mem_of_search hsearch
      have hlow := (partsTable.fits row hrow).1
      omega
  · rfl

theorem find?_pair_eq_search (a : Nat) {b : Nat} (hb : b < 0x110000) :
    (compositions.find? fun t => t.1 == a && t.2.1 == b) = pairTable.search (pairKey a b) := by
  rw [Table.search_eq_find?, compositions_eq, ← List.head?_filter, ← List.head?_filter]
  refine congrArg List.head? (List.filter_congr fun t ht => ?_)
  have hlt := (pairTable.fits t ht).1.2
  unfold pairKey
  rw [Bool.eq_iff_iff, Bool.and_eq_true, beq_iff_eq, beq_iff_eq, beq_iff_eq]
  omega

theorem tableComposition_eq (a b : Char) : tableComposition a b = joinedChar? a b := by
  unfold tableComposition joinedChar?
  rw [find?_pair_eq_search a.toNat (Symbol.toNat_char_lt b)]
  split
  · rename_i hlt
    rcases hsearch : pairTable.search (pairKey a.toNat b.toNat) with _ | t
    · rfl
    -- No row has so small a second character.
    · rw [← find?_pair_eq_search a.toNat (Symbol.toNat_char_lt b)] at hsearch
      have hboth := List.find?_some hsearch
      rw [Bool.and_eq_true, beq_iff_eq, beq_iff_eq] at hboth
      have hmem := List.mem_of_find?_eq_some hsearch
      rw [compositions_eq] at hmem
      have hlow := (pairTable.fits t hmem).1.1
      omega
  · rfl

/-- What the table joins comes from a row. -/
theorem exists_row_of_tableComposition {a b c : Char} (h : tableComposition a b = some c) :
    ∃ n, (a.toNat, b.toNat, n) ∈ pairTable.rows ∧ c = Char.ofNat n := by
  unfold tableComposition at h
  split at h
  · cases h
  · obtain ⟨t, hfind, rfl⟩ := Option.map_eq_some_iff.mp h
    have hboth := List.find?_some hfind
    rw [Bool.and_eq_true, beq_iff_eq, beq_iff_eq] at hboth
    have hmem := List.mem_of_find?_eq_some hfind
    rw [compositions_eq] at hmem
    exact ⟨t.2.2, by rw [← hboth.1, ← hboth.2]; exact hmem, rfl⟩

end Tables

end Passforge.Text.Canonical
