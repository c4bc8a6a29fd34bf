import Mathlib.Algebra.BigOperators.Group.Finset.Basic
import Mathlib.Tactic.Ring
import Passforge.Proofs.Rejection

/-!
# Reading the Stream Directly

What the buffered source does, said without a buffer. A reader that has the
random stream to itself needs to remember a single number, how far it has
come. A byte is taken where the reader stands. A word is taken there too,
unless it would straddle two blocks, and then the reader first steps over what
is left of the block.

`Direct.Draw` is that reader as a relation, with no limit on how many values
it looks at: it relates the place a draw starts at to the answer and the place
it ends at. The number of values looked at is part of the relation because a
buffered draw gives up after as many as the stream has patience for, and the
two can then be compared for every patience.

The link between the two is `Reservoir.Aligned`: blocks are read whole, so the
stream stands at a block boundary, and the unread bytes are the stretch of the
stream right before it. Where the direct reader stands is then determined,
`Reservoir.consumed`, and both what a taking hands out and where it ends are
functions of that place alone. The drop of a short remainder, which in the
buffer is a comparison of lengths, becomes a condition on the place modulo the
block size.

## Main definitions

* `Direct.place`: Where the next value starts.
* `Direct.value`: The value at a place.
* `Direct.Draw`: One draw of the direct reader.
* `Direct.Draws`: Draws in a row, each looking at a limited number of values.
* `Reservoir.fresh`: A source that has not drawn yet.
* `Reservoir.consumed`: Where the direct reader stands.
* `Reservoir.Aligned`: The unread bytes end at a block boundary of the stream.
* `Reservoir.Reaches`: The reservoirs that takings lead to.
* `Buffer.pos`: How much of the block has been used.
* `Reservoir.offset`: Where in the block the next bytes are cut out.

## Theorems

* `Reservoir.handed_eq_slice`: A taking hands out the bytes at the direct
  reader's place.
* `Reservoir.consumed_after`: A taking moves the direct reader past them.
* `Reservoir.aligned_after`: Takings keep the reservoir aligned.
* `Buffer.draw_of_scan`, `Buffer.scan_of_draw`: The redraw loop and the direct
  draw agree.
* `Buffer.draws_of_mapM`, `Buffer.mapM_of_draws`: So do draws in a row.
* `Buffer.draws_refine_direct`: The buffered source refines the direct reader.
-/

namespace Passforge

namespace Direct

/-- Where the next value for `n` choices starts for a reader that stands at
    `p`: a word does not straddle two blocks. -/
def place (n p : Nat) : Nat :=
  if n ≤ 256 then p
  else if 504 < p % 512 then (p / 512 + 1) * 512
  else p

/-- The value for `n` choices at a place: a byte, or eight bytes with the low
    one first. -/
def value (σ : Nat → UInt8) (n q : Nat) : Nat :=
  if n ≤ 256 then (σ q).toNat
  else ∑ i ∈ Finset.range 8, 256 ^ i * (σ (q + i)).toNat

/-- A draw among `n` choices that starts at `p`, looks at `looks` values,
    answers `v` and ends at `p'`. -/
inductive Draw (σ : Nat → UInt8) (n : Nat) : (p looks v p' : Nat) → Prop
  | single (p : Nat) (hn : n = 1) : Draw σ n p 0 0 p
  | accept (p : Nat) (hn : 2 ≤ n) (h : Buffer.Accepts n (value σ n (place n p))) :
      Draw σ n p 1 (value σ n (place n p) % n) (place n p + Buffer.width n)
  | redraw (p looks v p' : Nat) (hn : 2 ≤ n) (h : ¬ Buffer.Accepts n (value σ n (place n p)))
      (rest : Draw σ n (place n p + Buffer.width n) looks v p') : Draw σ n p (looks + 1) v p'

/-- Draws in a row, none of which looks at more than `limit` values. -/
inductive Draws (σ : Nat → UInt8) (limit : Nat) :
    (ns : List Nat) → (p : Nat) → (vs : List Nat) → (p' : Nat) → Prop
  | nil (p : Nat) : Draws σ limit [] p [] p
  | cons (n : Nat) (ns : List Nat) (p looks v p₁ : Nat) (vs : List Nat) (p₂ : Nat)
      (first : Draw σ n p looks v p₁) (hlooks : looks ≤ limit) (rest : Draws σ limit ns p₁ vs p₂) :
      Draws σ limit (n :: ns) p (v :: vs) p₂

end Direct

namespace Entropy

@[simp] theorem length_slice (e : Entropy) (start count : Nat) :
    (e.slice start count).length = count := by
  simp only [slice, List.length_map, List.length_range']

theorem take_slice (e : Entropy) (start count k : Nat) (h : k ≤ count) :
    (e.slice start count).take k = e.slice start k := by
  unfold slice
  rw [← List.map_take, List.take_range'_of_length_ge h]

theorem drop_slice (e : Entropy) (start count k : Nat) :
    (e.slice start count).drop k = e.slice (start + k) (count - k) := by
  unfold slice
  rw [← List.map_drop, List.drop_range', Nat.mul_one]

end Entropy

namespace Buffer

/-- How many bytes of the current block have been used. -/
def pos (b : Buffer) : Int :=
  (Entropy.blockSize : Int) - (b.unread.length : Int)

/-- The bytes at a place spell the value there. -/
theorem littleEndian_slice (e : Entropy) (n q : Nat) :
    littleEndian (e.slice q (width n)) = Direct.value e.byteAt n q := by
  unfold Direct.value width
  by_cases h : n ≤ 256
  · rw [if_pos h, if_pos h]
    simp only [littleEndian, Entropy.slice, List.range', List.map_cons, List.map_nil,
      List.foldr_cons, List.foldr_nil, Nat.mul_zero, Nat.add_zero]
  · rw [if_neg h, if_neg h]
    -- Both sides are the sum of eight terms, nested on the left and flat on the right.
    simp only [littleEndian, Entropy.slice, List.range', List.map_cons, List.map_nil,
      List.foldr_cons, List.foldr_nil, Finset.sum_range_succ, Finset.sum_range_zero]
    ring_nf

end Buffer

namespace Reservoir

/-- A source that has not drawn yet, on a stream that has not been read. -/
def fresh (σ : Nat → UInt8) (patience : Nat) : Reservoir :=
  ⟨⟨σ, 0, patience⟩, .empty⟩

/-- Where a reader without a buffer would stand. -/
def consumed (r : Reservoir) : Nat :=
  r.entropy.position - r.buffer.unread.length

/-- Where in the block the next `count` bytes are cut out: behind the used
    ones, or at the front of a fresh block. -/
def offset (count : Nat) (r : Reservoir) : Int :=
  if count ≤ r.buffer.unread.length then r.buffer.pos else 0

/-- The stream stands at a block boundary, and the unread bytes are the
    stretch right before it. -/
structure Aligned (r : Reservoir) : Prop where
  boundary : r.entropy.position % 512 = 0
  length_le : r.buffer.unread.length ≤ 512
  length_le_position : r.buffer.unread.length ≤ r.entropy.position
  unread_eq : r.buffer.unread = r.entropy.slice r.consumed r.buffer.unread.length

theorem aligned_fresh (σ : Nat → UInt8) (patience : Nat) : (fresh σ patience).Aligned where
  boundary := rfl
  length_le := Nat.zero_le _
  length_le_position := Nat.le_refl _
  unread_eq := rfl

/-- The direct reader goes on where it stands as long as the block suffices. -/
theorem place_of_le (n : Nat) (r : Reservoir) (hr : r.Aligned)
    (h : Buffer.width n ≤ r.buffer.unread.length) : Direct.place n r.consumed = r.consumed := by
  rcases hr with ⟨hb, hl, hp, _⟩
  unfold Direct.place
  by_cases hn : n ≤ 256
  · rw [if_pos hn]
  · rw [Buffer.width, if_neg hn] at h
    -- A whole word is left, so no more than 504 bytes of the block are used.
    rw [if_neg hn, if_neg (by unfold consumed; omega)]

/-- It steps to the boundary the stream stands at when the block does not. -/
theorem place_of_lt (n : Nat) (r : Reservoir) (hr : r.Aligned)
    (h : r.buffer.unread.length < Buffer.width n) :
    Direct.place n r.consumed = r.entropy.position := by
  rcases hr with ⟨hb, hl, hp, _⟩
  unfold Direct.place
  by_cases hn : n ≤ 256
  · rw [Buffer.width, if_pos hn] at h
    rw [if_pos hn, consumed]
    omega
  · rw [Buffer.width, if_neg hn] at h
    rw [if_neg hn]
    -- With nothing left the reader stands at the boundary already.
    by_cases h0 : r.buffer.unread.length = 0
    · rw [if_neg (by unfold consumed; omega), consumed]
      omega
    · rw [if_pos (by unfold consumed; omega), consumed]
      omega

/-- What is handed out are the bytes where the direct reader takes its next
    value. -/
theorem handed_eq_slice (n : Nat) (r : Reservoir) (hr : r.Aligned) :
    r.handed (Buffer.width n)
      = r.entropy.slice (Direct.place n r.consumed) (Buffer.width n) := by
  unfold handed
  by_cases h : Buffer.width n ≤ r.buffer.unread.length
  · rw [if_pos h, place_of_le n r hr h, hr.unread_eq]
    exact Entropy.take_slice _ _ _ _ h
  · rw [if_neg h, place_of_lt n r hr (by omega)]
    exact Entropy.take_slice _ _ _ _ (Buffer.width_le_blockSize n)

/-- A taking moves the direct reader past the bytes it hands out. -/
theorem consumed_after (n : Nat) (r : Reservoir) (hr : r.Aligned) :
    (r.after (Buffer.width n)).consumed = Direct.place n r.consumed + Buffer.width n := by
  have hw := Buffer.width_le_blockSize n
  by_cases h : Buffer.width n ≤ r.buffer.unread.length
  · rw [place_of_le n r hr h]
    have hp := hr.length_le_position
    simp only [after, if_pos h, consumed, List.length_drop]
    omega
  · rw [place_of_lt n r hr (by omega)]
    simp only [after, if_neg h, consumed, List.length_drop, Entropy.length_slice]
    omega

/-- Takings keep the reservoir aligned. -/
theorem aligned_after (n : Nat) (r : Reservoir) (hr : r.Aligned) :
    (r.after (Buffer.width n)).Aligned := by
  have hw := Buffer.width_le_blockSize n
  have hc := consumed_after n r hr
  by_cases h : Buffer.width n ≤ r.buffer.unread.length
  -- The block suffices: the stream stays, and the unread stretch loses its front.
  · rw [place_of_le n r hr h] at hc
    have hlen : (r.after (Buffer.width n)).buffer.unread.length
        = r.buffer.unread.length - Buffer.width n := by
      simp only [after, if_pos h, List.length_drop]
    have hpos : (r.after (Buffer.width n)).entropy.position = r.entropy.position := by
      simp only [after, if_pos h]
    refine ⟨by rw [hpos]; exact hr.boundary, ?_, ?_, ?_⟩
    · have := hr.length_le
      omega
    · have := hr.length_le_position
      omega
    · rw [hc, hlen]
      simp only [after, if_pos h]
      rw [hr.unread_eq, Entropy.length_slice]
      exact Entropy.drop_slice _ _ _ _
  -- A fresh block: the stream moves on by a block, and what is left of it is unread.
  · rw [place_of_lt n r hr (by omega)] at hc
    have hlen : (r.after (Buffer.width n)).buffer.unread.length
        = Entropy.blockSize - Buffer.width n := by
      simp only [after, if_neg h, List.length_drop, Entropy.length_slice]
    have hpos : (r.after (Buffer.width n)).entropy.position
        = r.entropy.position + Entropy.blockSize := by
      simp only [after, if_neg h]
    have hsize : Entropy.blockSize = 512 := rfl
    refine ⟨?_, by omega, by omega, ?_⟩
    · have := hr.boundary
      omega
    · rw [hc, hlen]
      simp only [after, if_neg h]
      exact Entropy.drop_slice _ _ _ _

/-- The reservoirs that takings of bytes and words lead to. Nothing else
    touches a buffer, so these are all that a run of draws passes through. -/
inductive Reaches : Reservoir → Reservoir → Prop
  | refl (r : Reservoir) : Reaches r r
  | step (r r₁ r₂ : Reservoir) (n : Nat) (bytes : List UInt8)
      (htake : Buffer.take (Buffer.width n) r = (.ok bytes, r₁)) (rest : Reaches r₁ r₂) :
      Reaches r r₂

theorem reaches_trans (r₁ r₂ r₃ : Reservoir) (h : Reaches r₁ r₂) (h' : Reaches r₂ r₃) :
    Reaches r₁ r₃ := by
  induction h with
  | refl r => exact h'
  | step a b c n bytes htake _ ih => exact Reaches.step a b r₃ n bytes htake (ih h')

theorem reaches_after (n : Nat) (r : Reservoir) : Reaches r (r.after (Buffer.width n)) :=
  Reaches.step r _ _ n _ (Buffer.take_eq _ r) (Reaches.refl _)

/-- Everything reached from an aligned reservoir is aligned. -/
theorem aligned_of_reaches (r r' : Reservoir) (h : Reaches r r') (hr : r.Aligned) : r'.Aligned := by
  induction h with
  | refl r => exact hr
  | step a b c n bytes htake _ ih =>
      rw [Buffer.take_eq, Prod.mk.injEq] at htake
      rw [← htake.2] at ih
      exact ih (aligned_after n a hr)

/-- In an aligned reservoir the used part is a part of the block, and so is
    what is cut out next. -/
theorem offset_bounds (n : Nat) (r : Reservoir) (hr : r.Aligned) :
    0 ≤ r.buffer.pos ∧ r.buffer.pos ≤ 512 ∧ 0 ≤ r.offset (Buffer.width n) ∧
      r.offset (Buffer.width n) + Buffer.width n ≤ 512 ∧
      (r.handed (Buffer.width n)).length = Buffer.width n := by
  have hw := Buffer.width_le_blockSize n
  have hl := hr.length_le
  have hsize : Entropy.blockSize = 512 := rfl
  rw [handed_eq_slice n r hr, Entropy.length_slice]
  unfold offset Buffer.pos
  split <;> omega

end Reservoir

namespace Buffer

theorem reaches_scan (n patience : Nat) (r : Reservoir) :
    r.Reaches (scan n patience r).2 := by
  induction patience generalizing r with
  | zero => exact Reservoir.Reaches.refl r
  | succ k ih =>
      by_cases ha : Accepts n (littleEndian (r.handed (width n)))
      · rw [scan_of_accepts n k r ha]
        exact Reservoir.reaches_after n r
      · rw [scan_of_not_accepts n k r ha]
        exact Reservoir.reaches_trans _ _ _ (Reservoir.reaches_after n r) (ih _)

theorem scan_byteAt (n patience : Nat) (r : Reservoir) :
    (scan n patience r).2.entropy.byteAt = r.entropy.byteAt := by
  induction patience generalizing r with
  | zero => rfl
  | succ k ih =>
      by_cases ha : Accepts n (littleEndian (r.handed (width n)))
      · rw [scan_of_accepts n k r ha, Reservoir.after_byteAt]
      · rw [scan_of_not_accepts n k r ha, ih, Reservoir.after_byteAt]

theorem scan_patience (n patience : Nat) (r : Reservoir) :
    (scan n patience r).2.entropy.patience = r.entropy.patience := by
  induction patience generalizing r with
  | zero => rfl
  | succ k ih =>
      by_cases ha : Accepts n (littleEndian (r.handed (width n)))
      · rw [scan_of_accepts n k r ha, Reservoir.after_patience]
      · rw [scan_of_not_accepts n k r ha, ih, Reservoir.after_patience]

/-- The value that is handed out is the one the direct reader looks at. -/
theorem littleEndian_handed_eq (n : Nat) (r : Reservoir) (hr : r.Aligned) :
    littleEndian (r.handed (width n))
      = Direct.value r.entropy.byteAt n (Direct.place n r.consumed) := by
  rw [Reservoir.handed_eq_slice n r hr, littleEndian_slice]

/-- An answer of the redraw loop is one of the direct reader. The induction is
    on the patience: a rejected value costs one look on both sides. -/
theorem draw_of_scan (n : Nat) (hn : 2 ≤ n) (patience : Nat) (r r' : Reservoir) (v : Nat)
    (hr : r.Aligned) (h : scan n patience r = (.ok v, r')) :
    ∃ looks, looks ≤ patience ∧
      Direct.Draw r.entropy.byteAt n r.consumed looks v r'.consumed := by
  induction patience generalizing r with
  | zero => cases h
  | succ k ih =>
      have hv := littleEndian_handed_eq n r hr
      by_cases ha : Accepts n (littleEndian (r.handed (width n)))
      · rw [scan_of_accepts n k r ha, Prod.mk.injEq, Except.ok.injEq] at h
        rw [hv] at ha h
        rw [← h.1, ← h.2, Reservoir.consumed_after n r hr]
        exact ⟨1, by omega, Direct.Draw.accept _ hn ha⟩
      · rw [scan_of_not_accepts n k r ha] at h
        -- The rest of the loop starts where the direct reader stands after the value.
        rcases ih _ (Reservoir.aligned_after n r hr) h with ⟨looks, hle, hdraw⟩
        rw [Reservoir.after_byteAt, Reservoir.consumed_after n r hr] at hdraw
        rw [hv] at ha
        exact ⟨looks + 1, by omega, Direct.Draw.redraw _ looks v _ hn ha hdraw⟩

/-- An answer of the direct reader is one of the redraw loop, given the
    patience to look at as many values. -/
theorem scan_of_draw (σ : Nat → UInt8) (n p looks v p' : Nat) (hn : 2 ≤ n)
    (h : Direct.Draw σ n p looks v p') (patience : Nat) (hle : looks ≤ patience) (r : Reservoir)
    (hr : r.Aligned) (hσ : r.entropy.byteAt = σ) (hp : r.consumed = p) :
    ∃ r', scan n patience r = (.ok v, r') ∧ r'.consumed = p' := by
  induction h generalizing patience r with
  | single p h1 => omega
  | accept p _ ha =>
      rcases patience with _ | k
      · omega
      have hv := littleEndian_handed_eq n r hr
      rw [hσ, hp] at hv
      refine ⟨r.after (width n), ?_, ?_⟩
      · rw [scan_of_accepts n k r (by rw [hv]; exact ha), hv]
      · rw [Reservoir.consumed_after n r hr, hp]
  | redraw p looks v p' _ ha _ ih =>
      rcases patience with _ | k
      · omega
      have hv := littleEndian_handed_eq n r hr
      rw [hσ, hp] at hv
      rw [scan_of_not_accepts n k r (by rw [hv]; exact ha)]
      refine ih k (by omega) _ (Reservoir.aligned_after n r hr) ?_ ?_
      · rw [Reservoir.after_byteAt, hσ]
      · rw [Reservoir.consumed_after n r hr, hp]

theorem draw_of_choose (n : Nat) (hn : 0 < n) (r r' : Reservoir) (v : Nat) (hr : r.Aligned)
    (h : choose n r = (.ok v, r')) :
    ∃ looks, looks ≤ r.entropy.patience ∧
      Direct.Draw r.entropy.byteAt n r.consumed looks v r'.consumed := by
  by_cases h1 : n = 1
  · subst h1
    rw [choose_one, Prod.mk.injEq, Except.ok.injEq] at h
    rw [← h.1, ← h.2]
    exact ⟨0, Nat.zero_le _, Direct.Draw.single _ rfl⟩
  · rw [choose_eq_scan n h1] at h
    exact draw_of_scan n (by omega) _ r r' v hr h

theorem choose_of_draw (n looks v p' : Nat) (r : Reservoir) (hr : r.Aligned)
    (h : Direct.Draw r.entropy.byteAt n r.consumed looks v p') (hle : looks ≤ r.entropy.patience) :
    ∃ r', choose n r = (.ok v, r') ∧ r'.consumed = p' := by
  by_cases h1 : n = 1
  · subst h1
    cases h with
    | single => exact ⟨r, choose_one r, rfl⟩
    | accept _ hn => omega
    | redraw _ _ _ _ hn => omega
  -- With several choices the direct reader looks at a value, too.
  · have hn : 2 ≤ n := by
      cases h <;> omega
    rw [choose_eq_scan n h1]
    exact scan_of_draw _ n _ looks v p' hn h _ hle r hr rfl rfl

theorem reaches_choose (n : Nat) (r : Reservoir) : r.Reaches (choose n r).2 := by
  by_cases h1 : n = 1
  · subst h1
    rw [choose_one]
    exact Reservoir.Reaches.refl r
  · rw [choose_eq_scan n h1]
    exact reaches_scan n _ r

/-- What a draw leaves in place: the reservoir it ends with is aligned again,
    and the stream is the same. -/
theorem choose_frame (n : Nat) (r r' : Reservoir) (x : Except Halt Nat) (hr : r.Aligned)
    (h : choose n r = (x, r')) :
    r'.Aligned ∧ r'.entropy.byteAt = r.entropy.byteAt ∧
      r'.entropy.patience = r.entropy.patience := by
  have hreach := reaches_choose n r
  rw [h] at hreach
  refine ⟨Reservoir.aligned_of_reaches r r' hreach hr, ?_⟩
  by_cases h1 : n = 1
  · subst h1
    rw [choose_one, Prod.mk.injEq] at h
    rw [← h.2]
    exact ⟨rfl, rfl⟩
  · rw [choose_eq_scan n h1] at h
    have hbyte := scan_byteAt n r.entropy.patience r
    have hpat := scan_patience n r.entropy.patience r
    rw [h] at hbyte hpat
    exact ⟨hbyte, hpat⟩

/-- Draws in a row that answer are draws of the direct reader. -/
theorem draws_of_mapM (ns : List Nat) (hns : ∀ n ∈ ns, 0 < n) (r r' : Reservoir) (xs : List Int)
    (hr : r.Aligned) (h : (ns.map Nat.cast).mapM source.draw r = (.ok xs, r')) :
    ∃ vs : List Nat, xs = vs.map Nat.cast ∧ List.Forall₂ (fun n v => v < n) ns vs ∧
      Direct.Draws r.entropy.byteAt r.entropy.patience ns r.consumed vs r'.consumed := by
  induction ns generalizing r xs with
  | nil =>
      rw [List.map_nil, List.mapM_nil, Run.pure_apply, Prod.mk.injEq, Except.ok.injEq] at h
      rw [← h.1, ← h.2]
      exact ⟨[], rfl, List.Forall₂.nil, Direct.Draws.nil _⟩
  | cons n ns ih =>
      have hn : 0 < n := hns n List.mem_cons_self
      rw [List.map_cons] at h
      rcases Run.mapM_cons_eq_ok h with ⟨x, ys, r₁, hx, hys, rfl⟩
      rw [source_draw_eq n hn] at hx
      rcases hc : choose n r with ⟨e | v, r₂⟩
      · rw [hc] at hx
        cases hx
      rw [hc] at hx
      cases hx
      -- The rest starts from an aligned reservoir on the same stream.
      rcases choose_frame n r r₂ _ hr hc with ⟨hr₁, hbyte, hpat⟩
      rcases ih (fun m hm => hns m (List.mem_cons_of_mem n hm)) r₂ ys hr₁ hys with
        ⟨vs, hvs, hlt, hdraws⟩
      rw [hbyte, hpat] at hdraws
      rcases draw_of_choose n hn r r₂ v hr hc with ⟨looks, hle, hdraw⟩
      refine ⟨v :: vs, ?_, ?_, ?_⟩
      · rw [hvs, List.map_cons]
      · exact List.Forall₂.cons (choose_lt n hn r r₂ v hc) hlt
      · exact Direct.Draws.cons n ns _ looks v _ vs _ hdraw hle hdraws

/-- Draws of the direct reader are draws in a row that answer. -/
theorem mapM_of_draws (ns : List Nat) (hns : ∀ n ∈ ns, 0 < n) (r : Reservoir) (vs : List Nat)
    (p' : Nat) (hr : r.Aligned)
    (h : Direct.Draws r.entropy.byteAt r.entropy.patience ns r.consumed vs p') :
    ∃ r', (ns.map Nat.cast).mapM source.draw r = (.ok (vs.map Nat.cast), r') ∧
      r'.consumed = p' := by
  induction ns generalizing r vs with
  | nil =>
      cases h
      exact ⟨r, rfl, rfl⟩
  | cons n ns ih =>
      have hn : 0 < n := hns n List.mem_cons_self
      cases h with
      | cons _ _ _ looks v p₁ vs _ first hle rest =>
          rcases choose_of_draw n looks v p₁ r hr first hle with ⟨r₁, hc, hp₁⟩
          rcases choose_frame n r r₁ _ hr hc with ⟨hr₁, hbyte, hpat⟩
          have hns' : ∀ m ∈ ns, 0 < m := fun m hm => hns m (List.mem_cons_of_mem n hm)
          rcases ih hns' r₁ vs hr₁ (by rw [hbyte, hpat, hp₁]; exact rest) with ⟨r', hrun, hp'⟩
          refine ⟨r', ?_, hp'⟩
          have hx : source.draw n r = (.ok (v : Int), r₁) := by
            rw [source_draw_eq n hn, hc]
            rfl
          rw [List.map_cons]
          exact Run.mapM_cons_of_ok hx hrun

/-- Draws in a row pass through reached reservoirs only, and a draw that has
    no answer looked on in vain. -/
theorem mapM_frame (ns : List Nat) (hns : ∀ n ∈ ns, 0 < n) (r : Reservoir) :
    r.Reaches ((ns.map Nat.cast).mapM source.draw r).2 ∧
      ∀ e, ((ns.map Nat.cast).mapM source.draw r).1 = .error e → e = .endless := by
  induction ns generalizing r with
  | nil => exact ⟨Reservoir.Reaches.refl r, fun e h => by cases h⟩
  | cons n ns ih =>
      have hn : 0 < n := hns n List.mem_cons_self
      have hns' : ∀ m ∈ ns, 0 < m := fun m hm => hns m (List.mem_cons_of_mem n hm)
      have hreach := reaches_choose n r
      have hx := source_draw_eq n hn r
      rw [List.map_cons]
      rcases hc : choose n r with ⟨e | v, r₁⟩
      -- The first draw has no answer, so the row ends with it.
      · rw [hc] at hx hreach
        rw [Run.mapM_cons_of_error hx]
        refine ⟨hreach, fun e' he => ?_⟩
        cases he
        exact choose_error n r r₁ e hc
      · rw [hc] at hx hreach
        have hrest := ih hns' r₁
        rcases hm : (ns.map Nat.cast).mapM source.draw r₁ with ⟨e | ys, r₂⟩
        · rw [hm] at hrest
          rw [Run.mapM_cons_of_ok_error hx hm]
          exact ⟨Reservoir.reaches_trans _ _ _ hreach hrest.1, hrest.2⟩
        · rw [hm] at hrest
          rw [Run.mapM_cons_of_ok hx hm]
          exact ⟨Reservoir.reaches_trans _ _ _ hreach hrest.1, fun e h => by cases h⟩

/-- The buffered source refines the direct reader. For every stream, every
    patience and every row of draws the answers and the place reached are those
    of the direct reader, and a row that does not answer contains a draw that
    looked at as many values as it may. All along the way the used part of the
    block and whatever is cut out of it lie inside the block. -/
theorem draws_refine_direct (σ : Nat → UInt8) (patience : Nat) (ns : List Nat)
    (hns : ∀ n ∈ ns, 0 < n) :
    (∀ vs p, (∃ r, (ns.map Nat.cast).mapM source.draw (.fresh σ patience)
          = (.ok (vs.map Nat.cast), r) ∧ r.consumed = p) ↔
        Direct.Draws σ patience ns 0 vs p) ∧
      (∀ xs r, (ns.map Nat.cast).mapM source.draw (.fresh σ patience) = (.ok xs, r) →
        List.Forall₂ (fun (n : Nat) (x : Int) => 0 ≤ x ∧ x < n) ns xs) ∧
      (∀ e r, (ns.map Nat.cast).mapM source.draw (.fresh σ patience) = (.error e, r) →
        e = .endless) ∧
      (Reservoir.fresh σ patience).Reaches
        ((ns.map Nat.cast).mapM source.draw (.fresh σ patience)).2 ∧
      ∀ r, (Reservoir.fresh σ patience).Reaches r →
        0 ≤ r.buffer.pos ∧ r.buffer.pos ≤ 512 ∧
          ∀ n, 0 ≤ r.offset (width n) ∧ r.offset (width n) + width n ≤ 512 ∧
            (r.handed (width n)).length = width n := by
  have hr := Reservoir.aligned_fresh σ patience
  have hframe := mapM_frame ns hns (.fresh σ patience)
  refine ⟨fun vs p => ⟨?_, ?_⟩, ?_, ?_, hframe.1, ?_⟩
  -- The answers correspond in both directions.
  · rintro ⟨r, hrun, rfl⟩
    rcases draws_of_mapM ns hns _ r _ hr hrun with ⟨vs', hvs, _, hdraws⟩
    rw [(List.map_injective_iff.mpr Nat.cast_injective) hvs]
    exact hdraws
  · intro h
    exact mapM_of_draws ns hns _ vs p hr h
  -- Each of them lies in range, and only patience can run out.
  · intro xs r hrun
    rcases draws_of_mapM ns hns _ r xs hr hrun with ⟨vs, rfl, hlt, _⟩
    rw [List.forall₂_map_right_iff]
    exact hlt.imp fun n v h => ⟨Int.natCast_nonneg v, Int.ofNat_lt.mpr h⟩
  · intro e r hrun
    exact hframe.2 e (by rw [hrun])
  -- Every reservoir on the way is aligned, and that bounds what is cut out of it.
  · intro r hreach
    have hbounds := fun n => Reservoir.offset_bounds n r
      (Reservoir.aligned_of_reaches _ r hreach hr)
    exact ⟨(hbounds 0).1, (hbounds 0).2.1, fun n => (hbounds n).2.2⟩

/-- Sixty-three words and a byte leave seven bytes of the first block, which
    the next word steps over. -/
theorem draws_refine_direct_at_boundary :
    (∀ n ∈ List.replicate 63 300 ++ [2, 300], 0 < n) ∧
      Direct.Draws (fun _ => 255) 1 (List.replicate 63 300 ++ [2, 300]) 0
        (List.replicate 63 15 ++ [1, 15]) 520 := by
  have hpos : ∀ n ∈ List.replicate 63 300 ++ [2, 300], 0 < n := by decide
  have hanswers : (((List.replicate 63 300 ++ [2, 300]).map Nat.cast).mapM source.draw
      (.fresh (fun _ => 255) 1)).1 = .ok ((List.replicate 63 15 ++ [1, 15]).map Nat.cast) := by
    decide +kernel
  have hplace : (((List.replicate 63 300 ++ [2, 300]).map Nat.cast).mapM source.draw
      (.fresh (fun _ => 255) 1)).2.consumed = 520 := by
    decide +kernel
  refine ⟨hpos, ((draws_refine_direct (fun _ => 255) 1 _ hpos).1 _ _).mp ?_⟩
  generalize ((List.replicate 63 300 ++ [2, 300]).map Nat.cast).mapM source.draw
    (.fresh (fun _ => 255) 1) = run at hanswers hplace ⊢
  exact ⟨run.2, Prod.ext hanswers rfl, hplace⟩

end Buffer

end Passforge
