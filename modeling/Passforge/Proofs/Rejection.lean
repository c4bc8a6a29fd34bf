import Passforge.Draw.Buffered
import Passforge.Proofs.Run

/-!
# Drawing by Rejection

The two redraw loops of the buffered source as one. A draw among few choices
looks at bytes and a draw among many looks at words, but apart from the width
of a value and from which values count, the loops are the same: take a value,
answer its remainder if it counts, and otherwise look again.

`scan` is that loop as a plain function of the reservoir. Nothing about it is
monadic, so what a draw does is read off by unfolding one equation per value
looked at, and every later fact about draws is an induction on how many values
may be looked at. `choose_eq_scan` says that it is the loop the source runs.

Taking bytes never halts. `Reservoir.handed` is what a taking hands out and
`Reservoir.after` what it leaves behind, which separates the question of which
bytes are used from the question of what remains.

## Main definitions

* `Buffer.width`: How many bytes make a value.
* `Buffer.Accepts`: The values that are not drawn again.
* `Reservoir.handed`, `Reservoir.after`: What taking bytes hands out and
  leaves.
* `Buffer.scan`: The redraw loop.

## Theorems

* `Buffer.take_eq`: Taking bytes hands out `handed` and leaves `after`.
* `Buffer.drawByte_eq_scan`, `Buffer.drawWord_eq_scan`: Both loops are `scan`.
* `Buffer.choose_eq_scan`: A draw among several choices is `scan`.
* `Buffer.source_draw_eq`: The source answers what a draw chooses.
* `Buffer.choose_lt`: An answer lies below the number of choices.
* `Buffer.choose_error`: A draw without an answer looked on in vain.
-/

namespace Passforge

namespace Buffer

/-- How many bytes make a value when there are `n` choices. -/
def width (n : Nat) : Nat :=
  if n ≤ 256 then 1 else 8

/-- The value is acceptable for `n` choices. -/
def Accepts (n value : Nat) : Prop :=
  if n ≤ 256 then value ≤ byteCut n else wordCut n ≤ value

instance (n value : Nat) : Decidable (Accepts n value) :=
  inferInstanceAs (Decidable (if n ≤ 256 then value ≤ byteCut n else wordCut n ≤ value))

theorem width_le_blockSize (n : Nat) : width n ≤ Entropy.blockSize := by
  unfold width Entropy.blockSize
  split <;> omega

end Buffer

namespace Reservoir

/-- The bytes that the next taking of `count` bytes hands out. -/
def handed (count : Nat) (r : Reservoir) : List UInt8 :=
  if count ≤ r.buffer.unread.length then r.buffer.unread.take count
  else (r.entropy.slice r.entropy.position Entropy.blockSize).take count

/-- The reservoir that the next taking of `count` bytes leaves. -/
def after (count : Nat) (r : Reservoir) : Reservoir :=
  if count ≤ r.buffer.unread.length then { r with buffer := ⟨r.buffer.unread.drop count⟩ }
  else
    { entropy := { r.entropy with position := r.entropy.position + Entropy.blockSize }
      buffer := ⟨(r.entropy.slice r.entropy.position Entropy.blockSize).drop count⟩ }

@[simp] theorem after_byteAt (count : Nat) (r : Reservoir) :
    (r.after count).entropy.byteAt = r.entropy.byteAt := by
  unfold after
  split <;> rfl

@[simp] theorem after_patience (count : Nat) (r : Reservoir) :
    (r.after count).entropy.patience = r.entropy.patience := by
  unfold after
  split <;> rfl

end Reservoir

namespace Buffer

theorem take_eq (count : Nat) (r : Reservoir) :
    take count r = (.ok (r.handed count), r.after count) := by
  unfold take Reservoir.handed Reservoir.after
  rw [Run.bind_of_ok (Run.get_apply r)]
  -- Both branches set a state and return the bytes, so they agree by computation.
  by_cases h : count ≤ r.buffer.unread.length
  · simp only [if_pos h]
    rfl
  · simp only [if_neg h]
    rfl

/-- The redraw loop: look at values until one is acceptable, at no more than
    `patience` of them. -/
def scan (n : Nat) : (patience : Nat) → Reservoir → Except Halt Nat × Reservoir
  | 0, r => (.error .endless, r)
  | patience + 1, r =>
    if Accepts n (littleEndian (r.handed (width n))) then
      (.ok (littleEndian (r.handed (width n)) % n), r.after (width n))
    else scan n patience (r.after (width n))

theorem scan_of_accepts (n patience : Nat) (r : Reservoir)
    (h : Accepts n (littleEndian (r.handed (width n)))) :
    scan n (patience + 1) r
      = (.ok (littleEndian (r.handed (width n)) % n), r.after (width n)) := by
  rw [scan, if_pos h]

theorem scan_of_not_accepts (n patience : Nat) (r : Reservoir)
    (h : ¬ Accepts n (littleEndian (r.handed (width n)))) :
    scan n (patience + 1) r = scan n patience (r.after (width n)) := by
  rw [scan, if_neg h]

theorem drawByte_eq_scan (n : Nat) (hn : n ≤ 256) (patience : Nat) (r : Reservoir) :
    drawByte n patience r = scan n patience r := by
  induction patience generalizing r with
  | zero => rfl
  | succ k ih =>
      have hw : width n = 1 := if_pos hn
      have ha : Accepts n (littleEndian (r.handed 1)) ↔
          littleEndian (r.handed 1) ≤ byteCut n := by
        rw [Accepts, if_pos hn]
      rw [drawByte, Run.bind_of_ok (take_eq 1 r), scan, hw]
      by_cases h : littleEndian (r.handed 1) ≤ byteCut n
      · rw [if_pos h, if_pos (ha.mpr h), Run.pure_apply]
      · rw [if_neg h, if_neg (fun hc => h (ha.mp hc)), ih]

theorem drawWord_eq_scan (n : Nat) (hn : 256 < n) (patience : Nat) (r : Reservoir) :
    drawWord n patience r = scan n patience r := by
  induction patience generalizing r with
  | zero => rfl
  | succ k ih =>
      have hw : width n = 8 := if_neg (Nat.not_le.mpr hn)
      have ha : Accepts n (littleEndian (r.handed 8)) ↔
          wordCut n ≤ littleEndian (r.handed 8) := by
        rw [Accepts, if_neg (Nat.not_le.mpr hn)]
      rw [drawWord, Run.bind_of_ok (take_eq 8 r), scan, hw]
      by_cases h : wordCut n ≤ littleEndian (r.handed 8)
      · rw [if_pos h, if_pos (ha.mpr h), Run.pure_apply]
      · rw [if_neg h, if_neg (fun hc => h (ha.mp hc)), ih]

/-- A single choice leaves the reservoir alone. -/
theorem choose_one (r : Reservoir) : choose 1 r = (.ok 0, r) := rfl

/-- A draw among several choices is the redraw loop with the patience of the
    stream. -/
theorem choose_eq_scan (n : Nat) (hn : n ≠ 1) (r : Reservoir) :
    choose n r = scan n r.entropy.patience r := by
  have hne : (n == 1) = false := beq_eq_false_iff_ne.mpr hn
  unfold choose
  rw [hne]
  -- The choice between bytes and words is the one that `width` and `Accepts` make.
  by_cases h : n ≤ 256
  · rw [← drawByte_eq_scan n h]
    simp only [Bool.false_eq_true, if_false, if_pos h]
    rfl
  · rw [← drawWord_eq_scan n (by omega)]
    simp only [Bool.false_eq_true, if_false, if_neg h]
    rfl

/-- The source turns down a bound below one before it looks at anything. -/
theorem source_draw_of_nonpos (bound : Int) (h : bound ≤ 0) (r : Reservoir) :
    source.draw bound r = (.error (.fault .bufferedBound), r) := by
  unfold source
  simp only [if_pos h]
  rfl

theorem source_draw_eq (n : Nat) (hn : 0 < n) (r : Reservoir) :
    source.draw n r = ((choose n r).1.map Nat.cast, (choose n r).2) := by
  have hpos : ¬ (n : Int) ≤ 0 := by omega
  unfold source
  simp only [if_neg hpos, Int.toNat_natCast]
  rcases h : choose n r with ⟨e | v, r'⟩
  · exact Run.bind_of_error h
  · exact Run.bind_of_ok h

theorem scan_lt (n : Nat) (hn : 0 < n) (patience : Nat) (r r' : Reservoir) (v : Nat)
    (h : scan n patience r = (.ok v, r')) : v < n := by
  induction patience generalizing r with
  | zero => cases h
  | succ k ih =>
      by_cases ha : Accepts n (littleEndian (r.handed (width n)))
      · rw [scan_of_accepts n k r ha, Prod.mk.injEq, Except.ok.injEq] at h
        rw [← h.1]
        exact Nat.mod_lt _ hn
      · rw [scan_of_not_accepts n k r ha] at h
        exact ih _ h

theorem scan_error (n patience : Nat) (r r' : Reservoir) (e : Halt)
    (h : scan n patience r = (.error e, r')) : e = .endless := by
  induction patience generalizing r with
  | zero =>
      rw [scan, Prod.mk.injEq, Except.error.injEq] at h
      exact h.1.symm
  | succ k ih =>
      by_cases ha : Accepts n (littleEndian (r.handed (width n)))
      · rw [scan_of_accepts n k r ha] at h
        cases h
      · rw [scan_of_not_accepts n k r ha] at h
        exact ih _ h

/-- An answer lies below the number of choices. -/
theorem choose_lt (n : Nat) (hn : 0 < n) (r r' : Reservoir) (v : Nat)
    (h : choose n r = (.ok v, r')) : v < n := by
  by_cases h1 : n = 1
  · subst h1
    rw [choose_one, Prod.mk.injEq, Except.ok.injEq] at h
    omega
  · rw [choose_eq_scan n h1] at h
    exact scan_lt n hn _ r r' v h

/-- A draw halts only by looking on in vain, never with a fault. -/
theorem choose_error (n : Nat) (r r' : Reservoir) (e : Halt)
    (h : choose n r = (.error e, r')) : e = .endless := by
  by_cases h1 : n = 1
  · subst h1
    rw [choose_one] at h
    cases h
  · rw [choose_eq_scan n h1] at h
    exact scan_error n _ r r' e h

end Buffer

end Passforge
