import Mathlib.Data.List.Forall2
import Mathlib.Logic.Function.Basic
import Passforge.Hash.Stored
import Passforge.Proofs.Rejection

/-!
# Where Random Bytes Come From

Any number of buffered sources and any number of hash calls read one stream.
This module says which positions of the stream each of them looks at.

A buffer holds bytes, and a byte does not tell where it stood. So the bytes are
followed through a second machine whose buffers hold positions instead. It
takes the same turns as the sources do: `Trail.scan_reservoir` and
`Ledger.step_world` say that reading off the bytes at its positions gives the
sources back, answers and states alike.

That the machine leaves no position out is shown in two ways. What comes of a
use is decided by the bytes at its positions, and `Use.Decided` spells out how.
And a stream with other bytes everywhere else has the same outcomes,
`Ledger.run_outcomes_congr`.

## Main definitions

* `Trail`: A buffered source with positions for bytes.
* `Use`: A draw on one of the sources, or a hash call.
* `World`: The stream and the sources, with `World.run` for uses in turn.
* `Ledger`: The same with positions for bytes.
* `Use.Decided`: What a use makes of the bytes it looks at.

## Theorems

* `Trail.scan_reservoir`: A draw is the position machine with bytes read off.
* `Trail.scan_withBytes`: Bytes not looked at do not matter to a draw.
* `Ledger.step_world`: A use is a turn of the position machine.
* `Ledger.run_world`: Uses in turn are a run of the position machine.
* `Ledger.run_outcomes_congr`: Bytes not looked at do not matter to a run.
-/

namespace Passforge

/-- A buffered source whose unread bytes are known by their positions. -/
structure Trail where
  entropy : Entropy
  held : List Nat

namespace Trail

/-- The source, with the bytes read off at the positions. -/
def reservoir (t : Trail) : Reservoir :=
  ⟨t.entropy, ⟨t.held.map t.entropy.byteAt⟩⟩

/-- The positions that the next taking of `count` bytes hands out. -/
def handed (count : Nat) (t : Trail) : List Nat :=
  if count ≤ t.held.length then t.held.take count
  else (List.range' t.entropy.position Entropy.blockSize).take count

/-- What the next taking of `count` bytes leaves. -/
def after (count : Nat) (t : Trail) : Trail :=
  if count ≤ t.held.length then { t with held := t.held.drop count }
  else
    { entropy := { t.entropy with position := t.entropy.position + Entropy.blockSize }
      held := (List.range' t.entropy.position Entropy.blockSize).drop count }

/-- The redraw loop: the positions looked at, and what is left. -/
def scan (n : Nat) : (patience : Nat) → Trail → List Nat × Trail
  | 0, t => ([], t)
  | patience + 1, t =>
    if Buffer.Accepts n
        (Buffer.littleEndian ((t.handed (Buffer.width n)).map t.entropy.byteAt)) then
      (t.handed (Buffer.width n), t.after (Buffer.width n))
    else
      (t.handed (Buffer.width n) ++ (scan n patience (t.after (Buffer.width n))).1,
        (scan n patience (t.after (Buffer.width n))).2)

@[simp] theorem after_byteAt (count : Nat) (t : Trail) :
    (t.after count).entropy.byteAt = t.entropy.byteAt := by
  unfold after
  split <;> rfl

@[simp] theorem scan_byteAt (n patience : Nat) (t : Trail) :
    (t.scan n patience).2.entropy.byteAt = t.entropy.byteAt := by
  induction patience generalizing t with
  | zero => rfl
  | succ k ih =>
      rw [scan]
      split
      · exact after_byteAt _ t
      · rw [ih, after_byteAt]

theorem handed_reservoir (count : Nat) (t : Trail) :
    t.reservoir.handed count = (t.handed count).map t.entropy.byteAt := by
  unfold Reservoir.handed handed reservoir Entropy.slice
  rw [List.length_map]
  split <;> rw [List.map_take]

theorem after_reservoir (count : Nat) (t : Trail) :
    t.reservoir.after count = (t.after count).reservoir := by
  unfold Reservoir.after after reservoir Entropy.slice
  rw [List.length_map]
  split <;> rw [List.map_drop]

theorem length_handed (n : Nat) (t : Trail) :
    (t.handed (Buffer.width n)).length = Buffer.width n := by
  unfold handed
  have hw := Buffer.width_le_blockSize n
  by_cases h : Buffer.width n ≤ t.held.length
  · rw [if_pos h, List.length_take_of_le h]
  · rw [if_neg h, List.length_take_of_le (by rw [List.length_range']; exact hw)]

end Trail

/-- What a draw from `n` choices makes of the bytes it looks at: values turned
    down, and then one that is accepted. Or there were only as many as it had
    patience for. -/
inductive Buffer.Decides (n : Nat) : List UInt8 → Except Halt Nat → Prop where
  | tired : Decides n [] (.error .endless)
  | accepted (value : List UInt8) (hlen : value.length = width n)
      (h : Accepts n (littleEndian value)) : Decides n value (.ok (littleEndian value % n))
  | rejected (value rest : List UInt8) (x : Except Halt Nat) (hlen : value.length = width n)
      (h : ¬ Accepts n (littleEndian value)) (hrest : Decides n rest x) :
      Decides n (value ++ rest) x

/-- The bytes leave no choice. -/
theorem Buffer.Decides.unique {n : Nat} {bytes : List UInt8} {x y : Except Halt Nat}
    (hx : Decides n bytes x) (hy : Decides n bytes y) : x = y := by
  have hpos : 0 < width n := by
    unfold width
    split <;> omega
  -- Values have one width, so they can be told apart from the front.
  have hcut : ∀ value rest value' rest' : List UInt8, value.length = width n →
      value'.length = width n → value ++ rest = value' ++ rest' → value = value' ∧ rest = rest' :=
    fun _ _ _ _ h h' heq => List.append_inj heq (h.trans h'.symm)
  -- The induction is on how the bytes were looked at the first time.
  induction hx generalizing y with
  | tired =>
      generalize hb : ([] : List UInt8) = bytes at hy
      cases hy with
      | tired => rfl
      | accepted value hlen h =>
          rw [← hb, List.length_nil] at hlen
          omega
      | rejected value rest _ hlen h hrest =>
          rw [(List.append_eq_nil_iff.mp hb.symm).1, List.length_nil] at hlen
          omega
  | accepted value hlen h =>
      generalize hb : value = bytes at hy
      cases hy with
      | tired =>
          rw [hb, List.length_nil] at hlen
          omega
      | accepted _ hlen' h' => rfl
      | rejected value' rest' _ hlen' h' hrest' =>
          rw [← List.append_nil value] at hb
          rw [(hcut value [] value' rest' hlen hlen' hb).1] at h
          exact absurd h h'
  | rejected value rest x hlen h hrest ih =>
      generalize hb : value ++ rest = bytes at hy
      cases hy with
      | tired =>
          rw [(List.append_eq_nil_iff.mp hb).1, List.length_nil] at hlen
          omega
      | accepted _ hlen' h' =>
          rw [← List.append_nil bytes] at hb
          rw [← (hcut value rest bytes [] hlen hlen' hb).1] at h'
          exact absurd h' h
      | rejected value' rest' _ hlen' h' hrest' =>
          rcases hcut value rest value' rest' hlen hlen' hb with ⟨rfl, rfl⟩
          exact ih hrest'

namespace Trail

/-- Reading off the bytes at the positions gives the redraw loop back, and what
    it answers is decided by the bytes at the positions looked at. -/
theorem scan_reservoir (n patience : Nat) (t : Trail) :
    ∃ x, Buffer.scan n patience t.reservoir = (x, (t.scan n patience).2.reservoir) ∧
      Buffer.Decides n ((t.scan n patience).1.map t.entropy.byteAt) x := by
  induction patience generalizing t with
  | zero => exact ⟨_, rfl, .tired⟩
  | succ k ih =>
      have hlen : ((t.handed (Buffer.width n)).map t.entropy.byteAt).length = Buffer.width n := by
        rw [List.length_map, length_handed]
      by_cases h : Buffer.Accepts n
          (Buffer.littleEndian ((t.handed (Buffer.width n)).map t.entropy.byteAt))
      · rw [Buffer.scan_of_accepts n k _ (by rw [handed_reservoir]; exact h), scan, if_pos h,
          handed_reservoir, after_reservoir]
        exact ⟨_, rfl, .accepted _ hlen h⟩
      · rw [Buffer.scan_of_not_accepts n k _ (by rw [handed_reservoir]; exact h), scan, if_neg h,
          after_reservoir]
        -- The rest of the loop looks at later positions of the same stream.
        rcases ih (t.after (Buffer.width n)) with ⟨x, hx, hd⟩
        rw [after_byteAt] at hd
        refine ⟨x, hx, ?_⟩
        rw [List.map_append]
        exact .rejected _ _ x hlen h hd

/-- Other bytes at the same positions. -/
def withBytes (σ : Nat → UInt8) (t : Trail) : Trail :=
  { t with entropy := { t.entropy with byteAt := σ } }

theorem handed_withBytes (count : Nat) (t : Trail) (σ : Nat → UInt8) :
    (t.withBytes σ).handed count = t.handed count := rfl

theorem after_withBytes (count : Nat) (t : Trail) (σ : Nat → UInt8) :
    (t.withBytes σ).after count = (t.after count).withBytes σ := by
  unfold after withBytes
  simp only
  split <;> rfl

theorem handed_subset_scan (n patience : Nat) (t : Trail) :
    t.handed (Buffer.width n) ⊆ (t.scan n (patience + 1)).1 := by
  intro p hp
  rw [scan]
  split
  · exact hp
  · exact List.mem_append_left _ hp

/-- Whether the loop goes on hangs on the bytes it has looked at only. -/
theorem scan_withBytes (n patience : Nat) (t : Trail) (σ : Nat → UInt8)
    (h : ∀ p ∈ (t.scan n patience).1, σ p = t.entropy.byteAt p) :
    (t.withBytes σ).scan n patience
      = ((t.scan n patience).1, (t.scan n patience).2.withBytes σ) := by
  induction patience generalizing t with
  | zero => rfl
  | succ k ih =>
      have hbytes : (t.handed (Buffer.width n)).map (t.withBytes σ).entropy.byteAt
          = (t.handed (Buffer.width n)).map t.entropy.byteAt :=
        List.map_congr_left fun p hp => h p (handed_subset_scan n k t hp)
      rw [scan, handed_withBytes, after_withBytes, hbytes]
      by_cases ha : Buffer.Accepts n
          (Buffer.littleEndian ((t.handed (Buffer.width n)).map t.entropy.byteAt))
      · rw [if_pos ha, scan, if_pos ha]
      · -- Both loops turn the value down, and go on with what it leaves.
        rw [scan, if_neg ha] at h
        have hrest := ih (t.after (Buffer.width n)) fun p hp => by
          rw [after_byteAt]
          exact h p (List.mem_append_right _ hp)
        rw [if_neg ha, hrest, scan, if_neg ha]

end Trail

/-- What reads the stream: a draw on one of the sources, or a hash call, which
    takes its salt from there. -/
inductive Use (ι : Type) where
  | draw (i : ι) (bound : Int)
  | hash (p : Hash.HashParameters) (password : List UInt8)

/-- What comes of a use. -/
inductive Outcome where
  | drawn (x : Except Halt Int)
  | hashed (line : Except Halt String)

/-- One stream and the buffers of all sources on it. -/
structure World (ι : Type) where
  entropy : Entropy
  buffer : ι → Buffer

/-- The stored hash of a password with the given salt. -/
def hashWith (p : Hash.HashParameters) (password salt : List UInt8) : Except Halt String :=
  match Hash.deriveKey p.cost password salt p.keyLength with
  | .error f => .error (.fault f)
  | .ok key => .ok (Hash.StoredHash.text ⟨p.cost, salt, key⟩)

theorem hashPassword_eq (p : Hash.HashParameters) (password : List UInt8) (e : Entropy) :
    Hash.hashPassword p password e
      = (hashWith p password (e.slice e.position p.saltLength),
        { e with position := e.position + p.saltLength }) := by
  have hread : Entropy.read p.saltLength e = (.ok (e.slice e.position p.saltLength),
      { e with position := e.position + p.saltLength }) := rfl
  unfold Hash.hashPassword hashWith
  rw [Run.bind_of_ok hread]
  cases Hash.deriveKey p.cost password (e.slice e.position p.saltLength) p.keyLength with
  | error f => rfl
  | ok key => rfl

/-- What a use makes of the bytes it looks at. -/
def Use.Decided {ι : Type} : Use ι → List UInt8 → Outcome → Prop
  | .draw _ bound, bytes, .drawn x =>
    if bound ≤ 0 then bytes = [] ∧ x = .error (.fault .bufferedBound)
    else if bound = 1 then bytes = [] ∧ x = .ok 0
    else ∃ v, Buffer.Decides bound.toNat bytes v ∧ x = v.map Nat.cast
  | .hash p password, salt, .hashed line =>
    salt.length = p.saltLength ∧ line = hashWith p password salt
  | _, _, _ => False

theorem Use.Decided.unique {ι : Type} {u : Use ι} {bytes : List UInt8} {o o' : Outcome}
    (h : u.Decided bytes o) (h' : u.Decided bytes o') : o = o' := by
  match u, o, o', h, h' with
  | .draw i bound, .drawn x, .drawn y, h, h' =>
      simp only [Use.Decided] at h h'
      by_cases hnonpos : bound ≤ 0
      · rw [if_pos hnonpos] at h h'
        rw [h.2, h'.2]
      · by_cases hone : bound = 1
        · rw [if_neg hnonpos, if_pos hone] at h h'
          rw [h.2, h'.2]
        · rw [if_neg hnonpos, if_neg hone] at h h'
          rcases h with ⟨v, hv, rfl⟩
          rcases h' with ⟨v', hv', rfl⟩
          rw [hv.unique hv']
  | .hash p password, .hashed line, .hashed line', h, h' => rw [h.2, h'.2]

variable {ι : Type} [DecidableEq ι]

namespace World

/-- All sources are new. -/
def fresh (e : Entropy) : World ι :=
  ⟨e, fun _ => .empty⟩

/-- Makes one use of the stream. -/
def step (w : World ι) : Use ι → Outcome × World ι
  | .draw i bound =>
    let drawn := Buffer.source.draw bound ⟨w.entropy, w.buffer i⟩
    (.drawn drawn.1, ⟨drawn.2.entropy, Function.update w.buffer i drawn.2.buffer⟩)
  | .hash p password =>
    let hashed := Hash.hashPassword p password w.entropy
    (.hashed hashed.1, { w with entropy := hashed.2 })

theorem step_draw {w : World ι} {i : ι} {bound : Int} {x : Except Halt Int} {r : Reservoir}
    (h : Buffer.source.draw bound ⟨w.entropy, w.buffer i⟩ = (x, r)) :
    w.step (.draw i bound) = (.drawn x, ⟨r.entropy, Function.update w.buffer i r.buffer⟩) := by
  simp only [step, h]

/-- Makes uses of the stream in turn. -/
def run (w : World ι) : List (Use ι) → List Outcome × World ι
  | [] => ([], w)
  | u :: us => ((w.step u).1 :: ((w.step u).2.run us).1, ((w.step u).2.run us).2)

theorem run_append (w : World ι) (us vs : List (Use ι)) :
    w.run (us ++ vs)
      = ((w.run us).1 ++ ((w.run us).2.run vs).1, ((w.run us).2.run vs).2) := by
  induction us generalizing w with
  | nil => rfl
  | cons u us ih => rw [List.cons_append, run, ih, run, List.cons_append]

end World

/-- One stream and the sources on it, their unread bytes known by their
    positions. -/
structure Ledger (ι : Type) where
  entropy : Entropy
  held : ι → List Nat

namespace Ledger

/-- Nothing is read yet. -/
def fresh (e : Entropy) : Ledger ι :=
  ⟨e, fun _ => []⟩

/-- The bytes at the positions. -/
def world (l : Ledger ι) : World ι :=
  ⟨l.entropy, fun i => ⟨(l.held i).map l.entropy.byteAt⟩⟩

/-- Makes one use of the stream: the positions looked at, and what is left. -/
def step (l : Ledger ι) : Use ι → List Nat × Ledger ι
  | .draw i bound =>
    if bound ≤ 1 then ([], l)
    else
      let scanned := (Trail.mk l.entropy (l.held i)).scan bound.toNat l.entropy.patience
      (scanned.1, ⟨scanned.2.entropy, Function.update l.held i scanned.2.held⟩)
  | .hash p _ =>
    (List.range' l.entropy.position p.saltLength,
      { l with entropy := { l.entropy with position := l.entropy.position + p.saltLength } })

/-- Makes uses of the stream in turn. -/
def run (l : Ledger ι) : List (Use ι) → List (List Nat) × Ledger ι
  | [] => ([], l)
  | u :: us => ((l.step u).1 :: ((l.step u).2.run us).1, ((l.step u).2.run us).2)

/-- Other bytes at the same positions. -/
def withBytes (σ : Nat → UInt8) (l : Ledger ι) : Ledger ι :=
  { l with entropy := { l.entropy with byteAt := σ } }

theorem step_byteAt (l : Ledger ι) (u : Use ι) :
    (l.step u).2.entropy.byteAt = l.entropy.byteAt := by
  cases u with
  | draw i bound =>
      unfold step
      simp only
      split
      · rfl
      · exact Trail.scan_byteAt _ _ _
  | hash p password => rfl

theorem step_draw_of_le (l : Ledger ι) (i : ι) (bound : Int) (h : bound ≤ 1) :
    l.step (.draw i bound) = ([], l) := by
  simp only [step, if_pos h]

theorem step_draw_of_lt (l : Ledger ι) (i : ι) (n : Nat) (h : 1 < n) :
    l.step (.draw i n) = (((Trail.mk l.entropy (l.held i)).scan n l.entropy.patience).1,
      ⟨((Trail.mk l.entropy (l.held i)).scan n l.entropy.patience).2.entropy,
        Function.update l.held i
          ((Trail.mk l.entropy (l.held i)).scan n l.entropy.patience).2.held⟩) := by
  simp only [step, if_neg (show ¬ (n : Int) ≤ 1 by omega), Int.toNat_natCast]

theorem world_update (l : Ledger ι) (i : ι) (t : Trail) (h : t.entropy.byteAt = l.entropy.byteAt) :
    (Ledger.mk t.entropy (Function.update l.held i t.held)).world
      = ⟨t.entropy, Function.update l.world.buffer i t.reservoir.buffer⟩ := by
  have hbuffer : (fun j => Buffer.mk ((Function.update l.held i t.held j).map t.entropy.byteAt))
      = Function.update l.world.buffer i t.reservoir.buffer := by
    funext j
    -- The other sources keep their positions, and the stream keeps its bytes.
    by_cases hj : j = i
    · rw [hj, Function.update_self, Function.update_self]
      rfl
    · rw [Function.update_of_ne hj, Function.update_of_ne hj, h]
      rfl
  exact congrArg (World.mk t.entropy) hbuffer

/-- A use is a turn of the position machine with the bytes read off, and the
    bytes at the positions it looks at decide what comes of it. -/
theorem step_world (l : Ledger ι) (u : Use ι) :
    ∃ o, l.world.step u = (o, (l.step u).2.world) ∧
      u.Decided ((l.step u).1.map l.entropy.byteAt) o := by
  cases u with
  | draw i bound =>
      -- A bound below one is a fault and a single choice needs no byte.
      rcases Int.lt_trichotomy bound 1 with h | rfl | h
      · rw [step_draw_of_le l i bound (by omega),
          World.step_draw (Buffer.source_draw_of_nonpos bound (by omega) _),
          Function.update_eq_self]
        refine ⟨_, rfl, ?_⟩
        rw [Use.Decided, if_pos (by omega)]
        exact ⟨rfl, rfl⟩
      · have hdraw : Buffer.source.draw 1 ⟨l.world.entropy, l.world.buffer i⟩
            = (.ok 0, ⟨l.world.entropy, l.world.buffer i⟩) := rfl
        rw [step_draw_of_le l i 1 (by omega), World.step_draw hdraw, Function.update_eq_self]
        exact ⟨_, rfl, rfl, rfl⟩
      · rcases Int.eq_ofNat_of_zero_le (by omega : 0 ≤ bound) with ⟨n, rfl⟩
        rcases Trail.scan_reservoir n l.entropy.patience ⟨l.entropy, l.held i⟩ with ⟨x, hx, hd⟩
        have hdraw : Buffer.source.draw n ⟨l.world.entropy, l.world.buffer i⟩ = (x.map Nat.cast,
            ((Trail.mk l.entropy (l.held i)).scan n l.entropy.patience).2.reservoir) := by
          rw [Buffer.source_draw_eq n (by omega), Buffer.choose_eq_scan n (by omega)]
          exact congrArg (fun r => (r.1.map (Nat.cast : Nat → Int), r.2)) hx
        rw [step_draw_of_lt l i n (by omega), World.step_draw hdraw,
          world_update l i _ (Trail.scan_byteAt n l.entropy.patience ⟨l.entropy, l.held i⟩)]
        refine ⟨_, rfl, ?_⟩
        rw [Use.Decided, if_neg (by omega), if_neg (by omega), Int.toNat_natCast]
        exact ⟨x, hd, rfl⟩
  | hash p password =>
      refine ⟨.hashed (hashWith p password (l.entropy.slice l.entropy.position p.saltLength)),
        ?_, ?_, rfl⟩
      · simp only [World.step, world, hashPassword_eq, step]
      · simp only [step, List.length_map, List.length_range']

/-- Where a turn leads hangs on the bytes it looks at only. -/
theorem step_withBytes (l : Ledger ι) (u : Use ι) (σ : Nat → UInt8)
    (h : ∀ p ∈ (l.step u).1, σ p = l.entropy.byteAt p) :
    (l.withBytes σ).step u = ((l.step u).1, (l.step u).2.withBytes σ) := by
  cases u with
  | draw i bound =>
      rcases Int.lt_or_le 1 bound with hb | hb
      · rcases Int.eq_ofNat_of_zero_le (by omega : 0 ≤ bound) with ⟨n, rfl⟩
        rw [step_draw_of_lt l i n (by omega)] at h ⊢
        rw [step_draw_of_lt (l.withBytes σ) i n (by omega)]
        have hscan := Trail.scan_withBytes n l.entropy.patience ⟨l.entropy, l.held i⟩ σ h
        exact congrArg (fun s : List Nat × Trail =>
          (s.1, Ledger.mk s.2.entropy (Function.update l.held i s.2.held))) hscan
      · rw [step_draw_of_le _ i bound hb, step_draw_of_le _ i bound hb]
  | hash p password => rfl

/-- Making uses of the stream is running the position machine. -/
theorem run_world (l : Ledger ι) (us : List (Use ι)) :
    ∃ os, l.world.run us = (os, (l.run us).2.world) ∧
      List.Forall₂ (fun ub o => ub.1.Decided ub.2 o)
        (us.zip ((l.run us).1.map fun m => m.map l.entropy.byteAt)) os := by
  induction us generalizing l with
  | nil => exact ⟨[], rfl, .nil⟩
  | cons u us ih =>
      rcases step_world l u with ⟨o, ho, hd⟩
      rcases ih (l.step u).2 with ⟨os, hos, hds⟩
      rw [step_byteAt] at hds
      refine ⟨o :: os, ?_, .cons hd hds⟩
      rw [World.run, ho, hos]
      rfl

theorem run_withBytes (l : Ledger ι) (us : List (Use ι)) (σ : Nat → UInt8)
    (h : ∀ m ∈ (l.run us).1, ∀ p ∈ m, σ p = l.entropy.byteAt p) :
    ((l.withBytes σ).run us).1 = (l.run us).1 := by
  induction us generalizing l with
  | nil => rfl
  | cons u us ih =>
      rw [run, run, step_withBytes l u σ (h _ List.mem_cons_self)]
      simp only
      rw [ih (l.step u).2 fun m hm p hp => by
        rw [step_byteAt]
        exact h m (List.mem_cons_of_mem _ hm) p hp]

/-- Only the bytes looked at matter for what comes of a list of uses. -/
theorem run_outcomes_congr (l : Ledger ι) (us : List (Use ι)) (σ : Nat → UInt8)
    (h : ∀ m ∈ (l.run us).1, ∀ p ∈ m, σ p = l.entropy.byteAt p) :
    ((l.withBytes σ).world.run us).1 = (l.world.run us).1 := by
  rcases run_world l us with ⟨os, hos, hd⟩
  rcases run_world (l.withBytes σ) us with ⟨os', hos', hd'⟩
  have hbytes : (l.run us).1.map (fun m => m.map σ)
      = (l.run us).1.map fun m => m.map l.entropy.byteAt :=
    List.map_congr_left fun m hm => List.map_congr_left (h m hm)
  -- Both runs look at the same positions and find the same bytes there.
  have hσ : (l.withBytes σ).entropy.byteAt = σ := rfl
  rw [run_withBytes l us σ h, hσ, hbytes] at hd'
  rw [hos, hos']
  exact List.right_unique_forall₂' (fun _ _ _ h₁ h₂ => h₁.unique h₂) hd' hd

end Ledger

end Passforge
