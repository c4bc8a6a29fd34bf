import Mathlib.Data.List.TakeWhile
import Passforge.Proofs.Run
import Passforge.Proofs.StrictBase64

/-!
# Which Lines Can Be Checked

What comes of checking a password, for every line that someone may have stored.
A line is read part by part, and the first part that is wrong decides the
error. What is read may still be no basis for a key: no pass over the memory,
no lane or an empty key stop the derivation at once.

The readers of numbers are lenient. Blanks may stand before a number, zeros may
lead it, and what follows the last number of a part is ignored. What they accept
is said here by how the part is put together, not by how it is read: `Field` is
a fixed text, blanks, digits, and a rest that goes on with no further digit.
Salt and key are strict, and are said by what writing them gives. `Describes`
puts the parts of a good line together, and `Refused` goes through the ways a
line can be bad, in the order in which they count.

The two are opposites. Each of them determines what reading the line gives, and
for every line there is one of them; so reading succeeds exactly as described
and fails exactly as refused.

## Main definitions

* `StoredHash.Spells`: A number in decimal digits.
* `StoredHash.Field`: A number behind a fixed text.
* `StoredHash.ShowsVersion`, `StoredHash.ShowsCost`: The parts with numbers.
* `StoredHash.Describes`: A line that holds a stored hash.
* `StoredHash.Flawed`, `StoredHash.Refused`: A line that does not, and the error
  it gives.

## Theorems

* `StoredHash.readNat_eq_ok_iff`, `StoredHash.readField_eq_ok_iff`: When a
  number can be read.
* `StoredHash.readVersion_eq_ok_iff`, `StoredHash.readCost_eq_ok_iff`: When the
  parts with numbers can be read.
* `StoredHash.parse_of_describes`, `StoredHash.parse_of_refused`: What reading
  a line gives.
* `StoredHash.describes_or_refused`: There is no third kind of line.
* `faults_only_on_degenerate_hashes`: What comes of checking a password.
-/

namespace Passforge.Hash

namespace StoredHash

/-- Decimal digits, at least one, with the number they spell. -/
def Spells (digits : List Char) (n : Nat) : Prop :=
  digits ≠ [] ∧ (∀ c ∈ digits, c.isDigit = true) ∧ Nat.ofDigitChars 10 digits 0 = n

/-- Blanks without a line break. -/
def Blanks (cs : List Char) : Prop :=
  ∀ c ∈ cs, Text.isBlank c = true ∧ c ≠ '\n'

/-- The text does not go on with a digit. -/
def Stops (cs : List Char) : Prop :=
  ∀ c ∈ cs.head?, c.isDigit = false

instance (digits : List Char) (n : Nat) : Decidable (Spells digits n) :=
  have : Decidable (∀ c ∈ digits, c.isDigit = true) :=
    List.decidableBAll (fun c => c.isDigit = true) digits
  inferInstanceAs (Decidable (_ ∧ _ ∧ _))

instance (cs : List Char) : Decidable (Blanks cs) :=
  List.decidableBAll (fun c => Text.isBlank c = true ∧ c ≠ '\n') cs

instance (cs : List Char) : Decidable (Stops cs) :=
  Option.decidableForallMem cs.head?

/-- A fixed text, blanks, the digits of `n`, and then `rest`. -/
def Field (fixed : List Char) (n : Nat) (cs rest : List Char) : Prop :=
  ∃ blanks digits, cs = fixed ++ (blanks ++ (digits ++ rest)) ∧ Blanks blanks ∧
    Spells digits n ∧ Stops rest

/-- The part with the version: a number with an optional sign that fits 64
    bits, and whatever follows it. -/
def ShowsVersion (part : List Char) (v : Int) : Prop :=
  ∃ blanks sign digits rest n,
    part = ['v', '='] ++ (blanks ++ (sign ++ (digits ++ rest))) ∧ Blanks blanks ∧
      Spells digits n ∧ Stops rest ∧
      ((sign = [] ∨ sign = ['+']) ∧ n < 2 ^ 63 ∧ v = n ∨ sign = ['-'] ∧ n ≤ 2 ^ 63 ∧ v = -n)

/-- The part with the cost parameters: three numbers within their bounds, and
    whatever follows them. -/
def ShowsCost (part : List Char) (cost : CostParameters) : Prop :=
  cost.Fits ∧ ∃ rest₁ rest₂ rest₃, Field ['m', '='] cost.memory part rest₁ ∧
    Field [',', 't', '='] cost.passes rest₁ rest₂ ∧ Field [',', 'p', '='] cost.lanes rest₂ rest₃

/-- The line holds the stored hash `h`. -/
def Describes (line : String) (h : StoredHash) : Prop :=
  ∃ front version cost salt key,
    line.toList.splitOn '$' = [front, "argon2id".toList, version, cost, salt, key] ∧
      ShowsVersion version functionVersion ∧ ShowsCost cost h.cost ∧
      Base64.unbroken salt = Base64.encode h.salt ∧ Base64.unbroken key = Base64.encode h.key

/-- The parts behind the name of the function do not describe a stored hash, and
    the first thing wrong with them is this. -/
inductive Flawed (version cost salt key : List Char) : StoredHashError → Prop
  | versionNumber (h : ∀ v, ¬ ShowsVersion version v) : Flawed version cost salt key .number
  | version (v : Int) (hv : ShowsVersion version v) (h : v ≠ functionVersion) :
      Flawed version cost salt key .version
  | costNumber (hv : ShowsVersion version functionVersion) (h : ∀ c, ¬ ShowsCost cost c) :
      Flawed version cost salt key .number
  | salt (c : CostParameters) (place : Nat) (hv : ShowsVersion version functionVersion)
      (hc : ShowsCost cost c) (h : Base64.Broken salt place) :
      Flawed version cost salt key (.encoding place)
  | key (c : CostParameters) (bytes : List UInt8) (place : Nat)
      (hv : ShowsVersion version functionVersion) (hc : ShowsCost cost c)
      (hsalt : Base64.unbroken salt = Base64.encode bytes) (h : Base64.Broken key place) :
      Flawed version cost salt key (.encoding place)

/-- The line holds no stored hash, and the first thing wrong with it is this. -/
inductive Refused (line : String) : StoredHashError → Prop
  | parts (h : (line.toList.splitOn '$').length ≠ 6) : Refused line .format
  | variant (front function version cost salt key : List Char)
      (hline : line.toList.splitOn '$' = [front, function, version, cost, salt, key])
      (h : function ≠ "argon2id".toList) : Refused line .variant
  | flawed (front version cost salt key : List Char) (e : StoredHashError)
      (hline : line.toList.splitOn '$' = [front, "argon2id".toList, version, cost, salt, key])
      (h : Flawed version cost salt key e) : Refused line e

theorem expect_eq_ok_iff (fixed cs rest : List Char) :
    expect fixed cs = .ok rest ↔ cs = fixed ++ rest := by
  induction fixed generalizing cs with
  | nil => rw [expect, Except.ok.injEq, List.nil_append]
  | cons f fixed ih =>
      rcases cs with _ | ⟨c, cs⟩
      · rw [expect]
        simp
      · rw [expect]
        by_cases hfc : f = c
        · rw [if_pos (beq_iff_eq.mpr hfc), ih, hfc, List.cons_append, List.cons_inj_right]
        · rw [if_neg (by simpa using hfc)]
          simp [Ne.symm hfc]

/-- Blanks are skipped as far as they go. -/
theorem skipBlanks_eq_ok_iff (cs rest : List Char) :
    skipBlanks cs = .ok rest ↔
      ∃ blanks, cs = blanks ++ rest ∧ Blanks blanks ∧ ∀ c ∈ rest.head?, Text.isBlank c = false := by
  induction cs with
  | nil =>
      rw [skipBlanks, Except.ok.injEq]
      constructor
      · rintro rfl
        exact ⟨[], rfl, fun c hc => absurd hc List.not_mem_nil, fun c hc => by cases hc⟩
      · rintro ⟨blanks, h, -⟩
        exact (List.append_eq_nil_iff.mp h.symm).2.symm
  | cons c cs ih =>
      rw [skipBlanks]
      -- A line break can neither be skipped nor be left, since it is blank itself.
      by_cases hline : c = '\n'
      · rw [if_pos (beq_iff_eq.mpr hline)]
        constructor
        · intro h
          cases h
        · rintro ⟨blanks, h, hblanks, hrest⟩
          rcases blanks with _ | ⟨b, blanks⟩
          · rw [List.nil_append] at h
            rw [← h, hline] at hrest
            exact absurd (hrest '\n' rfl) (by decide)
          · rw [List.cons_append, List.cons.injEq] at h
            exact absurd (h.1.symm.trans hline) (hblanks b List.mem_cons_self).2
      rw [if_neg (by simpa using hline)]
      by_cases hblank : Text.isBlank c = true
      · rw [if_pos hblank, ih]
        constructor
        · rintro ⟨blanks, rfl, hblanks, hrest⟩
          exact ⟨c :: blanks, rfl, List.forall_mem_cons.mpr ⟨⟨hblank, hline⟩, hblanks⟩, hrest⟩
        · rintro ⟨blanks, h, hblanks, hrest⟩
          rcases blanks with _ | ⟨b, blanks⟩
          · rw [List.nil_append] at h
            rw [← h] at hrest
            rw [hrest c rfl] at hblank
            cases hblank
          · rw [List.cons_append, List.cons.injEq] at h
            exact ⟨blanks, h.2, (List.forall_mem_cons.mp hblanks).2, hrest⟩
      · rw [if_neg hblank, Except.ok.injEq]
        constructor
        · rintro rfl
          refine ⟨[], rfl, fun d hd => absurd hd List.not_mem_nil, fun d hd => ?_⟩
          cases hd
          simpa using hblank
        · rintro ⟨blanks, h, hblanks, hrest⟩
          rcases blanks with _ | ⟨b, blanks⟩
          · exact h
          · rw [List.cons_append, List.cons.injEq] at h
            rw [h.1] at hblank
            exact absurd (hblanks b List.mem_cons_self).1 hblank

theorem Stops.takeWhile {rest : List Char} (h : Stops rest) :
    rest.takeWhile Char.isDigit = [] ∧ rest.dropWhile Char.isDigit = rest := by
  rcases rest with _ | ⟨c, rest⟩
  · exact ⟨rfl, rfl⟩
  · have hc : c.isDigit = false := h c rfl
    simp [hc]

theorem stops_dropWhile (cs : List Char) : Stops (cs.dropWhile Char.isDigit) := by
  intro c hc
  have hhead := List.head?_dropWhile_not Char.isDigit cs
  rw [Option.mem_def] at hc
  rw [hc] at hhead
  exact hhead

theorem readNat_eq_ok_iff (bound : Nat) (cs : List Char) (n : Nat) (rest : List Char) :
    readNat bound cs = .ok (n, rest) ↔
      n < bound ∧ ∃ digits, cs = digits ++ rest ∧ Spells digits n ∧ Stops rest := by
  unfold readNat
  constructor
  · intro h
    simp only at h
    split at h
    · cases h
    · rename_i hguard
      rw [Except.ok.injEq, Prod.mk.injEq] at h
      rw [Bool.or_eq_true, List.isEmpty_iff, decide_eq_true_eq, h.1, not_or, Nat.not_le] at hguard
      rw [← h.2]
      -- The digits are taken as far as they go, so no digit follows them.
      refine ⟨hguard.2, cs.takeWhile Char.isDigit, List.takeWhile_append_dropWhile.symm,
        ⟨hguard.1, fun c hc => List.mem_takeWhile_imp hc, h.1⟩, stops_dropWhile cs⟩
  · rintro ⟨hn, digits, rfl, ⟨hne, hdigits, hvalue⟩, hstops⟩
    have hguard : ¬ (digits.isEmpty || decide (bound ≤ n)) = true := by
      rw [Bool.or_eq_true, List.isEmpty_iff, decide_eq_true_eq, not_or]
      exact ⟨hne, by omega⟩
    have hfold : digits.foldl (fun n c => 10 * n + (c.toNat - 48)) 0 = n := hvalue
    simp only [List.takeWhile_append_of_pos hdigits, List.dropWhile_append_of_pos hdigits,
      hstops.takeWhile.1, hstops.takeWhile.2, List.append_nil, hfold]
    rw [if_neg hguard]

/-- A digit is no blank. -/
theorem isBlank_of_isDigit {c : Char} (h : c.isDigit = true) : Text.isBlank c = false := by
  have hrange := Number.toNat_of_isDigit h
  simp only [Text.isBlank, Bool.or_eq_false_iff, Bool.and_eq_false_iff, decide_eq_false_iff_not,
    beq_eq_false_iff_ne]
  omega

/-- A numeral starts with no blank. -/
theorem Spells.head {digits : List Char} {n : Nat} (h : Spells digits n) (rest : List Char) :
    ∀ c ∈ (digits ++ rest).head?, Text.isBlank c = false := by
  rcases h with ⟨hne, hdigits, -⟩
  rcases digits with _ | ⟨d, digits⟩
  · exact absurd rfl hne
  · intro c hc
    cases hc
    exact isBlank_of_isDigit (hdigits d List.mem_cons_self)

theorem readField_eq_ok_iff (fixed : List Char) (bound : Nat) (cs : List Char) (n : Nat)
    (rest : List Char) :
    readField fixed bound cs = .ok (n, rest) ↔ n < bound ∧ Field fixed n cs rest := by
  unfold readField
  simp only [bind_eq_ok_iff, expect_eq_ok_iff, skipBlanks_eq_ok_iff, readNat_eq_ok_iff]
  constructor
  · rintro ⟨_, rfl, _, ⟨blanks, rfl, hblanks, -⟩, hn, digits, rfl, hspells, hstops⟩
    exact ⟨hn, blanks, digits, rfl, hblanks, hspells, hstops⟩
  · rintro ⟨hn, blanks, digits, rfl, hblanks, hspells, hstops⟩
    exact ⟨_, rfl, _, ⟨blanks, rfl, hblanks, hspells.head rest⟩, hn, digits, rfl, hspells, hstops⟩

theorem readCost_eq_ok_iff (part : List Char) (cost : CostParameters) :
    readCost part = .ok cost ↔ ShowsCost part cost := by
  unfold readCost
  simp only [bind_eq_ok_iff, Prod.exists, readField_eq_ok_iff]
  constructor
  · rintro ⟨m, rest₁, ⟨hm, hmemory⟩, t, rest₂, ⟨ht, hpasses⟩, p, rest₃, ⟨hp, hlanes⟩, h⟩
    cases h
    exact ⟨⟨hm, ht, hp⟩, rest₁, rest₂, rest₃, hmemory, hpasses, hlanes⟩
  · rintro ⟨⟨hm, ht, hp⟩, rest₁, rest₂, rest₃, hmemory, hpasses, hlanes⟩
    exact ⟨_, rest₁, ⟨hm, hmemory⟩, _, rest₂, ⟨ht, hpasses⟩, _, rest₃, ⟨hp, hlanes⟩, rfl⟩

theorem readInt_eq_ok_iff (cs : List Char) (v : Int) :
    readInt cs = .ok v ↔ ∃ sign digits rest n, cs = sign ++ (digits ++ rest) ∧ Spells digits n ∧
      Stops rest ∧ ((sign = [] ∨ sign = ['+']) ∧ n < 2 ^ 63 ∧ v = n ∨
        sign = ['-'] ∧ n ≤ 2 ^ 63 ∧ v = -n) := by
  constructor
  · intro h
    unfold readInt at h
    split at h
    · rcases (map_eq_ok_iff _ _ _).mp h with ⟨⟨n, rest⟩, hread, rfl⟩
      rcases (readNat_eq_ok_iff _ _ _ _).mp hread with ⟨hn, digits, rfl, hspells, hstops⟩
      have hle : n ≤ 2 ^ 63 := Nat.lt_succ_iff.mp hn
      exact ⟨['-'], digits, rest, n, rfl, hspells, hstops, Or.inr ⟨rfl, hle, rfl⟩⟩
    · rcases (map_eq_ok_iff _ _ _).mp h with ⟨⟨n, rest⟩, hread, rfl⟩
      rcases (readNat_eq_ok_iff _ _ _ _).mp hread with ⟨hn, digits, rfl, hspells, hstops⟩
      exact ⟨['+'], digits, rest, n, rfl, hspells, hstops, Or.inl ⟨Or.inr rfl, hn, rfl⟩⟩
    · rcases (map_eq_ok_iff _ _ _).mp h with ⟨⟨n, rest⟩, hread, rfl⟩
      rcases (readNat_eq_ok_iff _ _ _ _).mp hread with ⟨hn, digits, rfl, hspells, hstops⟩
      exact ⟨[], digits, rest, n, rfl, hspells, hstops, Or.inl ⟨Or.inl rfl, hn, rfl⟩⟩
  · rintro ⟨sign, digits, rest, n, rfl, hspells, hstops,
      ⟨rfl | rfl, hn, rfl⟩ | ⟨rfl, hn, rfl⟩⟩
    -- Without a sign the text starts with a digit, so it is read as it stands.
    · have hread : readNat (Number.twoTo 63) (digits ++ rest) = .ok (n, rest) :=
        (readNat_eq_ok_iff _ _ _ _).mpr ⟨hn, digits, rfl, hspells, hstops⟩
      rcases hspells with ⟨hne, hdigits, -⟩
      rcases digits with _ | ⟨d, digits⟩
      · exact absurd rfl hne
      have hd := Number.toNat_of_isDigit (hdigits d List.mem_cons_self)
      unfold readInt
      split
      · rename_i heq
        cases heq
        exact absurd hd (by decide)
      · rename_i heq
        cases heq
        exact absurd hd (by decide)
      · exact (map_eq_ok_iff _ _ _).mpr ⟨(n, rest), hread, rfl⟩
    · exact (map_eq_ok_iff _ _ _).mpr
        ⟨(n, rest), (readNat_eq_ok_iff _ _ _ _).mpr ⟨hn, digits, rfl, hspells, hstops⟩, rfl⟩
    · exact (map_eq_ok_iff _ _ _).mpr
        ⟨(n, rest), (readNat_eq_ok_iff _ _ _ _).mpr
          ⟨Nat.lt_succ_of_le hn, digits, rfl, hspells, hstops⟩, rfl⟩

theorem readVersion_eq_ok_iff (part : List Char) (v : Int) :
    readVersion part = .ok v ↔ ShowsVersion part v := by
  unfold readVersion
  simp only [bind_eq_ok_iff, expect_eq_ok_iff, skipBlanks_eq_ok_iff, readInt_eq_ok_iff]
  constructor
  · rintro ⟨_, rfl, _, ⟨blanks, rfl, hblanks, -⟩, sign, digits, rest, n, rfl, hspells, hstops, hv⟩
    exact ⟨blanks, sign, digits, rest, n, rfl, hblanks, hspells, hstops, hv⟩
  · rintro ⟨blanks, sign, digits, rest, n, rfl, hblanks, hspells, hstops, hv⟩
    refine ⟨_, rfl, _, ⟨blanks, rfl, hblanks, ?_⟩, sign, digits, rest, n, rfl, hspells, hstops, hv⟩
    -- Neither a sign nor a digit is blank.
    rcases hv with ⟨rfl | rfl, -⟩ | ⟨rfl, -⟩
    · exact hspells.head rest
    · intro c hc
      cases hc
      rfl
    · intro c hc
      cases hc
      rfl

/-- The reader fails for no other reason than a number that cannot be read. -/
def FailsByNumber {α : Type} (x : Except StoredHashError α) : Prop :=
  ∀ e, x = .error e → e = .number

theorem FailsByNumber.bind {α β : Type} {x : Except StoredHashError α}
    {f : α → Except StoredHashError β} (hx : FailsByNumber x) (hf : ∀ a, FailsByNumber (f a)) :
    FailsByNumber (x >>= f) := by
  intro e h
  rcases x with e' | a
  · cases h
    exact hx _ rfl
  · exact hf a e h

theorem FailsByNumber.map {α β : Type} {x : Except StoredHashError α} (hx : FailsByNumber x)
    (f : α → β) : FailsByNumber (f <$> x) := by
  intro e h
  rcases x with e' | a
  · cases h
    exact hx _ rfl
  · cases h

theorem expect_failsByNumber (fixed cs : List Char) : FailsByNumber (expect fixed cs) := by
  intro e h
  fun_induction expect fixed cs with
  | case1 => cases h
  | case2 f fixed c cs hfc ih => exact ih h
  | case3 f fixed c cs hfc =>
      cases h
      rfl
  | case4 f fixed =>
      cases h
      rfl

theorem skipBlanks_failsByNumber (cs : List Char) : FailsByNumber (skipBlanks cs) := by
  intro e h
  fun_induction skipBlanks cs with
  | case1 => cases h
  | case2 c rest hline =>
      cases h
      rfl
  | case3 c rest hline hblank ih => exact ih h
  | case4 c rest hline hblank => cases h

theorem readNat_failsByNumber (bound : Nat) (cs : List Char) :
    FailsByNumber (readNat bound cs) := by
  intro e h
  unfold readNat at h
  simp only at h
  split at h
  · cases h
    rfl
  · cases h

theorem readVersion_failsByNumber (part : List Char) : FailsByNumber (readVersion part) := by
  refine (expect_failsByNumber _ _).bind fun cs => (skipBlanks_failsByNumber cs).bind fun cs => ?_
  unfold readInt
  split
  · exact (readNat_failsByNumber _ _).map _
  · exact (readNat_failsByNumber _ _).map _
  · exact (readNat_failsByNumber _ _).map _

theorem readField_failsByNumber (fixed : List Char) (bound : Nat) (cs : List Char) :
    FailsByNumber (readField fixed bound cs) :=
  (expect_failsByNumber _ _).bind fun cs =>
    (skipBlanks_failsByNumber cs).bind fun cs => readNat_failsByNumber bound cs

theorem readCost_failsByNumber (part : List Char) : FailsByNumber (readCost part) := by
  refine (readField_failsByNumber _ _ _).bind fun memory => ?_
  refine (readField_failsByNumber _ _ _).bind fun passes => ?_
  refine (readField_failsByNumber _ _ _).bind fun lanes => ?_
  intro e h
  cases h

theorem readBytes_eq_ok_iff (part : List Char) (bytes : List UInt8) :
    readBytes part = .ok bytes ↔ Base64.unbroken part = Base64.encode bytes := by
  rw [← Base64.decode_eq_ok_iff]
  unfold readBytes
  rcases Base64.decode part with place | found
  · simp only [reduceCtorEq]
  · simp only [Except.ok.injEq]

theorem readBytes_of_broken {part : List Char} {place : Nat} (h : Base64.Broken part place) :
    readBytes part = .error (.encoding place) := by
  unfold readBytes
  rw [(Base64.decode_eq_error_iff part place).mpr h]

/-- A part is base64 or goes wrong somewhere. -/
theorem unbroken_or_broken (part : List Char) :
    (∃ bytes, Base64.unbroken part = Base64.encode bytes) ∨ ∃ place, Base64.Broken part place := by
  rcases h : Base64.decode part with place | bytes
  · exact Or.inr ⟨place, (Base64.decode_eq_error_iff part place).mp h⟩
  · exact Or.inl ⟨bytes, (Base64.decode_eq_ok_iff part bytes).mp h⟩

/-- What is left to read once the function is the right one. -/
theorem parse_of_function {line : String} {front version cost salt key : List Char}
    (hline : line.toList.splitOn '$' = [front, "argon2id".toList, version, cost, salt, key]) :
    parse line = (readVersion version >>= fun v =>
      if v != functionVersion then .error .version
      else readCost cost >>= fun c => readBytes salt >>= fun s => readBytes key >>= fun k =>
        .ok ⟨c, s, k⟩) := by
  unfold parse
  rw [hline]
  simp only [bne_self_eq_false, Bool.false_eq_true, if_false]
  -- Leaving early for another version is a plain conditional once the version is known.
  rcases readVersion version with e | v
  · rfl
  · by_cases hv : (v != functionVersion) = true
    · change (if (v != functionVersion) = true then _ else _) = ite _ _ _
      rw [if_pos hv, if_pos hv]
      rfl
    · change (if (v != functionVersion) = true then _ else _) = ite _ _ _
      rw [if_neg hv, if_neg hv]
      rfl

/-- What is left to read once the version is the right one, too. -/
theorem parse_of_version {line : String} {front version cost salt key : List Char}
    (hline : line.toList.splitOn '$' = [front, "argon2id".toList, version, cost, salt, key])
    (hv : ShowsVersion version functionVersion) :
    parse line = (readCost cost >>= fun c => readBytes salt >>= fun s => readBytes key >>= fun k =>
      .ok ⟨c, s, k⟩) := by
  rw [parse_of_function hline, (readVersion_eq_ok_iff _ _).mpr hv]
  rfl

theorem parse_of_describes {line : String} {h : StoredHash} (hdescribes : Describes line h) :
    parse line = .ok h := by
  rcases hdescribes with ⟨front, version, cost, salt, key, hline, hv, hc, hs, hk⟩
  rw [parse_of_version hline hv, (readCost_eq_ok_iff _ _).mpr hc,
    (readBytes_eq_ok_iff _ _).mpr hs, (readBytes_eq_ok_iff _ _).mpr hk]
  rfl

/-- A reader of numbers that accepts nothing reports a number. -/
theorem FailsByNumber.eq_error {α : Type} {x : Except StoredHashError α} (hx : FailsByNumber x)
    (h : ∀ a, x ≠ .ok a) : x = .error .number := by
  rcases x with e | a
  · rw [hx e rfl]
  · exact absurd rfl (h a)

theorem parse_of_flawed {line : String} {front version cost salt key : List Char}
    {e : StoredHashError}
    (hline : line.toList.splitOn '$' = [front, "argon2id".toList, version, cost, salt, key])
    (h : Flawed version cost salt key e) : parse line = .error e := by
  cases h with
  | versionNumber h =>
      rw [parse_of_function hline, (readVersion_failsByNumber version).eq_error fun v hv =>
        h v ((readVersion_eq_ok_iff _ _).mp hv)]
      rfl
  | version v hv h =>
      rw [parse_of_function hline, (readVersion_eq_ok_iff _ _).mpr hv]
      exact if_pos (bne_iff_ne.mpr h)
  | costNumber hv h =>
      rw [parse_of_version hline hv, (readCost_failsByNumber cost).eq_error fun c hc =>
        h c ((readCost_eq_ok_iff _ _).mp hc)]
      rfl
  | salt c place hv hc h =>
      rw [parse_of_version hline hv, (readCost_eq_ok_iff _ _).mpr hc, readBytes_of_broken h]
      rfl
  | key c bytes place hv hc hsalt h =>
      rw [parse_of_version hline hv, (readCost_eq_ok_iff _ _).mpr hc,
        (readBytes_eq_ok_iff _ _).mpr hsalt, readBytes_of_broken h]
      rfl

theorem parse_of_refused {line : String} {e : StoredHashError} (h : Refused line e) :
    parse line = .error e := by
  cases h with
  | parts h =>
      unfold parse
      split
      · rename_i heq
        exact absurd (by rw [heq]; rfl) h
      · rfl
  | variant front function version cost salt key hline h =>
      unfold parse
      rw [hline]
      exact if_pos (bne_iff_ne.mpr h)
  | flawed front version cost salt key e hline h => exact parse_of_flawed hline h

/-- Six parts with the right function describe a stored hash or are flawed. The
    cases follow the parts from the left. -/
theorem describes_or_flawed {line : String} {front version cost salt key : List Char}
    (hline : line.toList.splitOn '$' = [front, "argon2id".toList, version, cost, salt, key]) :
    (∃ h, Describes line h) ∨ ∃ e, Flawed version cost salt key e := by
  by_cases hversion : ∃ v, ShowsVersion version v
  case neg => exact Or.inr ⟨_, .versionNumber fun v hv => hversion ⟨v, hv⟩⟩
  rcases hversion with ⟨v, hv⟩
  by_cases h19 : v = functionVersion
  case neg => exact Or.inr ⟨_, .version v hv h19⟩
  rw [h19] at hv
  by_cases hcost : ∃ c, ShowsCost cost c
  case neg => exact Or.inr ⟨_, .costNumber hv fun c hc => hcost ⟨c, hc⟩⟩
  rcases hcost with ⟨c, hc⟩
  rcases unbroken_or_broken salt with ⟨s, hs⟩ | ⟨place, hplace⟩
  case inr => exact Or.inr ⟨_, .salt c place hv hc hplace⟩
  rcases unbroken_or_broken key with ⟨k, hk⟩ | ⟨place, hplace⟩
  case inr => exact Or.inr ⟨_, .key c s place hv hc hs hplace⟩
  exact Or.inl ⟨⟨c, s, k⟩, front, version, cost, salt, key, hline, hv, hc, hs, hk⟩

theorem exists_of_length_eq_six {α : Type} {l : List α} (h : l.length = 6) :
    ∃ a b c d e f, l = [a, b, c, d, e, f] := by
  match l, h with
  | [a, b, c, d, e, f], _ => exact ⟨a, b, c, d, e, f, rfl⟩

theorem describes_or_refused (line : String) :
    (∃ h, Describes line h) ∨ ∃ e, Refused line e := by
  by_cases hsix : (line.toList.splitOn '$').length = 6
  case neg => exact Or.inr ⟨_, .parts hsix⟩
  rcases exists_of_length_eq_six hsix with ⟨front, function, version, cost, salt, key, hline⟩
  by_cases hfunction : function = "argon2id".toList
  case neg => exact Or.inr ⟨_, .variant front function version cost salt key hline hfunction⟩
  rw [hfunction] at hline
  rcases describes_or_flawed hline with h | ⟨e, he⟩
  · exact Or.inl h
  · exact Or.inr ⟨e, .flawed front version cost salt key e hline he⟩

/-- Reading a line succeeds exactly as it describes. -/
theorem parse_eq_ok_iff (line : String) (h : StoredHash) :
    parse line = .ok h ↔ Describes line h := by
  refine ⟨fun hparse => ?_, parse_of_describes⟩
  rcases describes_or_refused line with ⟨h', hdescribes⟩ | ⟨e, hrefused⟩
  · rw [parse_of_describes hdescribes, Except.ok.injEq] at hparse
    rw [← hparse]
    exact hdescribes
  · rw [parse_of_refused hrefused] at hparse
    cases hparse

/-- Reading a line fails exactly as it is refused. -/
theorem parse_eq_error_iff (line : String) (e : StoredHashError) :
    parse line = .error e ↔ Refused line e := by
  refine ⟨fun hparse => ?_, parse_of_refused⟩
  rcases describes_or_refused line with ⟨h, hdescribes⟩ | ⟨e', hrefused⟩
  · rw [parse_of_describes hdescribes] at hparse
    cases hparse
  · rw [parse_of_refused hrefused, Except.error.injEq] at hparse
    rw [← hparse]
    exact hrefused

end StoredHash

theorem verify_eq_error_iff (password : List UInt8) (line : String) (e : StoredHashError) :
    verifyPassword password line = .ok (.error e) ↔ StoredHash.Refused line e := by
  rw [← StoredHash.parse_eq_error_iff]
  unfold verifyPassword
  rcases StoredHash.parse line with e' | h
  · simp only [Except.ok.injEq, Except.error.injEq]
  · rcases hkey : deriveKey h.cost password h.salt h.key.length with f | key
    · simp [hkey]
    · simp [hkey]

/-- What stands in the way of a key decides between a fault and a verdict. -/
theorem verify_of_describes {line : String} {h : StoredHash}
    (hdescribes : StoredHash.Describes line h) (password : List UInt8) :
    (∀ f, keyFault? h.cost h.key.length = some f → verifyPassword password line = .error f) ∧
      (keyFault? h.cost h.key.length = none →
        ∃ key, deriveKey h.cost password h.salt h.key.length = .ok key ∧
          verifyPassword password line = .ok (.ok (key == h.key))) := by
  unfold verifyPassword
  rw [(StoredHash.parse_eq_ok_iff line h).mpr hdescribes]
  refine ⟨fun f hf => ?_, fun hnone => ?_⟩
  · simp only [deriveKey_of_fault hf]
  · rcases exists_deriveKey hnone password h.salt with ⟨key, hkey, -⟩
    simp only [hkey]
    exact ⟨key, rfl, rfl⟩

/-- Checking a password comes to a fault for a line that describes a stored
    hash without passes, without lanes or with an empty key, and for no other
    line. A line that describes none gives the error for the first thing wrong
    with it: the number of parts, the function, the version, the cost
    parameters, the salt, the key. Every other line gives a verdict, whether the
    key derived from the password is the one in the line. -/
theorem faults_only_on_degenerate_hashes (password : List UInt8) (line : String) :
    ((∃ f, verifyPassword password line = .error f) ↔
      ∃ h, StoredHash.Describes line h ∧
        (h.cost.passes = 0 ∨ h.cost.lanes = 0 ∨ h.key = [])) ∧
    (∀ e, verifyPassword password line = .ok (.error e) ↔ StoredHash.Refused line e) ∧
    ∀ h, StoredHash.Describes line h → h.cost.passes ≠ 0 → h.cost.lanes ≠ 0 → h.key ≠ [] →
      ∃ key, deriveKey h.cost password h.salt h.key.length = .ok key ∧
        verifyPassword password line = .ok (.ok (key == h.key)) := by
  have hkey : ∀ h : StoredHash, keyFault? h.cost h.key.length = none ↔
      h.cost.passes ≠ 0 ∧ h.cost.lanes ≠ 0 ∧ h.key ≠ [] := by
    intro h
    rw [keyFault?_eq_none_iff, Nat.one_le_iff_ne_zero, Nat.one_le_iff_ne_zero,
      Nat.one_le_iff_ne_zero, Ne, Ne, Ne, List.length_eq_zero_iff]
  refine ⟨⟨?_, ?_⟩, verify_eq_error_iff password line, fun h hdescribes hpasses hlanes hne =>
    (verify_of_describes hdescribes password).2 ((hkey h).mpr ⟨hpasses, hlanes, hne⟩)⟩
  · rintro ⟨f, hf⟩
    rcases StoredHash.describes_or_refused line with ⟨h, hdescribes⟩ | ⟨e, hrefused⟩
    · refine ⟨h, hdescribes, ?_⟩
      by_contra hsound
      rw [not_or, not_or] at hsound
      rcases (verify_of_describes hdescribes password).2 ((hkey h).mpr hsound) with
        ⟨key, -, hverify⟩
      rw [hverify] at hf
      cases hf
    · rw [(verify_eq_error_iff password line e).mpr hrefused] at hf
      cases hf
  · rintro ⟨h, hdescribes, hdegenerate⟩
    rcases hfault : keyFault? h.cost h.key.length with _ | f
    · rcases (hkey h).mp hfault with ⟨hpasses, hlanes, hne⟩
      rcases hdegenerate with hzero | hzero | hzero
      · exact absurd hzero hpasses
      · exact absurd hzero hlanes
      · exact absurd hzero hne
    · exact ⟨f, (verify_of_describes hdescribes password).1 f hfault⟩

/-- Two lines with the same numbers, written with a sign, a leading zero, blanks
    and a tail in the first. Its key part holds a line break and nothing else,
    so the key is empty; the key of the second is one byte. -/
theorem faults_only_on_degenerate_hashes_of_break :
    (∃ f, verifyPassword [7] "$argon2id$v= +019x$m=8,t= 01,p=1!$$\n" = .error f) ∧
      ∃ key, deriveKey ⟨8, 1, 1⟩ [7] [] 1 = .ok key ∧
        verifyPassword [7] "$argon2id$v=19$m=8,t=1,p=1$$AA" = .ok (.ok (key == [0])) := by
  have hbreak :
      StoredHash.Describes "$argon2id$v= +019x$m=8,t= 01,p=1!$$\n" ⟨⟨8, 1, 1⟩, [], []⟩ := by
    refine ⟨[], "v= +019x".toList, "m=8,t= 01,p=1!".toList, [], ['\n'], by decide +kernel, ?_,
      ⟨⟨by decide, by decide, by decide⟩, ",t= 01,p=1!".toList, ",p=1!".toList, ['!'], ?_, ?_, ?_⟩,
      rfl, rfl⟩
    · exact ⟨[' '], ['+'], ['0', '1', '9'], ['x'], 19, rfl, by decide, by decide, by decide,
        Or.inl ⟨Or.inr rfl, by decide, rfl⟩⟩
    · exact ⟨[], ['8'], rfl, by decide, by decide, by decide⟩
    · exact ⟨[' '], ['0', '1'], rfl, by decide, by decide, by decide⟩
    · exact ⟨[], ['1'], rfl, by decide, by decide, by decide⟩
  have hplain : StoredHash.Describes "$argon2id$v=19$m=8,t=1,p=1$$AA" ⟨⟨8, 1, 1⟩, [], [0]⟩ := by
    refine ⟨[], "v=19".toList, "m=8,t=1,p=1".toList, [], ['A', 'A'], by decide +kernel, ?_,
      ⟨⟨by decide, by decide, by decide⟩, ",t=1,p=1".toList, ",p=1".toList, [], ?_, ?_, ?_⟩,
      rfl, rfl⟩
    · exact ⟨[], [], ['1', '9'], [], 19, rfl, by decide, by decide, by decide,
        Or.inl ⟨Or.inl rfl, by decide, rfl⟩⟩
    · exact ⟨[], ['8'], rfl, by decide, by decide, by decide⟩
    · exact ⟨[], ['1'], rfl, by decide, by decide, by decide⟩
    · exact ⟨[], ['1'], rfl, by decide, by decide, by decide⟩
  exact ⟨(faults_only_on_degenerate_hashes [7] _).1.mpr ⟨_, hbreak, Or.inr (Or.inr rfl)⟩,
    (faults_only_on_degenerate_hashes [7] _).2.2 _ hplain (by decide) (by decide) (by decide)⟩

end Passforge.Hash
