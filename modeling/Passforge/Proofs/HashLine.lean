import Mathlib.Algebra.Group.Nat.Defs
import Passforge.Proofs.Numerals
import Passforge.Proofs.Provenance

/-!
# Stored Hashes Read Back

A stored hash is written by one set of rules and read by another. The writer
prints numbers in decimal, puts dollar signs between the parts and packs bytes
six bits to a character. The reader splits at dollar signs, skips blanks before
a number, stops at the first character that is no digit, and insists on spare
bits being zero. This module shows that the reader undoes the writer.

Bytes are followed through `Base64.sextets`, the six-bit values between the two
forms: the writer shows each value as a character and the reader looks the
character up again, so the two directions meet there, for every length of the
last group.

The parts can be told apart because no part holds a dollar sign. A number ends
where the reader takes it to end because a comma or nothing at all follows.

A password is checked against a line by deriving the key once more from what
the line holds. The length of the new key is that of the stored one, so the two
derivations are the same only if a derived key has the length it was asked for.

## Main definitions

* `Base64.sextets`: The six-bit values of bytes.
* `CostParameters.Fits`: The numbers are within what a line can hold.
* `keyFault?`: What stands in the way of a key.

## Theorems

* `Base64.decode_encode`: Packed bytes unpack.
* `StoredHash.readNat_digits`: A printed number reads back.
* `StoredHash.parse_text`: A stored hash reads back from its line.
* `exists_deriveKey`: A derived key has the length asked for.
* `hashWith_verifies`: A password belongs to the line it was hashed to.
* `hash_line_reads_back`: Hashing succeeds, and its line reads back.
-/

namespace Passforge.Hash

/-- Characters that can stand inside a part of a line, and inside a line of a
    table. -/
def Plain (cs : List Char) : Prop :=
  ∀ c ∈ cs, c ≠ '\t' ∧ c ≠ '\n' ∧ c ≠ '$'

instance (cs : List Char) : Decidable (Plain cs) :=
  List.decidableBAll (fun c => c ≠ '\t' ∧ c ≠ '\n' ∧ c ≠ '$') cs

theorem Plain.append {cs ds : List Char} (h : Plain cs) (h' : Plain ds) : Plain (cs ++ ds) := by
  intro c hc
  rcases List.mem_append.mp hc with hc | hc
  · exact h c hc
  · exact h' c hc

theorem Plain.dollar {cs : List Char} (h : Plain cs) : '$' ∉ cs :=
  fun hc => (h _ hc).2.2 rfl

namespace Base64

/-- The six-bit values of bytes, the spare bits of the last one zero. -/
def sextets : List UInt8 → List Nat
  | [] => []
  | [a] => [a.toNat / 4, a.toNat % 4 * 16]
  | [a, b] => [a.toNat / 4, a.toNat % 4 * 16 + b.toNat / 16, b.toNat % 16 * 4]
  | a :: b :: c :: rest =>
    a.toNat / 4 :: (a.toNat % 4 * 16 + b.toNat / 16) :: (b.toNat % 16 * 4 + c.toNat / 64) ::
      (c.toNat % 64) :: sextets rest

theorem encode_eq_map_sextets (bytes : List UInt8) : encode bytes = (sextets bytes).map digit := by
  fun_induction encode bytes with
  | case1 => rfl
  | case2 a => rfl
  | case3 a b => rfl
  | case4 a b c rest ih =>
      rw [sextets, List.map_cons, List.map_cons, List.map_cons, List.map_cons, ih]

theorem sextets_lt (bytes : List UInt8) : ∀ n ∈ sextets bytes, n < 64 := by
  fun_induction sextets bytes with
  | case1 => exact fun n h => absurd h List.not_mem_nil
  | case2 a =>
      have ha := a.toNat_lt
      simp only [List.mem_cons, List.not_mem_nil, or_false, forall_eq_or_imp, forall_eq]
      omega
  | case3 a b =>
      have ha := a.toNat_lt
      have hb := b.toNat_lt
      simp only [List.mem_cons, List.not_mem_nil, or_false, forall_eq_or_imp, forall_eq]
      omega
  | case4 a b c rest ih =>
      have ha := a.toNat_lt
      have hb := b.toNat_lt
      have hc := c.toNat_lt
      simp only [List.mem_cons, forall_eq_or_imp]
      exact ⟨by omega, by omega, by omega, by omega, ih⟩

/-- The character of a value is looked up as that value. -/
theorem value?_digit : ∀ n < 64, value? (digit n) = some n := by decide

theorem digit_ne_break : ∀ n < 64, ¬ (digit n == '\n' || digit n == '\r') = true := by decide

theorem values_map_digit (ns : List Nat) (h : ∀ n ∈ ns, n < 64) (place : Nat) :
    values place (ns.map digit) = .ok ns := by
  induction ns generalizing place with
  | nil => rfl
  | cons n ns ih =>
      have hn : n < 64 := h n List.mem_cons_self
      rw [List.map_cons, values, if_neg (digit_ne_break n hn), value?_digit n hn]
      simp only
      rw [ih (fun m hm => h m (List.mem_cons_of_mem n hm))]
      rfl

theorem ofNat_eq (a : UInt8) (n : Nat) (h : n = a.toNat) : UInt8.ofNat n = a := by
  rw [h, UInt8.ofNat_toNat]

/-- Groups of six-bit values give the bytes back, the spare bits of the last
    group being zero. -/
theorem groups_sextets (length : Nat) (bytes : List UInt8) :
    groups length (sextets bytes) = .ok bytes := by
  fun_induction sextets bytes with
  | case1 => rfl
  | case2 a =>
      have ha := a.toNat_lt
      rw [groups, if_pos (beq_iff_eq.mpr (by omega)), ofNat_eq a _ (by omega)]
  | case3 a b =>
      have ha := a.toNat_lt
      have hb := b.toNat_lt
      rw [groups, if_pos (beq_iff_eq.mpr (by omega)), ofNat_eq a _ (by omega),
        ofNat_eq b _ (by omega)]
  | case4 a b c rest ih =>
      have ha := a.toNat_lt
      have hb := b.toNat_lt
      have hc := c.toNat_lt
      rw [groups, ih, ofNat_eq a _ (by omega), ofNat_eq b _ (by omega), ofNat_eq c _ (by omega)]
      rfl

/-- Packed bytes unpack. -/
theorem decode_encode (bytes : List UInt8) : decode (encode bytes) = .ok bytes := by
  unfold decode
  rw [encode_eq_map_sextets, values_map_digit _ (sextets_lt bytes)]
  exact groups_sextets _ bytes

theorem digit_plain : ∀ n < 64, digit n ≠ '\t' ∧ digit n ≠ '\n' ∧ digit n ≠ '$' := by decide

theorem encode_plain (bytes : List UInt8) : Plain (encode bytes) := by
  intro c hc
  rw [encode_eq_map_sextets] at hc
  rcases List.mem_map.mp hc with ⟨n, hn, rfl⟩
  exact digit_plain n (sextets_lt bytes n hn)

end Base64

/-- The numbers are within what a line can hold. -/
structure CostParameters.Fits (c : CostParameters) : Prop where
  memory : c.memory < 2 ^ 32
  passes : c.passes < 2 ^ 32
  lanes : c.lanes < 2 ^ 8

namespace StoredHash

theorem expect_append (fixed cs : List Char) : expect fixed (fixed ++ cs) = .ok cs := by
  induction fixed with
  | nil => rfl
  | cons f fixed ih => rw [List.cons_append, expect, if_pos (beq_self_eq_true f), ih]

theorem digits_plain (n : Nat) : Plain (Nat.toDigits 10 n) := by
  intro c hc
  have hrange := Number.toNat_of_isDigit (Number.isDigit_of_mem_digits hc)
  refine ⟨?_, ?_, ?_⟩ <;> rintro rfl <;> exact absurd hrange (by decide)

/-- A printed number reads back if what follows it can not be taken for one of
    its digits. -/
theorem readNat_digits (bound n : Nat) (rest : List Char) (hn : n < bound)
    (hrest : ∀ c ∈ rest.head?, c.isDigit = false) :
    readNat bound (Nat.toDigits 10 n ++ rest) = .ok (n, rest) := by
  have hdigits : ∀ c ∈ Nat.toDigits 10 n, c.isDigit = true := fun c => Number.isDigit_of_mem_digits
  have hend : rest.takeWhile Char.isDigit = [] ∧ rest.dropWhile Char.isDigit = rest := by
    cases rest with
    | nil => exact ⟨rfl, rfl⟩
    | cons c rest =>
        have hc := hrest c rfl
        exact ⟨List.takeWhile_cons_of_neg (by rw [hc]; decide),
          List.dropWhile_cons_of_neg (by rw [hc]; decide)⟩
  have hvalue : (Nat.toDigits 10 n).foldl (fun n c => 10 * n + (c.toNat - 48)) 0 = n :=
    Nat.ofDigitChars_toDigits (by decide) (by decide)
  have hguard : ¬ ((Nat.toDigits 10 n).isEmpty || decide (bound ≤ n)) = true := by
    rw [Bool.or_eq_true, List.isEmpty_iff, decide_eq_true_eq]
    rintro (hc | hc)
    · exact Nat.toDigits_ne_nil hc
    · omega
  unfold readNat
  simp only [List.takeWhile_append_of_pos hdigits, List.dropWhile_append_of_pos hdigits, hend.1,
    hend.2, List.append_nil, hvalue]
  rw [if_neg hguard]

/-- A printed number starts with no blank. -/
theorem skipBlanks_digits (n : Nat) (rest : List Char) :
    skipBlanks (Nat.toDigits 10 n ++ rest) = .ok (Nat.toDigits 10 n ++ rest) := by
  rcases h : Nat.toDigits 10 n with _ | ⟨c, cs⟩
  · exact absurd h Nat.toDigits_ne_nil
  · have hc : c ∈ Nat.toDigits 10 n := by rw [h]; exact List.mem_cons_self
    have hrange := Number.toNat_of_isDigit (Number.isDigit_of_mem_digits hc)
    have hbreak : ¬ (c == '\n') = true := by
      rw [beq_iff_eq]
      exact (digits_plain n c hc).2.1
    have hblank : ¬ Text.isBlank c = true := by
      simp only [Text.isBlank, Bool.or_eq_true, Bool.and_eq_true, decide_eq_true_eq, beq_iff_eq]
      omega
    rw [List.cons_append, skipBlanks, if_neg hbreak, if_neg hblank]

/-- A field reads back from its name and its number. -/
theorem readField_digits (fixed : List Char) (bound n : Nat) (rest : List Char) (hn : n < bound)
    (hrest : ∀ c ∈ rest.head?, c.isDigit = false) :
    readField fixed bound (fixed ++ (Nat.toDigits 10 n ++ rest)) = .ok (n, rest) := by
  unfold readField
  rw [expect_append]
  change (skipBlanks (Nat.toDigits 10 n ++ rest) >>= readNat bound) = _
  rw [skipBlanks_digits]
  exact readNat_digits bound n rest hn hrest

/-- The part of a line with the cost parameters. -/
def costPart (c : CostParameters) : List Char :=
  ['m', '='] ++ (Nat.toDigits 10 c.memory ++ ([',', 't', '='] ++ (Nat.toDigits 10 c.passes ++
    ([',', 'p', '='] ++ (Nat.toDigits 10 c.lanes ++ [])))))

theorem readCost_costPart (c : CostParameters) (h : c.Fits) : readCost (costPart c) = .ok c := by
  have hcomma : ∀ fixed cs : List Char, fixed.head? = some ',' →
      ∀ d ∈ (fixed ++ cs).head?, d.isDigit = false := by
    intro fixed cs hfixed d hd
    rw [List.head?_append, hfixed] at hd
    cases hd
    decide
  -- Each number is read up to the comma before the next field.
  unfold readCost costPart
  rw [readField_digits _ (Number.twoTo 32) _ _ h.memory (hcomma [',', 't', '='] _ rfl)]
  change (readField [',', 't', '='] (Number.twoTo 32) _ >>= _) = _
  rw [readField_digits _ (Number.twoTo 32) _ _ h.passes (hcomma [',', 'p', '='] _ rfl)]
  change (readField [',', 'p', '='] (Number.twoTo 8) _ >>= _) = _
  rw [readField_digits _ (Number.twoTo 8) _ _ h.lanes (fun d hd => by cases hd)]
  rfl

theorem costPart_plain (c : CostParameters) : Plain (costPart c) := by
  refine Plain.append (by decide) (Plain.append (digits_plain _) ?_)
  refine Plain.append (by decide) (Plain.append (digits_plain _) ?_)
  exact Plain.append (by decide) (Plain.append (digits_plain _) (by decide))

/-- The characters of a line, part by part. -/
theorem toList_text (h : StoredHash) :
    h.text.toList = '$' :: ("argon2id".toList ++ '$' :: ("v=19".toList ++ '$' ::
      (costPart h.cost ++ '$' :: (Base64.encode h.salt ++ '$' :: Base64.encode h.key)))) := by
  have hversion : Nat.toDigits 10 19 = ['1', '9'] := by decide
  unfold text costPart
  simp only [String.toList_append, String.toList_ofList, toString, functionVersion, Nat.repr,
    hversion]
  simp

/-- A stored hash reads back from its line. -/
theorem parse_text (h : StoredHash) (hfits : h.cost.Fits) : parse h.text = .ok h := by
  -- No part holds a dollar sign, so each ends at the next one.
  have hparts : h.text.toList.splitOn '$' = [[], "argon2id".toList, "v=19".toList, costPart h.cost,
      Base64.encode h.salt, Base64.encode h.key] := by
    rw [toList_text, ← List.nil_append ('$' :: _),
      List.splitOn_append_cons_self_of_not_mem List.not_mem_nil,
      List.splitOn_append_cons_self_of_not_mem (by decide),
      List.splitOn_append_cons_self_of_not_mem (by decide),
      List.splitOn_append_cons_self_of_not_mem (costPart_plain _).dollar,
      List.splitOn_append_cons_self_of_not_mem (Base64.encode_plain _).dollar,
      List.splitOn_eq_singleton (Base64.encode_plain _).dollar]
  have hbytes : ∀ bytes, readBytes (Base64.encode bytes) = .ok bytes := fun bytes => by
    unfold readBytes
    rw [Base64.decode_encode]
  unfold parse
  rw [hparts]
  simp only [readCost_costPart h.cost hfits, hbytes]
  rfl

/-- No tab and no line break stands in a line. -/
theorem text_plain (h : StoredHash) (c : Char) (hc : c ∈ h.text.toList) : c ≠ '\t' ∧ c ≠ '\n' := by
  have hdollar : c = '$' → c ≠ '\t' ∧ c ≠ '\n' := by
    rintro rfl
    decide
  have hplain : ∀ cs, Plain cs → c ∈ cs → c ≠ '\t' ∧ c ≠ '\n' :=
    fun cs hcs hmem => ⟨(hcs c hmem).1, (hcs c hmem).2.1⟩
  rw [toList_text] at hc
  simp only [List.mem_cons, List.mem_append] at hc
  rcases hc with hc | hc | hc | hc | hc | hc | hc | hc | hc | hc
  · exact hdollar hc
  · exact hplain _ (by decide) hc
  · exact hdollar hc
  · exact hplain _ (by decide) hc
  · exact hdollar hc
  · exact hplain _ (costPart_plain _) hc
  · exact hdollar hc
  · exact hplain _ (Base64.encode_plain _) hc
  · exact hdollar hc
  · exact hplain _ (Base64.encode_plain _) hc

end StoredHash

theorem length_flatMap_wordBytes (ws : List UInt64) :
    (ws.flatMap wordBytes).length = 8 * ws.length := by
  induction ws with
  | nil => rfl
  | cons w ws ih =>
      have hw : (wordBytes w).length = 8 := rfl
      rw [List.flatMap_cons, List.length_append, ih, hw, List.length_cons]
      omega

theorem Blake2b.length_digest (size : Nat) (data : List UInt8) (h : size ≤ 64) :
    (Blake2b.digest size data).length = size := by
  unfold Blake2b.digest
  rw [List.length_take, length_flatMap_wordBytes, Vector.length_toList]
  omega

/-- Half digests are strung together until the rest fits one digest. -/
theorem length_chainedDigest (size : Nat) (data : List UInt8) :
    (chainedDigest size data).length = size := by
  fun_induction chainedDigest size data with
  | case1 size data h => exact Blake2b.length_digest size data h
  | case2 size data h next ih =>
      have hnext : next.length = 64 := Blake2b.length_digest 64 data (Nat.le_refl 64)
      rw [List.length_append, List.length_take, hnext, ih]
      omega

/-- What stands in the way of a key, whatever the password and the salt. -/
def keyFault? (cost : CostParameters) (size : Nat) : Option Fault :=
  if cost.passes == 0 then some .noPasses
  else if cost.lanes == 0 then some .noLanes
  else if size == 0 then some .emptyKey
  else none

theorem keyFault?_eq_none_iff (cost : CostParameters) (size : Nat) :
    keyFault? cost size = none ↔ 1 ≤ cost.passes ∧ 1 ≤ cost.lanes ∧ 1 ≤ size := by
  unfold keyFault?
  simp only [beq_iff_eq]
  split
  · simp only [reduceCtorEq, false_iff]
    omega
  · split
    · simp only [reduceCtorEq, false_iff]
      omega
    · split
      · simp only [reduceCtorEq, false_iff]
        omega
      · simp only [true_iff]
        omega

theorem deriveKey_of_fault {cost : CostParameters} {size : Nat} {f : Fault}
    (h : keyFault? cost size = some f) (password salt : List UInt8) :
    deriveKey cost password salt size = .error f := by
  unfold keyFault? at h
  unfold deriveKey
  by_cases hpasses : (cost.passes == 0) = true
  · rw [if_pos hpasses] at h ⊢
    cases h
    rfl
  · rw [if_neg hpasses] at h ⊢
    by_cases hlanes : (cost.lanes == 0) = true
    · rw [if_pos hlanes] at h ⊢
      cases h
      rfl
    · rw [if_neg hlanes] at h ⊢
      by_cases hsize : (size == 0) = true
      · rw [if_pos hsize] at h ⊢
        cases h
        rfl
      · rw [if_neg hsize] at h
        cases h

/-- A key has the length asked for. -/
theorem exists_deriveKey {cost : CostParameters} {size : Nat} (h : keyFault? cost size = none)
    (password salt : List UInt8) :
    ∃ key, deriveKey cost password salt size = .ok key ∧ key.length = size := by
  rcases (keyFault?_eq_none_iff cost size).mp h with ⟨hpasses, hlanes, hsize⟩
  unfold deriveKey
  rw [if_neg (by rw [beq_iff_eq]; omega), if_neg (by rw [beq_iff_eq]; omega),
    if_neg (by rw [beq_iff_eq]; omega)]
  exact ⟨_, rfl, length_chainedDigest size _⟩

/-- A password belongs to a line that holds its key. -/
theorem verify_text (h : StoredHash) (hfits : h.cost.Fits) (password : List UInt8)
    (hkey : deriveKey h.cost password h.salt h.key.length = .ok h.key) :
    verifyPassword password h.text = .ok (.ok true) := by
  unfold verifyPassword
  rw [StoredHash.parse_text h hfits]
  simp only [hkey, beq_self_eq_true]

theorem hashWith_of_fault {p : HashParameters} {f : Fault}
    (h : keyFault? p.cost p.keyLength = some f) (password salt : List UInt8) :
    hashWith p password salt = .error (.fault f) := by
  unfold hashWith
  rw [deriveKey_of_fault h]

/-- The line of a password holds the cost, the salt and the key derived from
    them. -/
theorem exists_hashWith {p : HashParameters} (h : keyFault? p.cost p.keyLength = none)
    (password salt : List UInt8) :
    ∃ key, hashWith p password salt = .ok (StoredHash.text ⟨p.cost, salt, key⟩) ∧
      deriveKey p.cost password salt p.keyLength = .ok key ∧ key.length = p.keyLength := by
  rcases exists_deriveKey h password salt with ⟨key, hderive, hlength⟩
  refine ⟨key, ?_, hderive, hlength⟩
  unfold hashWith
  rw [hderive]

/-- A password belongs to the line it was hashed to. -/
theorem hashWith_verifies {p : HashParameters} {password salt : List UInt8} {line : String}
    (hfits : p.cost.Fits) (hline : hashWith p password salt = .ok line) :
    verifyPassword password line = .ok (.ok true) := by
  rcases hfault : keyFault? p.cost p.keyLength with _ | f
  · rcases exists_hashWith hfault password salt with ⟨key, hhash, hderive, hlength⟩
    rw [hline, Except.ok.injEq] at hhash
    rw [hhash]
    refine verify_text ⟨p.cost, salt, key⟩ hfits password ?_
    rw [hlength]
    exact hderive
  · rw [hashWith_of_fault hfault] at hline
    cases hline

theorem hashWith_plain {p : HashParameters} {password salt : List UInt8} {line : String}
    (hline : hashWith p password salt = .ok line) : ∀ c ∈ line.toList, c ≠ '\t' ∧ c ≠ '\n' := by
  unfold hashWith at hline
  split at hline
  · cases hline
  · cases hline
    exact StoredHash.text_plain _

/-- Hashing succeeds for all parameters a line can hold that allow a key at all,
    and the password belongs to its line. The line is the function with its
    version, the three numbers in decimal, and salt and key in base64. It reads
    back as exactly these, whatever the bytes; so no two stored hashes have the
    same line. -/
theorem hash_line_reads_back :
    (∀ (p : HashParameters) (password : List UInt8) (e : Entropy),
      p.cost.memory < 2 ^ 32 → 1 ≤ p.cost.passes → p.cost.passes < 2 ^ 32 →
      1 ≤ p.cost.lanes → p.cost.lanes ≤ 255 → 1 ≤ p.keyLength →
        ∃ (line : String) (key : List UInt8),
          hashPassword p password e
            = (.ok line, { e with position := e.position + p.saltLength }) ∧
          verifyPassword password line = .ok (.ok true) ∧
          StoredHash.parse line = .ok ⟨p.cost, e.slice e.position p.saltLength, key⟩ ∧
          deriveKey p.cost password (e.slice e.position p.saltLength) p.keyLength = .ok key ∧
          key.length = p.keyLength) ∧
    (∀ h : StoredHash, h.text = "$argon2id$v=19$m=" ++ toString h.cost.memory ++ ",t=" ++
      toString h.cost.passes ++ ",p=" ++ toString h.cost.lanes ++ "$" ++
      String.ofList (Base64.encode h.salt) ++ "$" ++ String.ofList (Base64.encode h.key)) ∧
    (∀ h : StoredHash, h.cost.Fits → StoredHash.parse h.text = .ok h) ∧
    ∀ h h' : StoredHash, h.cost.Fits → h'.cost.Fits → h.text = h'.text → h = h' := by
  refine ⟨fun p password e hm ht ht' hp hp' hk => ?_, fun h => ?_, StoredHash.parse_text,
    fun h h' hh hh' heq => ?_⟩
  · have hfits : p.cost.Fits := ⟨hm, ht', by omega⟩
    have hkey := (keyFault?_eq_none_iff p.cost p.keyLength).mpr ⟨ht, hp, hk⟩
    rcases exists_hashWith hkey password (e.slice e.position p.saltLength) with
      ⟨key, hhash, hderive, hlength⟩
    refine ⟨_, key, ?_, hashWith_verifies hfits hhash, StoredHash.parse_text _ hfits, hderive,
      hlength⟩
    rw [hashPassword_eq, hhash]
  · rfl
  · have hread := StoredHash.parse_text h hh
    rw [heq, StoredHash.parse_text h' hh', Except.ok.injEq] at hread
    exact hread.symm

/-- The largest numbers a line can hold, no salt, and a key of one byte. -/
theorem hash_line_reads_back_at_limits :
    let p : HashParameters := ⟨⟨2 ^ 32 - 1, 2 ^ 32 - 1, 255⟩, 0, 1⟩
    let e : Entropy := ⟨UInt8.ofNat, 0, 1⟩
    ∃ line, hashPassword p [0x66, 0xff] e = (.ok line, e) ∧
      verifyPassword [0x66, 0xff] line = .ok (.ok true) := by
  intro p e
  rcases hash_line_reads_back.1 p [0x66, 0xff] e (by decide) (by decide) (by decide) (by decide)
    (by decide) (by decide) with ⟨line, key, hhash, hverify, -⟩
  exact ⟨line, hhash, hverify⟩

end Passforge.Hash
