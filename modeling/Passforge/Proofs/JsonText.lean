import Mathlib.Data.List.Forall2
import Passforge.Json.Parser
import Passforge.Proofs.Keys
import Passforge.Settings.Dump

/-!
# Printed Objects Read Back

What the program prints in object notation, it reads as what it printed: texts,
numbers, truth values, and objects over several lines.

A printed value stands before a comma or a line end, which is what stops the
reader of numbers. Two limits go along, one on steps and one on nesting. A
value needs no more steps than it has characters, so a bound on the former by
the latter is kept by every part of an object, and the parts of a member leave
enough characters over for the step that reads it.

## Main definitions

* `Closes`: What comes after a printed value.
* `Reads`: The text of a value.

## Theorems

* `textBody_flatMap_escape`: A printed text reads back.
* `reads_toJson`: A printed value of a setting reads back.
* `reads_object`: A printed object reads back if its members do.
-/

namespace Passforge

/-- A value of a setting as an override gives it. -/
def Scalar.toJsonValue : Scalar → Json.Value
  | .text s => .text s
  | .number n => .number (Number.signedDigits n)
  | .flag b => .boolean b

namespace Json

section Texts

theorem hexNumber?_lowerHex {c : Char} (h : c.toNat < 65536) :
    Text.hexNumber? (Text.lowerHex 4 c.toNat) = some c.toNat :=
  Text.hexNumber?_four Text.lowerHexDigit Text.hexValue?_lowerHexDigit _ h

/-- An escaped character reads as itself. -/
theorem textBody_escape (c : Char) (rest : List Char) :
    textBody none (escape c ++ rest) = consRead c (textBody none rest) := by
  unfold escape
  split
  case h_8 hquote hslash _ _ _ _ _ =>
    split
    · rename_i hcode
      have hsmall : c.toNat < 0xD800 := by
        simp only [Bool.or_eq_true, decide_eq_true_eq, beq_iff_eq] at hcode
        rcases hcode with ((((h | rfl) | rfl) | rfl) | h) | h
        all_goals first | omega | decide
      have hdigits : '\\' :: 'u' :: Text.lowerHex 4 c.toNat ++ rest
          = '\\' :: 'u' :: Text.lowerHexDigit (c.toNat / 16 / 16 / 16)
            :: Text.lowerHexDigit (c.toNat / 16 / 16) :: Text.lowerHexDigit (c.toNat / 16)
            :: Text.lowerHexDigit c.toNat :: rest := rfl
      have hnumber : Text.hexNumber? [Text.lowerHexDigit (c.toNat / 16 / 16 / 16),
          Text.lowerHexDigit (c.toNat / 16 / 16), Text.lowerHexDigit (c.toNat / 16),
          Text.lowerHexDigit c.toNat] = some c.toNat := hexNumber?_lowerHex (by omega)
      -- The character is no half of a surrogate pair.
      have hhigh : isHighHalf c.toNat = false := by simp [isHighHalf]; omega
      have hlow : isLowHalf c.toNat = false := by simp [isLowHalf]; omega
      rw [hdigits, textBody, hnumber]
      simp only [Option.bind_eq_bind, Option.bind_some, hhigh, hlow, Bool.false_and,
        Bool.or_false, Bool.false_eq_true, if_false, Char.ofNat_toNat]
    · rename_i hcode
      have hprinted : ¬ c.toNat < 0x20 := by
        intro h
        exact hcode (by simp [h])
      rw [List.singleton_append, textBody.eq_5 none c rest hquote
        (fun _ _ _ _ _ h _ => hslash h) (fun _ _ h _ => hslash h), if_neg hprinted]
  all_goals rfl

theorem textBody_flatMap_escape (cs rest : List Char) :
    textBody none (cs.flatMap escape ++ '"' :: rest) = some (cs, rest) := by
  induction cs with
  | nil => rfl
  | cons c cs ih =>
      rw [List.flatMap_cons, List.append_assoc, textBody_escape, ih]
      rfl

end Texts

/-- What comes after a printed value: a comma or a line end. -/
def Closes (rest : List Char) : Prop :=
  ∃ c tail, rest = c :: tail ∧ (c = ',' ∨ c = '\n')

section Numbers

variable {rest : List Char}

theorem fraction_of_closes (h : Closes rest) : fraction rest = some ([], rest) := by
  obtain ⟨c, tail, rfl, rfl | rfl⟩ := h
  · rfl
  · rfl

theorem exponent_of_closes (h : Closes rest) : exponent rest = some ([], rest) := by
  obtain ⟨c, tail, rfl, rfl | rfl⟩ := h
  · rfl
  · rfl

theorem digits_digitsOf (n : Nat) (h : Closes rest) :
    digits (Number.digitsOf n ++ rest) = some (Number.digitsOf n, rest) := by
  have hall : ∀ c ∈ Number.digitsOf n, isDigit c = true := fun c => Number.between_of_mem_digitsOf
  have hstop : rest.takeWhile isDigit = [] ∧ rest.dropWhile isDigit = rest := by
    obtain ⟨c, tail, rfl, rfl | rfl⟩ := h
    · exact ⟨rfl, rfl⟩
    · exact ⟨rfl, rfl⟩
  unfold digits
  rw [List.takeWhile_append_of_pos hall, List.dropWhile_append_of_pos hall, hstop.1, hstop.2,
    List.append_nil]
  obtain ⟨c, cs, hcs, -⟩ := Number.digitsOf_exists_cons n
  rw [hcs]

theorem whole_digitsOf (n : Nat) (h : Closes rest) :
    whole (Number.digitsOf n ++ rest) = some (Number.digitsOf n, rest) := by
  unfold whole
  split
  · rename_i tail heq
    -- A leading zero is the whole number.
    obtain ⟨c, cs, hcs, -⟩ := Number.digitsOf_exists_cons n
    rw [hcs, List.cons_append, List.cons.injEq] at heq
    obtain ⟨rfl, rfl⟩ := heq
    rw [hcs, Number.tail_of_zero_cons hcs]
    rfl
  · exact digits_digitsOf n h

theorem unsignedLiteral_digitsOf (n : Nat) (h : Closes rest) :
    unsignedLiteral (Number.digitsOf n ++ rest) = some (Number.digitsOf n, rest) := by
  unfold unsignedLiteral
  simp only [Option.bind_eq_bind, Option.bind_some, whole_digitsOf n h, fraction_of_closes h,
    exponent_of_closes h, List.append_nil]

/-- A printed number reads as it is written. -/
theorem numberLiteral_signedDigits (n : Int) (h : Closes rest) :
    numberLiteral (Number.signedDigits n ++ rest) = some (Number.signedDigits n, rest) := by
  have hread := unsignedLiteral_digitsOf n.natAbs h
  unfold Number.signedDigits
  by_cases hneg : n < 0
  · rw [if_pos hneg, List.cons_append, numberLiteral, hread]
    rfl
  · rw [if_neg hneg]
    unfold numberLiteral
    split
    · rename_i tail heq
      obtain ⟨c, cs, hcs, hc⟩ := Number.digitsOf_exists_cons n.natAbs
      rw [hcs, List.cons_append, List.cons.injEq] at heq
      obtain ⟨rfl, -⟩ := heq
      exact absurd hc (by decide)
    · exact hread

end Numbers

/-- The text starts with no blank and reads as the value, nested in at most
    `nesting` others, whatever comes after it. -/
structure Reads (nesting : Nat) (cs : List Char) (v : Value) : Prop where
  starts : ∃ c tail, cs = c :: tail ∧ isBlank c = false
  value : ∀ rest steps, Closes rest → cs.length ≤ steps →
    valueWithin steps nesting (cs ++ rest) = some (v, rest)

section Values

variable (nesting : Nat)

theorem valueWithin_number (steps : Nat) {c : Char} {cs : List Char}
    (h : ('0' ≤ c && c ≤ '9') = true ∨ c = '-') :
    valueWithin (steps + 1) nesting (c :: cs)
      = (numberLiteral (c :: cs)).map fun (n, rest) => (.number n, rest) := by
  unfold valueWithin
  split
  case h_7 => rfl
  all_goals rename_i heq; cases heq; exact absurd h (by decide)

theorem reads_quoted (s : String) : Reads nesting (quoted s) (.text s) where
  starts := ⟨'"', _, rfl, rfl⟩
  value rest steps hrest hsteps := by
    obtain ⟨steps, rfl⟩ : ∃ k, steps = k + 1 := ⟨steps - 1, by simp [quoted] at hsteps; omega⟩
    have hbody := textBody_flatMap_escape s.toList rest
    have hquoted : quoted s ++ rest = '"' :: (s.toList.flatMap escape ++ '"' :: rest) := by
      simp [quoted]
    rw [hquoted, valueWithin, hbody]
    simp only [Option.map_some, String.ofList_toList]

theorem reads_signedDigits (n : Int) :
    Reads nesting (Number.signedDigits n) (.number (Number.signedDigits n)) := by
  obtain ⟨c, cs, hcs, hc⟩ := Number.signedDigits_exists_cons n
  refine ⟨⟨c, cs, hcs, Bool.eq_false_iff.mpr fun hblank => ?_⟩, fun rest steps hrest hsteps => ?_⟩
  · simp only [isBlank, Bool.or_eq_true, beq_iff_eq] at hblank
    rcases hblank with ((rfl | rfl) | rfl) | rfl
    all_goals exact absurd hc (by decide)
  · have hread := numberLiteral_signedDigits n hrest
    rw [hcs, List.length_cons] at hsteps
    obtain ⟨steps, rfl⟩ : ∃ k, steps = k + 1 := ⟨steps - 1, by omega⟩
    rw [hcs, List.cons_append] at hread
    rw [hcs, List.cons_append, valueWithin_number nesting steps hc, hread]
    rfl

/-- A printed value of a setting reads back. -/
theorem reads_toJson (v : Scalar) : Reads nesting v.toJson v.toJsonValue := by
  cases v with
  | text s => exact reads_quoted nesting s
  | number n => exact reads_signedDigits nesting n
  | flag b =>
      cases b
      all_goals
        refine ⟨⟨_, _, rfl, by decide⟩, fun rest steps hrest hsteps => ?_⟩
        obtain ⟨steps, rfl⟩ : ∃ k, steps = k + 1 :=
          ⟨steps - 1, by simp [Scalar.toJson] at hsteps; omega⟩
        rfl

end Values

section Objects

variable {nesting : Nat}

theorem skipBlanks_of_not {c : Char} (h : isBlank c = false) (cs : List Char) :
    skipBlanks (c :: cs) = c :: cs :=
  List.dropWhile_cons_of_neg (by simp [h])

theorem skipBlanks_indent (level : Nat) (cs : List Char) :
    skipBlanks (indent level ++ cs) = skipBlanks cs := by
  have hall : ∀ c ∈ indent level, isBlank c = true := by
    intro c hc
    rw [List.eq_of_mem_replicate hc]
    rfl
  exact List.dropWhile_append_of_pos hall

/-- Reading one member, the last one or one before others. -/
theorem membersWithin_step {name : String} {text after : List Char} {v : Value}
    (h : Reads nesting text v) (hafter : Closes after) (cs : List Char) (steps : Nat)
    (hcs : skipBlanks cs = quoted name ++ ':' :: ' ' :: (text ++ after))
    (hsteps : text.length ≤ steps) :
    (∀ rest, skipBlanks after = '\x7d' :: rest →
      membersWithin (steps + 1) nesting cs = some ([(name, v)], rest)) ∧
    (∀ rest members rest', skipBlanks after = ',' :: rest →
      membersWithin steps nesting rest = some (members, rest') →
      membersWithin (steps + 1) nesting cs = some ((name, v) :: members, rest')) := by
  have hname := textBody_flatMap_escape name.toList (':' :: ' ' :: (text ++ after))
  have hquoted : skipBlanks cs = '"' :: (name.toList.flatMap escape
      ++ '"' :: ':' :: ' ' :: (text ++ after)) := by
    rw [hcs]
    simp [quoted]
  have hcolon : skipBlanks (':' :: ' ' :: (text ++ after)) = ':' :: ' ' :: (text ++ after) := rfl
  have hvalue : skipBlanks (' ' :: (text ++ after)) = text ++ after := by
    obtain ⟨c, tail, rfl, hc⟩ := h.starts
    exact skipBlanks_of_not hc _
  have hread := h.value after steps hafter hsteps
  refine ⟨fun rest hbrace => ?_, fun rest members rest' hcomma hmembers => ?_⟩
  · rw [membersWithin]
    simp [hquoted, hname, hcolon, hvalue, hread, hbrace]
  · rw [membersWithin]
    simp [hquoted, hname, hcolon, hvalue, hread, hcomma, hmembers]

/-- The members of a printed object read back. Blanks in front do not matter. -/
theorem membersWithin_memberLines {level outer : Nat} {members : List (String × List Char)}
    {entries : List (String × Value)}
    (h : List.Forall₂ (fun m e => m.1 = e.1 ∧ Reads nesting m.2 e.2) members entries)
    (hne : members ≠ []) (cs rest : List Char) (steps : Nat)
    (hcs : skipBlanks cs
      = skipBlanks (memberLines level members ++ (indent outer ++ '\x7d' :: rest)))
    (hsteps : (memberLines level members).length ≤ steps) :
    membersWithin steps nesting cs = some (entries, rest) := by
  induction h generalizing cs steps with
  | nil => exact absurd rfl hne
  | cons hhead htail ih =>
      rename_i member entry members entries
      obtain ⟨name, text⟩ := member
      obtain ⟨name', v⟩ := entry
      obtain rfl : name = name' := hhead.1
      have hread : Reads nesting text v := hhead.2
      simp only [memberLines, List.length_append, List.length_cons] at hsteps
      obtain ⟨steps, rfl⟩ : ∃ k, steps = k + 1 := ⟨steps - 1, by omega⟩
      have hmember : skipBlanks cs = quoted name ++ ':' :: ' ' :: (text
          ++ ((if members.isEmpty then [] else [',']) ++ '\n' :: (memberLines level members
            ++ (indent outer ++ '\x7d' :: rest)))) := by
        rw [hcs, memberLines]
        simp only [List.append_assoc, List.cons_append, skipBlanks_indent]
        rfl
      cases htail with
      | nil =>
          -- The brace comes after the last member.
          have hbrace : skipBlanks ('\n' :: (indent outer ++ '\x7d' :: rest)) = '\x7d' :: rest :=
            skipBlanks_indent outer _
          have hcloses : Closes ('\n' :: (indent outer ++ '\x7d' :: rest)) :=
            ⟨'\n', _, rfl, .inr rfl⟩
          exact (membersWithin_step hread hcloses cs steps hmember (by omega)).1 rest hbrace
      | cons hhead' htail' =>
          rename_i member' entry' members entries
          generalize hmore : '\n' :: (memberLines level (member' :: members)
            ++ (indent outer ++ '\x7d' :: rest)) = more
          have hrest := ih (List.cons_ne_nil _ _) more steps (by rw [← hmore]; rfl) (by omega)
          have hcloses : Closes (',' :: more) := ⟨',', _, rfl, .inl rfl⟩
          have hcomma : skipBlanks (',' :: more) = ',' :: more := rfl
          rw [hmore] at hmember
          exact (membersWithin_step hread hcloses cs steps hmember (by omega)).2
            more _ rest hcomma hrest

/-- A printed object reads back if its members do. -/
theorem reads_object {level : Nat} {members : List (String × List Char)}
    {entries : List (String × Value)}
    (h : List.Forall₂ (fun m e => m.1 = e.1 ∧ Reads nesting m.2 e.2) members entries)
    (hne : members ≠ []) : Reads (nesting + 1) (object level members) (.object entries) where
  starts := ⟨'\x7b', _, rfl, rfl⟩
  value rest steps hrest hsteps := by
    have hobject : object level members ++ rest
        = '\x7b' :: '\n' :: (memberLines (level + 1) members
          ++ (indent level ++ '\x7d' :: rest)) := by
      simp [object]
    simp only [object, List.length_append, List.length_cons] at hsteps
    obtain ⟨steps, rfl⟩ : ∃ k, steps = k + 1 := ⟨steps - 1, by omega⟩
    -- Behind the brace and blanks stands the quote of the first name.
    obtain ⟨tail, htail⟩ : ∃ tail, skipBlanks ('\n' :: (memberLines (level + 1) members
        ++ (indent level ++ '\x7d' :: rest))) = '"' :: tail := by
      cases members with
      | nil => exact absurd rfl hne
      | cons member members =>
          exact ⟨_, by
            rw [memberLines]
            simp only [List.append_assoc]
            exact skipBlanks_indent (level + 1) _⟩
    have hquote : skipBlanks ('"' :: tail) = skipBlanks (memberLines (level + 1) members
        ++ (indent level ++ '\x7d' :: rest)) := htail.symm
    have hmembers := membersWithin_memberLines h hne ('"' :: tail) rest steps hquote (by omega)
    rw [hobject, valueWithin, if_neg (by simp), Nat.add_sub_cancel, htail]
    exact congrArg (Option.bind · _) hmembers

end Objects

end Json

end Passforge
