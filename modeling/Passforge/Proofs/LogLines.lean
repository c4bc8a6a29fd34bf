import Passforge.Proofs.Statements
import Passforge.Proofs.WholeNumbers

/-!
# Lines of the Log

The plain line of an event is one line of text: it ends in a line break and holds
no other. Texts are escaped where they hold one, and numbers are written without.
So lines can be written behind each other and told apart again, and what a log
file holds says which lines were written to it.

## Main definitions

* `Text.IsLine`: A text with a line break at its end and no other.
* `Text.linesOf`: The lines that a text consists of.

## Theorems

* `Text.linesOf_join`: Lines written behind each other can be told apart.
* `Log.objectLine_isLine`: The plain line of an event is one line.
-/

namespace Passforge

namespace Text

/-- The text has a line break at its end and no other. -/
def IsLine (s : String) : Prop :=
  ∃ body, s.toList = body ++ ['\n'] ∧ '\n' ∉ body

/-- The lines of a text that ends in a line break, each with its own. -/
def linesOf (s : String) : List String :=
  (s.toList.splitOn '\n').dropLast.map fun body => String.ofList (body ++ ['\n'])

/-- Lines that are written behind each other can be told apart. -/
theorem linesOf_join {lines : List String} (h : ∀ line ∈ lines, IsLine line) :
    linesOf (String.join lines) = lines := by
  induction lines with
  | nil => rfl
  | cons line lines ih =>
      obtain ⟨⟨body, hbody, hplain⟩, hlines⟩ := List.forall_mem_cons.mp h
      have hsplit : (String.join (line :: lines)).toList.splitOn '\n'
          = body :: (String.join lines).toList.splitOn '\n' := by
        rw [String.join_cons, String.toList_append, hbody, List.append_assoc, List.singleton_append,
          List.splitOn_append_cons_self_of_not_mem hplain]
      unfold linesOf at ih ⊢
      rw [hsplit, List.dropLast_cons_of_ne_nil (List.splitOn_ne_nil _ _), List.map_cons, ih hlines,
        ← hbody, String.ofList_toList]

theorem newline_not_mem_lowerHex (width n : Nat) : '\n' ∉ lowerHex width n := by
  induction width generalizing n with
  | zero => exact List.not_mem_nil
  | succ width ih =>
      have hdigit : ∀ m < 16, '\n' ≠ lowerHexDigit m := by decide
      rw [lowerHex, List.mem_append, List.mem_singleton, not_or]
      refine ⟨ih _, ?_⟩
      have hd := hdigit (n % 16) (Nat.mod_lt n (by decide))
      unfold lowerHexDigit at hd ⊢
      rwa [Nat.mod_mod] at hd

theorem newline_not_mem_intercalate {separator : List Char} (hseparator : '\n' ∉ separator)
    {parts : List (List Char)} (h : ∀ part ∈ parts, '\n' ∉ part) :
    '\n' ∉ separator.intercalate parts := by
  induction parts with
  | nil => exact List.not_mem_nil
  | cons part parts ih =>
      obtain ⟨hpart, hparts⟩ := List.forall_mem_cons.mp h
      rcases parts with _ | ⟨next, parts⟩
      · rwa [List.intercalate_singleton]
      · rw [List.intercalate_cons_cons, List.mem_append, List.mem_append, not_or, not_or]
        exact ⟨⟨hpart, hseparator⟩, ih hparts⟩

end Text

namespace Log

open Text

theorem newline_not_mem_escapeLogChar (c : Char) : '\n' ∉ escapeLogChar c := by
  unfold escapeLogChar
  split
  all_goals try decide
  rename_i hother _ _
  split
  · simp [newline_not_mem_lowerHex]
  · exact fun h => hother (List.mem_singleton.mp h).symm

theorem newline_not_mem_logText (s : String) : '\n' ∉ (logText s).toList := by
  rw [logText, String.toList_ofList]
  simp [newline_not_mem_escapeLogChar]

theorem newline_not_mem_line (v : FieldValue) : '\n' ∉ v.line.toList := by
  cases v with
  | text s => exact newline_not_mem_logText s
  | integer n =>
      change '\n' ∉ (toString n).toList
      rw [Number.toList_toString]
      unfold Number.signedDigits
      split <;> simp [Number.newline_not_mem_digitsOf]
  | real x =>
      change '\n' ∉ (realText x).toList
      unfold realText
      split
      · decide
      · split <;> decide
      · exact Number.newline_not_mem_write _ _

/-- The plain line of an event is one line. -/
theorem objectLine_isLine (members : List (String × FieldValue)) : IsLine (objectLine members) := by
  refine ⟨'\x7b' :: (",".intercalate (members.map fun m =>
    logText m.1 ++ ":" ++ m.2.line)).toList ++ ['\x7d'], by simp [objectLine], ?_⟩
  have hmembers : '\n' ∉ (",".intercalate (members.map fun m =>
      logText m.1 ++ ":" ++ m.2.line)).toList := by
    rw [String.toList_intercalate]
    refine newline_not_mem_intercalate (by decide) fun part hpart => ?_
    obtain ⟨_, htext, rfl⟩ := List.mem_map.mp hpart
    obtain ⟨m, -, rfl⟩ := List.mem_map.mp htext
    simp [newline_not_mem_logText, newline_not_mem_line]
  simp only [List.mem_append, List.mem_cons, not_or]
  exact ⟨⟨by decide, hmembers⟩, by decide⟩

end Log

end Passforge
