import Mathlib.Data.List.TakeWhile
import Passforge.Text.Blank

/-!
# Trimmed Text

Trimming drops the blanks at both ends and nothing else. What is left is known
from that: it does not change when blanks are put around the text, and it can
be taken before or after a change of characters that turns no blank into
something else.

## Theorems

* `Text.trimChars_pad`: Blanks around a text are trimmed away.
* `Text.exists_trimChars`: Nothing else is.
* `Text.trimChars_map`: Trimming and changing characters.
-/

namespace Passforge.Text

theorem trimChars_blanks_append (front cs : List Char) (hfront : ∀ c ∈ front, isBlank c = true) :
    trimChars (front ++ cs) = trimChars cs := by
  unfold trimChars
  rw [List.dropWhile_append_of_pos hfront]

theorem trimChars_append_blanks (cs back : List Char) (hback : ∀ c ∈ back, isBlank c = true) :
    trimChars (cs ++ back) = trimChars cs := by
  have hreverse : ∀ c ∈ back.reverse, isBlank c = true := fun c hc =>
    hback c (List.mem_reverse.mp hc)
  unfold trimChars
  rw [List.dropWhile_append]
  by_cases hempty : (cs.dropWhile isBlank).isEmpty = true
  -- A text of blanks only is trimmed away with the blanks behind it.
  · rw [if_pos hempty, List.isEmpty_iff.mp hempty, List.dropWhile_eq_nil_iff.mpr hback]
  · rw [if_neg hempty, List.reverse_append, List.dropWhile_append_of_pos hreverse]

/-- Blanks around a text are trimmed away. -/
theorem trimChars_pad (front cs back : List Char) (hfront : ∀ c ∈ front, isBlank c = true)
    (hback : ∀ c ∈ back, isBlank c = true) : trimChars (front ++ cs ++ back) = trimChars cs := by
  rw [trimChars_append_blanks _ back hback, trimChars_blanks_append front cs hfront]

/-- Nothing but blanks is trimmed away. -/
theorem exists_trimChars (cs : List Char) :
    ∃ front back, (∀ c ∈ front, isBlank c = true) ∧ (∀ c ∈ back, isBlank c = true) ∧
      cs = front ++ trimChars cs ++ back := by
  have hreverse : cs.dropWhile isBlank
      = trimChars cs ++ ((cs.dropWhile isBlank).reverse.takeWhile isBlank).reverse := by
    unfold trimChars
    rw [← List.reverse_append, List.takeWhile_append_dropWhile, List.reverse_reverse]
  refine ⟨cs.takeWhile isBlank, ((cs.dropWhile isBlank).reverse.takeWhile isBlank).reverse,
    fun c hc => List.mem_takeWhile_imp hc,
    fun c hc => List.mem_takeWhile_imp (List.mem_reverse.mp hc), ?_⟩
  rw [List.append_assoc, ← hreverse, List.takeWhile_append_dropWhile]

theorem trimChars_trimChars (cs : List Char) : trimChars (trimChars cs) = trimChars cs := by
  rcases exists_trimChars cs with ⟨front, back, hfront, hback, hcs⟩
  rw [← trimChars_pad front (trimChars cs) back hfront hback, ← hcs]

/-- Trimming can be done before or after a change of characters that keeps
    blanks and makes none. -/
theorem trimChars_map (f : Char → Char) (hf : ∀ c, isBlank (f c) = isBlank c) (cs : List Char) :
    trimChars (cs.map f) = (trimChars cs).map f := by
  have hcomp : isBlank ∘ f = isBlank := funext hf
  unfold trimChars
  rw [List.dropWhile_map, hcomp, ← List.map_reverse, List.dropWhile_map, hcomp, ← List.map_reverse]

end Passforge.Text
