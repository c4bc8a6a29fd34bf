import Passforge.Text.Piece

/-!
# Reading Text Back

Well-formed text reads back as itself. The reader of raw bytes makes something
of any byte string, so what it makes of text has to be said: one piece for
each character, in order, and no stray byte.

The induction runs along the characters with the bytes before them as a
parameter, because the reader works with a position in the whole string and
never sees a suffix on its own.

## Theorems

* `piecesFrom_append_utf8Encode`: From a position on, the characters encoded
  there.
* `pieces_toUTF8`, `lenientChars_toUTF8`: The pieces of a text are its
  characters.
* `breakOff_toUTF8`: A text does not break off.
-/

namespace Passforge

namespace Text

theorem utf8DecodeChar?_append_utf8Encode_cons (before : ByteArray) (c : Char) (cs : List Char) :
    (before ++ (c :: cs).utf8Encode).utf8DecodeChar? before.size = some c := by
  have hextract : (before ++ (c :: cs).utf8Encode).extract before.size
      (before ++ (c :: cs).utf8Encode).size = (c :: cs).utf8Encode :=
    ByteArray.extract_append_eq_right rfl ByteArray.size_append
  rw [ByteArray.utf8DecodeChar?_eq_utf8DecodeChar?_extract, hextract]
  exact List.utf8DecodeChar?_utf8Encode_cons

theorem piecesFrom_append_utf8Encode (before : ByteArray) (cs : List Char) :
    piecesFrom (before ++ cs.utf8Encode) before.size = cs.map Piece.scalar := by
  induction cs generalizing before with
  | nil =>
      rw [piecesFrom, dif_neg (by rw [List.utf8Encode_nil, ByteArray.append_empty]; omega)]
      rfl
  | cons c cs ih =>
      have hsplit : before ++ (c :: cs).utf8Encode
          = (before ++ [c].utf8Encode) ++ cs.utf8Encode := by
        rw [List.utf8Encode_cons, ByteArray.append_assoc]
      have hsize : (before ++ [c].utf8Encode).size = before.size + c.utf8Size := by
        rw [ByteArray.size_append, List.utf8Encode_singleton, List.size_toByteArray,
          String.length_utf8EncodeChar]
      have hpos := c.utf8Size_pos
      have hlt : before.size < (before ++ (c :: cs).utf8Encode).size := by
        rw [hsplit, ByteArray.size_append, hsize]
        omega
      rw [piecesFrom, dif_pos hlt, utf8DecodeChar?_append_utf8Encode_cons]
      simp only [List.map_cons, List.cons.injEq, true_and]
      -- What follows is read with this character among the bytes before.
      rw [← hsize, hsplit]
      exact ih _

/-- The pieces of a text are its characters. -/
theorem pieces_toUTF8 (s : String) : pieces s.toUTF8 = s.toList.map Piece.scalar := by
  have h := piecesFrom_append_utf8Encode ByteArray.empty s.toList
  rw [ByteArray.empty_append, String.utf8Encode_toList] at h
  exact h

theorem lenientChars_toUTF8 (s : String) : lenientChars s.toUTF8 = s.toList := by
  rw [lenientChars, pieces_toUTF8, List.map_map]
  exact List.map_id s.toList

/-- Only a stray byte announces bytes that are missing. -/
theorem breakOff_toUTF8 (s : String) :
    breakOff (pieces s.toUTF8) = (s.toList.map Piece.scalar, []) := by
  rw [pieces_toUTF8]
  induction s.toList with
  | nil => rfl
  | cons c cs ih =>
      have hscalar (rest : List Piece) : breaksOff (.scalar c :: rest) = false := rfl
      rw [List.map_cons, breakOff, hscalar, if_neg Bool.false_ne_true, ih]

end Text

end Passforge
