import Fieldbook.Formula.Scan

/-!
# Bytes of a text

How many bytes of UTF-8 a text takes, character by character.  A text that goes on takes more bytes
(`Text.byteLength_lt_cons`), so bytes measure how far a reader has come.
-/

namespace Fieldbook.Text

@[simp] theorem byteLength_nil : byteLength [] = 0 := rfl

@[simp] theorem byteLength_cons (c : Char) (cs : List Char) :
    byteLength (c :: cs) = c.utf8Size + byteLength cs := rfl

@[simp] theorem byteLength_append (front back : List Char) :
    byteLength (front ++ back) = byteLength front + byteLength back := by
  induction front with
  | nil => simp
  | cons c front ih => simp [ih, Nat.add_assoc]

@[simp] theorem byteLength_toList (s : String) : byteLength s.toList = s.utf8ByteSize := by
  induction s using String.push_induction with
  | empty => rfl
  | push s c ih => simp [ih]

theorem byteLength_lt_cons (c : Char) (cs : List Char) :
    byteLength cs < byteLength (c :: cs) := by
  have hpos := c.utf8Size_pos
  rw [byteLength_cons]
  omega

theorem byteLength_le_of_suffix {back cs : List Char} (h : back <:+ cs) :
    byteLength back ≤ byteLength cs := by
  obtain ⟨front, rfl⟩ := h
  simp

end Fieldbook.Text
