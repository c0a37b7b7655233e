import Fieldbook.Proofs.Number.Order
import Fieldbook.Proofs.Number.Written

/-!
# Numbers told apart by their text

The text of a finite number is a plain decimal: perhaps a minus, then digits with at most one point, which
stands between digits (`Number.isPlainDecimal_chars`).  It holds no blank, so that nothing is trimmed away,
and is read as the number itself (`Number.ofText_text`).  The one exception is negative zero, which is written
as zero is.  So two finite numbers have one text exactly if they are equal values (`Number.text_eq_iff`).
-/

namespace Fieldbook

/-- **A plain decimal**: perhaps a minus, digits, and perhaps a point with more digits behind it. -/
def IsPlainDecimal (cs : List Char) : Prop :=
  ∃ (negative : Bool) (front back : List Char), front ≠ [] ∧ (∀ c ∈ front, c.isDigit = true) ∧
    (∀ c ∈ back, c.isDigit = true) ∧
      cs = if negative then '-' :: pointed front back else pointed front back

namespace Reads

variable {front back : List Char} {m : Magnitude}

theorem readMagnitude?_eq (h : Reads front back m) : readMagnitude? (pointed front back) = some m := by
  have hsplit : splitDigits (pointed front back ++ []) = (front, back, []) :=
    splitDigits_pointed h.isDigit_front h.isDigit_back nofun
  have hsome : front.isEmpty = false := List.isEmpty_eq_false_iff.2 h.front_ne_nil
  rw [List.append_nil] at hsplit
  rw [readMagnitude?, hsplit]
  simp only [hsome, Bool.false_and, Bool.false_eq_true, if_false, readExponent?, Option.map_some,
    h.ofDigits_eq]

theorem splitSign_eq (h : Reads front back m) :
    splitSign (pointed front back) = (false, pointed front back) := by
  obtain ⟨c, front', rfl⟩ := List.exists_cons_of_ne_nil h.front_ne_nil
  have hdigit : c.isDigit = true := h.isDigit_front c List.mem_cons_self
  show splitSign (c :: _) = (false, c :: _)
  unfold splitSign
  split
  · rename_i heq
    obtain rfl := (List.cons.inj heq).1
    cases hdigit
  · rename_i heq
    obtain rfl := (List.cons.inj heq).1
    cases hdigit
  · rfl

theorem isBlank_eq_false (h : Reads front back m) {c : Char} (hc : c ∈ pointed front back) :
    Text.isBlank c = false := by
  unfold pointed at hc
  rcases List.mem_append.1 hc with hc | hc
  · exact Text.isBlank_of_isDigit (h.isDigit_front c hc)
  · split at hc
    · cases hc
    · rcases List.mem_cons.1 hc with rfl | hc
      · decide
      · exact Text.isBlank_of_isDigit (h.isDigit_back c hc)

end Reads

namespace Number

variable {x y : Number}

def withoutNegativeZero (x : Number) : Number := if x.isZero then zero else x

theorem equal_withoutNegativeZero (h : x.isFinite = true) :
    x.withoutNegativeZero.equal x = true := by
  unfold withoutNegativeZero
  split
  · rename_i hzero
    exact equal_of_isZero rfl hzero
  · exact equal_of_lessEq (lessEq_refl h) (lessEq_refl h)

theorem chars_of_isZero {negative : Bool} {m : Magnitude} (h : m.isZero = true) :
    (signed negative m).chars = ['0'] := by
  simp only [chars, h, if_true]

theorem chars_of_not_isZero (negative : Bool) {m : Magnitude} (h : m.isZero = false) :
    (signed negative m).chars =
      if negative then '-' :: (signed false m).chars else (signed false m).chars := by
  simp only [chars, h, Bool.false_eq_true, if_false]

/-- **What a finite number is written as**: digits that stand for its magnitude, with its sign. -/
theorem exists_chars_eq (h : x.isFinite = true) :
    ∃ (negative : Bool) (front back : List Char) (m : Magnitude),
      x.chars = (if negative then '-' :: pointed front back else pointed front back) ∧
        Reads front back m ∧ x.withoutNegativeZero = signed negative m := by
  cases x with
  | nan => cases h
  | signed negative m =>
    obtain ⟨front, back, hchars, hreads⟩ := Magnitude.exists_reads (m := m) h
    cases hzero : m.isZero with
    | true =>
      -- Either zero is written as the positive one.
      have hthis : (signed negative m).withoutNegativeZero = signed false m := by
        rw [Magnitude.eq_zero_of_isZero hzero]
        exact if_pos rfl
      refine ⟨false, front, back, m, ?_, hreads, hthis⟩
      rw [if_neg Bool.false_ne_true, ← hchars, chars_of_isZero hzero, chars_of_isZero hzero]
    | false =>
      have hthis : (signed negative m).withoutNegativeZero = signed negative m :=
        if_neg (by rw [isZero, hzero]; exact Bool.false_ne_true)
      refine ⟨negative, front, back, m, ?_, hreads, hthis⟩
      rw [← hchars]
      exact chars_of_not_isZero negative hzero

theorem isPlainDecimal_chars (h : x.isFinite = true) : IsPlainDecimal x.chars := by
  obtain ⟨negative, front, back, m, hchars, hreads, -⟩ := exists_chars_eq h
  exact ⟨negative, front, back, hreads.front_ne_nil, hreads.isDigit_front, hreads.isDigit_back, hchars⟩

theorem trim_chars (h : x.isFinite = true) : Text.trim x.chars = x.chars := by
  obtain ⟨negative, front, back, m, hchars, hreads, -⟩ := exists_chars_eq h
  have hblank : ∀ c ∈ x.chars, Text.isBlank c = false := by
    intro c hc
    rw [hchars] at hc
    cases negative with
    | false => exact hreads.isBlank_eq_false hc
    | true =>
      rcases List.mem_cons.1 hc with rfl | hc
      · decide
      · exact hreads.isBlank_eq_false hc
  exact Text.trim_eq_self (fun c hc => hblank c (List.mem_of_mem_head? hc))
    fun c hc => hblank c (List.mem_of_getLast? hc)

theorem ofChars?_chars (h : x.isFinite = true) : ofChars? x.chars = some x.withoutNegativeZero := by
  obtain ⟨negative, front, back, m, hchars, hreads, hthis⟩ := exists_chars_eq h
  have hsign : splitSign x.chars = (negative, pointed front back) := by
    rw [hchars]
    cases negative with
    | false => exact hreads.splitSign_eq
    | true => rfl
  rw [ofChars?, hsign, hthis]
  show (readMagnitude? (pointed front back)).map (signed negative) = _
  rw [hreads.readMagnitude?_eq]
  rfl

/-- **The text of a finite number stands for that number**, with a plus for the minus of negative zero. -/
theorem ofText_text (h : x.isFinite = true) : ofText x.text = x.withoutNegativeZero := by
  have hfinite : x.withoutNegativeZero.isFinite = true := by
    unfold withoutNegativeZero
    split
    · rfl
    · exact h
  have hread : ofChars? (Text.trim x.text.toList) = some x.withoutNegativeZero := by
    rw [text, String.toList_ofList, trim_chars h, ofChars?_chars h]
  rw [ofText, hread]
  exact if_pos hfinite

theorem text_eq_of_equal (h : x.equal y = true) : x.text = y.text := by
  have hzeros : zero.chars = negativeZero.chars := by
    rw [zero, negativeZero, chars_of_isZero rfl, chars_of_isZero rfl]
  rcases equal_iff.1 h with ⟨rfl, -⟩ | ⟨rfl, rfl⟩ | ⟨rfl, rfl⟩
  · rfl
  · exact congrArg String.ofList hzeros.symm
  · exact congrArg String.ofList hzeros

/-- **Finite numbers have one text exactly if they are equal values.** -/
theorem text_eq_iff (hx : x.isFinite = true) (hy : y.isFinite = true) :
    x.text = y.text ↔ x.equal y = true := by
  refine ⟨fun h => ?_, text_eq_of_equal⟩
  have hsame : x.withoutNegativeZero = y.withoutNegativeZero := by
    rw [← ofText_text hx, ← ofText_text hy, h]
  obtain ⟨a, ha, hxa⟩ := equal_iff_rank.1 (equal_withoutNegativeZero hx)
  obtain ⟨b, hb, hyb⟩ := equal_iff_rank.1 (equal_withoutNegativeZero hy)
  rw [← hsame, ha] at hb
  obtain rfl := Option.some.inj hb
  exact equal_iff_rank.2 ⟨a, hxa, hyb⟩

end Number

end Fieldbook
