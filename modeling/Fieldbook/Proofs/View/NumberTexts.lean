import Fieldbook.Formula.Apply
import Fieldbook.Proofs.Number.ReadBack
import Fieldbook.Proofs.View.Partition
import Fieldbook.View.Filter

/-!
# Numbers compared by their text

The equality of formulas, the filter `is` and grouping look at texts only.  For numbers this is as good as
looking at values: finite numbers have one text exactly if they are equal values, and no such text is the
key of the rows without a value (`Number.told_apart_by_text`).
-/

namespace Fieldbook

namespace Number

variable {x y : Number}

theorem text_beq_text (hx : x.isFinite = true) (hy : y.isFinite = true) :
    (x.text == y.text) = x.equal y := by
  rw [Bool.eq_iff_iff, beq_iff_eq]
  exact text_eq_iff hx hy

theorem text_ne_uncategorized (h : x.isFinite = true) : x.text ≠ uncategorized := by
  intro heq
  obtain ⟨negative, front, back, hne, hfront, -, hchars⟩ := isPlainDecimal_chars h
  obtain ⟨c, front', rfl⟩ := List.exists_cons_of_ne_nil hne
  have hdigit : c.isDigit = true := hfront c List.mem_cons_self
  have htext : x.chars = uncategorized.toList := by rw [← heq, text, String.toList_ofList]
  rw [hchars] at htext
  cases negative with
  | true => exact absurd (List.cons.inj htext).1 (by decide)
  | false =>
    obtain rfl := (List.cons.inj htext).1
    exact absurd hdigit (by decide)

end Number

namespace Row

variable {field : String} {rows : List Row} {r s : Row} {x y : Number}

theorem groupKey_of_number (hr : r.cell field = .number x) (hx : x.isFinite = true) :
    r.groupKey field = if x.isZero then uncategorized else x.text := by
  rw [groupKey, hr]
  show (if (!(!x.isZero && !x.isNaN)) = true then uncategorized else x.text) = _
  rw [Number.isNaN_of_isFinite hx]
  cases x.isZero <;> rfl

/-- **Rows with finite numbers have one key exactly if the numbers are equal values.** -/
theorem groupKey_eq_iff (hr : r.cell field = .number x) (hs : s.cell field = .number y)
    (hx : x.isFinite = true) (hy : y.isFinite = true) :
    r.groupKey field = s.groupKey field ↔ x.equal y = true := by
  rw [groupKey_of_number hr hx, groupKey_of_number hs hy]
  cases hzero : x.isZero with
  | true =>
    cases hzero' : y.isZero with
    | true => exact iff_of_true rfl (Number.equal_of_isZero hzero hzero')
    | false =>
      refine iff_of_false (Number.text_ne_uncategorized hy).symm fun h => ?_
      rw [Number.isZero_eq_of_equal h, hzero'] at hzero
      cases hzero
  | false =>
    cases hzero' : y.isZero with
    | true =>
      refine iff_of_false (Number.text_ne_uncategorized hx) fun h => ?_
      rw [Number.isZero_eq_of_equal h, hzero'] at hzero
      cases hzero
    | false => exact Number.text_eq_iff hx hy

end Row

namespace Number

/-- **Comparing texts of numbers is comparing values.**  The text of a finite number is a plain decimal and
stands for the number.  Two such texts are the same exactly if the numbers are equal values, and so the
equality of formulas, the filter `is` and grouping take apart what differs in value and nothing else. -/
theorem told_apart_by_text (hx : x.isFinite = true) :
    (ofText x.text).equal x = true ∧ IsPlainDecimal x.text.toList ∧
    ∀ y : Number, y.isFinite = true →
      (x.text = y.text ↔ x.equal y = true) ∧
      Operator.equal.apply (.number x) (.number y) = .ok (.bool (x.equal y)) ∧
      (∀ (r : Row) (field : String), r.cell field = .number x →
        Filter.passes ⟨field, .is, y.text⟩ r = x.equal y) ∧
      ∀ (rows : List Row) (field : String), ∀ r ∈ rows, ∀ s ∈ rows,
        r.cell field = .number x → s.cell field = .number y →
          ((∃ g ∈ Row.group field rows, r ∈ g.items ∧ s ∈ g.items) ↔ x.equal y = true) := by
  refine ⟨?_, ?_, fun y hy => ⟨text_eq_iff hx hy, ?_, fun r field hr => ?_, ?_⟩⟩
  · rw [ofText_text hx]
    exact equal_withoutNegativeZero hx
  · rw [text, String.toList_ofList]
    exact isPlainDecimal_chars hx
  · show Except.ok (Value.bool (x.text == y.text)) = _
    rw [text_beq_text hx hy]
  · show ((r.cell field).display == y.text) = _
    rw [hr]
    exact text_beq_text hx hy
  · intro rows field r hr s hs hrx hsy
    rw [Row.group, Group.exists_mem_collect_iff hr hs]
    exact Row.groupKey_eq_iff hrx hsy hx hy

/-- The limit from which numbers are no longer written out, and the number before it. -/
theorem told_apart_by_text_at_limit :
    let x : Number := .ofNat (tenTo 21)
    let y : Number := .ofNat (tenTo 21 - 131072)
    let r : Row := ⟨"r1", .ofList [("n", .number x)], default, default⟩
    let s : Row := ⟨"r2", .ofList [("n", .number y)], default, default⟩
    (x.isFinite = true ∧ y.isFinite = true ∧ r.cell "n" = .number x ∧ s.cell "n" = .number y) ∧
    ((ofText x.text).equal x = true ∧ IsPlainDecimal x.text.toList) ∧
    x.text ≠ y.text ∧ Operator.equal.apply (.number x) (.number y) = .ok (.bool false) ∧
    Filter.passes ⟨"n", .is, y.text⟩ r = false ∧
    ¬ ∃ g ∈ Row.group "n" [r, s], r ∈ g.items ∧ s ∈ g.items := by
  intro x y r s
  have hx : x.isFinite = true := by decide +kernel
  have hy : y.isFinite = true := by decide +kernel
  have hr : r.cell "n" = .number x := by decide +kernel
  have hs : s.cell "n" = .number y := by decide +kernel
  have hequal : x.equal y = false := by decide +kernel
  obtain ⟨hback, hplain, happart⟩ := told_apart_by_text hx
  obtain ⟨htext, hoperator, hfilter, hgroup⟩ := happart y hy
  have hgroup' := hgroup [r, s] "n" r List.mem_cons_self s (List.mem_cons_of_mem r List.mem_cons_self) hr hs
  rw [hequal] at htext hoperator hgroup'
  exact ⟨⟨hx, hy, hr, hs⟩, ⟨hback, hplain⟩, fun h => Bool.false_ne_true (htext.1 h), hoperator,
    (hfilter r "n" hr).trans hequal, fun h => Bool.false_ne_true (hgroup'.1 h)⟩

end Number

end Fieldbook
