import Fieldbook.Proofs.View.NumberKeys
import Fieldbook.View.Filter

/-!
# Thresholds

A text given to a filter stands for a number, a threshold, and a filter compares the values of numbers with it.
A sort puts numbers on one line.  Both agree: of the rows sorted under a number field those below a threshold
stand first, and those above it last (`Filter.thresholds`).  What is below another value is before it on the
line, so that no row stands before one of a lower value (`SortKey.pairwise_sort_ascending`), and values that
are not above each other lie on one side of a threshold.
-/

namespace Fieldbook

theorem Field.isNumeric_of_withId? {fields : List Field} {f : Field}
    (hfield : Field.withId? fields f.id = some f) (hnumber : f.type = .number)
    (d : SortDirection) : SortKey.isNumeric ⟨f.id, d⟩ fields = true := by
  rw [SortKey.isNumeric, hfield, Option.any_some, hnumber]
  rfl

namespace SortKey

variable {field : String} {fields : List Field}

/-- **In ascending order no row stands before one of a lower value.** -/
theorem pairwise_sort_ascending (hnumeric : SortKey.isNumeric ⟨field, .ascending⟩ fields = true)
    (rows : List Row) :
    (sort [⟨field, .ascending⟩] fields rows).Pairwise fun a b =>
      ¬ (b.cell field).toNumber.less (a.cell field).toNumber = true := by
  refine (pairwise_sort _ fields rows).imp fun {a b} hab hless => hab ?_
  rw [compareAll_singleton, compareRows_of_isNumeric hnumeric]
  show Number.totalCompare (a.cell field).toNumber (b.cell field).toNumber = .gt
  rw [← Number.totalCompare_swap, Number.totalCompare_of_less hless]
  rfl

/-- **In descending order no row stands before one of a higher value.** -/
theorem pairwise_sort_descending (hnumeric : SortKey.isNumeric ⟨field, .descending⟩ fields = true)
    (rows : List Row) :
    (sort [⟨field, .descending⟩] fields rows).Pairwise fun a b =>
      ¬ (a.cell field).toNumber.less (b.cell field).toNumber = true := by
  refine (pairwise_sort _ fields rows).imp fun {a b} hab hless => hab ?_
  rw [compareAll_singleton, compareRows_of_isNumeric hnumeric]
  show (Number.totalCompare (a.cell field).toNumber (b.cell field).toNumber).swap = .gt
  rw [Number.totalCompare_of_less hless]
  rfl

end SortKey

namespace Filter

/-- **A row passes one of the filters `greater` and `less`, or its number is the threshold.** -/
theorem count_passes (field value : String) (r : Row) :
    [passes ⟨field, .greater, value⟩ r, passes ⟨field, .less, value⟩ r,
      (r.cell field).toNumber.equal (.ofText value)].count true = 1 :=
  Number.count_comparisons (Cell.isFinite_toNumber _) (Number.isFinite_ofText value)

variable {field : String} {a b : Row}

theorem passes_less_of_not_less (h : ¬ (b.cell field).toNumber.less (a.cell field).toNumber = true)
    {value : String} (hb : passes ⟨field, .less, value⟩ b = true) :
    passes ⟨field, .less, value⟩ a = true :=
  Number.less_of_not_less_left (Cell.isFinite_toNumber _) h hb

theorem passes_greater_of_not_less
    (h : ¬ (b.cell field).toNumber.less (a.cell field).toNumber = true)
    {value : String} (ha : passes ⟨field, .greater, value⟩ a = true) :
    passes ⟨field, .greater, value⟩ b = true :=
  Number.less_of_not_less_right (Cell.isFinite_toNumber _) h ha

/-- **Filters and sorts agree on a number field.**  Whatever cell a row has there, it passes one of the
filters `greater` and `less`, or its number is that of the text.  In ascending order the rows that pass
`less` stand before all others, and those that pass `greater` behind all others, and in descending order
the other way round. -/
theorem thresholds {fields : List Field} {f : Field}
    (hfield : Field.withId? fields f.id = some f) (hnumber : f.type = .number) (value : String) :
    (∀ r : Row, [passes ⟨f.id, .greater, value⟩ r, passes ⟨f.id, .less, value⟩ r,
      (r.cell f.id).toNumber.equal (.ofText value)].count true = 1) ∧
    ∀ rows : List Row,
      (SortKey.sort [⟨f.id, .ascending⟩] fields rows).Perm rows ∧
      ((SortKey.sort [⟨f.id, .ascending⟩] fields rows).Pairwise fun a b =>
        (passes ⟨f.id, .less, value⟩ b = true → passes ⟨f.id, .less, value⟩ a = true) ∧
        (passes ⟨f.id, .greater, value⟩ a = true → passes ⟨f.id, .greater, value⟩ b = true)) ∧
      (SortKey.sort [⟨f.id, .descending⟩] fields rows).Perm rows ∧
      (SortKey.sort [⟨f.id, .descending⟩] fields rows).Pairwise fun a b =>
        (passes ⟨f.id, .less, value⟩ a = true → passes ⟨f.id, .less, value⟩ b = true) ∧
        (passes ⟨f.id, .greater, value⟩ b = true → passes ⟨f.id, .greater, value⟩ a = true) := by
  have hnumeric := Field.isNumeric_of_withId? hfield hnumber
  refine ⟨count_passes f.id value, fun rows => ⟨List.mergeSort_perm _ _, ?_,
    List.mergeSort_perm _ _, ?_⟩⟩
  · exact (SortKey.pairwise_sort_ascending (hnumeric .ascending) rows).imp fun h =>
      ⟨passes_less_of_not_less h, passes_greater_of_not_less h⟩
  · exact (SortKey.pairwise_sort_descending (hnumeric .descending) rows).imp fun h =>
      ⟨passes_less_of_not_less h, passes_greater_of_not_less h⟩

/-- Cells of every kind, one that is not a number among them, and the threshold one. -/
theorem thresholds_mixed_cells :
    let f : Field := ⟨"n", "n", .number⟩
    let row : String → Cell → Row := fun id c => ⟨id, .ofList [("n", c)], default, default⟩
    let rows : List Row := [row "a" (.text " 3 "), row "b" (.number .nan), row "c" (.bool true),
      row "d" (.list ["-1"]), row "e" (.number .negativeZero), ⟨"f", .ofList [], default, default⟩]
    (Field.withId? [f] f.id = some f ∧ f.type = .number) ∧
    (∀ r ∈ rows, [passes ⟨f.id, .greater, "1"⟩ r, passes ⟨f.id, .less, "1"⟩ r,
      (r.cell f.id).toNumber.equal (.ofText "1")].count true = 1) ∧
    ((SortKey.sort [⟨f.id, .ascending⟩] [f] rows).Pairwise fun a b =>
      (passes ⟨f.id, .less, "1"⟩ b = true → passes ⟨f.id, .less, "1"⟩ a = true) ∧
      (passes ⟨f.id, .greater, "1"⟩ a = true → passes ⟨f.id, .greater, "1"⟩ b = true)) ∧
    (rows.map (passes ⟨f.id, .greater, "1"⟩) = [true, false, false, false, false, false]) ∧
    rows.map (passes ⟨f.id, .less, "1"⟩) = [false, true, false, true, true, true] := by
  intro f row rows
  have hfield : Field.withId? [f] f.id = some f := by decide
  have hnumber : f.type = .number := rfl
  obtain ⟨hone, hsorted⟩ := thresholds hfield hnumber "1"
  exact ⟨⟨hfield, hnumber⟩, fun r _ => hone r, (hsorted rows).2.1, by decide +kernel,
    by decide +kernel⟩

end Filter

end Fieldbook
