import Fieldbook.Formula.Apply
import Fieldbook.Proofs.Number.Rounding
import Fieldbook.View.Filter

/-!
# Filters as formulas

A filter and a formula read a cell each in their own way: the filter coerces the cell, the formula
the value that the cell becomes.  Their texts are the same for every cell (`Value.display_ofCell`).
Their numbers are the same unless the cell holds a number that is not finite: the cell reads as zero
then and the value as that number (`Value.toNumber_ofCell`).  So the four comparisons that both
languages have come to the same, with zero in place of such a cell where they compare numbers
(`Filter.passes_as_formula`), and without that zero they would differ on every such cell
(`Filter.orders_alike_iff`).
-/

namespace Fieldbook

theorem Number.eq_of_isFinite_eq_false {n : Number} (h : n.isFinite = false) :
    n = nan ∨ n = infinity ∨ n = -infinity := by
  cases n with
  | nan => exact .inl rfl
  | signed negative m =>
    have hlast : m = Magnitude.infinite := Magnitude.eq_infinite_of_isFinite_eq_false h
    subst hlast
    cases negative with
    | false => exact .inr (.inl rfl)
    | true => exact .inr (.inr rfl)

namespace Value

/-- The value that a filter puts into order for a cell. -/
def ofOrdered (c : Cell) : Value := if c.isFinite then ofCell c else number 0

theorem display_ofCell (c : Cell) : (ofCell c).display = c.display := by
  cases c <;> rfl

theorem toNumber_ofCell {c : Cell} (h : c.isFinite = true) :
    (ofCell c).toNumber = c.toNumber := by
  cases c with
  | number n =>
    show n = if n.isFinite then n else 0
    exact (if_pos h).symm
  | null | bool | text | list => rfl

theorem toNumber_ofOrdered (c : Cell) : (ofOrdered c).toNumber = c.toNumber := by
  unfold ofOrdered
  split
  · rename_i h
    exact toNumber_ofCell h
  · rename_i h
    cases c with
    | number n =>
      show 0 = if n.isFinite then n else 0
      exact (if_neg h).symm
    | null | bool | text | list => exact absurd rfl h

end Value

namespace Filter

theorem ok_bool_eq_true {b : Bool} :
    (Except.ok (.bool b) : Except FormulaError Value) = .ok (.bool true) ↔ b = true := by
  constructor
  · intro h
    injection h with h
    injection h
  · intro h
    rw [h]

/-- **A filter passes where the formula that compares the cell with its text comes to true.**  Equality
compares the text of the cell, order its number, a number that is not finite standing for zero. -/
theorem passes_as_formula (row : Row) (field value : String) :
    let cell := row.cell field
    let text := Value.text value
    (passes ⟨field, .is, value⟩ row
      ↔ Operator.equal.apply (.ofCell cell) text = .ok (.bool true))
    ∧ (passes ⟨field, .isNot, value⟩ row
      ↔ Operator.notEqual.apply (.ofCell cell) text = .ok (.bool true))
    ∧ (passes ⟨field, .greater, value⟩ row
      ↔ Operator.greaterThan.apply (.ofOrdered cell) text = .ok (.bool true))
    ∧ (passes ⟨field, .less, value⟩ row
      ↔ Operator.lessThan.apply (.ofOrdered cell) text = .ok (.bool true)) := by
  intro cell text
  have htext : (Value.ofCell cell).display = cell.display := Value.display_ofCell cell
  have hnumber : (Value.ofOrdered cell).toNumber = cell.toNumber := Value.toNumber_ofOrdered cell
  refine ⟨?_, ?_, ?_, ?_⟩
  · show (cell.display == value) = true ↔ _
    rw [← htext]
    exact ok_bool_eq_true.symm
  · show (cell.display != value) = true ↔ _
    rw [← htext]
    exact ok_bool_eq_true.symm
  · show (Number.ofText value).less cell.toNumber = true ↔ _
    rw [← hnumber]
    exact ok_bool_eq_true.symm
  · show cell.toNumber.less (.ofText value) = true ↔ _
    rw [← hnumber]
    exact ok_bool_eq_true.symm

/-- The filter and the formula part on a cell that holds infinity. -/
theorem passes_ne_formula_infinity :
    let row : Row := ⟨"r1", .ofList [("x", .number .infinity)], default, default⟩
    passes ⟨"x", .greater, "1"⟩ row = false
    ∧ Operator.greaterThan.apply (.ofCell (row.cell "x")) (.text "1") = .ok (.bool true) := by
  refine ⟨by decide +kernel, ?_⟩
  exact ok_bool_eq_true.2 (by decide +kernel)

/-- **Where filters and formulas order alike**: on the cells that hold no number but a finite one. -/
theorem orders_alike_iff (cell : Cell) :
    (∀ s : String,
      let given := Number.ofText s
      cell.toNumber.less given = (Value.ofCell cell).toNumber.less given
      ∧ given.less cell.toNumber = given.less (Value.ofCell cell).toNumber)
    ↔ cell.isFinite = true := by
  constructor
  · intro h
    cases cell with
    | number n =>
      have hone := (h "1").1
      have hminus := (h "-1").2
      cases hn : n.isFinite with
      | true => exact hn
      | false =>
        -- Zero lies between the two texts; an infinity does not, and not a number is beside both.
        rcases Number.eq_of_isFinite_eq_false hn with rfl | rfl | rfl
        · exact absurd hone (by decide +kernel)
        · exact absurd hone (by decide +kernel)
        · exact absurd hminus (by decide +kernel)
    | null | bool | text | list => rfl
  · intro h s given
    rw [Value.toNumber_ofCell h]
    exact ⟨rfl, rfl⟩

end Filter

end Fieldbook
