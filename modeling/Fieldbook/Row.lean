import Fieldbook.Cell
import Fieldbook.Keyed
import Fieldbook.Time.Instant

/-!
# Rows

A `Row` has an id, a cell under each of some field ids, and the instants at which it was made
and last changed.  A field without a cell reads as nothing.
-/

namespace Fieldbook

structure Row where
  id : String
  cells : Keyed Cell
  created : Instant
  updated : Instant
deriving DecidableEq, Inhabited

namespace Row

/-- **The cell under a field id**, empty where none is stored. -/
def cell (r : Row) (field : String) : Cell := (r.cells.get? field).getD .null

def setCell (r : Row) (field : String) (value : Cell) : Row :=
  { r with cells := r.cells.insert field value }

def hasCell (r : Row) (field : String) : Bool := r.cells.contains field

/-- **Storing a cell changes the cell under its field only.** -/
theorem cell_setCell (r : Row) (field : String) (value : Cell) (f : String) :
    (r.setCell field value).cell f = if f = field then value else r.cell f := by
  by_cases h : f = field <;> simp [cell, setCell, Keyed.get?_insert, h]

end Row

end Fieldbook
