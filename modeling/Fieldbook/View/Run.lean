import Fieldbook.Calculation
import Fieldbook.View.Group
import Fieldbook.View.Search

/-!
# Running a view

A view is run over a table in stages: filters, sorting, search, calculation, grouping.  All but
the last two see stored cells only, and groups are made by stored cells as well: a group lists
the calculated copies of its rows.

Rows of a table may be equal, ids included.  The stages therefore hand on each row with its place
in the table, and the calculated copy of a row is found by that place.
-/

namespace Fieldbook

/-- A row of a table, with the place at which the table keeps it. -/
structure StoredRow where
  place : Nat
  row : Row
deriving DecidableEq, Inhabited

def Table.storedRows (t : Table) : List StoredRow := t.rows.mapIdx StoredRow.mk

/-- The position in a list of the row that the table keeps at a place. -/
def StoredRow.position? (stored : List StoredRow) (place : Nat) : Option Nat :=
  stored.findIdx? (·.place == place)

structure ViewResult where
  fields : List Field
  rows : List Row
  /-- The rows in groups; none where the view does not group. -/
  groups : List (Group Row)
  stats : CalculationStats

namespace View

/-- **The stored rows that a view shows**, in its order. -/
def found (v : View) (t : Table) (search : String) : List StoredRow :=
  Row.searchOn StoredRow.row search
    (SortKey.sortOn StoredRow.row v.sorts t.fields
      (Filter.selectOn StoredRow.row v.filters t.storedRows))

/-- **The groups of calculated rows.**  The stored rows are grouped, and each is replaced by the
calculated row that stands at its position. -/
def groups (v : View) (stored : List StoredRow) (computed : List Row) : List (Group Row) :=
  match v.groupBy with
  | some field =>
    (Group.collect (·.row.groupKey field) stored).map fun g =>
      let positions := g.items.filterMap fun s => StoredRow.position? stored s.place
      ⟨g.key, positions.filterMap (computed[·]?)⟩
  | none => []

/-- **What a view shows of a table**, narrowed by a search. -/
def run (v : View) (t : Table) (registry : Registry) (search : String)
    (options : CalculationOptions) : ViewResult :=
  let stored := v.found t search
  let (rows, stats) := t.computeRows (stored.map (·.row)) registry options
  { fields := v.visibleFields t.fields
    rows
    groups := v.groups stored rows
    stats }

end View

end Fieldbook
