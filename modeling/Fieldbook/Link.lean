import Fieldbook.Database

/-!
# Links between tables

A relation cell holds the ids of rows in another table.  A lookup reads a field of those rows
and a rollup reduces it.  Nothing here fails: a link that leads nowhere is skipped, and a field
that is not set up for links gives nothing.
-/

namespace Fieldbook

/-- **The row ids that a cell links to.**  A list links to its items; nothing and the empty text link
to no row; any other cell links to the row whose id is its text. -/
def Cell.links : Cell → List String
  | list ids => ids
  | null => []
  | c => if c.display = "" then [] else [c.display]

namespace Registry

/-- **The rows of a table with the given ids**, in the order of the ids.  Ids without a row are
skipped, and an unknown table has no rows. -/
def related (registry : Registry) (table : String) (ids : List String) : List Row :=
  match registry table with
  | some t => ids.filterMap t.row?
  | none => []

end Registry

/-- How the links of a field are set up, if the first field with the id holds links. -/
def Field.linkSpec? (fields : List Field) (id : String) : Option LinkSpec :=
  match Field.withId? fields id with
  | some ⟨_, _, .relation spec⟩ => some spec
  | _ => none

namespace LookupSpec

/-- **The cells that a lookup reads**: those of the linked rows, in link order.  Without a relation
field there are none to speak of. -/
def cells? (spec : LookupSpec) (row : Row) (registry : Registry) (fields : List Field) :
    Option (List Cell) :=
  (Field.linkSpec? fields spec.via).map fun link =>
    (registry.related link.targetTable (row.cell spec.via).links).map (·.cell spec.target)

end LookupSpec

/-- **Several cells in one**: none give nothing, one gives itself, more give their texts in a row. -/
def Cell.join : List Cell → Cell
  | [] => null
  | [c] => c
  | cells => text (listSeparator.intercalate (cells.map display))

namespace Field

/-- **The cell of a field that is found by following links.**  Any other field keeps its stored
cell. -/
def resolve (f : Field) (row : Row) (registry : Registry) (fields : List Field) : Cell :=
  match f.type with
  | .relation _ =>
    match (row.cell f.id).links with
    | [] => .null
    | ids => .list ids
  | .lookup spec =>
    match spec.cells? row registry fields with
    | some cells => .join cells
    | none => .null
  | .rollup spec =>
    match spec.source.cells? row registry fields with
    | some cells => spec.aggregation.apply cells
    | none => .null
  | _ => row.cell f.id

end Field

end Fieldbook
