import Fieldbook.Keyed
import Fieldbook.View.Filter
import Fieldbook.View.Sort

/-!
# Views

A `View` is a saved way to look at a table: which rows to keep, in which order, grouped by what,
and which fields to show.
-/

namespace Fieldbook

structure View where
  id : String
  name : String
  filters : List Filter
  sorts : List SortKey
  groupBy : Option String
  hiddenFields : NameSet
  fieldOrder : List String
deriving DecidableEq

namespace View

/-- **The fields that a view shows.**  The fields that its order names come first, the others follow
in the order of the table; a hidden field and a second field with the same id are left out. -/
def visibleFields (v : View) (fields : List Field) : List Field :=
  let named := v.fieldOrder.filterMap (Field.withId? fields)
  ((named ++ fields).filter fun f => !v.hiddenFields.contains f.id).eraseDupsBy
    fun a b => a.id == b.id

end View

end Fieldbook
