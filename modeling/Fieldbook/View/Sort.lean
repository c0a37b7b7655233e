import Fieldbook.Field
import Fieldbook.Row
import Fieldbook.Text.Order

/-!
# Sorting rows

A `SortKey` names a field and a direction.  Cells under a number field are compared as numbers,
all others by their text.  `SortKey.sort` is stable: rows that agree on every key keep their
order.
-/

namespace Fieldbook

inductive SortDirection where
  | ascending
  | descending
deriving DecidableEq

namespace SortDirection

/-- The direction of a name, whose ASCII letters may be in any case. -/
def ofName (s : String) : Except ModelError SortDirection :=
  let lower := s.toList.map Char.toLower
  if lower = "asc".toList ∨ lower = "ascending".toList then .ok ascending
  else if lower = "desc".toList ∨ lower = "descending".toList then .ok descending
  else .error (.unknownSortDirection s)

def turn : SortDirection → Ordering → Ordering
  | ascending, o => o
  | descending, o => o.swap

end SortDirection

structure SortKey where
  field : String
  direction : SortDirection
deriving DecidableEq

namespace SortKey

def isNumeric (k : SortKey) (fields : List Field) : Bool :=
  (Field.withId? fields k.field).any (·.type.isNumeric)

def compareRows (k : SortKey) (fields : List Field) (a b : Row) : Ordering :=
  let x := a.cell k.field
  let y := b.cell k.field
  k.direction.turn <|
    if k.isNumeric fields then x.toNumber.totalCompare y.toNumber
    else Text.compareText x.display.toList y.display.toList

/-- **The comparison of two rows by several keys**: the first key that tells them apart decides. -/
def compareAll (keys : List SortKey) (fields : List Field) (a b : Row) : Ordering :=
  keys.foldr (fun k rest => (k.compareRows fields a b).then rest) .eq

def sortOn {α : Type} (row : α → Row) (keys : List SortKey) (fields : List Field)
    (items : List α) : List α :=
  items.mergeSort fun a b => compareAll keys fields (row a) (row b) != .gt

def sort (keys : List SortKey) (fields : List Field) (rows : List Row) : List Row :=
  sortOn id keys fields rows

end SortKey

end Fieldbook
