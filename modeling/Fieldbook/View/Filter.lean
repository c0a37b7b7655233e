import Fieldbook.Row
import Fieldbook.Text.Order

/-!
# Filters

A `Filter` is a condition on the cell that a row has under one field: its text or its number is
compared with a given text.  `Filter.passes` says whether a row satisfies it.
-/

namespace Fieldbook

inductive FilterOperator where
  | is
  | isNot
  | contains
  | notContains
  | isEmpty
  | isNotEmpty
  | greater
  | less
  /-- A comparison that this version does not know; it lets every row pass. -/
  | unknown
deriving DecidableEq

namespace FilterOperator

def known : List FilterOperator :=
  [is, isNot, contains, notContains, isEmpty, isNotEmpty, greater, less]

def name : FilterOperator → String
  | is => "is"
  | isNot => "is_not"
  | contains => "contains"
  | notContains => "not_contains"
  | isEmpty => "is_empty"
  | isNotEmpty => "is_not_empty"
  | greater => "gt"
  | less => "lt"
  | unknown => "unknown"

def ofName (s : String) : FilterOperator := (known.find? (·.name == s)).getD unknown

end FilterOperator

structure Filter where
  field : String
  operator : FilterOperator
  value : String
deriving DecidableEq

def containsIgnoringCase (text needle : String) : Bool :=
  Text.occursIn (Text.lower needle.toList) (Text.lower text.toList)

namespace Filter

def passes (f : Filter) (r : Row) : Bool :=
  let cell := r.cell f.field
  let text := cell.display
  match f.operator with
  | .is => text == f.value
  | .isNot => text != f.value
  | .contains => containsIgnoringCase text f.value
  | .notContains => !containsIgnoringCase text f.value
  | .isEmpty => text == ""
  | .isNotEmpty => text != ""
  | .greater => (Number.ofText f.value).less cell.toNumber
  | .less => cell.toNumber.less (.ofText f.value)
  | .unknown => true

def selectOn {α : Type} (row : α → Row) (filters : List Filter) (items : List α) : List α :=
  items.filter fun a => filters.all (·.passes (row a))

def select (filters : List Filter) (rows : List Row) : List Row := selectOn id filters rows

end Filter

end Fieldbook
