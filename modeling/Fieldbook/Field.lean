import Fieldbook.Aggregation

/-!
# Fields

A `Field` is a column of a table.  Its type says what its cells hold: values that are stored,
links to rows of another table, or values that are computed from other cells.
-/

namespace Fieldbook

structure LinkSpec where
  targetTable : String
  displayField : Option String
  multiple : Bool
deriving DecidableEq

structure LookupSpec where
  /-- The field of this table that holds the links. -/
  via : String
  /-- The field of the linked rows that is read. -/
  target : String
deriving DecidableEq

structure RollupSpec where
  source : LookupSpec
  aggregation : Aggregation
deriving DecidableEq

inductive FieldType where
  | text
  | number
  | checkbox
  | select
  | multiSelect
  | date
  | url
  | email
  | phone
  | relation (spec : LinkSpec)
  | lookup (spec : LookupSpec)
  | rollup (spec : RollupSpec)
  | formula (expression : String)
  | createdTime
  | lastEditedTime
deriving DecidableEq

/-- A column of a table.  Formulas refer to it by name, everything else by id. -/
structure Field where
  id : String
  name : String
  type : FieldType
deriving DecidableEq

namespace FieldType

def isNumeric : FieldType → Bool
  | number => true
  | _ => false

/-- **Computed types**: what is stored in their cells is left over from an earlier calculation. -/
def isComputed : FieldType → Bool
  | lookup _ | rollup _ | formula _ | createdTime | lastEditedTime => true
  | _ => false

def isLinked : FieldType → Bool
  | relation _ | lookup _ | rollup _ => true
  | _ => false

def expression? : FieldType → Option String
  | formula expression => some expression
  | _ => none

end FieldType

namespace Field

def isFormula (f : Field) : Bool := f.type.expression?.isSome

def withId? (fields : List Field) (id : String) : Option Field := fields.find? (·.id == id)

def withName? (fields : List Field) (name : String) : Option Field := fields.find? (·.name == name)

end Field

end Fieldbook
