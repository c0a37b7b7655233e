import Fieldbook.Field
import Fieldbook.Formula.Apply
import Fieldbook.Formula.Expr
import Fieldbook.Row

/-!
# Evaluating formulas

A formula is evaluated in a `Scope`: a row, the fields whose names it may use, and the instant
that its clock shows.  `Formula.value` reads the text of a formula and computes its value in one
pass; `Formula.cell` is the cell that shows the value, or the error as a text.
-/

namespace Fieldbook

structure Scope where
  row : Row
  fields : List Field
  now : Instant

namespace Scope

/-- **What a field reference means**: the cell under the first field with the name. -/
def fieldValue (s : Scope) (name : String) : Except FormulaError Value :=
  match Field.withName? s.fields name with
  | some field => .ok (.ofCell (s.row.cell field.id))
  | none => .error (.unknownField name)

/-- The algebra in which a formula means its value. -/
def algebra (s : Scope) : Algebra Value where
  number := .number
  text := .text
  bool := .bool
  field := s.fieldValue
  negate v := .number (-v.toNumber)
  binary := Operator.apply
  call f arguments := f.apply s.now arguments

end Scope

namespace Formula

/-- **The value of a formula.**  A blank formula comes to nothing. -/
def value (expression : String) (scope : Scope) : Except FormulaError Value :=
  if Text.isBlankText expression.toList then .ok .null else scope.algebra.read expression

def errorMark : String := "#ERROR: "

def errorCell (e : FormulaError) : Cell := .text (errorMark ++ e.message)

/-- **The cell of a formula**: its value, or its error as a text. -/
def cell (expression : String) (scope : Scope) : Cell :=
  match value expression scope with
  | .ok v => v.toCell
  | .error e => errorCell e

def references (expression : String) : Except FormulaError (List String) :=
  (Expr.parse expression).map Expr.references

def isVolatile (expression : String) : Except FormulaError Bool :=
  (Expr.parse expression).map Expr.isVolatile

end Formula

def Cell.isError : Cell → Bool
  | text s => Formula.errorMark.toList.isPrefixOf s.toList
  | _ => false

end Fieldbook
