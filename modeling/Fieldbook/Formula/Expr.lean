import Fieldbook.Formula.Reading

/-!
# Formula trees

An `Expr` is a formula as a tree: parentheses are gone and operators stand above their operands.
`Expr.parse` reads one from text.  `Expr.interpret` gives a tree its meaning in an algebra, from
the leaves up and from left to right.
-/

namespace Fieldbook

inductive Expr where
  | number (value : Number)
  | text (value : String)
  | bool (value : Bool)
  | field (name : String)
  | negate (operand : Expr)
  | binary (op : Operator) (left right : Expr)
  | call (f : Builtin) (arguments : List Expr)

namespace Expr

/-- The algebra in which a formula means its tree. -/
def algebra : Algebra Expr where
  number := number
  text := text
  bool := bool
  field name := .ok (field name)
  negate := negate
  binary op left right := .ok (binary op left right)
  call f arguments := .ok (call f arguments)

/-- **The tree of a formula.** -/
def parse (expression : String) : Except FormulaError Expr := algebra.read expression

mutual

/-- **The meaning of a tree in an algebra.**  The first failure from left to right stops it. -/
def interpret {α : Type} (A : Algebra α) : Expr → Except FormulaError α
  | number n => .ok (A.number n)
  | text s => .ok (A.text s)
  | bool b => .ok (A.bool b)
  | field name => A.field name
  | negate operand => do
    let value ← interpret A operand
    return A.negate value
  | binary op left right => do
    let left ← interpret A left
    let right ← interpret A right
    A.binary op left right
  | call f arguments => do
    let values ← interpretAll A arguments
    A.call f values

def interpretAll {α : Type} (A : Algebra α) : List Expr → Except FormulaError (List α)
  | [] => .ok []
  | expr :: rest => do
    let value ← interpret A expr
    let values ← interpretAll A rest
    return value :: values

end

mutual

def fieldNames : Expr → List String
  | field name => [name]
  | negate operand => fieldNames operand
  | binary _ left right => fieldNames left ++ fieldNames right
  | call _ arguments => fieldNamesAll arguments
  | number _ | text _ | bool _ => []

def fieldNamesAll : List Expr → List String
  | [] => []
  | expr :: rest => fieldNames expr ++ fieldNamesAll rest

end

mutual

/-- The functions that a tree calls, an outer call before those in its arguments. -/
def calls : Expr → List Builtin
  | call f arguments => f :: callsAll arguments
  | negate operand => calls operand
  | binary _ left right => calls left ++ calls right
  | number _ | text _ | bool _ | field _ => []

def callsAll : List Expr → List Builtin
  | [] => []
  | expr :: rest => calls expr ++ callsAll rest

end

/-- **The fields that a tree reads**, by name, each once and in order of first use. -/
def references (e : Expr) : List String := e.fieldNames.eraseDups

def isVolatile (e : Expr) : Bool := e.calls.any Builtin.isVolatile

end Expr

end Fieldbook
