import Fieldbook.Cell
import Fieldbook.ModelError

/-!
# Aggregations

An `Aggregation` reduces a list of cells to one cell.  None of them fails: no cells at all give
zero, or nothing for the smallest and the largest.
-/

namespace Fieldbook

inductive Aggregation where
  | count
  | sum
  | avg
  | min
  | max
  | percentEmpty
  | percentFilled
deriving DecidableEq

/-- The smaller of two numbers; of equal ones, which may be the two zeros, the second.  Not a number
gives way to any other. -/
def Number.smaller (x y : Number) : Number := if y.isNaN || x.less y then x else y

/-- The larger of two numbers, likewise. -/
def Number.larger (x y : Number) : Number := if y.isNaN || y.less x then x else y

/-- A list reduced from left to right by an operation, if it is not empty. -/
def reduce? {α : Type} (op : α → α → α) : List α → Option α
  | [] => none
  | first :: rest => some (rest.foldl op first)

namespace Aggregation

def all : List Aggregation := [count, sum, avg, min, max, percentEmpty, percentFilled]

def name : Aggregation → String
  | count => "count"
  | sum => "sum"
  | avg => "avg"
  | min => "min"
  | max => "max"
  | percentEmpty => "percent_empty"
  | percentFilled => "percent_filled"

def ofName (s : String) : Except ModelError Aggregation :=
  match all.find? (·.name == s) with
  | some a => .ok a
  | none => .error (.unknownAggregation s)

def numberCell : Option Number → Cell
  | some n => .number n
  | none => .null

/-- **The share of cells that satisfy a condition**, in percent and rounded, half a percent upwards;
zero of no cells. -/
def percent (cells : List Cell) (condition : Cell → Bool) : Number :=
  if cells.isEmpty then 0
  else (Number.ofNat (cells.countP condition) / .ofNat cells.length * 100).roundHalfAway

/-- **What an aggregation makes of a list of cells.** -/
def apply (a : Aggregation) (cells : List Cell) : Cell :=
  let numbers := cells.map Cell.toNumber
  match a with
  | count => .number (.ofNat cells.length)
  | sum => .number (.sum numbers)
  | avg => .number (if cells.isEmpty then 0 else .sum numbers / .ofNat cells.length)
  | min => numberCell (reduce? Number.smaller numbers)
  | max => numberCell (reduce? Number.larger numbers)
  | percentEmpty => .number (percent cells Cell.isBlank)
  | percentFilled => .number (percent cells fun c => !c.isBlank)

/-- What the aggregation of a name makes of a list of cells; an unknown name gives nothing. -/
def applyNamed (name : String) (cells : List Cell) : Cell :=
  match ofName name with
  | .ok a => a.apply cells
  | .error _ => .null

end Aggregation

end Fieldbook
