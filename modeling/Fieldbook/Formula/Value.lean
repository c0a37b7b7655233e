import Fieldbook.Cell

/-!
# Values of formulas

A `Value` is what a formula or a part of one comes to: a cell without lists.  Unlike a cell, a
value that is a number reads as that number even if it is not finite.
-/

namespace Fieldbook

inductive Value where
  | null
  | number (value : Number)
  | text (value : String)
  | bool (value : Bool)
deriving DecidableEq, Inhabited

namespace Value

def toNumber : Value → Number
  | null => 0
  | number n => n
  | text s => .ofText s
  | bool b => if b then 1 else 0

def toBool : Value → Bool
  | null => false
  | number n => !n.isZero && !n.isNaN
  | text s => s != ""
  | bool b => b

def display : Value → String
  | null => ""
  | number n => n.text
  | text s => s
  | bool b => boolText b

def isText : Value → Bool
  | text _ => true
  | _ => false

/-- **A cell read into a formula.**  A list becomes its text. -/
def ofCell : Cell → Value
  | .null => null
  | .bool b => bool b
  | .number n => number n
  | .text s => text s
  | .list items => text (Cell.display (.list items))

def toCell : Value → Cell
  | null => .null
  | number n => .number n
  | text s => .text s
  | bool b => .bool b

end Value

end Fieldbook
