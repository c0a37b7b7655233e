import Fieldbook.Number.Decimal
import Fieldbook.Text.Blank

/-!
# Cells

A `Cell` holds what one row stores under one field.  Whatever it holds can be read as a number
(`toNumber`), as a truth value (`toBool`) and as text (`display`).  Text that is not a number
counts as zero, and so does a number that is not finite.
-/

namespace Fieldbook

/-- **The number that a text stands for**: the decimal it holds between blanks.  Any other text, and
a decimal too large to be finite, stands for zero. -/
def Number.ofText (s : String) : Number :=
  match ofChars? (Text.trim s.toList) with
  | some n => if n.isFinite then n else 0
  | none => 0

inductive Cell where
  | null
  | bool (value : Bool)
  | number (value : Number)
  | text (value : String)
  | list (items : List String)
deriving DecidableEq, Inhabited

def listSeparator : String := ", "

def boolText (b : Bool) : String := if b then "true" else "false"

namespace Cell

/-- **The text of a cell.**  Nothing shows as the empty text. -/
def display : Cell → String
  | null => ""
  | bool b => boolText b
  | number n => n.text
  | text s => s
  | list items => listSeparator.intercalate items

/-- **A cell as a number.**  The number is always finite. -/
def toNumber : Cell → Number
  | null => 0
  | bool b => if b then 1 else 0
  | number n => if n.isFinite then n else 0
  | text s => .ofText s
  | list items => .ofText (display (list items))

/-- **A cell as a truth value.**  Zero, not a number and what is empty are false. -/
def toBool : Cell → Bool
  | null => false
  | bool b => b
  | number n => !n.isZero && !n.isNaN
  | text s => s != ""
  | list items => !items.isEmpty

def isBlank : Cell → Bool
  | null => true
  | text s => s == ""
  | _ => false

def isNull : Cell → Bool
  | null => true
  | _ => false

/-- Whether the cell counts as false where rows are grouped. -/
def isFalsy (c : Cell) : Bool := !c.toBool

/-- Whether the cell holds no number but a finite one. -/
def isFinite : Cell → Bool
  | number n => n.isFinite
  | _ => true

def text? : Cell → Option String
  | text s => some s
  | _ => none

def list? : Cell → Option (List String)
  | list items => some items
  | _ => none

def typeName : Cell → String
  | null => "null"
  | bool _ => "boolean"
  | number _ => "number"
  | text _ => "text"
  | list _ => "list"

end Cell

end Fieldbook
