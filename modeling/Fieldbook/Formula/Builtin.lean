import Fieldbook.Text.Case

/-!
# Built-in functions

The closed set of functions that formulas can call: their names, how many arguments they take,
and which of them read the clock.  A name is matched without regard to case.
-/

namespace Fieldbook

inductive Builtin where
  | ifElse
  | and
  | or
  | not
  | concat
  | upper
  | lower
  | len
  | trim
  | sum
  | abs
  | floor
  | ceil
  | round
  | now
  | today
  | days
deriving DecidableEq

/-- How many arguments a function takes; `most` is absent where there is no limit. -/
structure Arity where
  least : Nat
  most : Option Nat
deriving DecidableEq

namespace Arity

def exactly (n : Nat) : Arity := ⟨n, some n⟩

def any : Arity := ⟨0, none⟩

def accepts (a : Arity) (given : Nat) : Bool := a.least ≤ given && a.most.all (given ≤ ·)

def text (a : Arity) : String :=
  match a.most with
  | some most =>
    if most = a.least then toString most else toString a.least ++ " to " ++ toString most
  | none => "at least " ++ toString a.least

end Arity

namespace Builtin

def all : List Builtin :=
  [abs, and, ceil, concat, days, floor, ifElse, len, lower, not, now, or, round, sum, today, trim,
    upper]

def name : Builtin → String
  | ifElse => "IF"
  | and => "AND"
  | or => "OR"
  | not => "NOT"
  | concat => "CONCAT"
  | upper => "UPPER"
  | lower => "LOWER"
  | len => "LEN"
  | trim => "TRIM"
  | sum => "SUM"
  | abs => "ABS"
  | floor => "FLOOR"
  | ceil => "CEIL"
  | round => "ROUND"
  | now => "NOW"
  | today => "TODAY"
  | days => "DAYS"

def arity : Builtin → Arity
  | ifElse => ⟨2, some 3⟩
  | round => ⟨1, some 2⟩
  | and | or | concat | sum => .any
  | not | upper | lower | len | trim | abs | floor | ceil => .exactly 1
  | now | today => .exactly 0
  | days => .exactly 2

/-- **Volatile functions** read the clock: their result is not settled by their arguments. -/
def isVolatile : Builtin → Bool
  | now | today => true
  | _ => false

def withName? (name : List Char) : Option Builtin := all.find? (·.name.toList == name)

def ofName? (name : String) : Option Builtin := withName? (Text.upper name.toList)

end Builtin

end Fieldbook
