import Fieldbook.Formula.Error
import Fieldbook.Formula.Value
import Fieldbook.Time.Timestamp

/-!
# Operators and functions on values

What each operator and each built-in function makes of its operands.  Operands are complete
values: a function cannot leave an argument unevaluated.
-/

namespace Fieldbook

/-- **What an operator makes of two values.**  A sum with a text in it joins texts; equality compares
texts; every other operator works on numbers. -/
def Operator.apply (op : Operator) (left right : Value) : Except FormulaError Value :=
  let x := left.toNumber
  let y := right.toNumber
  match op with
  | add =>
    if left.isText || right.isText then .ok (.text (left.display ++ right.display))
    else .ok (.number (x + y))
  | subtract => .ok (.number (x - y))
  | multiply => .ok (.number (x * y))
  | divide => if y.isZero then .error .divisionByZero else .ok (.number (x / y))
  | modulo => if y.isZero then .error .divisionByZero else .ok (.number (x.rem y))
  | equal => .ok (.bool (left.display == right.display))
  | notEqual => .ok (.bool (left.display != right.display))
  | greaterThan => .ok (.bool (y.less x))
  | lessThan => .ok (.bool (x.less y))
  | greaterEqual => .ok (.bool (y.lessEq x))
  | lessEqual => .ok (.bool (x.lessEq y))

/-! ### Rounding to places -/

namespace Number

/-- **Rounding to decimal places**, a half going away from zero; negative places count to the left of
the point. -/
def roundTo (n : Number) (places : Int) : Number :=
  let power := powerOfTen places
  let half := 1 / 2
  if lessEq 0 n then (n * power + half).floor / power else (n * power - half).ceil / power

/-- A number of places: truncated, and held within 32 bits. -/
def places (n : Number) : Int := n.truncateWithin (-2147483648) 2147483647

/-- A number of milliseconds: truncated, and held within 64 bits. -/
def millis (n : Number) : Int := n.truncateWithin (-9223372036854775808) 9223372036854775807

end Number

/-! ### Dates -/

/-- **The instant that a value stands for**: a finite number of milliseconds since 1970, or a text that
is a date or a timestamp. -/
def Value.instant? : Value → Option Instant
  | number n => if n.isFinite then Instant.ofMillis? n.millis else none
  | text s => Instant.readLenient? (Text.trim s.toList)
  | null | bool _ => none

def Value.instant (v : Value) : Except FormulaError Instant :=
  match v.instant? with
  | some i => .ok i
  | none => .error (.invalidDate v.display)

/-- The whole days between two values that stand for instants; the first that does not is named. -/
def Value.daysBetween (first second : Value) : Except FormulaError Value := do
  let a ← first.instant
  let b ← second.instant
  return .number (.ofNat (Instant.wholeDays a b))

namespace Builtin

def argument (arguments : List Value) (place : Nat) : Value := arguments.getD place .null

/-- What a function makes of arguments whose number is accepted. -/
def run (f : Builtin) (clock : Instant) (arguments : List Value) : Except FormulaError Value :=
  let first := argument arguments 0
  let second := argument arguments 1
  let chars := first.display.toList
  let n := first.toNumber
  match f with
  | ifElse => .ok (if first.toBool then second else argument arguments 2)
  | and => .ok (.bool (arguments.all Value.toBool))
  | or => .ok (.bool (arguments.any Value.toBool))
  | not => .ok (.bool (!first.toBool))
  | concat => .ok (.text (String.join (arguments.map Value.display)))
  | upper => .ok (.text (String.ofList (Text.upper chars)))
  | lower => .ok (.text (String.ofList (Text.lower chars)))
  | len => .ok (.number (.ofNat chars.length))
  | trim => .ok (.text (String.ofList (Text.trim chars)))
  | sum => .ok (.number (.sum (arguments.map Value.toNumber)))
  | abs => .ok (.number n.abs)
  | floor => .ok (.number n.floor)
  | ceil => .ok (.number n.ceil)
  | round => .ok (.number (n.roundTo second.toNumber.places))
  | now => .ok (.text (String.ofList clock.millisText))
  | today => .ok (.text (String.ofList clock.date.text))
  | days => Value.daysBetween first second

/-- **What a function makes of its arguments**, at the instant that the clock shows. -/
def apply (f : Builtin) (clock : Instant) (arguments : List Value) : Except FormulaError Value :=
  if f.arity.accepts arguments.length then f.run clock arguments
  else .error (.argumentCount f arguments.length)

def applyNamed (name : String) (clock : Instant) (arguments : List Value) :
    Except FormulaError Value :=
  match ofName? name with
  | some f => f.apply clock arguments
  | none => .error (.unknownFunction name)

end Builtin

end Fieldbook
