/-!
# Operators

The binary operators of formulas, how they are written, and how tightly they bind.  Operators of
one level group to the left.
-/

namespace Fieldbook

inductive Operator where
  | add
  | subtract
  | multiply
  | divide
  | modulo
  | greaterThan
  | lessThan
  | greaterEqual
  | lessEqual
  | equal
  | notEqual
deriving DecidableEq

namespace Operator

def symbol : Operator → String
  | add => "+"
  | subtract => "-"
  | multiply => "*"
  | divide => "/"
  | modulo => "%"
  | greaterThan => ">"
  | lessThan => "<"
  | greaterEqual => ">="
  | lessEqual => "<="
  | equal => "=="
  | notEqual => "!="

/-- **How tightly an operator binds**: comparisons least, products most. -/
def level : Operator → Nat
  | greaterThan | lessThan | greaterEqual | lessEqual | equal | notEqual => 1
  | add | subtract => 2
  | multiply | divide | modulo => 3

/-- The operator that a text begins with, and the rest.  The longer of two is taken. -/
def split? : List Char → Option (Operator × List Char)
  | '>' :: '=' :: rest => some (greaterEqual, rest)
  | '<' :: '=' :: rest => some (lessEqual, rest)
  | '=' :: '=' :: rest => some (equal, rest)
  | '!' :: '=' :: rest => some (notEqual, rest)
  | '+' :: rest => some (add, rest)
  | '-' :: rest => some (subtract, rest)
  | '*' :: rest => some (multiply, rest)
  | '/' :: rest => some (divide, rest)
  | '%' :: rest => some (modulo, rest)
  | '>' :: rest => some (greaterThan, rest)
  | '<' :: rest => some (lessThan, rest)
  | _ => none

end Operator

end Fieldbook
