import Fieldbook.Formula.Expr

/-!
# Walking over a tree

A pass over a tree comes to every node, to a node before those below it and from left to right.
`Expr.walk` lists the visits of a pass, each with how deep the pass is in itself there.  What a tree
reads and what it calls is found on such passes.
-/

namespace Fieldbook

structure Visit where
  depth : Nat
  node : Expr

namespace Expr

mutual

def walkFrom (depth : Nat) : Expr → List Visit
  | negate operand => ⟨depth, negate operand⟩ :: walkFrom (depth + 1) operand
  | binary op left right =>
    ⟨depth, binary op left right⟩ :: (walkFrom (depth + 1) left ++ walkFrom (depth + 1) right)
  | call f arguments => ⟨depth, call f arguments⟩ :: walkAllFrom (depth + 1) arguments
  | number n => [⟨depth, number n⟩]
  | text s => [⟨depth, text s⟩]
  | bool b => [⟨depth, bool b⟩]
  | field name => [⟨depth, field name⟩]

def walkAllFrom (depth : Nat) : List Expr → List Visit
  | [] => []
  | expr :: rest => walkFrom depth expr ++ walkAllFrom depth rest

end

/-- **A pass over a tree**, which begins at its root. -/
def walk (e : Expr) : List Visit := walkFrom 1 e

def fieldName? : Expr → Option String
  | field name => some name
  | _ => none

def callee? : Expr → Option Builtin
  | call f _ => some f
  | _ => none

end Expr

end Fieldbook
