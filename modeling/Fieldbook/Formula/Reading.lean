import Fieldbook.Formula.Scan

/-!
# Reading a formula

A formula is read once, from left to right, one token at a time.  What its parts mean is left
to an `Algebra`: one algebra builds a tree, another computes a value on the spot, and both fail
at the first point where a reader from left to right can tell.

A `Reading` is how far a reader has come: whether an operand must follow or has just ended, and
a stack of what is still open.  `Reading.step` takes the next token, `Reading.finish` ends the
formula, and `Algebra.read` runs both over a list of tokens.

The grammar is

    Expr = Sum (comparison Sum)*        Sum  = Term ((+ | -) Term)*
    Term = Prim ((* | / | %) Prim)*     Prim = literal | field | call | (Expr) | -Prim

where operators of one level group to the left.  An operator waits on the stack until the next
one, or the end of its group, shows that its right operand is complete.
-/

namespace Fieldbook

/-- **What the parts of a formula mean.** -/
structure Algebra (α : Type) where
  number : Number → α
  text : String → α
  bool : Bool → α
  field : String → Except FormulaError α
  negate : α → α
  binary : Operator → α → α → Except FormulaError α
  call : Builtin → List α → Except FormulaError α

/-- What a formula is still in the middle of. -/
inductive OpenPart (α : Type) where
  /-- An operator with its left operand, waiting for its right one. -/
  | pending (left : α) (op : Operator)
  /-- A minus sign, waiting for its operand. -/
  | minus
  /-- A parenthesis, waiting for the closing one. -/
  | group
  /-- A call with its complete arguments, in the middle of another one. -/
  | call (f : Builtin) (arguments : List α)

/-- How far a formula has been read; the innermost open part is the first of the stack. -/
inductive Reading (α : Type) where
  /-- An operand must follow. -/
  | start (stack : List (OpenPart α))
  /-- A function has been named, and its opening parenthesis must follow. -/
  | named (f : Builtin) (stack : List (OpenPart α))
  /-- The argument list of a call has just been opened. -/
  | opened (f : Builtin) (stack : List (OpenPart α))
  /-- An operand has just ended. -/
  | operand (value : α) (stack : List (OpenPart α))

/-- **How deep a formula may be nested**: the number of parentheses, calls and minus signs that may
be open at once. -/
def maxDepth : Nat := 256

def OpenPart.nests {α : Type} : OpenPart α → Bool
  | pending _ _ => false
  | minus | group | call _ _ => true

def openDepth {α : Type} (stack : List (OpenPart α)) : Nat := stack.countP OpenPart.nests

namespace Reading

variable {α : Type}

def deeper (stack : List (OpenPart α)) (next : Reading α) : Except FormulaError (Reading α) :=
  if openDepth stack < maxDepth then .ok next else .error .tooDeeplyNested

/-- An operand has ended: the minus signs before it apply at once. -/
def complete (A : Algebra α) : α → List (OpenPart α) → Reading α
  | value, .minus :: stack => complete A (A.negate value) stack
  | value, stack => .operand value stack

/-- **The right operand is complete** of every waiting operator that binds at least as tightly as
`level`, the innermost first. -/
def settle (A : Algebra α) (level : Nat) :
    α → List (OpenPart α) → Except FormulaError (α × List (OpenPart α))
  | value, .pending left op :: stack =>
    if level ≤ op.level then
      match A.binary op left value with
      | .ok result => settle A level result stack
      | .error e => .error e
    else .ok (value, .pending left op :: stack)
  | value, stack => .ok (value, stack)

def beginOperand (A : Algebra α) (stack : List (OpenPart α)) :
    Token → Except FormulaError (Reading α)
  | .number n => .ok (complete A (A.number n) stack)
  | .text s => .ok (complete A (A.text s) stack)
  | .bool b => .ok (complete A (A.bool b) stack)
  | .field name => (A.field name).map (complete A · stack)
  | .function f => deeper stack (.named f stack)
  | .openParen => deeper stack (.start (.group :: stack))
  | .operator .subtract => deeper stack (.start (.minus :: stack))
  | token => .error (.unexpectedToken token)

/-- The token after the end of a complete expression. -/
def closeWith (A : Algebra α) (value : α) (stack : List (OpenPart α)) (token : Token) :
    Except FormulaError (Reading α) :=
  match stack with
  | .group :: stack =>
    if token = .closeParen then .ok (complete A value stack)
    else .error (.expectedToken .closeParen (some token))
  | .call f arguments :: stack =>
    if token = .comma then .ok (.start (.call f (arguments ++ [value]) :: stack))
    else if token = .closeParen then
      (A.call f (arguments ++ [value])).map (complete A · stack)
    else .error (.expectedToken .closeParen (some token))
  | _ => .error (.unexpectedToken token)

/-- **One token further.** -/
def step (A : Algebra α) : Reading α → Token → Except FormulaError (Reading α)
  | start stack, token => beginOperand A stack token
  | named f stack, token =>
    if token = .openParen then .ok (opened f stack)
    else .error (.expectedToken .openParen (some token))
  | opened f stack, token =>
    if token = .closeParen then (A.call f []).map (complete A · stack)
    else beginOperand A (.call f [] :: stack) token
  | operand value stack, .operator op =>
    (settle A op.level value stack).map fun (left, stack) => start (.pending left op :: stack)
  | operand value stack, token => do
    let (value, stack) ← settle A 0 value stack
    closeWith A value stack token

def finish (A : Algebra α) : Reading α → Except FormulaError α
  | start _ | opened _ _ => .error .unexpectedEnd
  | named _ _ => .error (.expectedToken .openParen none)
  | operand value stack => do
    match ← settle A 0 value stack with
    | (value, []) => .ok value
    | _ => .error (.expectedToken .closeParen none)

end Reading

namespace Algebra

variable {α : Type}

def readTokens (A : Algebra α) (tokens : List Token) : Except FormulaError α := do
  let reading ← tokens.foldlM (Reading.step A) (.start [])
  reading.finish A

/-- **Reading a formula.**  It is cut into tokens first, so an error there comes before any other. -/
def read (A : Algebra α) (expression : String) : Except FormulaError α := do
  let tokens ← Token.scan expression
  A.readTokens tokens

end Algebra

end Fieldbook
