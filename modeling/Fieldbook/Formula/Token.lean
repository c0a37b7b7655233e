import Fieldbook.Formula.Builtin
import Fieldbook.Formula.Operator
import Fieldbook.Number.Decimal

/-!
# Tokens

The parts that a formula is written in.  A word that is neither a truth value nor the name of a
function is a text, so `Done` and `"Done"` are the same token.
-/

namespace Fieldbook

inductive Token where
  | number (value : Number)
  | text (value : String)
  | bool (value : Bool)
  /-- A reference to a field by name. -/
  | field (name : String)
  | operator (op : Operator)
  | openParen
  | closeParen
  | comma
  | function (f : Builtin)
deriving DecidableEq

/-- **How a token is shown** in a message.  A text is shown without quotes. -/
def Token.display : Token → String
  | number n => n.text
  | text s => s
  | bool b => if b then "TRUE" else "FALSE"
  | field name => "\x7b" ++ name ++ "\x7d"
  | operator op => op.symbol
  | openParen => "("
  | closeParen => ")"
  | comma => ","
  | function f => f.name

end Fieldbook
