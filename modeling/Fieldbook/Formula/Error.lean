import Fieldbook.Formula.Token

/-!
# Errors of formulas

Why a formula could not be read or evaluated, and the message shown for it.
-/

namespace Fieldbook

inductive FormulaError where
  /-- A quote without a second one. -/
  | unterminatedString
  /-- An opening brace without a closing one. -/
  | unterminatedFieldRef
  /-- A character that begins no token, at a position counted in bytes of UTF-8. -/
  | unexpectedCharacter (char : Char) (position : Nat)
  /-- A token that cannot stand where it is. -/
  | unexpectedToken (found : Token)
  /-- The end, where an operand must stand. -/
  | unexpectedEnd
  /-- Another token than the one that must stand here, or the end. -/
  | expectedToken (expected : Token) (found : Option Token)
  /-- More parentheses, calls and minus signs within each other than allowed. -/
  | tooDeeplyNested
  | unknownField (name : String)
  | unknownFunction (name : String)
  | argumentCount (function : Builtin) (given : Nat)
  | divisionByZero
  | invalidDate (text : String)
deriving DecidableEq

/-- Whether a formula is malformed or well formed without a value. -/
inductive FormulaErrorKind where
  | parse
  | evaluation
deriving DecidableEq

namespace FormulaError

def kind : FormulaError → FormulaErrorKind
  | unterminatedString | unterminatedFieldRef | unexpectedCharacter _ _ | unexpectedToken _
  | unexpectedEnd | expectedToken _ _ | tooDeeplyNested => .parse
  | unknownField _ | unknownFunction _ | argumentCount _ _ | divisionByZero | invalidDate _ =>
    .evaluation

def foundText : Option Token → String
  | some token => token.display
  | none => "end of expression"

def message : FormulaError → String
  | unterminatedString => "Unterminated string literal"
  | unterminatedFieldRef => "Unterminated field reference"
  | unexpectedCharacter c position =>
    "Unexpected character '" ++ String.singleton c ++ "' at position " ++ toString position
  | unexpectedToken found => "Unexpected token: " ++ found.display
  | unexpectedEnd => "Unexpected end of expression"
  | expectedToken expected found =>
    "Expected " ++ expected.display ++ " but found " ++ foundText found
  | tooDeeplyNested => "Expression too deeply nested"
  | unknownField name => "Unknown field: " ++ name
  | unknownFunction name => "Unknown function: " ++ name
  | argumentCount function given =>
    "Wrong number of arguments for " ++ function.name ++ ": expected " ++ function.arity.text
      ++ ", got " ++ toString given
  | divisionByZero => "Division by zero"
  | invalidDate text => "Invalid date: " ++ text

end FormulaError

end Fieldbook
