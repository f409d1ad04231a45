import PocketCalculator.Text.Quoted

/-!
# Errors

## Causes and wordings

An expression is refused either because it cannot be read or because its value
is not finite.  The user sees one of two texts; the cause is kept for the log
and for whoever asks for the detail.
-/

namespace PocketCalculator

inductive SyntaxError where
  | unexpectedCharacter (c : Char)
  /-- Carries the text of the literal as far as it was read. -/
  | invalidNumber (literal : Text)
  | missingOperand
  | missingOperator
  | doubleMinus
  | invalidExpression
deriving DecidableEq

namespace SyntaxError

def message : SyntaxError -> Text
  | unexpectedCharacter c => "caractère inattendu: '".toList ++ [c, '\'']
  | invalidNumber literal => "nombre invalide: ".toList ++ literal.quoted
  | missingOperand => "opérande manquant".toList
  | missingOperator => "opérateur manquant entre deux nombres".toList
  | doubleMinus => "deux '-' consécutifs".toList
  | invalidExpression => "expression invalide".toList

def logText : SyntaxError -> Text
  | unexpectedCharacter c => "CaractereInattendu(".toList ++ Text.quotedChar c ++ [')']
  | invalidNumber literal => "NombreInvalide(".toList ++ literal.quoted ++ [')']
  | missingOperand => "OperandeManquant".toList
  | missingOperator => "OperateurManquant".toList
  | doubleMinus => "DoubleMoins".toList
  | invalidExpression => "ExpressionInvalide".toList

end SyntaxError

inductive EvaluationError where
  | malformed (cause : SyntaxError)
  /-- The value is infinite or not a number. -/
  | divisionByZero
deriving DecidableEq

namespace EvaluationError

/-- What the user sees. -/
def display : EvaluationError -> Text
  | malformed _ => "Error".toList
  | divisionByZero => "Error: Division by zero".toList

/-- The detail behind what the user sees. -/
def message : EvaluationError -> Text
  | malformed cause => cause.message
  | divisionByZero => divisionByZero.display

def logText : EvaluationError -> Text
  | malformed cause => "Malforme(".toList ++ cause.logText ++ [')']
  | divisionByZero => "DivisionParZero".toList

end EvaluationError

end PocketCalculator
