import PocketCalculator.Decimal.Layout
import PocketCalculator.Operator

/-!
# Tokens

## Numbers and signs

An expression is read as a list of numbers and operator signs.  Whether a minus
sign subtracts or negates is not yet decided.
-/

namespace PocketCalculator

inductive Token where
  | number (x : Binary64)
  | operator (o : Operator)
deriving DecidableEq

namespace Token

def text : Token -> Text
  | number x => x.plain
  | operator o => [o.symbol]

def listText (tokens : List Token) : Text :=
  Text.join [' '] (tokens.map text)

end Token

end PocketCalculator
