import PocketCalculator.Operator
import PocketCalculator.Decimal.Layout

/-!
# Expression trees

## Values and texts

An expression is a number, a negated expression or two expressions joined by an
operator.  Its value is computed from the leaves up; its text is fully
parenthesised.
-/

namespace PocketCalculator

inductive Tree where
  | number (x : Binary64)
  | negate (operand : Tree)
  | binary (o : Operator) (left right : Tree)
deriving DecidableEq

namespace Tree

def value : Tree -> Binary64
  | number x => x
  | negate operand => operand.value.neg
  | binary o left right => o.apply left.value right.value

def text : Tree -> Text
  | number x => x.plain
  | negate operand => '(' :: '-' :: operand.text ++ [')']
  | binary o left right =>
      '(' :: left.text ++ ' ' :: o.symbol :: ' ' :: right.text ++ [')']

end Tree

end PocketCalculator
