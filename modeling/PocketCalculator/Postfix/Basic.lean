import PocketCalculator.Token.Basic

/-!
# Postfix lists

## Items

In a postfix list every operation follows its operands, so that no precedence
and no parentheses are needed and a negation is told apart from a subtraction.
-/

namespace PocketCalculator

namespace Postfix

inductive Item where
  | number (x : Binary64)
  | negate
  | operator (o : Operator)
deriving DecidableEq

namespace Item

def text : Item -> Text
  | number x => x.plain
  | negate => "neg".toList
  | operator o => [o.symbol]

def listText (items : List Item) : Text :=
  Text.join [' '] (items.map text)

end Item

end Postfix

end PocketCalculator
