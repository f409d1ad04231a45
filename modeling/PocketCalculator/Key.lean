import PocketCalculator.Operator

/-!
# Keys

## The keys of the pad

The pad and the keyboard give the same seventeen keys.  The label of a key is
also the text that is passed to the entry.
-/

namespace PocketCalculator

inductive Key where
  | digit (d : Fin 10)
  | operator (o : Operator)
  | point
  | equals
  | clear
deriving DecidableEq

namespace Key

def character : Key -> Char
  | digit d => Nat.digitChar d
  | operator o => o.symbol
  | point => '.'
  | equals => '='
  | clear => 'C'

def label (k : Key) : Text :=
  [k.character]

end Key

end PocketCalculator
