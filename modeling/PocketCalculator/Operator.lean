import PocketCalculator.Text.Basic
import PocketCalculator.Binary64.Arithmetic

/-!
# Operators

## The four signs

Each of the four signs names a binary operation on numbers.  The minus sign also
serves as a negation, which is decided where an expression is read.
-/

namespace PocketCalculator

inductive Operator where
  | plus
  | minus
  | times
  | divide
deriving DecidableEq

namespace Operator

def symbol : Operator -> Char
  | plus => '+'
  | minus => '-'
  | times => '*'
  | divide => '/'

def ofChar? : Char -> Option Operator
  | '+' => some plus
  | '-' => some minus
  | '*' => some times
  | '/' => some divide
  | _ => none

def isSymbol (c : Char) : Bool :=
  (ofChar? c).isSome

@[simp] theorem ofChar?_symbol (o : Operator) : ofChar? o.symbol = some o := by
  cases o <;> rfl

theorem eq_of_symbol_eq {o other : Operator} (h : o.symbol = other.symbol) : o = other := by
  have hsame := congrArg ofChar? h
  rw [ofChar?_symbol, ofChar?_symbol] at hsame
  exact Option.some.inj hsame

theorem symbol_of_ofChar? {c : Char} {o : Operator} (h : ofChar? c = some o) :
    o.symbol = c := by
  unfold ofChar? at h
  split at h <;> cases h <;> rfl

def apply : Operator -> Binary64 -> Binary64 -> Binary64
  | plus => Binary64.add
  | minus => Binary64.sub
  | times => Binary64.mul
  | divide => Binary64.div

def precedence : Operator -> Nat
  | plus => 1
  | minus => 1
  | times => 2
  | divide => 2

end Operator

end PocketCalculator
