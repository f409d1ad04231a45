import PocketCalculator.Binary64.Rounding
import PocketCalculator.Text.Basic

/-!
# Decimal numbers

## Coefficient and exponent

A decimal number is a natural coefficient times a power of ten.  Read as a
floating-point number it is the nearest one, whatever the size of the
coefficient and the exponent.
-/

namespace PocketCalculator

attribute [local instance] naturalPower

/-- Stands for `coefficient * 10 ^ exponent`. -/
structure Decimal where
  coefficient : Nat
  exponent : Int
deriving DecidableEq

namespace Decimal

/-- Moves trailing zeros of the coefficient into the exponent. -/
def stripZeros (coefficient : Nat) (exponent : Int) : Decimal :=
  if coefficient ≠ 0 ∧ coefficient % 10 = 0 then
    stripZeros (coefficient / 10) (exponent + 1)
  else ⟨coefficient, exponent⟩
termination_by coefficient
decreasing_by omega

def digits (d : Decimal) : Text :=
  Text.ofNat d.coefficient

/-- The `p` for which the number reads `0.digits * 10 ^ p`. -/
def point (d : Decimal) : Int :=
  d.digits.length + d.exponent

/-!
## Reading

Two bounds on the exponent keep the powers of ten that are computed in
proportion to the coefficient: from `10 ^ 400` on a number overflows, and a
number below `2 ^ (-1076)` rounds to zero.  Both follow from `8 ^ k ≤ 10 ^ k`.
-/

def toBinary64 (negative : Bool) (d : Decimal) : Binary64 :=
  match d.exponent with
  | Int.ofNat k =>
      if d.coefficient = 0 then .zero negative
      else if 400 ≤ k then .infinite negative
      else .nearest negative (d.coefficient * 10 ^ k) 1
  | Int.negSucc k =>
      if d.coefficient.log2 + 1077 ≤ 3 * (k + 1) then .zero negative
      else .nearest negative d.coefficient (10 ^ (k + 1))

end Decimal

end PocketCalculator
