import PocketCalculator.Binary64.Rounding

/-!
# Arithmetic

## Exact results, rounded once

Each operation computes its exact result as a fraction and rounds it.  A sum
that is exactly zero is the negative zero only when both terms are negative
zeros; a product or quotient carries the product of the signs.  Operations
without a meaning give not-a-number.
-/

namespace PocketCalculator

attribute [local instance] naturalPower

namespace Binary64

/-- The signed number of units in a finite number. -/
def signedUnits (negative : Bool) (mantissa exponent : Nat) : Int :=
  let units : Int := (mantissa * 2 ^ exponent : Nat)
  if negative then -units else units

def add : Binary64 -> Binary64 -> Binary64
  | nan, _ => nan
  | infinite _, nan => nan
  | finite .., nan => nan
  | infinite s, infinite t => if s = t then infinite s else nan
  | infinite s, finite .. => infinite s
  | finite .., infinite t => infinite t
  | finite s m e _, finite t n f _ =>
      let total := signedUnits s m e + signedUnits t n f
      if total = 0 then zero (s && t)
      else nearest (decide (total < 0)) total.natAbs unitsPerOne

def sub (x y : Binary64) : Binary64 :=
  add x (neg y)

def mul : Binary64 -> Binary64 -> Binary64
  | nan, _ => nan
  | infinite _, nan => nan
  | finite .., nan => nan
  | infinite s, infinite t => infinite (s ^^ t)
  | infinite s, finite t n _ _ => if n = 0 then nan else infinite (s ^^ t)
  | finite s m _ _, infinite t => if m = 0 then nan else infinite (s ^^ t)
  | finite s m e _, finite t n f _ =>
      nearest (s ^^ t) (m * n * 2 ^ (e + f)) (unitsPerOne * unitsPerOne)

def div : Binary64 -> Binary64 -> Binary64
  | nan, _ => nan
  | infinite _, nan => nan
  | finite .., nan => nan
  | infinite _, infinite _ => nan
  | infinite s, finite t _ _ _ => infinite (s ^^ t)
  | finite s _ _ _, infinite t => zero (s ^^ t)
  | finite s m e _, finite t n f _ =>
      if n = 0 then
        if m = 0 then nan else infinite (s ^^ t)
      else nearest (s ^^ t) (m * 2 ^ e) (n * 2 ^ f)

end Binary64

end PocketCalculator
