import PocketCalculator.Decimal.Basic

/-!
# Shortest decimal form

## The fewest digits that read back

The shortest form of a positive number is found by trying one digit, then two,
and so on.  With a given count of digits the decimal numbers near the value form
a grid, and only the value's two neighbours on that grid have to be tried: if
any decimal number of the grid reads back, so does one of them.  When both do,
the nearer is taken, and the upper one when they are equally near.  Seventeen
digits always suffice.
-/

namespace PocketCalculator

attribute [local instance] naturalPower

namespace Decimal

/-- The `p` with `10 ^ (p - 1) ≤ n / d < 10 ^ p`, for positive `n` and `d`. -/
def pointOf (n d : Nat) : Int :=
  if d ≤ n then (Nat.toDigits 10 (n / d)).length
  else 1 - (Nat.toDigits 10 ((d - 1) / n)).length

/-- The fraction `n / d` measured in steps of `10 ^ exponent`. -/
def inSteps (n d : Nat) : Int -> Nat × Nat
  | Int.ofNat k => (n, d * 10 ^ k)
  | Int.negSucc k => (n * 10 ^ (k + 1), d)

/-- The neighbours of `n / d` on the grid of step `10 ^ exponent`, nearer first. -/
def neighbours (n d : Nat) (exponent : Int) : List Decimal :=
  let (a, b) := inSteps n d exponent
  let below : Decimal := ⟨a / b, exponent⟩
  let above : Decimal := ⟨a / b + 1, exponent⟩
  if 2 * (a % b) < b then [below, above] else [above, below]

/-- The first neighbour that reads back as the given number. -/
def onGrid? (x : Binary64) (n d : Nat) (exponent : Int) : Option Decimal :=
  (neighbours n d exponent).find? fun c => c.toBinary64 false = x

def shortest (mantissa exponent : Nat) (h : Binary64.Canonical mantissa exponent) :
    Decimal :=
  let x := Binary64.finite false mantissa exponent h
  let n := mantissa * 2 ^ exponent
  let d := Binary64.unitsPerOne
  let point := pointOf n d
  let found := (List.range 17).findSome? fun k => onGrid? x n d (point - (k + 1 : Nat))
  match found with
  | some c => stripZeros c.coefficient c.exponent
  | none => ⟨0, 0⟩

end Decimal

end PocketCalculator
