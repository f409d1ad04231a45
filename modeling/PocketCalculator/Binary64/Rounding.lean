import PocketCalculator.Binary64.Basic

/-!
# Rounding to nearest

## One rounding rule

Every operation on numbers is exact arithmetic on fractions followed by one
rounding.  The rounding chooses the nearest number of the format; halfway
between two neighbours it chooses the one with the even mantissa, and beyond the
largest finite number it gives an infinity.
-/

namespace PocketCalculator

attribute [local instance] naturalPower

def roundHalfEven (n d : Nat) : Nat :=
  if 2 * (n % d) < d ∨ (2 * (n % d) = d ∧ n / d % 2 = 0) then n / d else n / d + 1

theorem roundHalfEven_mul_le (n : Nat) {d : Nat} (h : 0 < d) :
    2 * (roundHalfEven n d * d) ≤ 2 * n + d := by
  have division := Nat.div_add_mod' n d
  have remainder := Nat.mod_lt n h
  unfold roundHalfEven
  split
  · omega
  · rw [Nat.add_mul, Nat.one_mul]
    omega

theorem le_roundHalfEven_mul (n : Nat) {d : Nat} (h : 0 < d) :
    2 * n ≤ 2 * (roundHalfEven n d * d) + d := by
  have division := Nat.div_add_mod' n d
  have remainder := Nat.mod_lt n h
  unfold roundHalfEven
  split
  · omega
  · rw [Nat.add_mul, Nat.one_mul]
    omega

namespace Binary64

/--
The number with a given rounded mantissa.  Rounding up may have carried the
mantissa to `2 ^ 53`, which is `2 ^ 52` one exponent higher; an exponent that is
then out of range overflows.
-/
def ofRounded (negative : Bool) (mantissa exponent : Nat) : Binary64 :=
  if mantissa = 2 ^ (53 : Nat) then
    if h : Canonical (2 ^ (52 : Nat)) (exponent + 1) then
      finite negative (2 ^ (52 : Nat)) (exponent + 1) h
    else infinite negative
  else if h : Canonical mantissa exponent then
    finite negative mantissa exponent h
  else infinite negative

def exponentFor (n d : Nat) : Nat :=
  Nat.log2 (n / d) - 52

/-- The number nearest to `n / d`, with the given sign. -/
def nearest (negative : Bool) (n d : Nat) : Binary64 :=
  let units := n * unitsPerOne
  let exponent := exponentFor units d
  ofRounded negative (roundHalfEven units (d * 2 ^ exponent)) exponent

end Binary64

end PocketCalculator
