import PocketCalculator.Binary64.Arithmetic
import PocketCalculator.Proofs.Nearest

/-!
# Exact results

## Signs and magnitudes

A number other than not-a-number is a sign and a magnitude.  A rational is rounded
by its absolute value, so the sign of the result is given beside it.
-/

namespace PocketCalculator

namespace Binary64

/-- Whether a number has a minus sign; not-a-number has none. -/
def isNegative : Binary64 -> Bool
  | finite negative .. => negative
  | infinite negative => negative
  | nan => false

def abs : Binary64 -> Binary64
  | finite _ mantissa exponent h => finite false mantissa exponent h
  | infinite _ => infinite false
  | nan => nan

theorem eq_of_abs_eq {x y : Binary64} (hsign : x.isNegative = y.isNegative)
    (h : x.abs = y.abs) : x = y := by
  cases x <;> cases y <;> simp_all [isNegative, abs]

def rational : Binary64 -> ℚ
  | finite negative mantissa exponent _ =>
      if negative then -magnitude mantissa exponent else magnitude mantissa exponent
  | infinite _ => 0
  | nan => 0

/-- Whether a number is a rational, rounded once, with the given sign. -/
structure IsSignedNearest (negative : Bool) (q : ℚ) (x : Binary64) : Prop where
  sign : x.isNegative = negative
  nearest : IsNearest |q| x.abs

theorem IsSignedNearest.unique {negative : Bool} {q : ℚ} {x y : Binary64}
    (hx : IsSignedNearest negative q x) (hy : IsSignedNearest negative q y) : x = y :=
  eq_of_abs_eq (hx.sign.trans hy.sign.symm) (hx.nearest.unique hy.nearest)

theorem isNegative_ofRounded (negative : Bool) (mantissa exponent : Nat) :
    (ofRounded negative mantissa exponent).isNegative = negative := by
  unfold ofRounded
  split
  · split <;> rfl
  · split <;> rfl

theorem abs_ofRounded (negative : Bool) (mantissa exponent : Nat) :
    (ofRounded negative mantissa exponent).abs = ofRounded false mantissa exponent := by
  unfold ofRounded
  split
  · split <;> rfl
  · split <;> rfl

theorem nearest_isSignedNearest (negative : Bool) (n : Nat) {d : Nat} (hd : 0 < d) {q : ℚ}
    (hq : |q| = n / d) : IsSignedNearest negative q (nearest negative n d) := by
  refine ⟨isNegative_ofRounded .., ?_⟩
  rw [hq, nearest, abs_ofRounded]
  exact nearest_isNearest n hd

/-!
## The four operations

Each operation gives its exact result, rounded once.  The sign of an exact result
is its own; where that is zero, the signs of the operands decide.
-/

theorem cast_signedUnits_false (m e : Nat) :
    (signedUnits false m e : ℚ) = m * 2 ^ e := by
  change (((m * 2 ^ e : Nat) : Int) : ℚ) = _
  rw [Int.cast_natCast, Nat.cast_mul, Nat.cast_pow, Nat.cast_ofNat]

theorem rational_finite (negative : Bool) {m e : Nat} (h : Canonical m e) :
    rational (finite negative m e h) = signedUnits negative m e / unitsPerOne := by
  have hunits : magnitude m e = signedUnits false m e / unitsPerOne := by
    rw [cast_signedUnits_false, magnitude, gridStep, mul_div_assoc]
  cases negative with
  | false => exact hunits
  | true =>
      change -magnitude m e = ((-signedUnits false m e : Int) : ℚ) / unitsPerOne
      rw [hunits, Int.cast_neg, neg_div]

theorem abs_rational_finite (negative : Bool) {m e : Nat} (h : Canonical m e) :
    |rational (finite negative m e h)| = magnitude m e := by
  have hpos : 0 ≤ magnitude m e :=
    mul_nonneg (Nat.cast_nonneg m) (le_of_lt (gridStep_pos e))
  cases negative with
  | false => exact abs_of_nonneg hpos
  | true =>
      change |-magnitude m e| = _
      rw [abs_neg, abs_of_nonneg hpos]

theorem rational_neg (x : Binary64) : x.neg.rational = -x.rational := by
  cases x with
  | finite negative m e h => cases negative <;> simp [neg, rational]
  | infinite negative => simp [neg, rational]
  | nan => simp [neg, rational]

theorem total_spec (total : Int) {q : ℚ} (hq : q = total / unitsPerOne) :
    (total = 0 <-> q = 0) ∧ (total < 0 <-> q < 0) ∧ |q| = total.natAbs / unitsPerOne := by
  have hpos := unitsPerOne_pos
  rw [hq]
  refine ⟨?_, ?_, ?_⟩
  · rw [div_eq_zero_iff, or_iff_left (ne_of_gt hpos), Int.cast_eq_zero]
  · rw [div_lt_iff₀ hpos, zero_mul, Int.cast_lt_zero]
  · rw [abs_div, abs_of_pos hpos, Nat.cast_natAbs, Int.cast_abs]

section

variable {x y : Binary64} (hx : x.isFinite = true) (hy : y.isFinite = true)

include hx hy

/-- A sum is rounded once; if it is exactly zero, only two minus signs make it negative. -/
theorem add_isSignedNearest :
    if x.rational + y.rational = 0 then add x y = zero (x.isNegative && y.isNegative)
    else IsSignedNearest (decide (x.rational + y.rational < 0)) (x.rational + y.rational)
      (add x y) := by
  rcases exists_finite hx with ⟨s, m, e, hm, rfl⟩
  rcases exists_finite hy with ⟨t, n, f, hn, rfl⟩
  have htotal : rational (finite s m e hm) + rational (finite t n f hn) =
      (signedUnits s m e + signedUnits t n f : Int) / unitsPerOne := by
    rw [rational_finite, rational_finite, Int.cast_add, add_div]
  rcases total_spec _ htotal with ⟨hzero, hneg, habs⟩
  by_cases hsum : signedUnits s m e + signedUnits t n f = 0
  · simp only [add, if_pos (hzero.mp hsum), if_pos hsum]
    rfl
  · simp only [add, if_neg fun h => hsum (hzero.mpr h), if_neg hsum,
      ← decide_eq_decide.mpr hneg]
    exact nearest_isSignedNearest _ _ (Nat.cast_pos.mp unitsPerOne_pos) habs

theorem mul_isSignedNearest :
    IsSignedNearest (x.isNegative ^^ y.isNegative) (x.rational * y.rational) (mul x y) := by
  rcases exists_finite hx with ⟨s, m, e, hm, rfl⟩
  rcases exists_finite hy with ⟨t, n, f, hn, rfl⟩
  have hpos : 0 < unitsPerOne * unitsPerOne := by
    have hunits : 0 < unitsPerOne := Nat.cast_pos.mp unitsPerOne_pos
    exact Nat.mul_pos hunits hunits
  apply nearest_isSignedNearest _ _ hpos
  rw [abs_mul, abs_rational_finite, abs_rational_finite, magnitude, magnitude, gridStep,
    gridStep]
  push_cast
  rw [pow_add]
  ring

theorem div_isSignedNearest (h : y.rational ≠ 0) :
    IsSignedNearest (x.isNegative ^^ y.isNegative) (x.rational / y.rational) (div x y) := by
  rcases exists_finite hx with ⟨s, m, e, hm, rfl⟩
  rcases exists_finite hy with ⟨t, n, f, hn, rfl⟩
  have hn0 : n ≠ 0 := by
    intro hzero
    subst hzero
    apply h
    cases t <;> simp [rational, magnitude]
  have hpos : 0 < n * 2 ^ f :=
    Nat.mul_pos (Nat.pos_of_ne_zero hn0) (Nat.two_pow_pos f)
  unfold div
  simp only [if_neg hn0]
  apply nearest_isSignedNearest _ _ hpos
  have hunits := unitsPerOne_pos
  rw [abs_div, abs_rational_finite, abs_rational_finite, magnitude, magnitude, gridStep,
    gridStep]
  push_cast
  field_simp

omit hx hy in
theorem neg_of_isFinite (h : y.isFinite = true) :
    y.neg.isFinite = true ∧ y.neg.isNegative = !y.isNegative := by
  rcases exists_finite h with ⟨t, n, f, hn, rfl⟩
  exact ⟨rfl, rfl⟩

theorem sub_isSignedNearest :
    if x.rational - y.rational = 0 then sub x y = zero (x.isNegative && !y.isNegative)
    else IsSignedNearest (decide (x.rational - y.rational < 0)) (x.rational - y.rational)
      (sub x y) := by
  rcases neg_of_isFinite hy with ⟨hneg, hsign⟩
  have hsum := add_isSignedNearest hx hneg
  rw [rational_neg, ← sub_eq_add_neg, hsign] at hsum
  exact hsum

end

end Binary64

end PocketCalculator
