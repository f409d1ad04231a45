import PocketCalculator.Proofs.Nearest
import PocketCalculator.Token.Literal

/-!
# Reading numbers

## The value of a decimal number

A decimal number is read as the number nearest to the rational that it stands
for, and so two decimal numbers that stand for the same rational are read alike.
-/

namespace PocketCalculator

namespace Binary64

theorem gridStep_zero_le_magnitude {m : Nat} (e : Nat) (hm : m ≠ 0) :
    gridStep 0 ≤ magnitude m e := by
  have hone : (1 : ℚ) ≤ m := by
    exact_mod_cast Nat.one_le_iff_ne_zero.mpr hm
  calc gridStep 0 ≤ gridStep e := gridStep_le (Nat.zero_le e)
    _ ≤ m * gridStep e := le_mul_of_one_le_left (le_of_lt (gridStep_pos e)) hone

theorem isNearest_zero {q : ℚ} (hnonneg : 0 ≤ q) (hsmall : 2 * q < gridStep 0) :
    IsNearest q (zero false) := by
  have hpos := gridStep_pos 0
  refine ⟨rfl, ?_, ?_⟩
  · have hle := gridStep_le (Nat.zero_le 2045)
    unfold overflowBound
    linarith
  · intro n f hcanonical hne
    left
    have hn : n ≠ 0 := by
      rintro rfl
      rcases hcanonical with ⟨_, _, hzero | hlarge⟩
      · subst hzero
        exact hne rfl
      · omega
    have hlarge := gridStep_zero_le_magnitude f hn
    have hzero : |magnitude 0 0 - q| = q := by
      unfold magnitude
      rw [Nat.cast_zero, zero_mul, zero_sub, abs_neg, abs_of_nonneg hnonneg]
    rw [hzero]
    exact lt_of_lt_of_le (by linarith) (le_abs_self _)

theorem cast_unitsPerOne : (unitsPerOne : ℚ) = 2 ^ 1074 := by
  unfold unitsPerOne
  simp only [Nat.cast_pow, Nat.cast_ofNat]

theorem gridStep_zero : gridStep 0 = 1 / 2 ^ 1074 := by
  unfold gridStep
  simp only [cast_unitsPerOne, pow_zero]

theorem gridStep_top : gridStep 2045 = 2 ^ 971 := by
  have hpower : (2 : ℚ) ^ 2045 = 2 ^ 971 * 2 ^ 1074 := pow_add 2 971 1074
  unfold gridStep
  simp only [cast_unitsPerOne, hpower]
  exact mul_div_cancel_right₀ _ (pow_ne_zero _ two_ne_zero)

theorem overflowBound_le_two_pow : overflowBound ≤ 2 ^ 1024 := by
  have hbelow : overflowBound ≤ 2 ^ 53 * gridStep 2045 := by
    have hpos := gridStep_pos 2045
    unfold overflowBound
    linarith
  have hpower : (2 : ℚ) ^ 1024 = 2 ^ 53 * 2 ^ 971 := pow_add 2 53 971
  rw [gridStep_top] at hbelow
  rw [hpower]
  exact hbelow

end Binary64

theorem two_pow_le_ten_pow (k : Nat) : (2 : ℚ) ^ (3 * k) ≤ 10 ^ k := by
  rw [pow_mul]
  exact pow_le_pow_left₀ (by norm_num) (by norm_num) k

namespace Decimal

open Binary64

def rational (d : Decimal) : ℚ :=
  d.coefficient * 10 ^ d.exponent

theorem overflowBound_le_of_large {c k : Nat} (hc : c ≠ 0) (hk : 400 ≤ k) :
    overflowBound ≤ c * 10 ^ k := by
  have hone : (1 : ℚ) ≤ c := by
    exact_mod_cast Nat.one_le_iff_ne_zero.mpr hc
  have hpos : (0 : ℚ) < 10 ^ k := pow_pos (by norm_num) k
  calc overflowBound ≤ 2 ^ 1024 := overflowBound_le_two_pow
    _ ≤ 2 ^ (3 * k) := pow_le_pow_right₀ (by norm_num) (by omega)
    _ ≤ 10 ^ k := two_pow_le_ten_pow k
    _ ≤ c * 10 ^ k := le_mul_of_one_le_left (le_of_lt hpos) hone

theorem lt_gridStep_of_small {c k : Nat} (h : c.log2 + 1077 ≤ 3 * k) :
    2 * (c / 10 ^ k : ℚ) < gridStep 0 := by
  have hc : (c : ℚ) < 2 ^ (c.log2 + 1) := by
    exact_mod_cast Nat.lt_log2_self
  have hten : (0 : ℚ) < 10 ^ k := pow_pos (by norm_num) k
  have hunit : (0 : ℚ) < 2 ^ 1074 := pow_pos (by norm_num) _
  have hpower : (2 : ℚ) ^ (c.log2 + 1) * 2 * 2 ^ 1074 ≤ 10 ^ k := by
    rw [← pow_succ, ← pow_add]
    exact le_trans (pow_le_pow_right₀ (by norm_num) (by omega)) (two_pow_le_ten_pow k)
  rw [gridStep_zero, mul_div_assoc', div_lt_div_iff₀ hten hunit, one_mul]
  generalize (2 : ℚ) ^ 1074 = unit at hunit hpower ⊢
  have hscaled := mul_lt_mul_of_pos_right hc hunit
  linarith

theorem toBinary64_isNearest (d : Decimal) :
    IsNearest d.rational (d.toBinary64 false) := by
  cases d with
  | mk c exponent =>
      unfold rational toBinary64
      cases exponent with
      | ofNat k =>
          have hpower : (c : ℚ) * 10 ^ (Int.ofNat k) = c * 10 ^ k := by
            rw [Int.ofNat_eq_natCast, zpow_natCast]
          simp only [hpower]
          split
          · rename_i hzero
            rw [hzero, Nat.cast_zero, zero_mul]
            exact isNearest_zero le_rfl (by linarith [gridStep_pos 0])
          · rename_i hc
            split
            · rename_i hk
              exact ⟨rfl, overflowBound_le_of_large hc hk⟩
            · have hnearest := nearest_isNearest (c * 10 ^ k) Nat.one_pos
              rwa [Nat.cast_one, div_one, Nat.cast_mul, Nat.cast_pow, Nat.cast_ofNat]
                at hnearest
      | negSucc k =>
          have hpower : (c : ℚ) * 10 ^ (Int.negSucc k) = c / 10 ^ (k + 1) := by
            rw [zpow_negSucc, div_eq_mul_inv]
          simp only [hpower]
          split
          · rename_i hsmall
            have hnonneg : (0 : ℚ) ≤ c / 10 ^ (k + 1) := by
              positivity
            exact isNearest_zero hnonneg (lt_gridStep_of_small hsmall)
          · have hpos : 0 < 10 ^ (k + 1) := Nat.pow_pos (by decide)
            have hnearest := nearest_isNearest c hpos
            rwa [Nat.cast_pow, Nat.cast_ofNat] at hnearest

theorem toBinary64_congr {c d : Decimal} (h : c.rational = d.rational) :
    c.toBinary64 false = d.toBinary64 false := by
  have hc := c.toBinary64_isNearest
  rw [h] at hc
  exact hc.unique d.toBinary64_isNearest

end Decimal

end PocketCalculator
