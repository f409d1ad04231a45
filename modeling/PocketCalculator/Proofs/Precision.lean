import PocketCalculator.Proofs.Nearest

/-!
# Precision

## Gaps between numbers

Two different numbers of the format lie apart by at least one part in `2 ^ 53`
of either.  A rational that differs from a number by at most one part in
`2 * 10 ^ 16` is therefore nearest to it, as `2 ^ 53` is less than `10 ^ 16`.
-/

namespace PocketCalculator

namespace Binary64

theorem magnitude_le_of_canonical {m e : Nat} (h : Canonical m e) :
    magnitude m e ≤ (2 ^ 53 - 1) * gridStep e := by
  have hm : (m : ℚ) + 1 ≤ 2 ^ 53 := by
    exact_mod_cast Nat.succ_le_of_lt h.1
  unfold magnitude
  exact mul_le_mul_of_nonneg_right (by linarith) (le_of_lt (gridStep_pos e))

theorem magnitude_le_largest {m e : Nat} (h : Canonical m e) :
    magnitude m e ≤ (2 ^ 53 - 1) * gridStep 2045 :=
  le_trans (magnitude_le_of_canonical h)
    (mul_le_mul_of_nonneg_left (gridStep_le h.2.1) (by norm_num))

theorem magnitude_lt_overflowBound {m e : Nat} (h : Canonical m e) :
    magnitude m e < overflowBound := by
  have hbound := magnitude_le_largest h
  have hstep := gridStep_pos 2045
  unfold overflowBound
  linarith

theorem magnitude_pos {m e : Nat} (hm : m ≠ 0) : 0 < magnitude m e := by
  have hcast : (0 : ℚ) < m := by
    exact_mod_cast Nat.pos_of_ne_zero hm
  exact mul_pos hcast (gridStep_pos e)

theorem magnitude_le_of_gridStep_le {m e : Nat} (h : Canonical m e) {distance : ℚ}
    (hstep : gridStep e ≤ distance) : magnitude m e ≤ 2 ^ 53 * distance := by
  have hle := magnitude_le_of_canonical h
  have hpos := gridStep_pos e
  linarith

theorem gridStep_le_distance {m n : Nat} (e : Nat) (h : m < n) :
    gridStep e ≤ magnitude n e - magnitude m e := by
  have hone : (1 : ℚ) ≤ n - m := by
    have hcast : (m : ℚ) + 1 ≤ n := by
      exact_mod_cast h
    linarith
  have hscaled := mul_le_mul_of_nonneg_right hone (le_of_lt (gridStep_pos e))
  unfold magnitude
  linarith

/-- From a lower exponent to a higher one, both steps bound the distance. -/
theorem distance_of_exponent_lt {m e n f : Nat} (hm : Canonical m e) (hn : Canonical n f)
    (h : e < f) :
    gridStep e ≤ magnitude n f - magnitude m e ∧
      magnitude n f ≤ 2 ^ 53 * (magnitude n f - magnitude m e) := by
  have hnormal : (2 : ℚ) ^ 52 ≤ n := by
    rcases hn.2.2 with hzero | hlarge
    · omega
    · exact_mod_cast hlarge
  have hdouble : 2 * gridStep e ≤ gridStep f := by
    rw [← gridStep_succ]
    exact gridStep_le h
  have hlow : 2 ^ 52 * gridStep f ≤ magnitude n f :=
    mul_le_mul_of_nonneg_right hnormal (le_of_lt (gridStep_pos f))
  have hhigh := magnitude_le_of_canonical hm
  constructor
  · linarith
  · linarith

theorem magnitude_le_gap {m e n f : Nat} (hm : Canonical m e) (hn : Canonical n f)
    (hne : (n, f) ≠ (m, e)) :
    magnitude m e ≤ 2 ^ 53 * |magnitude n f - magnitude m e| := by
  rcases Nat.lt_trichotomy e f with hlt | heq | hgt
  · have hdistance := (distance_of_exponent_lt hm hn hlt).1
    exact magnitude_le_of_gridStep_le hm (le_trans hdistance (le_abs_self _))
  · subst heq
    apply magnitude_le_of_gridStep_le hm
    rcases Nat.lt_trichotomy m n with hless | hsame | hmore
    · exact le_trans (gridStep_le_distance e hless) (le_abs_self _)
    · subst hsame
      exact absurd rfl hne
    · rw [abs_sub_comm]
      exact le_trans (gridStep_le_distance e hmore) (le_abs_self _)
  · have hdistance := (distance_of_exponent_lt hn hm hgt).2
    have habs := le_abs_self (magnitude m e - magnitude n f)
    rw [abs_sub_comm]
    linarith

theorem isNearest_of_close {m e : Nat} (h : Canonical m e) (hm : m ≠ 0) {q : ℚ}
    (hclose : 2 * 10 ^ 16 * |q - magnitude m e| ≤ magnitude m e) :
    IsNearest q (finite false m e h) := by
  have hpos : 0 < magnitude m e := magnitude_pos hm
  have habove := le_abs_self (q - magnitude m e)
  refine ⟨rfl, ?_, ?_⟩
  · have hbound := magnitude_le_largest h
    have hstep := gridStep_pos 2045
    unfold overflowBound
    linarith
  · intro n f hn hne
    left
    have hgap := magnitude_le_gap h hn hne
    have htriangle := abs_sub_le (magnitude n f) q (magnitude m e)
    rw [abs_sub_comm (magnitude m e) q]
    by_contra hfar
    linarith

end Binary64

end PocketCalculator
