import Mathlib.Data.Nat.Cast.Order.Field
import PocketCalculator.Decimal.Shortest
import PocketCalculator.Proofs.Precision
import PocketCalculator.Proofs.Reading

/-!
# The shortest form

## Trailing zeros

Moving zeros from the coefficient into the exponent changes neither what a
decimal number stands for nor where its point is.
-/

namespace PocketCalculator

namespace Decimal

open Binary64

theorem stripZeros_rational (c : Nat) (exponent : Int) :
    (stripZeros c exponent).rational = rational ⟨c, exponent⟩ := by
  induction c, exponent using stripZeros.induct with
  | case1 c exponent h ih =>
      rw [stripZeros, if_pos h, ih]
      have hc : 10 * (c / 10) = c := Nat.mul_div_cancel' (Nat.dvd_of_mod_eq_zero h.2)
      have hcast : (10 : ℚ) * (c / 10 : Nat) = c := by
        exact_mod_cast hc
      unfold rational
      rw [zpow_add_one₀ (by norm_num), ← hcast]
      ring
  | case2 c exponent h => rw [stripZeros, if_neg h]

theorem stripZeros_coefficient_le (c : Nat) (exponent : Int) :
    (stripZeros c exponent).coefficient ≤ c := by
  induction c, exponent using stripZeros.induct with
  | case1 c exponent h ih =>
      rw [stripZeros, if_pos h]
      exact Nat.le_trans ih (Nat.div_le_self c 10)
  | case2 c exponent h => rw [stripZeros, if_neg h]

theorem stripZeros_mod {c : Nat} (exponent : Int) (hc : c ≠ 0) :
    (stripZeros c exponent).coefficient % 10 ≠ 0 := by
  induction c, exponent using stripZeros.induct with
  | case1 c exponent h ih =>
      rw [stripZeros, if_pos h]
      apply ih
      omega
  | case2 c exponent h =>
      rw [stripZeros, if_neg h]
      intro hmod
      exact h ⟨hc, hmod⟩

theorem stripZeros_point {c : Nat} (exponent : Int) (hc : c ≠ 0) :
    (stripZeros c exponent).point = point ⟨c, exponent⟩ := by
  induction c, exponent using stripZeros.induct with
  | case1 c exponent h ih =>
      rw [stripZeros, if_pos h, ih (by omega)]
      have hbase : 10 ≤ c := by
        omega
      unfold point digits Text.ofNat
      rw [Nat.toDigits_of_base_le (by decide) hbase, List.length_append,
        List.length_singleton]
      push_cast
      ring
  | case2 c exponent h => rw [stripZeros, if_neg h]

/-!
## The place of the point
-/

theorem length_toDigits_bounds {n : Nat} (hn : n ≠ 0) :
    10 ^ ((Nat.toDigits 10 n).length - 1) ≤ n ∧ n < 10 ^ (Nat.toDigits 10 n).length := by
  have hpos : 0 < (Nat.toDigits 10 n).length := Nat.length_toDigits_pos
  constructor
  · by_cases hone : (Nat.toDigits 10 n).length = 1
    · rw [hone]
      exact Nat.pos_of_ne_zero hn
    · by_contra hsmall
      have hlength := (Nat.length_toDigits_le_iff (b := 10) (n := n) (by decide)
        (by omega : 0 < (Nat.toDigits 10 n).length - 1)).mpr (by omega)
      omega
  · exact (Nat.length_toDigits_le_iff (by decide) hpos).mp (Nat.le_refl _)

theorem exists_length_toDigits (n : Nat) : exists k, (Nat.toDigits 10 n).length = k + 1 :=
  Nat.exists_eq_add_one_of_ne_zero Nat.length_toDigits_pos.ne'

theorem pointOf_bounds_of_le {n d : Nat} (hd : 0 < d) (hle : d ≤ n) :
    (10 : ℚ) ^ (pointOf n d - 1) ≤ n / d ∧ (n / d : ℚ) < 10 ^ pointOf n d := by
  have hdq : (0 : ℚ) < d := by
    exact_mod_cast hd
  have hbounds := length_toDigits_bounds (Nat.div_pos hle hd).ne'
  rcases exists_length_toDigits (n / d) with ⟨k, hk⟩
  rw [hk, Nat.add_sub_cancel, Nat.le_div_iff_mul_le hd, Nat.div_lt_iff_lt_mul hd] at hbounds
  have hpoint : pointOf n d = (k + 1 : Nat) := by
    rw [pointOf, if_pos hle, hk]
  have hfirst : pointOf n d - 1 = (k : Nat) := by
    rw [hpoint]
    omega
  rw [hfirst, hpoint, zpow_natCast, zpow_natCast, le_div_iff₀ hdq, div_lt_iff₀ hdq]
  exact_mod_cast hbounds

theorem pointOf_bounds_of_lt {n d : Nat} (hn : 0 < n) (hlt : n < d) :
    (10 : ℚ) ^ (pointOf n d - 1) ≤ n / d ∧ (n / d : ℚ) < 10 ^ pointOf n d := by
  have hdq : (0 : ℚ) < d := by
    exact_mod_cast Nat.zero_lt_of_lt hlt
  have hbounds := length_toDigits_bounds (Nat.div_pos (Nat.le_sub_one_of_lt hlt) hn).ne'
  rcases exists_length_toDigits ((d - 1) / n) with ⟨k, hk⟩
  rw [hk, Nat.add_sub_cancel, Nat.le_div_iff_mul_le hn, Nat.div_lt_iff_lt_mul hn] at hbounds
  rw [Nat.mul_comm, Nat.mul_comm (10 ^ (k + 1))] at hbounds
  have hlow : d ≤ n * 10 ^ (k + 1) := by
    omega
  have hhigh : n * 10 ^ k < d := by
    omega
  have hpoint : pointOf n d = -(k : Int) := by
    rw [pointOf, if_neg (Nat.not_le_of_lt hlt), hk]
    omega
  have hfirst : pointOf n d - 1 = -((k + 1 : Nat) : Int) := by
    rw [hpoint]
    omega
  have hpow : forall j : Nat, (0 : ℚ) < 10 ^ j := fun j => by positivity
  rw [hfirst, hpoint, zpow_neg, zpow_neg, zpow_natCast, zpow_natCast,
    inv_eq_one_div, inv_eq_one_div, div_le_div_iff₀ (hpow _) hdq,
    div_lt_div_iff₀ hdq (hpow _), one_mul]
  exact_mod_cast And.intro hlow hhigh

theorem pointOf_bounds {n d : Nat} (hn : 0 < n) (hd : 0 < d) :
    (10 : ℚ) ^ (pointOf n d - 1) ≤ n / d ∧ (n / d : ℚ) < 10 ^ pointOf n d := by
  by_cases hle : d ≤ n
  · exact pointOf_bounds_of_le hd hle
  · exact pointOf_bounds_of_lt hn (Nat.lt_of_not_le hle)

/-!
## Neighbours on a grid
-/

theorem inSteps_spec (n : Nat) {d : Nat} (hd : 0 < d) (exponent : Int) :
    0 < (inSteps n d exponent).2 ∧
      ((inSteps n d exponent).1 / (inSteps n d exponent).2 : ℚ) =
        n / d / 10 ^ exponent := by
  cases exponent with
  | ofNat k =>
      constructor
      · exact Nat.mul_pos hd (Nat.pow_pos (by decide))
      · unfold inSteps
        push_cast
        rw [Int.ofNat_eq_natCast, zpow_natCast, div_div]
  | negSucc k =>
      constructor
      · exact hd
      · unfold inSteps
        push_cast
        rw [zpow_negSucc, div_inv_eq_mul]
        ring

theorem mem_neighbours {n d : Nat} {exponent : Int} {c : Decimal} :
    c ∈ neighbours n d exponent <->
      c = ⟨(inSteps n d exponent).1 / (inSteps n d exponent).2, exponent⟩ ∨
        c = ⟨(inSteps n d exponent).1 / (inSteps n d exponent).2 + 1, exponent⟩ := by
  unfold neighbours
  generalize inSteps n d exponent = steps
  simp only
  split
  · simp
  · simp [or_comm]

theorem of_mem_neighbours {n d : Nat} {exponent : Int} {c : Decimal} (hd : 0 < d)
    (h : c ∈ neighbours n d exponent) :
    c.exponent = exponent ∧ (c.coefficient : ℚ) ≤ n / d / 10 ^ exponent + 1 := by
  rcases inSteps_spec n hd exponent with ⟨hb, hquotient⟩
  rw [mem_neighbours] at h
  generalize inSteps n d exponent = steps at h hb hquotient
  have hfloor : ((steps.1 / steps.2 : Nat) : ℚ) ≤ n / d / 10 ^ exponent := by
    rw [← hquotient]
    exact Nat.cast_div_le
  rcases h with rfl | rfl
  · exact ⟨rfl, by linarith⟩
  · refine ⟨rfl, ?_⟩
    push_cast
    linarith

theorem exists_near_neighbour (n : Nat) {d : Nat} (hd : 0 < d) (exponent : Int) :
    exists c, c ∈ neighbours n d exponent ∧ |c.rational - n / d| ≤ 10 ^ exponent / 2 := by
  rcases inSteps_spec n hd exponent with ⟨hb, hquotient⟩
  have hnear := roundHalfEven_near (inSteps n d exponent).1 hb
  have hstep : (0 : ℚ) < 10 ^ exponent := zpow_pos (by norm_num) exponent
  refine ⟨⟨roundHalfEven (inSteps n d exponent).1 (inSteps n d exponent).2, exponent⟩, ?_, ?_⟩
  · rw [mem_neighbours]
    unfold roundHalfEven
    split
    · exact .inl rfl
    · exact .inr rfl
  · have hvalue : (n / d : ℚ) = n / d / 10 ^ exponent * 10 ^ exponent :=
      (div_mul_cancel₀ _ hstep.ne').symm
    rw [hquotient] at hnear
    rw [rational, hvalue, ← sub_mul, abs_mul, abs_of_pos hstep]
    linarith [mul_le_mul_of_nonneg_right hnear (le_of_lt hstep)]

/-!
## Reading the shortest form back

With seventeen digits a neighbour is so close that it reads back, so the search
ends with a decimal number that does.
-/

theorem zero_lt_unitsPerOne : 0 < unitsPerOne :=
  Nat.cast_pos.mp unitsPerOne_pos

theorem cast_units (m e : Nat) :
    ((m * 2 ^ e : Nat) / unitsPerOne : ℚ) = magnitude m e := by
  rw [Nat.cast_mul, Nat.cast_pow, Nat.cast_ofNat, mul_div_assoc]
  rfl

theorem pointOf_magnitude {m : Nat} (e : Nat) (hm : m ≠ 0) :
    (10 : ℚ) ^ (pointOf (m * 2 ^ e) unitsPerOne - 1) ≤ magnitude m e ∧
      magnitude m e < 10 ^ pointOf (m * 2 ^ e) unitsPerOne := by
  have hn : 0 < m * 2 ^ e := Nat.mul_pos (Nat.pos_of_ne_zero hm) (Nat.pow_pos (by decide))
  have hbounds := pointOf_bounds hn zero_lt_unitsPerOne
  rwa [cast_units] at hbounds

theorem reads_back_of_close {m e : Nat} (h : Canonical m e) (hm : m ≠ 0) {c : Decimal}
    (hclose : 2 * 10 ^ 16 * |c.rational - magnitude m e| ≤ magnitude m e) :
    c.toBinary64 false = finite false m e h :=
  c.toBinary64_isNearest.unique (isNearest_of_close h hm hclose)

theorem onGrid?_isSome {m e : Nat} (h : Canonical m e) (hm : m ≠ 0) :
    (onGrid? (finite false m e h) (m * 2 ^ e) unitsPerOne
      (pointOf (m * 2 ^ e) unitsPerOne - (16 + 1 : Nat))).isSome = true := by
  have hpoint := (pointOf_magnitude e hm).1
  generalize pointOf (m * 2 ^ e) unitsPerOne = point at hpoint
  rcases exists_near_neighbour (m * 2 ^ e) zero_lt_unitsPerOne (point - (16 + 1 : Nat)) with ⟨c, hc, hnear⟩
  have hpower : (10 : ℚ) ^ 16 * 10 ^ (point - (16 + 1 : Nat)) = 10 ^ (point - 1) := by
    rw [← zpow_natCast, ← zpow_add₀ (by norm_num)]
    congr 1
    omega
  rw [cast_units] at hnear
  generalize (10 : ℚ) ^ (point - (16 + 1 : Nat)) = step at hnear hpower
  have hclose : 2 * 10 ^ 16 * |c.rational - magnitude m e| ≤ magnitude m e := by
    linarith
  unfold onGrid?
  rw [List.find?_isSome]
  exact ⟨c, hc, decide_eq_true (reads_back_of_close h hm hclose)⟩

/-- The search ends with the first grid on which a neighbour reads back. -/
theorem exists_shortest_le {m e : Nat} {h : Canonical m e} {k : Nat} (hk : k < 17)
    (hgrid : (onGrid? (finite false m e h) (m * 2 ^ e) unitsPerOne
      (pointOf (m * 2 ^ e) unitsPerOne - (k + 1 : Nat))).isSome = true) :
    exists j c, j ≤ k ∧
      c ∈ neighbours (m * 2 ^ e) unitsPerOne
        (pointOf (m * 2 ^ e) unitsPerOne - (j + 1 : Nat)) ∧
      c.toBinary64 false = finite false m e h ∧
      shortest m e h = stripZeros c.coefficient c.exponent := by
  have hfound : ((List.range 17).findSome? fun k =>
      onGrid? (finite false m e h) (m * 2 ^ e) unitsPerOne
        (pointOf (m * 2 ^ e) unitsPerOne - (k + 1 : Nat))).isSome = true := by
    rw [List.findSome?_isSome_iff]
    exact ⟨k, List.mem_range.mpr hk, hgrid⟩
  rcases Option.isSome_iff_exists.mp hfound with ⟨c, hc⟩
  rcases List.findSome?_eq_some_iff.mp hc with ⟨before, j, after, hrange, hfirst, hnone⟩
  have hle : j ≤ k := by
    have hmem : k ∈ before ++ j :: after := hrange ▸ List.mem_range.mpr hk
    have hordered : (before ++ j :: after).Pairwise (· < ·) :=
      hrange ▸ List.pairwise_lt_range
    rcases List.mem_append.mp hmem with hbefore | hafter
    · rw [hnone k hbefore] at hgrid
      cases hgrid
    · rcases List.mem_cons.mp hafter with rfl | hlater
      · exact Nat.le_refl k
      · have htail := (List.pairwise_append.mp hordered).2.1
        exact Nat.le_of_lt ((List.pairwise_cons.mp htail).1 k hlater)
  unfold onGrid? at hfirst
  have hreads := List.find?_some hfirst
  refine ⟨j, c, hle, List.mem_of_find?_eq_some hfirst, of_decide_eq_true hreads, ?_⟩
  unfold shortest
  simp only [hc]

theorem exists_shortest {m e : Nat} (h : Canonical m e) (hm : m ≠ 0) :
    exists k c, k < 17 ∧
      c ∈ neighbours (m * 2 ^ e) unitsPerOne
        (pointOf (m * 2 ^ e) unitsPerOne - (k + 1 : Nat)) ∧
      c.toBinary64 false = finite false m e h ∧
      shortest m e h = stripZeros c.coefficient c.exponent := by
  rcases exists_shortest_le (by decide) (onGrid?_isSome h hm) with ⟨k, c, hk, hc⟩
  exact ⟨k, c, Nat.lt_succ_of_le hk, hc⟩

theorem shortest_toBinary64 {m e : Nat} (h : Canonical m e) (hm : m ≠ 0) :
    (shortest m e h).toBinary64 false = finite false m e h := by
  rcases exists_shortest h hm with ⟨k, c, _, _, hreads, hshortest⟩
  rw [hshortest, ← hreads]
  exact toBinary64_congr (stripZeros_rational c.coefficient c.exponent)

/-!
## The size of the shortest form
-/

theorem coefficient_ne_zero_of_reads {m e : Nat} {h : Canonical m e} (hm : m ≠ 0)
    {c : Decimal} (hreads : c.toBinary64 false = finite false m e h) :
    c.coefficient ≠ 0 := by
  intro hzero
  have hnearest := c.toBinary64_isNearest
  have hrational : c.rational = 0 := by
    rw [rational, hzero, Nat.cast_zero, zero_mul]
  rw [hrational] at hnearest
  have hsame := hnearest.unique (isNearest_zero le_rfl (by linarith [gridStep_pos 0]))
  cases hreads.symm.trans hsame
  exact hm rfl

theorem coefficient_le_of_mem {m e k : Nat} (hm : m ≠ 0) {c : Decimal}
    (h : c ∈ neighbours (m * 2 ^ e) unitsPerOne
      (pointOf (m * 2 ^ e) unitsPerOne - (k + 1 : Nat))) :
    c.coefficient ≤ 10 ^ (k + 1) := by
  have hcoefficient := (of_mem_neighbours zero_lt_unitsPerOne h).2
  have hmagnitude := (pointOf_magnitude e hm).2
  rw [cast_units, zpow_sub₀ (by norm_num), zpow_natCast, div_div_eq_mul_div] at hcoefficient
  generalize pointOf (m * 2 ^ e) unitsPerOne = point at hcoefficient hmagnitude
  have hpos : (0 : ℚ) < 10 ^ point := zpow_pos (by norm_num) point
  have hpower : (0 : ℚ) < 10 ^ (k + 1) := by
    positivity
  have hquotient : magnitude m e * 10 ^ (k + 1) / 10 ^ point < 10 ^ (k + 1) := by
    rw [div_lt_iff₀ hpos, mul_comm]
    exact mul_lt_mul_of_pos_left hmagnitude hpower
  have hless : (c.coefficient : ℚ) < 10 ^ (k + 1) + 1 := by
    linarith
  have hnat : c.coefficient < 10 ^ (k + 1) + 1 := by
    exact_mod_cast hless
  exact Nat.le_of_lt_succ hnat

theorem length_digits_stripZeros {c k : Nat} (exponent : Int) (hc : c ≠ 0)
    (hle : c ≤ 10 ^ (k + 1)) : (stripZeros c exponent).digits.length ≤ k + 1 := by
  have hmod := stripZeros_mod exponent hc
  have hstripped := stripZeros_coefficient_le c exponent
  rw [digits, Text.ofNat]
  generalize (stripZeros c exponent).coefficient = s at hmod hstripped
  have hne : s ≠ 10 ^ (k + 1) := by
    rintro rfl
    exact hmod (Nat.mod_eq_zero_of_dvd (Dvd.intro_left (10 ^ k) rfl))
  have hlt : s < 10 ^ (k + 1) := by
    omega
  exact (Nat.length_toDigits_le_iff (by decide) (Nat.succ_pos k)).mpr hlt

theorem shortest_length_digits {m e : Nat} (h : Canonical m e) (hm : m ≠ 0) :
    (shortest m e h).digits.length ≤ 17 := by
  rcases exists_shortest h hm with ⟨k, c, hk, hmem, hreads, hshortest⟩
  have hc := coefficient_ne_zero_of_reads hm hreads
  have hlength := length_digits_stripZeros c.exponent hc (coefficient_le_of_mem hm hmem)
  rw [hshortest]
  omega

theorem pointOf_range {m e : Nat} (h : Canonical m e) (hm : m ≠ 0) :
    -358 < pointOf (m * 2 ^ e) unitsPerOne ∧ pointOf (m * 2 ^ e) unitsPerOne ≤ 342 := by
  rcases pointOf_magnitude e hm with ⟨hlow, hhigh⟩
  generalize pointOf (m * 2 ^ e) unitsPerOne = point at hlow hhigh
  have hten : (1 : ℚ) < 10 := by
    norm_num
  have hlarge : magnitude m e < 10 ^ (342 : Int) := by
    rw [zpow_ofNat]
    calc magnitude m e < overflowBound := magnitude_lt_overflowBound h
      _ ≤ 2 ^ 1024 := overflowBound_le_two_pow
      _ ≤ 2 ^ (3 * 342) := pow_le_pow_right₀ (by norm_num) (by decide)
      _ ≤ 10 ^ 342 := two_pow_le_ten_pow 342
  have hsmall : (10 : ℚ) ^ (-358 : Int) ≤ magnitude m e := by
    rw [zpow_neg, zpow_ofNat, ← one_div]
    calc (1 / 10 ^ 358 : ℚ) ≤ 1 / 2 ^ (3 * 358) :=
          one_div_le_one_div_of_le (pow_pos (by norm_num) _) (two_pow_le_ten_pow 358)
      _ = gridStep 0 := gridStep_zero.symm
      _ ≤ magnitude m e := gridStep_zero_le_magnitude e hm
  have hlast := (zpow_lt_zpow_iff_right₀ hten).mp (lt_of_le_of_lt hlow hlarge)
  have hfirst := (zpow_lt_zpow_iff_right₀ hten).mp (lt_of_le_of_lt hsmall hhigh)
  omega

theorem shortest_point {m e : Nat} (h : Canonical m e) (hm : m ≠ 0) :
    -400 ≤ (shortest m e h).point ∧ (shortest m e h).point ≤ 400 := by
  rcases exists_shortest h hm with ⟨k, c, hk, hmem, hreads, hshortest⟩
  have hc := coefficient_ne_zero_of_reads hm hreads
  have hle := coefficient_le_of_mem hm hmem
  have hexponent := (of_mem_neighbours zero_lt_unitsPerOne hmem).1
  have hrange := pointOf_range h hm
  have hlength : (Nat.toDigits 10 c.coefficient).length ≤ k + 2 := by
    rw [Nat.length_toDigits_le_iff (by decide) (Nat.succ_pos _)]
    exact Nat.lt_of_le_of_lt hle (Nat.pow_lt_pow_right (by decide) (by omega))
  have hpositive : 0 < (Nat.toDigits 10 c.coefficient).length := Nat.length_toDigits_pos
  rw [hshortest, stripZeros_point c.exponent hc, point, digits, Text.ofNat]
  simp only [hexponent]
  omega

end Decimal

end PocketCalculator
