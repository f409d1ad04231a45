import PocketCalculator.Proofs.ShortestForm

/-!
# The fewest digits

## Between a rational and its nearest number

What lies between a rational and the number nearest to it has the same nearest
number.
-/

namespace PocketCalculator

namespace Binary64

def IsBetween (r q v : ℚ) : Prop :=
  (q ≤ r ∧ r ≤ v) ∨ (v ≤ r ∧ r ≤ q)

theorem IsBetween.distance {r q v : ℚ} (h : IsBetween r q v) :
    |v - q| = |v - r| + |r - q| := by
  rcases h with ⟨hlow, hhigh⟩ | ⟨hlow, hhigh⟩
  · rw [abs_of_nonneg (by linarith), abs_of_nonneg (by linarith), abs_of_nonneg (by linarith)]
    ring
  · rw [abs_of_nonpos (by linarith), abs_of_nonpos (by linarith), abs_of_nonpos (by linarith)]
    ring

variable {m e : Nat} {h : Canonical m e} {q r : ℚ}

theorem IsNearest.of_isBetween (hq : IsNearest q (finite false m e h))
    (hr : IsBetween r q (magnitude m e)) : IsNearest r (finite false m e h) := by
  rcases hq with ⟨_, hsmall, hbest⟩
  refine ⟨rfl, ?_, ?_⟩
  · have hmagnitude := magnitude_lt_overflowBound h
    rcases hr with ⟨_, hr⟩ | ⟨_, hr⟩
    · exact lt_of_le_of_lt hr hmagnitude
    · exact lt_of_le_of_lt hr hsmall
  · intro n f hn hne
    have hdistance := hr.distance
    have htriangle := abs_sub_le (magnitude n f) r q
    rcases hbest n f hn hne with hless | ⟨hsame, heven, hodd⟩
    · left
      linarith
    · rcases lt_or_ge |magnitude m e - r| |magnitude n f - r| with hless | hge
      · exact .inl hless
      · exact .inr ⟨by linarith, heven, hodd⟩

end Binary64

/-!
## On a grid

If some number of a grid reads back, then so does the neighbour of the value on
that side.
-/

namespace Decimal

open Binary64

theorem exists_neighbours (n : Nat) {d : Nat} (hd : 0 < d) (exponent : Int) :
    exists k : Nat, ⟨k, exponent⟩ ∈ neighbours n d exponent ∧
      ⟨k + 1, exponent⟩ ∈ neighbours n d exponent ∧
      rational ⟨k, exponent⟩ ≤ n / d ∧ (n / d : ℚ) ≤ rational ⟨k + 1, exponent⟩ := by
  rcases inSteps_spec n hd exponent with ⟨hb, hquotient⟩
  have hmem : forall c, c ∈ neighbours n d exponent <-> _ := fun c => mem_neighbours
  generalize inSteps n d exponent = steps at hmem hb hquotient
  have hstep : (0 : ℚ) < 10 ^ exponent := zpow_pos (by norm_num) exponent
  have hsteps : (0 : ℚ) < steps.2 := Nat.cast_pos.mpr hb
  refine ⟨steps.1 / steps.2, (hmem _).mpr (.inl rfl), (hmem _).mpr (.inr rfl), ?_, ?_⟩
  · rw [rational, ← le_div_iff₀ hstep, ← hquotient]
    exact Nat.cast_div_le
  · have hnext : steps.1 ≤ (steps.1 / steps.2 + 1) * steps.2 :=
      Nat.le_of_lt ((Nat.div_lt_iff_lt_mul hb).mp (Nat.lt_succ_self _))
    rw [rational, ← div_le_iff₀ hstep, ← hquotient, div_le_iff₀ hsteps]
    exact_mod_cast hnext

theorem rational_le_rational {k g : Nat} (exponent : Int) (hle : k ≤ g) :
    rational ⟨k, exponent⟩ ≤ rational ⟨g, exponent⟩ := by
  have hcast : (k : ℚ) ≤ g := Nat.cast_le.mpr hle
  exact mul_le_mul_of_nonneg_right hcast (le_of_lt (zpow_pos (by norm_num) exponent))

variable {m e : Nat} {h : Canonical m e}

theorem exists_neighbour_of_isNearest {g : Nat} {exponent : Int}
    (hg : IsNearest (rational ⟨g, exponent⟩) (finite false m e h)) :
    exists c, c ∈ neighbours (m * 2 ^ e) unitsPerOne exponent ∧
      c.toBinary64 false = finite false m e h := by
  rcases exists_neighbours (m * 2 ^ e) zero_lt_unitsPerOne exponent with
    ⟨k, hbelow, habove, hlow, hhigh⟩
  rw [cast_units] at hlow hhigh
  rcases Nat.lt_or_ge k g with hless | hge
  · have hbetween : IsBetween (rational ⟨k + 1, exponent⟩) (rational ⟨g, exponent⟩)
        (magnitude m e) := .inr ⟨hhigh, rational_le_rational exponent hless⟩
    exact ⟨_, habove, (toBinary64_isNearest _).unique (hg.of_isBetween hbetween)⟩
  · have hbetween : IsBetween (rational ⟨k, exponent⟩) (rational ⟨g, exponent⟩)
        (magnitude m e) := .inl ⟨rational_le_rational exponent hge, hlow⟩
    exact ⟨_, hbelow, (toBinary64_isNearest _).unique (hg.of_isBetween hbetween)⟩

/-!
## No fewer digits

A decimal number that reads back lies on the grid on which the value has as many
digits, or a power of ten between the two does.
-/

theorem coefficient_bounds {c : Decimal} (hc : c.coefficient ≠ 0) :
    (10 : ℚ) ^ (c.point - 1) ≤ c.rational ∧ c.rational < 10 ^ c.point := by
  have hbounds := length_toDigits_bounds hc
  rcases exists_length_toDigits c.coefficient with ⟨k, hk⟩
  have hpoint : c.point = (k + 1 : Nat) + c.exponent := by
    rw [point, digits, Text.ofNat, hk]
  have hfirst : c.point - 1 = (k : Nat) + c.exponent := by
    omega
  have hstep : (0 : ℚ) < 10 ^ c.exponent := zpow_pos (by norm_num) c.exponent
  rw [hk, Nat.add_sub_cancel] at hbounds
  rw [hfirst, hpoint, zpow_add₀ (by norm_num), zpow_add₀ (by norm_num), zpow_natCast,
    zpow_natCast, rational]
  constructor
  · exact mul_le_mul_of_nonneg_right (by exact_mod_cast hbounds.1) (le_of_lt hstep)
  · exact mul_lt_mul_of_pos_right (by exact_mod_cast hbounds.2) hstep

theorem exists_isNearest_on_grid (hm : m ≠ 0) {c : Decimal}
    (hreads : c.toBinary64 false = finite false m e h) :
    exists g : Nat, IsNearest
      (rational ⟨g, pointOf (m * 2 ^ e) unitsPerOne - c.digits.length⟩)
      (finite false m e h) := by
  have hc := coefficient_ne_zero_of_reads hm hreads
  have hnearest := c.toBinary64_isNearest
  rw [hreads] at hnearest
  have hmagnitude := (pointOf_magnitude e hm).1
  generalize pointOf (m * 2 ^ e) unitsPerOne = p at hmagnitude ⊢
  rcases Int.lt_or_le c.point p with hlower | hsame
  · -- The power of ten at the value's first digit is on the grid.
    rcases exists_length_toDigits c.coefficient with ⟨k, hk⟩
    have hlength : c.digits.length = k + 1 := hk
    have hpower : rational ⟨10 ^ k, p - (k + 1 : Nat)⟩ = 10 ^ (p - 1) := by
      change ((10 ^ k : Nat) : ℚ) * 10 ^ (p - (k + 1 : Nat)) = 10 ^ (p - 1)
      rw [Nat.cast_pow, Nat.cast_ofNat, ← zpow_natCast, ← zpow_add₀ (by norm_num)]
      congr 1
      omega
    refine ⟨10 ^ k, ?_⟩
    rw [hlength, hpower]
    apply hnearest.of_isBetween
    left
    refine ⟨?_, hmagnitude⟩
    apply le_trans (le_of_lt (coefficient_bounds hc).2)
    exact zpow_le_zpow_right₀ (by norm_num) (by omega)
  · -- The decimal number itself is on the grid.
    rcases Int.le.dest hsame with ⟨j, hj⟩
    refine ⟨c.coefficient * 10 ^ j, ?_⟩
    have hvalue : rational ⟨c.coefficient * 10 ^ j, p - c.digits.length⟩ = c.rational := by
      change ((c.coefficient * 10 ^ j : Nat) : ℚ) * 10 ^ (p - c.digits.length) =
        c.coefficient * 10 ^ c.exponent
      rw [Nat.cast_mul, Nat.cast_pow, Nat.cast_ofNat, mul_assoc, ← zpow_natCast,
        ← zpow_add₀ (by norm_num)]
      congr 2
      unfold point at hj
      omega
    rw [hvalue]
    exact hnearest

/-- No decimal number with fewer digits reads back. -/
theorem shortest_length_le (hm : m ≠ 0) {c : Decimal}
    (hreads : c.toBinary64 false = finite false m e h) :
    (shortest m e h).digits.length ≤ c.digits.length := by
  rcases exists_length_toDigits c.coefficient with ⟨k, hk⟩
  have hlength : c.digits.length = k + 1 := hk
  rcases Nat.lt_or_ge k 17 with hshort | hlong
  · rcases exists_isNearest_on_grid hm hreads with ⟨g, hg⟩
    rcases exists_neighbour_of_isNearest hg with ⟨b, hb, hback⟩
    rw [hlength] at hb
    have hgrid : (onGrid? (finite false m e h) (m * 2 ^ e) unitsPerOne
        (pointOf (m * 2 ^ e) unitsPerOne - (k + 1 : Nat))).isSome = true := by
      unfold onGrid?
      rw [List.find?_isSome]
      exact ⟨b, hb, decide_eq_true hback⟩
    rcases exists_shortest_le hshort hgrid with ⟨j, d, hj, hd, hdback, hshortest⟩
    have hd0 := coefficient_ne_zero_of_reads hm hdback
    have hstripped := length_digits_stripZeros d.exponent hd0 (coefficient_le_of_mem hm hd)
    rw [hshortest, hlength]
    omega
  · have hseventeen := shortest_length_digits h hm
    omega

end Decimal

end PocketCalculator
