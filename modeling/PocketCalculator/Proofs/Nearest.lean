import Mathlib.Data.Rat.Cast.Order
import Mathlib.Tactic.FieldSimp
import Mathlib.Tactic.Linarith
import Mathlib.Tactic.NormNum
import Mathlib.Tactic.Positivity
import Mathlib.Tactic.Ring
import PocketCalculator.Binary64.Rounding

/-!
# The nearest number

## Nearest, ties to even

The number nearest to a rational is closer to it than every other number of the
format, or as close with an even mantissa against an odd one.  From halfway
between the largest finite number and the next power of two on, it is the
infinity.  There is exactly one such number, and it is what rounding gives.
-/

namespace PocketCalculator

namespace Binary64

/-- The distance between neighbouring numbers of an exponent. -/
def gridStep (exponent : Nat) : ℚ :=
  2 ^ exponent / unitsPerOne

def magnitude (mantissa exponent : Nat) : ℚ :=
  mantissa * gridStep exponent

/-- Halfway from the largest finite number to the next power of two. -/
def overflowBound : ℚ :=
  (2 ^ 53 - 1 / 2) * gridStep 2045

/-- Whether the first mantissa and exponent are the better choice for a rational. -/
def IsBetter (q : ℚ) (m e n f : Nat) : Prop :=
  |magnitude m e - q| < |magnitude n f - q| ∨
    (|magnitude m e - q| = |magnitude n f - q| ∧ m % 2 = 0 ∧ n % 2 = 1)

def IsNearest (q : ℚ) : Binary64 -> Prop
  | finite negative m e _ =>
      negative = false ∧ q < overflowBound ∧
        forall n f, Canonical n f -> (n, f) ≠ (m, e) -> IsBetter q m e n f
  | infinite negative => negative = false ∧ overflowBound ≤ q
  | nan => False

theorem IsBetter.asymm {q : ℚ} {m e n f : Nat} (h : IsBetter q m e n f) :
    ¬ IsBetter q n f m e := by
  intro hother
  rcases h with hless | ⟨heq, heven, hodd⟩
  · rcases hother with hmore | ⟨hsame, _, _⟩
    · linarith
    · linarith
  · rcases hother with hmore | ⟨_, heven', _⟩
    · linarith
    · omega

theorem IsNearest.unique {q : ℚ} {x y : Binary64} (hx : IsNearest q x)
    (hy : IsNearest q y) : x = y := by
  cases x with
  | nan => exact absurd hx id
  | infinite s =>
      rcases hx with ⟨rfl, hbound⟩
      cases y with
      | nan => exact absurd hy id
      | infinite t =>
          rcases hy with ⟨rfl, _⟩
          rfl
      | finite t n f hcanonical =>
          rcases hy with ⟨_, hsmall, _⟩
          linarith
  | finite s m e hcanonical =>
      rcases hx with ⟨rfl, hsmall, hbest⟩
      cases y with
      | nan => exact absurd hy id
      | infinite t =>
          rcases hy with ⟨_, hbound⟩
          linarith
      | finite t n f hother =>
          rcases hy with ⟨rfl, _, hbest'⟩
          by_cases hsame : (n, f) = (m, e)
          · cases hsame
            rfl
          · have hwins := hbest n f hother hsame
            have hloses := hbest' m e hcanonical fun h => hsame h.symm
            exact absurd hloses hwins.asymm

/-!
## The nearest integer
-/

theorem roundHalfEven_near (n : Nat) {d : Nat} (h : 0 < d) :
    |(roundHalfEven n d : ℚ) - n / d| ≤ 1 / 2 := by
  have hd : (0 : ℚ) < d := by
    exact_mod_cast h
  have hover : (2 * (roundHalfEven n d * d) : ℚ) ≤ 2 * n + d := by
    exact_mod_cast roundHalfEven_mul_le n h
  have hunder : (2 * n : ℚ) ≤ 2 * (roundHalfEven n d * d) + d := by
    exact_mod_cast le_roundHalfEven_mul n h
  rw [abs_le]
  constructor
  · have hquotient : (n : ℚ) / d ≤ roundHalfEven n d + 1 / 2 := by
      rw [div_le_iff₀ hd]
      linarith
    linarith
  · have hquotient : (roundHalfEven n d : ℚ) - 1 / 2 ≤ n / d := by
      rw [le_div_iff₀ hd]
      linarith
    linarith

theorem roundHalfEven_tie (n : Nat) {d : Nat} (h : 0 < d)
    (htie : |(roundHalfEven n d : ℚ) - n / d| = 1 / 2) : roundHalfEven n d % 2 = 0 := by
  have hd : (d : ℚ) ≠ 0 := by
    positivity
  have hdivision := Nat.div_add_mod' n d
  have hremainder := Nat.mod_lt n h
  have hhalf : 2 * (roundHalfEven n d * d) = 2 * n + d ∨
      2 * n = 2 * (roundHalfEven n d * d) + d := by
    rcases eq_or_eq_neg_of_abs_eq htie with hup | hdown
    · left
      have hsum : (roundHalfEven n d : ℚ) = n / d + 1 / 2 := by
        linarith
      have hscaled : (2 * (roundHalfEven n d * d) : ℚ) = 2 * n + d := by
        rw [hsum]
        field_simp
      exact_mod_cast hscaled
    · right
      have hsum : (roundHalfEven n d : ℚ) = n / d - 1 / 2 := by
        linarith
      have hscaled : (2 * n : ℚ) = 2 * (roundHalfEven n d * d) + d := by
        rw [hsum]
        field_simp
        ring
      exact_mod_cast hscaled
  unfold roundHalfEven at hhalf ⊢
  split at hhalf
  · rename_i hcase
    rw [if_pos hcase]
    omega
  · rename_i hcase
    rw [if_neg hcase]
    rw [Nat.add_mul, Nat.one_mul] at hhalf
    omega

theorem closest_integer {r : ℚ} {k l : Nat} (hnear : |(k : ℚ) - r| ≤ 1 / 2)
    (htie : |(k : ℚ) - r| = 1 / 2 -> k % 2 = 0) (hne : l ≠ k) :
    |(k : ℚ) - r| < |(l : ℚ) - r| ∨
      (|(k : ℚ) - r| = |(l : ℚ) - r| ∧ k % 2 = 0 ∧ l % 2 = 1) := by
  have hfar : (1 : ℚ) ≤ |(l : ℚ) - k| := by
    have hint : (1 : ℤ) ≤ |(l : ℤ) - k| := Int.one_le_abs (by omega)
    exact_mod_cast hint
  have htriangle : |(l : ℚ) - k| ≤ |(l : ℚ) - r| + |(k : ℚ) - r| := by
    have hbetween := abs_sub_le (l : ℚ) r k
    rwa [abs_sub_comm r] at hbetween
  rcases lt_or_ge |(k : ℚ) - r| |(l : ℚ) - r| with hless | hge
  · exact Or.inl hless
  · right
    have hk : |(k : ℚ) - r| = 1 / 2 := by
      linarith
    have hl : |(l : ℚ) - k| = 1 := by
      linarith
    have hodd : |(l : ℤ) - k| = 1 := by
      exact_mod_cast hl
    have heven := htie hk
    refine ⟨by linarith, heven, ?_⟩
    rcases abs_eq (by norm_num : (0 : ℤ) ≤ 1) |>.mp hodd with hnext | hprevious
    · omega
    · omega

/-!
## The grid of an exponent

Rounding works on the multiples of a power of two.  A number of the format is
such a multiple, or it is finer than the grid and then smaller than the rational
and all numbers of the grid that matter.
-/

theorem canonical_injective_of_le {m e n f : Nat} (hm : Canonical m e)
    (hn : Canonical n f) (hle : e ≤ f) (h : m * 2 ^ e = n * 2 ^ f) : (m, e) = (n, f) := by
  rcases Nat.exists_eq_add_of_le hle with ⟨k, rfl⟩
  have hcancelled : m = n * 2 ^ k := by
    rw [Nat.pow_add, Nat.mul_comm (2 ^ e), ← Nat.mul_assoc] at h
    exact Nat.eq_of_mul_eq_mul_right (Nat.two_pow_pos e) h
  cases k with
  | zero => simp [hcancelled]
  | succ k =>
      rcases hm with ⟨hsmall, _, _⟩
      rcases hn with ⟨_, _, hzero | hlarge⟩
      · omega
      · have hgrows : 2 ^ 52 * 2 ≤ n * 2 ^ (k + 1) := by
          apply Nat.mul_le_mul hlarge
          exact Nat.le_self_pow (by omega) 2
        omega

theorem canonical_injective {m e n f : Nat} (hm : Canonical m e) (hn : Canonical n f)
    (h : m * 2 ^ e = n * 2 ^ f) : (m, e) = (n, f) := by
  rcases Nat.le_total e f with hle | hle
  · exact canonical_injective_of_le hm hn hle h
  · exact (canonical_injective_of_le hn hm hle h.symm).symm

/-- A finer number is smaller than every number of the grid that matters. -/
theorem closer_than_finer {r : ℚ} {k grid n f : Nat} (hnear : |(k : ℚ) - r| ≤ 1 / 2)
    (htie : |(k : ℚ) - r| = 1 / 2 -> k % 2 = 0) (hlarge : (2 : ℚ) ^ 52 ≤ r)
    (hsmall : n < 2 ^ 53) (hfine : f < grid) :
    |(k : ℚ) - r| < |(n * 2 ^ f / 2 ^ grid : ℚ) - r| := by
  have hpos : (0 : ℚ) < 2 ^ grid := by
    positivity
  have hbelow : (n * 2 ^ f / 2 ^ grid : ℚ) < 2 ^ 52 := by
    rw [div_lt_iff₀ hpos]
    have hscaled : n * 2 ^ f < 2 ^ 52 * 2 ^ grid := by
      calc n * 2 ^ f < 2 ^ 53 * 2 ^ f :=
            Nat.mul_lt_mul_of_pos_right hsmall (Nat.two_pow_pos f)
        _ = 2 ^ 52 * 2 ^ (f + 1) := by ring
        _ ≤ 2 ^ 52 * 2 ^ grid :=
            Nat.mul_le_mul_left _ (Nat.pow_le_pow_right (by decide) hfine)
    exact_mod_cast hscaled
  have hpower : |(k : ℚ) - r| ≤ r - 2 ^ 52 := by
    have hdistance : |((2 ^ 52 : Nat) : ℚ) - r| = r - 2 ^ 52 := by
      rw [abs_sub_comm, abs_of_nonneg]
      · push_cast
        ring
      · push_cast
        linarith
    by_cases hsame : 2 ^ 52 = k
    · rw [← hsame, hdistance]
    · rcases closest_integer hnear htie hsame with hless | ⟨heq, _, _⟩
      · linarith
      · linarith
  have hother : r - 2 ^ 52 < |(n * 2 ^ f / 2 ^ grid : ℚ) - r| := by
    rw [abs_sub_comm]
    exact lt_of_lt_of_le (by linarith) (le_abs_self _)
  linarith

theorem closest_on_grid {r : ℚ} {k grid n f : Nat} (hnear : |(k : ℚ) - r| ≤ 1 / 2)
    (htie : |(k : ℚ) - r| = 1 / 2 -> k % 2 = 0) (hgrid : grid = 0 ∨ (2 : ℚ) ^ 52 ≤ r)
    (hcanonical : Canonical n f) (hne : n * 2 ^ f ≠ k * 2 ^ grid) :
    |(k : ℚ) - r| < |(n * 2 ^ f / 2 ^ grid : ℚ) - r| ∨
      (|(k : ℚ) - r| = |(n * 2 ^ f / 2 ^ grid : ℚ) - r| ∧ k % 2 = 0 ∧ n % 2 = 1) := by
  rcases Nat.lt_or_ge f grid with hfine | hcoarse
  · have hlarge : (2 : ℚ) ^ 52 ≤ r := by
      rcases hgrid with hzero | hlarge
      · omega
      · exact hlarge
    exact Or.inl (closer_than_finer hnear htie hlarge hcanonical.1 hfine)
  · rcases Nat.exists_eq_add_of_le hcoarse with ⟨j, rfl⟩
    have hinteger : (n * 2 ^ (grid + j) / 2 ^ grid : ℚ) = ((n * 2 ^ j : Nat) : ℚ) := by
      rw [div_eq_iff (by positivity)]
      push_cast
      ring
    have hdifferent : n * 2 ^ j ≠ k := by
      intro hsame
      apply hne
      rw [← hsame]
      ring
    rw [hinteger]
    rcases closest_integer hnear htie hdifferent with hless | ⟨heq, heven, hodd⟩
    · exact Or.inl hless
    · refine Or.inr ⟨heq, heven, ?_⟩
      have hfactor := Nat.odd_iff.mpr hodd
      exact Nat.odd_iff.mp (Nat.odd_mul.mp hfactor).1

/-!
## What rounding gives

The exponent is chosen so that the rounded mantissa has at most fifty-three bits,
and as many as it can have.
-/

theorem exponentFor_bounds (n d : Nat) :
    n / d < 2 ^ 53 * 2 ^ exponentFor n d ∧
      (exponentFor n d = 0 ∨ 2 ^ 52 * 2 ^ exponentFor n d ≤ n / d) := by
  have hupper : n / d < 2 ^ ((n / d).log2 + 1) := Nat.lt_log2_self
  unfold exponentFor
  constructor
  · rw [← Nat.pow_add]
    apply Nat.lt_of_lt_of_le hupper
    exact Nat.pow_le_pow_right (by decide) (by omega)
  · rcases Nat.lt_or_ge 52 (n / d).log2 with hnormal | hsmall
    · right
      have hne : n / d ≠ 0 := by
        intro hzero
        rw [hzero] at hnormal
        simp at hnormal
      rw [← Nat.pow_add, Nat.add_sub_cancel' (by omega)]
      exact Nat.log2_self_le hne
    · left
      omega

theorem ofRounded_cases {k grid : Nat} (hk : k ≤ 2 ^ 53)
    (hgrid : grid = 0 ∨ 2 ^ 52 ≤ k) :
    (exists m e, exists h : Canonical m e,
      ofRounded false k grid = finite false m e h ∧ m * 2 ^ e = k * 2 ^ grid ∧
        (k % 2 = 0 -> m % 2 = 0) ∧ (grid < 2045 ∨ grid = 2045 ∧ k < 2 ^ 53)) ∨
    (ofRounded false k grid = infinite false ∧
      (2046 ≤ grid ∨ grid = 2045 ∧ k = 2 ^ 53)) := by
  unfold ofRounded
  by_cases hcarry : k = 2 ^ 53
  · subst hcarry
    rw [if_pos rfl]
    by_cases hinside : Canonical (2 ^ 52) (grid + 1)
    · left
      refine ⟨2 ^ 52, grid + 1, hinside, dif_pos hinside, by ring, fun _ => by decide, ?_⟩
      rcases hinside with ⟨_, hrange, _⟩
      left
      omega
    · right
      refine ⟨dif_neg hinside, ?_⟩
      unfold Canonical at hinside
      omega
  · rw [if_neg hcarry]
    by_cases hinside : Canonical k grid
    · left
      refine ⟨k, grid, hinside, dif_pos hinside, rfl, id, ?_⟩
      rcases hinside with ⟨_, hrange, _⟩
      omega
    · right
      refine ⟨dif_neg hinside, ?_⟩
      unfold Canonical at hinside
      omega

theorem unitsPerOne_pos : (0 : ℚ) < unitsPerOne := by
  have hpos : 0 < unitsPerOne := by
    unfold unitsPerOne
    positivity
  exact Nat.cast_pos.mpr hpos

theorem gridStep_pos (grid : Nat) : 0 < gridStep grid :=
  div_pos (by positivity) unitsPerOne_pos

theorem gridStep_le {grid other : Nat} (h : grid ≤ other) :
    gridStep grid ≤ gridStep other := by
  have hpower : (2 : ℚ) ^ grid ≤ 2 ^ other := pow_le_pow_right₀ (by norm_num) h
  exact div_le_div_of_nonneg_right hpower (le_of_lt unitsPerOne_pos)

theorem gridStep_succ (grid : Nat) : gridStep (grid + 1) = 2 * gridStep grid := by
  unfold gridStep
  ring

theorem gridStep_div (e grid : Nat) : gridStep e / gridStep grid = 2 ^ e / 2 ^ grid := by
  have hpos := unitsPerOne_pos
  unfold gridStep
  field_simp

theorem distance_on_grid (q : ℚ) (m e grid : Nat) :
    |magnitude m e - q| =
      |(m * 2 ^ e / 2 ^ grid : ℚ) - q / gridStep grid| * gridStep grid := by
  have hpos := gridStep_pos grid
  have hinner : magnitude m e - q =
      ((m * 2 ^ e / 2 ^ grid : ℚ) - q / gridStep grid) * gridStep grid := by
    rw [mul_div_assoc, ← gridStep_div]
    unfold magnitude
    field_simp
  rw [hinner, abs_mul, abs_of_pos hpos]

/-!
## Rounding on a grid

The mantissa that rounding chooses lies within half a step of the rational, is
even at exactly half a step, and fits the format.
-/

structure IsRounding (q : ℚ) (k grid : Nat) : Prop where
  near : |(k : ℚ) - q / gridStep grid| ≤ 1 / 2
  tie : |(k : ℚ) - q / gridStep grid| = 1 / 2 -> k % 2 = 0
  small : q / gridStep grid < 2 ^ 53
  normal : grid = 0 ∨ (2 : ℚ) ^ 52 ≤ q / gridStep grid

namespace IsRounding

variable {q : ℚ} {k grid : Nat}

theorem le (h : IsRounding q k grid) : k ≤ 2 ^ 53 := by
  have hcast : (k : ℚ) < 2 ^ 53 + 1 := by
    have hup := (abs_le.mp h.near).2
    have hsmall := h.small
    linarith
  have hless : k < 2 ^ 53 + 1 := by
    exact_mod_cast hcast
  omega

theorem ge (h : IsRounding q k grid) : grid = 0 ∨ 2 ^ 52 ≤ k := by
  rcases h.normal with hzero | hlarge
  · exact Or.inl hzero
  · right
    have hcast : (2 : ℚ) ^ 52 < k + 1 := by
      have hdown := (abs_le.mp h.near).1
      linarith
    have hless : 2 ^ 52 < k + 1 := by
      exact_mod_cast hcast
    omega

theorem lt_overflowBound (h : IsRounding q k grid)
    (hinside : grid < 2045 ∨ grid = 2045 ∧ k < 2 ^ 53) : q < overflowBound := by
  have hpos := gridStep_pos grid
  have hup : q / gridStep grid ≤ k + 1 / 2 := by
    have hlower := (abs_le.mp h.near).1
    linarith
  unfold overflowBound
  rcases hinside with hlow | ⟨rfl, hsmall⟩
  · have hk : (k : ℚ) ≤ 2 ^ 53 := by
      exact_mod_cast h.le
    have hstep : 2 * gridStep grid ≤ gridStep 2045 := by
      rw [← gridStep_succ]
      exact gridStep_le hlow
    have hq : q ≤ (2 ^ 53 + 1 / 2) * gridStep grid := by
      rw [← div_le_iff₀ hpos]
      linarith
    linarith
  · have hlast : (k : ℚ) + 1 ≤ 2 ^ 53 := by
      exact_mod_cast hsmall
    rw [← div_lt_iff₀ hpos]
    by_contra hlarge
    have hsame : (k : ℚ) + 1 = 2 ^ 53 := by
      linarith
    have htied : |(k : ℚ) - q / gridStep 2045| = 1 / 2 := by
      rw [abs_sub_comm, abs_of_nonneg]
      · linarith
      · linarith
    have heven := h.tie htied
    have hvalue : k + 1 = 2 ^ 53 := by
      exact_mod_cast hsame
    omega

theorem overflowBound_le (h : IsRounding q k grid)
    (houtside : 2046 ≤ grid ∨ grid = 2045 ∧ k = 2 ^ 53) : overflowBound ≤ q := by
  have hpos := gridStep_pos grid
  unfold overflowBound
  rcases houtside with hhigh | ⟨rfl, rfl⟩
  · have hq : 2 ^ 52 * gridStep grid ≤ q := by
      rw [← le_div_iff₀ hpos]
      rcases h.normal with hzero | hlarge
      · omega
      · exact hlarge
    have hstep : 2 * gridStep 2045 ≤ gridStep grid := by
      rw [← gridStep_succ]
      exact gridStep_le hhigh
    have htop := gridStep_pos 2045
    linarith
  · rw [← le_div_iff₀ hpos]
    have hupper := (abs_le.mp h.near).2
    push_cast at hupper
    linarith

/-- A rounded mantissa beats every other number of the format. -/
theorem isBetter (h : IsRounding q k grid) {m e n f : Nat} (hm : Canonical m e)
    (hsame : m * 2 ^ e = k * 2 ^ grid) (heven : k % 2 = 0 -> m % 2 = 0)
    (hn : Canonical n f) (hne : (n, f) ≠ (m, e)) : IsBetter q m e n f := by
  have hpos := gridStep_pos grid
  have hdifferent : n * 2 ^ f ≠ k * 2 ^ grid := by
    intro hvalue
    exact hne (canonical_injective hn hm (hvalue.trans hsame.symm))
  have hk : (m * 2 ^ e / 2 ^ grid : ℚ) = k := by
    have hcast : (m * 2 ^ e : ℚ) = k * 2 ^ grid := by
      exact_mod_cast hsame
    rw [hcast]
    field_simp
  unfold IsBetter
  rw [distance_on_grid q m e grid, distance_on_grid q n f grid, hk]
  rcases closest_on_grid h.near h.tie h.normal hn hdifferent with hless | ⟨heq, hk', hodd⟩
  · left
    gcongr
  · right
    refine ⟨?_, heven hk', hodd⟩
    rw [heq]

theorem isNearest (h : IsRounding q k grid) : IsNearest q (ofRounded false k grid) := by
  rcases ofRounded_cases h.le h.ge with
    ⟨m, e, hm, hresult, hsame, heven, hinside⟩ | ⟨hresult, houtside⟩
  · rw [hresult]
    refine ⟨rfl, h.lt_overflowBound hinside, ?_⟩
    intro n f hn hne
    exact h.isBetter hm hsame heven hn hne
  · rw [hresult]
    exact ⟨rfl, h.overflowBound_le houtside⟩

end IsRounding

theorem isRounding_roundHalfEven (n : Nat) {d : Nat} (hd : 0 < d) :
    IsRounding (n / d)
      (roundHalfEven (n * unitsPerOne) (d * 2 ^ exponentFor (n * unitsPerOne) d))
      (exponentFor (n * unitsPerOne) d) := by
  rcases exponentFor_bounds (n * unitsPerOne) d with ⟨hupper, hlower⟩
  have hsize : 0 < d * 2 ^ exponentFor (n * unitsPerOne) d :=
    Nat.mul_pos hd (Nat.two_pow_pos _)
  have hunits : (n / d : ℚ) / gridStep (exponentFor (n * unitsPerOne) d) =
      (n * unitsPerOne : Nat) / (d * 2 ^ exponentFor (n * unitsPerOne) d : Nat) := by
    have hpos := unitsPerOne_pos
    unfold gridStep
    push_cast
    field_simp
  constructor
  · rw [hunits]
    exact roundHalfEven_near _ hsize
  · rw [hunits]
    exact roundHalfEven_tie _ hsize
  · rw [hunits, div_lt_iff₀ (Nat.cast_pos.mpr hsize)]
    rw [Nat.div_lt_iff_lt_mul hd] at hupper
    have hscaled : n * unitsPerOne < 2 ^ 53 * (d * 2 ^ exponentFor (n * unitsPerOne) d) := by
      linarith
    exact_mod_cast hscaled
  · rcases hlower with hzero | hlarge
    · exact Or.inl hzero
    · right
      rw [hunits, le_div_iff₀ (Nat.cast_pos.mpr hsize)]
      rw [Nat.le_div_iff_mul_le hd] at hlarge
      have hscaled : 2 ^ 52 * (d * 2 ^ exponentFor (n * unitsPerOne) d) ≤
          n * unitsPerOne := by
        linarith
      exact_mod_cast hscaled

theorem nearest_isNearest (n : Nat) {d : Nat} (hd : 0 < d) :
    IsNearest (n / d) (nearest false n d) :=
  (isRounding_roundHalfEven n hd).isNearest

end Binary64

end PocketCalculator
