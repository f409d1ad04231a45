import PocketCalculator.Proofs.Literals

/-!
# What literals stand for

## The rational of a literal

A literal denotes a rational, whatever the size of its exponent, and is read as
a number.  That number is the one nearest to the rational as long as the digits
of the exponent are all counted, and also when they are not if the mantissa has
an ordinary length: then the literal is read as zero or as an infinity, rightly.
-/

namespace PocketCalculator

namespace Exponent

def written (x : Exponent) : Int :=
  if x.sign = some '-' then -(Nat.ofDigitChars 10 x.digits 0 : Int)
  else Nat.ofDigitChars 10 x.digits 0

theorem value_eq_written {x : Exponent}
    (h : Nat.ofDigitChars 10 x.digits 0 < 10 * magnitudeLimit) : x.value = x.written := by
  unfold value written
  rw [magnitude_eq_ofDigitChars h]

theorem le_foldl_countDigit (digits : Text) (start : Nat) :
    start ≤ digits.foldl countDigit start := by
  induction digits generalizing start with
  | nil => exact Nat.le_refl start
  | cons c rest ih =>
      rw [List.foldl_cons]
      apply Nat.le_trans _ (ih (countDigit start c))
      unfold countDigit
      split
      · omega
      · exact Nat.le_refl start

theorem magnitudeLimit_le_foldl {digits : Text} {start : Nat}
    (h : magnitudeLimit ≤ Nat.ofDigitChars 10 digits start) :
    magnitudeLimit ≤ digits.foldl countDigit start := by
  induction digits generalizing start with
  | nil => simpa using h
  | cons c rest ih =>
      rw [Nat.ofDigitChars_cons] at h
      by_cases hsmall : start < magnitudeLimit
      · rw [List.foldl_cons, countDigit, if_pos hsmall]
        exact ih h
      · exact Nat.le_trans (Nat.le_of_not_lt hsmall) (le_foldl_countDigit (c :: rest) start)

end Exponent

namespace Literal

open Binary64

def number (x : Literal) : Binary64 :=
  x.decimal.toBinary64 false

theorem value?_of_isWellFormed {x : Literal} (h : x.IsWellFormed) :
    x.value? = some x.number := by
  rw [value?, if_pos (isComplete_of_isWellFormed h)]
  rfl

def mantissaDigits (x : Literal) : Text :=
  x.whole ++ x.fraction.getD []

def lastPlace (x : Literal) : Int :=
  (x.exponent.map Exponent.written).getD 0 - (x.fraction.getD []).length

/-- The rational that a literal denotes. -/
def rational (x : Literal) : ℚ :=
  Nat.ofDigitChars 10 x.mantissaDigits 0 * 10 ^ x.lastPlace

theorem number_isNearest {x : Literal}
    (h : forall e, e ∈ x.exponent ->
      Nat.ofDigitChars 10 e.digits 0 < 10 * Exponent.magnitudeLimit) :
    IsNearest x.rational x.number := by
  have hplace : x.decimal.exponent = x.lastPlace := by
    cases hexponent : x.exponent with
    | none => simp [decimal, lastPlace, hexponent]
    | some e =>
        have hvalue := Exponent.value_eq_written (h e hexponent)
        simp [decimal, lastPlace, hexponent, hvalue]
  have hrational : x.decimal.rational = x.rational := by
    unfold Decimal.rational rational
    rw [hplace]
    rfl
  unfold number
  rw [← hrational]
  exact x.decimal.toBinary64_isNearest

/-!
## Exponents beyond the limit

Such an exponent makes the rational so large or so small that it does not matter
which digits of the exponent are counted.
-/

theorem ofDigitChars_lt {digits : Text} (h : forall c, c ∈ digits -> c.isDigit = true)
    (start : Nat) :
    Nat.ofDigitChars 10 digits start < 10 ^ digits.length * (start + 1) := by
  induction digits generalizing start with
  | nil => simp
  | cons c rest ih =>
      have hdigit := h c (List.mem_cons_self ..)
      have hsmall := (Text.toNat_bounds_of_isDigit hdigit).2
      have hrest := ih (fun d hd => h d (List.mem_cons_of_mem c hd))
        (10 * start + (c.toNat - '0'.toNat))
      rw [Nat.ofDigitChars_cons, List.length_cons, Nat.pow_succ, Nat.mul_assoc]
      apply Nat.lt_of_lt_of_le hrest
      apply Nat.mul_le_mul_left
      omega

theorem mul_zpow_lt_gridStep {c n : Nat} {place : Int} (hc : c < 10 ^ n)
    (hplace : place + n ≤ -400) : 2 * ((c : ℚ) * 10 ^ place) < gridStep 0 := by
  have hpos : (0 : ℚ) < 10 ^ place := zpow_pos (by norm_num) place
  have hc' : (c : ℚ) < 10 ^ (n : Int) := by
    rw [zpow_natCast]
    exact_mod_cast hc
  have hvalue : (c : ℚ) * 10 ^ place ≤ 1 / 10 ^ 400 := by
    calc (c : ℚ) * 10 ^ place ≤ 10 ^ (n : Int) * 10 ^ place := by gcongr
      _ = 10 ^ (place + n) := by rw [← zpow_add₀ (by norm_num), add_comm]
      _ ≤ 10 ^ (-400 : Int) := zpow_le_zpow_right₀ (by norm_num) hplace
      _ = 1 / 10 ^ 400 := by rw [zpow_neg, one_div]; rfl
  have hstep : 2 * (((1 : Nat) : ℚ) / 10 ^ 400) < gridStep 0 := by
    apply Decimal.lt_gridStep_of_small
    decide
  rw [Nat.cast_one] at hstep
  exact lt_of_le_of_lt (mul_le_mul_of_nonneg_left hvalue (by norm_num)) hstep

theorem overflowBound_le_mul_zpow {c : Nat} {place : Int} (hc : c ≠ 0)
    (hplace : 400 ≤ place) : overflowBound ≤ (c : ℚ) * 10 ^ place := by
  rcases Int.eq_ofNat_of_zero_le (by omega : 0 ≤ place) with ⟨k, rfl⟩
  rw [zpow_natCast]
  exact Decimal.overflowBound_le_of_large hc (by omega)

/-- Far from the point it does not matter which place exactly is read. -/
theorem isNearest_of_far {c n : Nat} {written read : Int} (hc : c < 10 ^ n)
    (h : 400 ≤ written ∧ 400 ≤ read ∨ written + n ≤ -400 ∧ read + n ≤ -400) :
    IsNearest ((c : ℚ) * 10 ^ written) (Decimal.toBinary64 false ⟨c, read⟩) := by
  have hread := Decimal.toBinary64_isNearest ⟨c, read⟩
  unfold Decimal.rational at hread
  by_cases hzero : c = 0
  · subst hzero
    rw [Nat.cast_zero, zero_mul] at hread ⊢
    exact hread
  · rcases h with ⟨hwritten, hlarge⟩ | ⟨hwritten, hsmall⟩
    · have hinfinite : IsNearest ((c : ℚ) * 10 ^ read) (infinite false) :=
        ⟨rfl, overflowBound_le_mul_zpow hzero hlarge⟩
      rw [hread.unique hinfinite]
      exact ⟨rfl, overflowBound_le_mul_zpow hzero hwritten⟩
    · have hnonneg : forall place : Int, (0 : ℚ) ≤ c * 10 ^ place := fun place =>
        mul_nonneg (Nat.cast_nonneg c) (le_of_lt (zpow_pos (by norm_num) place))
      have htiny := isNearest_zero (hnonneg read) (mul_zpow_lt_gridStep hc hsmall)
      rw [hread.unique htiny]
      exact isNearest_zero (hnonneg written) (mul_zpow_lt_gridStep hc hwritten)

/-- The number of mantissa digits up to which every exponent is read rightly. -/
def ordinaryLength : Nat :=
  65000

/-- An exponent that is not counted to its end puts a short literal far from the point. -/
theorem isFar_of_uncounted {e : Exponent} {n k : Nat} (hn : n ≤ ordinaryLength) (hk : k ≤ n)
    (hlarge : ¬ Nat.ofDigitChars 10 e.digits 0 < 10 * Exponent.magnitudeLimit) :
    400 ≤ e.written - k ∧ 400 ≤ e.value - k ∨
      e.written - k + n ≤ -400 ∧ e.value - k + n ≤ -400 := by
  have hwritten : Exponent.magnitudeLimit ≤ Nat.ofDigitChars 10 e.digits 0 := by
    omega
  have hcounted : Exponent.magnitudeLimit ≤ Exponent.magnitude e.digits :=
    Exponent.magnitudeLimit_le_foldl hwritten
  unfold Exponent.written Exponent.value
  unfold Exponent.magnitudeLimit at hwritten hcounted
  unfold ordinaryLength at hn
  by_cases hsign : e.sign = some '-'
  · right
    rw [if_pos hsign, if_pos hsign]
    omega
  · left
    rw [if_neg hsign, if_neg hsign]
    omega

theorem number_isNearest_of_uncounted {x : Literal} (h : x.IsWellFormed)
    (hlength : x.mantissaDigits.length ≤ ordinaryLength) {e : Exponent}
    (he : x.exponent = some e)
    (hlarge : ¬ Nat.ofDigitChars 10 e.digits 0 < 10 * Exponent.magnitudeLimit) :
    IsNearest x.rational x.number := by
  have hdigits : forall c, c ∈ x.mantissaDigits -> c.isDigit = true := by
    intro c hc
    rcases List.mem_append.mp hc with hc | hc
    · exact h.whole c hc
    · exact h.fraction c hc
  have hnumeral := ofDigitChars_lt hdigits 0
  rw [Nat.zero_add, Nat.mul_one] at hnumeral
  have hfraction : (x.fraction.getD []).length ≤ x.mantissaDigits.length := by
    simp [mantissaDigits]
  have hplace : x.lastPlace = e.written - (x.fraction.getD []).length := by
    simp [lastPlace, he]
  have hdecimal : x.decimal = ⟨Nat.ofDigitChars 10 x.mantissaDigits 0,
      e.value - (x.fraction.getD []).length⟩ := by
    simp [decimal, mantissaDigits, he]
  unfold rational number
  rw [hplace, hdecimal]
  exact isNearest_of_far hnumeral (isFar_of_uncounted hlength hfraction hlarge)

theorem number_isNearest_of_length_le {x : Literal} (h : x.IsWellFormed)
    (hlength : x.mantissaDigits.length ≤ ordinaryLength) :
    IsNearest x.rational x.number := by
  by_cases hcounted : forall e, e ∈ x.exponent ->
      Nat.ofDigitChars 10 e.digits 0 < 10 * Exponent.magnitudeLimit
  · exact number_isNearest hcounted
  · push Not at hcounted
    rcases hcounted with ⟨e, he, hlarge⟩
    exact number_isNearest_of_uncounted h hlength he (Nat.not_lt_of_le hlarge)

end Literal

end PocketCalculator
