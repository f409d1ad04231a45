import PocketCalculator.Proofs.DigitLists
import PocketCalculator.Proofs.Layouts

/-!
# Standard forms

## The size of a decimal number

The place of the point says between which powers of ten a decimal number lies.
-/

namespace PocketCalculator

namespace Decimal

variable {d : Decimal} (hd : d.coefficient ≠ 0)

include hd

theorem rational_bounds : 10 ^ (d.point - 1) ≤ d.rational ∧ d.rational < 10 ^ d.point := by
  have hbounds := length_toDigits_bounds hd
  rcases exists_length_toDigits d.coefficient with ⟨k, hk⟩
  rw [hk, Nat.add_sub_cancel] at hbounds
  have hpoint : d.point = (k : Int) + 1 + d.exponent := by
    rw [point, digits, Text.ofNat, hk]
    push_cast
    ring
  have hstep : (0 : ℚ) < 10 ^ d.exponent := zpow_pos (by norm_num) _
  have hlow : (10 : ℚ) ^ (k : Int) ≤ d.coefficient := by
    rw [zpow_natCast]
    exact_mod_cast hbounds.1
  have hhigh : (d.coefficient : ℚ) < 10 ^ ((k : Int) + 1) := by
    rw [zpow_add_one₀ (by norm_num), zpow_natCast, ← pow_succ]
    exact_mod_cast hbounds.2
  have hfirst : d.point - 1 = (k : Int) + d.exponent := by
    omega
  rw [hfirst, hpoint, zpow_add₀ (by norm_num), zpow_add₀ (by norm_num)]
  exact ⟨mul_le_mul_of_nonneg_right hlow (le_of_lt hstep),
    mul_lt_mul_of_pos_right hhigh hstep⟩

theorem rational_lt_iff (k : Int) : d.rational < 10 ^ k <-> d.point ≤ k := by
  have hten : (1 : ℚ) < 10 := by
    norm_num
  rcases rational_bounds hd with ⟨hlow, hhigh⟩
  constructor
  · intro hless
    have hpower := (zpow_lt_zpow_iff_right₀ hten).mp (lt_of_le_of_lt hlow hless)
    omega
  · intro hle
    exact lt_of_lt_of_le hhigh (zpow_le_zpow_right₀ (le_of_lt hten) hle)

theorem point_range_iff :
    -6 < d.point ∧ d.point ≤ 21 <-> 1 / 10 ^ 6 ≤ d.rational ∧ d.rational < 10 ^ 21 := by
  have hlow := rational_lt_iff hd (-6)
  have hhigh := rational_lt_iff hd 21
  have hsmall : (10 : ℚ) ^ (-6 : Int) = 1 / 10 ^ 6 := by
    rw [zpow_neg, one_div]
    rfl
  have hlarge : (10 : ℚ) ^ (21 : Int) = 10 ^ 21 := rfl
  rw [hsmall] at hlow
  rw [hlarge] at hhigh
  have hge : 1 / 10 ^ 6 ≤ d.rational <-> -6 < d.point := by
    rw [← not_lt, hlow, not_le]
  rw [hge, hhigh]

theorem rational_lt_one_iff : d.rational < 1 <-> d.point ≤ 0 := by
  have hiff := rational_lt_iff hd 0
  rwa [zpow_zero] at hiff

theorem point_eq_of_rational_eq {c : Decimal} (hc : c.coefficient ≠ 0)
    (h : c.rational = d.rational) : c.point = d.point := by
  apply Int.le_antisymm
  · rw [← rational_lt_iff hc, h]
    exact (rational_bounds hd).2
  · rw [← rational_lt_iff hd, ← h]
    exact (rational_bounds hc).2

end Decimal

/-!
## The standard form

From `10 ^ (-6)` up to but excluding `10 ^ 21` a number is written with its integer
part, which is a single zero for a number below one, and elsewhere with one digit
before the point and an exponent.  No zero is written that could be left out.
-/

namespace Literal

/-- Whether a literal writes a positive rational in standard form. -/
structure IsStandard (q : ℚ) (l : Literal) : Prop where
  isWellFormed : l.IsWellFormed
  rational : l.rational = q
  positional : l.exponent = none <-> 1 / 10 ^ 6 ≤ q ∧ q < 10 ^ 21
  whole : l.exponent = none ->
    if q < 1 then l.whole = ['0'] else l.whole.head? ≠ some '0'
  first : l.exponent ≠ none -> exists c, l.whole = [c] ∧ c ≠ '0'
  exponent : forall e, e ∈ l.exponent ->
    e.marker = 'e' ∧ e.sign ≠ none ∧ e.digits.head? ≠ some '0'
  fraction : forall f, f ∈ l.fraction -> f ≠ [] ∧ f.getLast? ≠ some '0'

end Literal

/-- Whether a text is the standard form of a number with that sign and absolute value. -/
structure Text.IsStandardForm (negative : Bool) (q : ℚ) (t : Text) : Prop where
  sign : t.head? = some '-' <-> negative = true
  literal : exists l : Literal, l.IsStandard q ∧ (t = l.text ∨ t = '-' :: l.text)

/-!
## Its digits

The digits of the mantissa are fixed by their number, and their number by the
rational, because a fraction does not end in a zero.
-/

namespace Literal

theorem IsWellFormed.isDigit_of_mem {l : Literal} (h : l.IsWellFormed) :
    forall c, c ∈ l.mantissaDigits -> c.isDigit = true := by
  intro c hc
  rcases List.mem_append.mp hc with hc | hc
  · exact h.whole c hc
  · exact h.fraction c hc

def mantissa (l : Literal) : Nat :=
  Nat.ofDigitChars 10 l.mantissaDigits 0

def fractionLength (l : Literal) : Nat :=
  (l.fraction.getD []).length

def scale (l : Literal) : Int :=
  (l.exponent.map Exponent.written).getD 0

theorem rational_eq (l : Literal) :
    l.rational = l.mantissa * 10 ^ (l.scale - l.fractionLength) := rfl

namespace IsStandard

variable {q : ℚ} {l k : Literal} (hl : l.IsStandard q) (hk : k.IsStandard q)

include hl

theorem mantissa_mod (h : 0 < l.fractionLength) : l.mantissa % 10 ≠ 0 := by
  have hdigits := hl.isWellFormed.isDigit_of_mem
  unfold mantissa mantissaDigits at *
  unfold fractionLength at h
  cases hfraction : l.fraction with
  | none =>
      rw [hfraction] at h
      cases h
  | some f =>
      rcases hl.fraction f hfraction with ⟨hne, hlast⟩
      rw [hfraction] at hdigits
      apply Text.ofDigitChars_mod hdigits
      · exact List.append_ne_nil_of_right_ne_nil _ hne
      · rw [Option.getD_some, List.getLast?_append_of_ne_nil _ hne]
        exact hlast

theorem fractionLength_le (h : l.mantissa * 10 ^ k.fractionLength =
    k.mantissa * 10 ^ l.fractionLength) : l.fractionLength ≤ k.fractionLength := by
  by_contra hlonger
  rcases Nat.exists_eq_add_of_lt (Nat.lt_of_not_le hlonger) with ⟨j, hj⟩
  have hmod := hl.mantissa_mod (by omega)
  rw [hj, Nat.add_assoc, Nat.pow_add, ← Nat.mul_assoc, Nat.mul_right_comm] at h
  have hmultiple : l.mantissa = k.mantissa * 10 ^ (j + 1) :=
    Nat.eq_of_mul_eq_mul_right (Nat.pow_pos (by decide)) h
  rw [hmultiple, Nat.pow_succ, ← Nat.mul_assoc, Nat.mul_mod_left] at hmod
  exact hmod rfl

include hk

theorem mantissa_scaled_eq (hscale : l.scale = k.scale) :
    l.mantissa * 10 ^ k.fractionLength = k.mantissa * 10 ^ l.fractionLength := by
  have hten : (10 : ℚ) ≠ 0 := by
    norm_num
  have hrational := hl.rational.trans hk.rational.symm
  rw [rational_eq, rational_eq, hscale, zpow_sub₀ hten, zpow_sub₀ hten, zpow_natCast,
    zpow_natCast] at hrational
  have hpower : (10 : ℚ) ^ k.scale ≠ 0 := zpow_ne_zero _ hten
  field_simp at hrational
  rw [mul_comm ((10 : ℚ) ^ l.fractionLength)] at hrational
  exact_mod_cast hrational

theorem mantissa_eq (hscale : l.scale = k.scale) :
    l.mantissa = k.mantissa ∧ l.fractionLength = k.fractionLength := by
  have hscaled := hl.mantissa_scaled_eq hk hscale
  have hlength : l.fractionLength = k.fractionLength :=
    Nat.le_antisymm (hl.fractionLength_le hscaled) (hk.fractionLength_le hscaled.symm)
  rw [hlength] at hscaled
  exact ⟨Nat.eq_of_mul_eq_mul_right (Nat.pow_pos (by decide)) hscaled, hlength⟩

end IsStandard

theorem rational_lt_one_of_whole {l : Literal} (h : l.IsWellFormed) (hscale : l.scale = 0)
    (hwhole : l.whole = []) : l.rational < 1 := by
  have hlength : l.mantissaDigits.length = l.fractionLength := by
    rw [mantissaDigits, hwhole, List.nil_append, fractionLength]
  have hsmall := ofDigitChars_lt h.isDigit_of_mem 0
  rw [hlength, Nat.zero_add, Nat.mul_one] at hsmall
  have hpower : (0 : ℚ) < 10 ^ l.fractionLength := pow_pos (by norm_num) _
  have hcast : (l.mantissa : ℚ) < 10 ^ l.fractionLength := by
    exact_mod_cast hsmall
  rw [rational_eq, hscale, zero_sub, zpow_neg, zpow_natCast, ← div_eq_mul_inv, div_lt_one hpower]
  exact hcast

namespace IsStandard

variable {q : ℚ} {l k : Literal} (hl : l.IsStandard q) (hk : k.IsStandard q)

theorem scale_of_positional (hnone : l.exponent = none) : l.scale = 0 := by
  rw [scale, hnone]
  rfl

include hl

theorem mantissaDigits_cases :
    (l.exponent = none ∧ q < 1 ∧ l.whole = ['0']) ∨
      ((l.exponent = none -> ¬ q < 1) ∧ l.whole ≠ [] ∧
        l.mantissaDigits.head? ≠ some '0') := by
  by_cases hexponent : l.exponent = none
  · have hwhole := hl.whole hexponent
    by_cases hsmall : q < 1
    · rw [if_pos hsmall] at hwhole
      exact .inl ⟨hexponent, hsmall, hwhole⟩
    · rw [if_neg hsmall] at hwhole
      have hne : l.whole ≠ [] := by
        intro hnil
        have hless := rational_lt_one_of_whole hl.isWellFormed
          (scale_of_positional hexponent) hnil
        rw [hl.rational] at hless
        exact hsmall hless
      refine .inr ⟨fun _ => hsmall, hne, ?_⟩
      rwa [mantissaDigits, List.head?_append_of_ne_nil _ hne]
  · rcases hl.first hexponent with ⟨c, hwhole, hc⟩
    refine .inr ⟨fun hnone => absurd hnone hexponent, ?_, ?_⟩
    · rw [hwhole]
      exact List.cons_ne_nil c []
    · rw [mantissaDigits, hwhole]
      intro hzero
      exact hc (Option.some.inj hzero)

include hk

theorem mantissaDigits_eq (hscale : l.scale = k.scale)
    (hsame : l.exponent = none <-> k.exponent = none) :
    l.mantissaDigits = k.mantissaDigits := by
  rcases hl.mantissa_eq hk hscale with ⟨hvalue, hlength⟩
  have hdigits := hl.isWellFormed.isDigit_of_mem
  have hdigits' := hk.isWellFormed.isDigit_of_mem
  rcases hl.mantissaDigits_cases with ⟨hnone, hsmall, hwhole⟩ | ⟨hlarge, hne, hhead⟩
  · rcases hk.mantissaDigits_cases with ⟨_, _, hwhole'⟩ | ⟨hlarge', _, _⟩
    · apply Text.eq_of_ofDigitChars_eq_of_length_eq hdigits hdigits' _ hvalue
      rw [mantissaDigits, mantissaDigits, hwhole, hwhole', List.length_append,
        List.length_append]
      exact congrArg (['0'].length + ·) hlength
    · exact absurd hsmall (hlarge' (hsame.mp hnone))
  · rcases hk.mantissaDigits_cases with ⟨hnone', hsmall', _⟩ | ⟨_, hne', hhead'⟩
    · exact absurd hsmall' (hlarge (hsame.mpr hnone'))
    · exact Text.eq_of_ofDigitChars_eq hdigits hdigits'
        (List.append_ne_nil_of_left_ne_nil hne _) (List.append_ne_nil_of_left_ne_nil hne' _)
        hhead hhead' hvalue

omit hk in
theorem fraction_eq_none (h : l.fraction.getD [] = []) : l.fraction = none := by
  cases hfraction : l.fraction with
  | none => rfl
  | some f =>
      rw [hfraction] at h
      exact absurd h (hl.fraction f hfraction).1

theorem parts_eq (hscale : l.scale = k.scale)
    (hsame : l.exponent = none <-> k.exponent = none) :
    l.whole = k.whole ∧ l.fraction = k.fraction := by
  have hlength := (hl.mantissa_eq hk hscale).2
  rcases List.append_inj' (hl.mantissaDigits_eq hk hscale hsame) hlength with ⟨hwhole, hparts⟩
  refine ⟨hwhole, ?_⟩
  cases hfraction : l.fraction with
  | none =>
      rw [hfraction] at hparts
      exact (hk.fraction_eq_none hparts.symm).symm
  | some f =>
      cases hfraction' : k.fraction with
      | none =>
          rw [hfraction'] at hparts
          exact hfraction.symm.trans (hl.fraction_eq_none hparts)
      | some g =>
          rw [hfraction, hfraction'] at hparts
          exact congrArg some hparts

end IsStandard

end Literal

/-!
## Its exponent

The exponent is one less than the place of the point, which the rational decides,
and is not zero, because there is no exponent near one.
-/

namespace Exponent

theorem written_cases {e : Exponent} (h : e.IsWellFormed) (hsign : e.sign ≠ none) :
    (e.sign = some '+' ∧ e.written = Nat.ofDigitChars 10 e.digits 0) ∨
      (e.sign = some '-' ∧ e.written = -(Nat.ofDigitChars 10 e.digits 0 : Int)) := by
  rcases Option.ne_none_iff_exists'.mp hsign with ⟨s, hs⟩
  rcases eq_of_isSign (h.sign s hs) with rfl | rfl
  · exact .inl ⟨hs, if_neg (by simp [hs])⟩
  · exact .inr ⟨hs, if_pos hs⟩

theorem eq_of_written_eq {e f : Exponent} (he : e.IsWellFormed) (hf : f.IsWellFormed)
    (hmarker : e.marker = f.marker) (hsign : e.sign ≠ none) (hsign' : f.sign ≠ none)
    (hzero : e.digits.head? ≠ some '0') (hzero' : f.digits.head? ≠ some '0')
    (hnonzero : e.written ≠ 0) (h : e.written = f.written) : e = f := by
  have hparts : e.sign = f.sign ∧
      Nat.ofDigitChars 10 e.digits 0 = Nat.ofDigitChars 10 f.digits 0 := by
    rcases written_cases he hsign with ⟨hs, hvalue⟩ | ⟨hs, hvalue⟩
    · rcases written_cases hf hsign' with ⟨hs', hvalue'⟩ | ⟨_, hvalue'⟩
      · exact ⟨hs.trans hs'.symm, by omega⟩
      · omega
    · rcases written_cases hf hsign' with ⟨_, hvalue'⟩ | ⟨hs', hvalue'⟩
      · omega
      · exact ⟨hs.trans hs'.symm, by omega⟩
  have hdigits : e.digits = f.digits :=
    Text.eq_of_ofDigitChars_eq he.digits hf.digits he.nonempty hf.nonempty hzero hzero' hparts.2
  cases e
  cases f
  cases hmarker
  cases hparts.1
  cases hdigits
  rfl

end Exponent

namespace Literal

namespace IsStandard

variable {q : ℚ} {l k : Literal} (hl : l.IsStandard q) (hk : k.IsStandard q)

include hl

/-- The decimal number of a literal with an exponent has the point behind its first digit. -/
theorem exists_decimal (h : l.exponent ≠ none) :
    exists d : Decimal, d.coefficient ≠ 0 ∧ d.rational = q ∧ d.point = l.scale + 1 := by
  have hdigits := hl.isWellFormed.isDigit_of_mem
  rcases hl.mantissaDigits_cases with ⟨hnone, _, _⟩ | ⟨_, hne, hhead⟩
  · exact absurd hnone h
  · have hwritten : Nat.toDigits 10 l.mantissa = l.mantissaDigits :=
      Text.toDigits_ofDigitChars hdigits (List.append_ne_nil_of_left_ne_nil hne _) hhead
    refine ⟨⟨l.mantissa, l.scale - l.fractionLength⟩, ?_, hl.rational, ?_⟩
    · intro hzero
      change l.mantissa = 0 at hzero
      rw [hzero] at hwritten
      rw [← hwritten] at hhead
      exact hhead rfl
    · rcases hl.first h with ⟨c, hwhole, _⟩
      have hlength : l.mantissaDigits.length = l.fractionLength + 1 := by
        rw [mantissaDigits, hwhole, List.singleton_append, List.length_cons]
        rfl
      rw [Decimal.point, Decimal.digits, Text.ofNat, hwritten, hlength]
      push_cast
      ring

theorem scale_ne_zero (h : l.exponent ≠ none) : l.scale ≠ 0 := by
  intro hzero
  rcases hl.exists_decimal h with ⟨d, hd, hrational, hpoint⟩
  have hrange := (Decimal.point_range_iff hd).mp (by omega)
  rw [hrational] at hrange
  exact h (hl.positional.mpr hrange)

include hk

theorem exponent_eq_none_iff : l.exponent = none <-> k.exponent = none :=
  hl.positional.trans hk.positional.symm

theorem scale_eq : l.scale = k.scale := by
  by_cases hnone : l.exponent = none
  · rw [scale_of_positional hnone, scale_of_positional ((hl.exponent_eq_none_iff hk).mp hnone)]
  · have hnone' : k.exponent ≠ none := fun h => hnone ((hl.exponent_eq_none_iff hk).mpr h)
    rcases hl.exists_decimal hnone with ⟨d, hd, hrational, hpoint⟩
    rcases hk.exists_decimal hnone' with ⟨c, hc, hrational', hpoint'⟩
    have hsame := Decimal.point_eq_of_rational_eq hd hc (hrational'.trans hrational.symm)
    omega

theorem exponent_eq : l.exponent = k.exponent := by
  cases hexponent : l.exponent with
  | none => exact ((hl.exponent_eq_none_iff hk).mp hexponent).symm
  | some e =>
      have hsome : l.exponent ≠ none := by
        simp [hexponent]
      have hsome' : k.exponent ≠ none := fun h => hsome ((hl.exponent_eq_none_iff hk).mpr h)
      rcases Option.ne_none_iff_exists'.mp hsome' with ⟨f, hexponent'⟩
      rcases hl.exponent e hexponent with ⟨hmarker, hsign, hzero⟩
      rcases hk.exponent f hexponent' with ⟨hmarker', hsign', hzero'⟩
      have hscale : l.scale = e.written := by
        rw [scale, hexponent]
        rfl
      have hscale' : k.scale = f.written := by
        rw [scale, hexponent']
        rfl
      have hnonzero := hl.scale_ne_zero hsome
      have hsame := hl.scale_eq hk
      rw [hscale] at hnonzero hsame
      rw [hscale'] at hsame
      rw [hexponent']
      exact congrArg some (Exponent.eq_of_written_eq
        (hl.isWellFormed.exponent e hexponent) (hk.isWellFormed.exponent f hexponent')
        (hmarker.trans hmarker'.symm) hsign hsign' hzero hzero' hnonzero hsame)

theorem unique : l = k := by
  rcases hl.parts_eq hk (hl.scale_eq hk) (hl.exponent_eq_none_iff hk) with
    ⟨hwhole, hfraction⟩
  have hexponent := hl.exponent_eq hk
  cases l
  cases k
  cases hwhole
  cases hfraction
  cases hexponent
  rfl

end IsStandard

end Literal

namespace Text

theorem head?_text_ne_minus {l : Literal} (h : l.IsWellFormed) : l.text.head? ≠ some '-' := by
  rcases Literal.exists_cons_text h with ⟨c, rest, htext, hopens⟩
  rw [htext]
  intro hminus
  cases hminus
  exact absurd hopens (by decide)

theorem IsStandardForm.unique {negative : Bool} {q : ℚ} {s t : Text}
    (hs : IsStandardForm negative q s) (ht : IsStandardForm negative q t) : s = t := by
  rcases hs.literal with ⟨l, hl, hsign⟩
  rcases ht.literal with ⟨k, hk, hsign'⟩
  have hsame : l = k := hl.unique hk
  subst hsame
  have hhead := head?_text_ne_minus hl.isWellFormed
  have hboth : s.head? = some '-' <-> t.head? = some '-' := hs.sign.trans ht.sign.symm
  rcases hsign with rfl | rfl
  · rcases hsign' with rfl | rfl
    · rfl
    · exact absurd (hboth.mpr rfl) hhead
  · rcases hsign' with rfl | rfl
    · exact absurd (hboth.mp rfl) hhead
    · rfl

end Text

end PocketCalculator
