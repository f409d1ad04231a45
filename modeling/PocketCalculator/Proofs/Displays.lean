import PocketCalculator.Proofs.StandardForms

/-!
# Displays

## Layouts in standard form

The digits of a decimal number without a trailing zero begin and end with another
digit than zero, so a layout writes no zero that could be left out.
-/

namespace PocketCalculator

namespace Decimal

open Literal

variable {d : Decimal} (hd : d.coefficient % 10 ≠ 0)

include hd

theorem coefficient_ne_zero : d.coefficient ≠ 0 := by
  intro hzero
  rw [hzero] at hd
  exact hd rfl

theorem head?_digits : d.digits.head? ≠ some '0' :=
  Text.head?_toDigits (coefficient_ne_zero hd)

theorem getLast?_append_digits (front : Text) :
    (front ++ d.digits).getLast? ≠ some '0' := by
  rw [List.getLast?_append_of_ne_nil _ d.digits_ne_nil]
  exact Text.getLast?_toDigits hd

theorem getLast?_drop_digits {n : Nat} (hn : n < d.digits.length) :
    (d.digits.drop n).getLast? ≠ some '0' := by
  have hlast := getLast?_append_digits hd []
  have hne : d.digits.drop n ≠ [] := by
    intro hnil
    have hlength := List.drop_eq_nil_iff.mp hnil
    omega
  rw [List.nil_append, ← List.take_append_drop n d.digits,
    List.getLast?_append_of_ne_nil _ hne] at hlast
  exact hlast

theorem isStandard_of_positional {whole : Text} {fraction : Option Text}
    (hwritten : d.IsWrittenAs ⟨whole, fraction, none⟩) (hpoint : -6 < d.point ∧ d.point ≤ 21)
    (hwhole : if d.point ≤ 0 then whole = ['0'] else whole.head? ≠ some '0')
    (hfraction : forall f, f ∈ fraction -> f ≠ [] ∧ f.getLast? ≠ some '0') :
    IsStandard d.rational ⟨whole, fraction, none⟩ := by
  have hnonzero := coefficient_ne_zero hd
  refine ⟨hwritten.isWellFormed, hwritten.rational, ?_, ?_, ?_, ?_, hfraction⟩
  · exact iff_of_true rfl ((point_range_iff hnonzero).mp hpoint)
  · intro _
    simp only [rational_lt_one_iff hnonzero]
    exact hwhole
  · intro hsome
    exact absurd rfl hsome
  · intro e he
    cases he

theorem exists_standard_positional (hpoint : -6 < d.point ∧ d.point ≤ 21) :
    exists l, IsStandard d.rational l ∧ l.text = Text.positional d.digits d.point := by
  unfold Text.positional
  split
  · rename_i hsmall
    refine ⟨_, isStandard_of_positional hd (d.isWrittenAs_leadingZeros hsmall) hpoint ?_ ?_, ?_⟩
    · rw [if_pos hsmall]
    · intro f hf
      cases hf
      exact ⟨List.append_ne_nil_of_right_ne_nil _ d.digits_ne_nil,
        getLast?_append_digits hd _⟩
    · simp [text, mantissaText, exponentText]
  · rename_i hlarge
    split
    · rename_i hlength
      refine ⟨_, isStandard_of_positional hd (d.isWrittenAs_trailingZeros hlength) hpoint
        ?_ ?_, ?_⟩
      · rw [if_neg hlarge, List.head?_append_of_ne_nil _ d.digits_ne_nil]
        exact head?_digits hd
      · intro f hf
        cases hf
      · simp [text, mantissaText, exponentText]
    · rename_i hlength
      refine ⟨_, isStandard_of_positional hd
        (d.isWrittenAs_innerPoint (by omega) (by omega)) hpoint ?_ ?_, ?_⟩
      · rw [if_neg hlarge, List.head?_take, if_neg (by omega)]
        exact head?_digits hd
      · intro f hf
        cases hf
        have hinside : d.point.toNat < d.digits.length := by
          omega
        refine ⟨?_, getLast?_drop_digits hd hinside⟩
        intro hnil
        have houtside := List.drop_eq_nil_iff.mp hnil
        omega
      · simp [text, mantissaText, exponentText]

theorem isStandard_scientificLiteral (hrange : -400 ≤ d.point ∧ d.point ≤ 400)
    (hpoint : ¬ (-6 < d.point ∧ d.point ≤ 21)) :
    IsStandard d.rational (scientificLiteral d) := by
  have hwritten := isWrittenAs_scientificLiteral hrange
  have hnonzero := coefficient_ne_zero hd
  refine ⟨hwritten.isWellFormed, hwritten.rational, ?_, ?_, ?_, ?_, ?_⟩
  · exact iff_of_false (Option.some_ne_none _)
      (fun hq => hpoint ((point_range_iff hnonzero).mpr hq))
  · intro hnone
    cases hnone
  · intro _
    have hhead := head?_digits hd
    cases hdigits : d.digits with
    | nil => exact absurd hdigits d.digits_ne_nil
    | cons c rest =>
        rw [hdigits] at hhead
        refine ⟨c, ?_, fun hc => hhead (congrArg some hc)⟩
        rw [scientificLiteral, hdigits]
        rfl
  · intro e he
    cases he
    refine ⟨rfl, Option.some_ne_none _, Text.head?_toDigits ?_⟩
    omega
  · intro f hf
    have hparts : f = d.digits.drop 1 ∧ d.digits.drop 1 ≠ [] := by
      unfold scientificLiteral at hf
      split at hf
      · cases hf
      · rename_i hne
        cases hf
        exact ⟨rfl, hne⟩
    rcases hparts with ⟨rfl, hne⟩
    have hlong : 1 < d.digits.length := by
      by_contra hshort
      exact hne (List.drop_eq_nil_of_le (by omega))
    exact ⟨hne, getLast?_drop_digits hd hlong⟩

theorem exists_standard_layout (hrange : -400 ≤ d.point ∧ d.point ≤ 400) :
    exists l, IsStandard d.rational l ∧ l.text = d.layout := by
  unfold layout
  split
  · rename_i hpoint
    exact exists_standard_positional hd hpoint
  · rename_i hpoint
    exact ⟨_, isStandard_scientificLiteral hd hrange hpoint, scientificLiteral_text d⟩

theorem isStandardForm_layout (hrange : -400 ≤ d.point ∧ d.point ≤ 400) (negative : Bool) :
    Text.IsStandardForm negative d.rational (Text.signed negative d.layout) := by
  rcases exists_standard_layout hd hrange with ⟨l, hl, htext⟩
  rw [← htext]
  cases negative with
  | false =>
      refine ⟨iff_of_false (Text.head?_text_ne_minus hl.isWellFormed) Bool.false_ne_true, ?_⟩
      exact ⟨l, hl, .inl rfl⟩
  | true => exact ⟨iff_of_true rfl rfl, l, hl, .inr rfl⟩

end Decimal

/-!
## The display of a number

The shortest form of a number that is not zero has no trailing zero, and what is
displayed is its standard form with the sign of the number.
-/

namespace Binary64

open Decimal

theorem shortest_coefficient_mod {m e : Nat} (h : Canonical m e) (hm : m ≠ 0) :
    (shortest m e h).coefficient % 10 ≠ 0 := by
  rcases exists_shortest h hm with ⟨k, c, _, _, hreads, hshortest⟩
  rw [hshortest]
  exact stripZeros_mod c.exponent (coefficient_ne_zero_of_reads hm hreads)

theorem shortest_rational_pos {m e : Nat} (h : Canonical m e) (hm : m ≠ 0) :
    0 < (shortest m e h).rational :=
  lt_of_lt_of_le (zpow_pos (by norm_num) _)
    (rational_bounds (coefficient_ne_zero (shortest_coefficient_mod h hm))).1

theorem isNearest_of_toBinary64 {d : Decimal} {x : Binary64} (hd : d.toBinary64 false = x) :
    IsNearest d.rational x := by
  rw [← hd]
  exact d.toBinary64_isNearest

/--
The display of a finite number that is not zero is the standard form, and the only
one, of its shortest decimal form: a positive decimal number without trailing
zeros to which the number is nearest, up to its sign.
-/
theorem display_is_the_standard_form (negative : Bool) {m e : Nat} (h : Canonical m e)
    (hm : m ≠ 0) :
    0 < (shortest m e h).rational ∧
    (shortest m e h).coefficient % 10 ≠ 0 ∧
    IsNearest (shortest m e h).rational (finite false m e h) ∧
    forall t, Text.IsStandardForm negative (shortest m e h).rational t <->
      t = (finite negative m e h).display := by
  have hmod := shortest_coefficient_mod h hm
  have hform := isStandardForm_layout hmod (shortest_point h hm) negative
  rw [← display_of_ne_zero negative h hm] at hform
  refine ⟨shortest_rational_pos h hm, hmod,
    isNearest_of_toBinary64 (shortest_toBinary64 h hm), ?_⟩
  intro t
  constructor
  · intro ht
    exact ht.unique hform
  · intro ht
    rw [ht]
    exact hform

/-- The largest number below zero is shown with an exponent. -/
theorem display_is_the_standard_form_smallest :
    1 ≠ 0 ∧
    (finite true 1 0 (by decide)).display = "-5e-324".toList ∧
    forall t, Text.IsStandardForm true (shortest 1 0 (by decide)).rational t <->
      t = "-5e-324".toList := by
  have hdisplay : (finite true 1 0 (by decide)).display = "-5e-324".toList := by
    decide +kernel
  refine ⟨Nat.one_ne_zero, hdisplay, ?_⟩
  rw [← hdisplay]
  exact (display_is_the_standard_form true (by decide) Nat.one_ne_zero).2.2.2

end Binary64

end PocketCalculator
