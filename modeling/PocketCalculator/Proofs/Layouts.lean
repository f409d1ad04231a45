import PocketCalculator.Proofs.Lexing
import PocketCalculator.Proofs.ShortestForm

/-!
# Layouts as literals

## What a layout denotes

Each layout of a decimal number is a complete literal for the same rational, and
so it is read as the decimal number is.
-/

namespace PocketCalculator

namespace Decimal

open Literal

theorem isDigit_of_mem_digits {d : Decimal} {c : Char} (h : c ∈ d.digits) :
    c.isDigit = true :=
  Nat.isDigit_of_mem_toDigits (by decide) (by decide) h

theorem digits_ne_nil (d : Decimal) : d.digits ≠ [] :=
  Nat.toDigits_ne_nil

theorem ofDigitChars_digits (d : Decimal) : Nat.ofDigitChars 10 d.digits 0 = d.coefficient :=
  Nat.ofDigitChars_ten_toDigits

theorem exponent_eq (d : Decimal) : d.exponent = d.point - d.digits.length := by
  unfold point
  omega

theorem isDigit_of_mem_zeros {k : Nat} {c : Char} (h : c ∈ List.replicate k '0') :
    c.isDigit = true := by
  rw [List.eq_of_mem_replicate h]
  decide

/-- Whether a text is a literal for what the decimal number stands for. -/
structure IsWrittenAs (d : Decimal) (l : Literal) : Prop where
  isWellFormed : l.IsWellFormed
  rational : l.rational = d.rational
  counted : forall e, e ∈ l.exponent ->
    Nat.ofDigitChars 10 e.digits 0 < 10 * Exponent.magnitudeLimit

theorem IsWrittenAs.readAs {d : Decimal} {l : Literal} (h : d.IsWrittenAs l) :
    ReadAs l.text (d.toBinary64 false) := by
  have hnearest := number_isNearest h.counted
  rw [h.rational] at hnearest
  exact ⟨l, h.isWellFormed, rfl, hnearest.unique d.toBinary64_isNearest⟩

theorem isWrittenAs_of_mantissa {d : Decimal} {whole : Text} {fraction : Option Text}
    (hwhole : forall c, c ∈ whole -> c.isDigit = true)
    (hfraction : forall c, c ∈ fraction.getD [] -> c.isDigit = true)
    (hne : whole ++ fraction.getD [] ≠ [])
    (hrational : (Nat.ofDigitChars 10 (whole ++ fraction.getD []) 0 : ℚ) *
      10 ^ (-((fraction.getD []).length : Int)) = d.rational) :
    d.IsWrittenAs ⟨whole, fraction, none⟩ := by
  constructor
  · refine ⟨hwhole, hfraction, hne, ?_⟩
    intro e he
    cases he
  · rw [← hrational, Literal.rational, lastPlace, mantissaDigits]
    simp
  · intro e he
    cases he

theorem isWrittenAs_leadingZeros (d : Decimal) (h : d.point ≤ 0) :
    d.IsWrittenAs
      ⟨['0'], some (List.replicate (-d.point).toNat '0' ++ d.digits), none⟩ := by
  apply isWrittenAs_of_mantissa
  · intro c hc
    rw [List.mem_singleton.mp hc]
    decide
  · intro c hc
    rcases List.mem_append.mp hc with hc | hc
    · exact isDigit_of_mem_zeros hc
    · exact isDigit_of_mem_digits hc
  · simp
  · have hplace : -((List.replicate (-d.point).toNat '0' ++ d.digits).length : Int) =
        d.exponent := by
      rw [d.exponent_eq, List.length_append, List.length_replicate]
      omega
    have hcoefficient : Nat.ofDigitChars 10
        (['0'] ++ (List.replicate (-d.point).toNat '0' ++ d.digits)) 0 = d.coefficient := by
      rw [← List.append_assoc, Nat.ofDigitChars_append]
      change Nat.ofDigitChars 10 d.digits
        (Nat.ofDigitChars 10 (List.replicate ((-d.point).toNat + 1) '0') 0) = _
      rw [Nat.ofDigitChars_replicate_zero, Nat.mul_zero, ofDigitChars_digits]
    simp only [Option.getD_some]
    rw [hplace, hcoefficient]
    rfl

theorem isWrittenAs_trailingZeros (d : Decimal) (h : d.digits.length ≤ d.point) :
    d.IsWrittenAs
      ⟨d.digits ++ List.replicate (d.point - d.digits.length).toNat '0', none, none⟩ := by
  apply isWrittenAs_of_mantissa
  · intro c hc
    rcases List.mem_append.mp hc with hc | hc
    · exact isDigit_of_mem_digits hc
    · exact isDigit_of_mem_zeros hc
  · intro c hc
    cases hc
  · simp [d.digits_ne_nil]
  · have hexponent : d.exponent = ((d.point - d.digits.length).toNat : Int) := by
      rw [d.exponent_eq]
      omega
    simp only [Option.getD_none, List.append_nil, List.length_nil, Nat.cast_zero, neg_zero,
      zpow_zero, mul_one]
    rw [Nat.ofDigitChars_append, ofDigitChars_digits, Nat.ofDigitChars_replicate_zero,
      Decimal.rational, hexponent, zpow_natCast]
    push_cast
    ring

theorem isWrittenAs_innerPoint (d : Decimal) (hpos : 0 < d.point)
    (h : d.point < d.digits.length) :
    d.IsWrittenAs
      ⟨d.digits.take d.point.toNat, some (d.digits.drop d.point.toNat), none⟩ := by
  apply isWrittenAs_of_mantissa
  · intro c hc
    exact isDigit_of_mem_digits (List.mem_of_mem_take hc)
  · intro c hc
    exact isDigit_of_mem_digits (List.mem_of_mem_drop hc)
  · simp [d.digits_ne_nil]
  · have hplace : -((d.digits.drop d.point.toNat).length : Int) = d.exponent := by
      rw [d.exponent_eq, List.length_drop]
      omega
    simp only [Option.getD_some]
    rw [hplace, List.take_append_drop, ofDigitChars_digits]
    rfl

theorem readAs_positional (d : Decimal) :
    ReadAs (Text.positional d.digits d.point) (d.toBinary64 false) := by
  unfold Text.positional
  split
  · rename_i h
    have hread := (d.isWrittenAs_leadingZeros h).readAs
    simpa [text, mantissaText, exponentText] using hread
  · split
    · rename_i h
      have hread := (d.isWrittenAs_trailingZeros h).readAs
      simpa [text, mantissaText, exponentText] using hread
    · rename_i hpos h
      have hread := (d.isWrittenAs_innerPoint (by omega) (by omega)).readAs
      simpa [text, mantissaText, exponentText] using hread

/-!
## The scientific layout

Its exponent is one less than the place of the point.
-/

def scientificExponent (point : Int) : Exponent :=
  ⟨'e', some (if point - 1 < 0 then '-' else '+'), Text.ofNat (point - 1).natAbs⟩

def scientificLiteral (d : Decimal) : Literal :=
  ⟨d.digits.take 1, if d.digits.drop 1 = [] then none else some (d.digits.drop 1),
    some (scientificExponent d.point)⟩

theorem scientificExponent_isWellFormed (point : Int) :
    (scientificExponent point).IsWellFormed := by
  constructor
  · rfl
  · intro c hc
    cases hc
    split
    · decide
    · decide
  · intro c hc
    exact Nat.isDigit_of_mem_toDigits (by decide) (by decide) hc
  · exact Nat.toDigits_ne_nil

theorem scientificExponent_written (point : Int) :
    (scientificExponent point).written = point - 1 := by
  unfold Exponent.written scientificExponent Text.ofNat
  simp only [Nat.ofDigitChars_ten_toDigits]
  by_cases hneg : point - 1 < 0
  · rw [if_pos hneg, if_pos rfl]
    omega
  · rw [if_neg hneg, if_neg (by decide)]
    omega

theorem scientificLiteral_fraction (d : Decimal) :
    (scientificLiteral d).fraction.getD [] = d.digits.drop 1 := by
  unfold scientificLiteral
  split
  · rename_i hnil
    exact hnil.symm
  · rfl

theorem scientificLiteral_mantissaDigits (d : Decimal) :
    (scientificLiteral d).mantissaDigits = d.digits := by
  rw [mantissaDigits, scientificLiteral_fraction]
  exact List.take_append_drop 1 d.digits

theorem isWrittenAs_scientificLiteral {d : Decimal} (h : -400 ≤ d.point ∧ d.point ≤ 400) :
    d.IsWrittenAs (scientificLiteral d) := by
  have hmantissa := scientificLiteral_mantissaDigits d
  have hfraction := scientificLiteral_fraction d
  constructor
  · constructor
    · intro c hc
      exact isDigit_of_mem_digits (List.mem_of_mem_take hc)
    · intro c hc
      rw [hfraction] at hc
      exact isDigit_of_mem_digits (List.mem_of_mem_drop hc)
    · intro hnil
      exact d.digits_ne_nil (hmantissa.symm.trans hnil)
    · intro e he
      cases he
      exact scientificExponent_isWellFormed d.point
  · have hlength : 0 < d.digits.length := List.length_pos_of_ne_nil d.digits_ne_nil
    have hplace : (scientificLiteral d).lastPlace = d.exponent := by
      have hwritten : ((scientificLiteral d).exponent.map Exponent.written).getD 0 =
          d.point - 1 := scientificExponent_written d.point
      rw [lastPlace, hwritten, hfraction, d.exponent_eq, List.length_drop]
      omega
    rw [Literal.rational, hmantissa, hplace, ofDigitChars_digits]
    rfl
  · intro e he
    cases he
    have hdigits : Nat.ofDigitChars 10 (scientificExponent d.point).digits 0 =
        (d.point - 1).natAbs := Nat.ofDigitChars_ten_toDigits
    rw [hdigits]
    unfold Exponent.magnitudeLimit
    omega

theorem scientificLiteral_text (d : Decimal) :
    (scientificLiteral d).text = Text.scientific d.digits d.point := by
  unfold scientificLiteral Text.scientific scientificExponent
  generalize d.digits.drop 1 = rest
  cases rest with
  | nil => simp [text, mantissaText, exponentText, Exponent.text]
  | cons c rest => simp [text, mantissaText, exponentText, Exponent.text]

theorem readAs_scientific {d : Decimal} (h : -400 ≤ d.point ∧ d.point ≤ 400) :
    ReadAs (Text.scientific d.digits d.point) (d.toBinary64 false) := by
  rw [← scientificLiteral_text]
  exact (isWrittenAs_scientificLiteral h).readAs

/-!
## The layout of a result
-/

def layout (d : Decimal) : Text :=
  if -6 < d.point ∧ d.point ≤ 21 then Text.positional d.digits d.point
  else Text.scientific d.digits d.point

theorem readAs_layout {d : Decimal} (h : -400 ≤ d.point ∧ d.point ≤ 400) :
    ReadAs d.layout (d.toBinary64 false) := by
  unfold layout
  split
  · exact d.readAs_positional
  · exact readAs_scientific h

end Decimal

namespace Binary64

open Decimal

theorem display_of_ne_zero (negative : Bool) {m e : Nat} (h : Canonical m e) (hm : m ≠ 0) :
    (finite negative m e h).display = Text.signed negative (shortest m e h).layout := by
  simp only [display, if_neg hm, layout]

theorem readAs_layout_shortest {m e : Nat} (h : Canonical m e) (hm : m ≠ 0) :
    Literal.ReadAs (shortest m e h).layout (finite false m e h) := by
  rw [← shortest_toBinary64 h hm]
  exact readAs_layout (shortest_point h hm)

end Binary64

end PocketCalculator
