import PocketCalculator.Proofs.LiteralValues
import PocketCalculator.Proofs.ShortestForm

/-!
# Lists of digits

## Digits and their number

A list of digits without leading zeros is what its number is written with, and so
two such lists with the same number are equal.  Lists of the same length are equal
if their numbers are, leading zeros or not.
-/

namespace PocketCalculator

namespace Text

theorem digitChar_of_isDigit {c : Char} (h : c.isDigit = true) :
    Nat.digitChar (c.toNat - '0'.toNat) = c := by
  rcases toNat_bounds_of_isDigit h with ⟨hlow, hsmall⟩
  have hzero : '0'.toNat = 48 := rfl
  apply Char.toNat_inj.mp
  rw [Nat.toNat_digitChar_of_lt_ten hsmall]
  omega

section

variable {digits other : Text} (h : forall c, c ∈ digits -> c.isDigit = true)
  (hother : forall c, c ∈ other -> c.isDigit = true)

include h

theorem toDigits_ofDigitChars_append {start : Nat} (hstart : 0 < start) :
    Nat.toDigits 10 (Nat.ofDigitChars 10 digits start) =
      Nat.toDigits 10 start ++ digits := by
  induction digits generalizing start with
  | nil => simp
  | cons c rest ih =>
      have hdigit := h c (List.mem_cons_self ..)
      have hsmall := (toNat_bounds_of_isDigit hdigit).2
      have hnext : 0 < 10 * start + (c.toNat - '0'.toNat) := by
        omega
      have hrest := ih (fun d hd => h d (List.mem_cons_of_mem c hd)) hnext
      have hfirst := Nat.toDigits_append_toDigits (b := 10) (by decide) hstart hsmall
      rw [Nat.toDigits_of_lt_base hsmall, digitChar_of_isDigit hdigit] at hfirst
      rw [Nat.ofDigitChars_cons, hrest, ← hfirst, List.append_assoc, List.singleton_append]

theorem toDigits_ofDigitChars (hne : digits ≠ []) (hzero : digits.head? ≠ some '0') :
    Nat.toDigits 10 (Nat.ofDigitChars 10 digits 0) = digits := by
  cases digits with
  | nil => exact absurd rfl hne
  | cons c rest =>
      have hdigit := h c (List.mem_cons_self ..)
      have hfirst := digitChar_of_isDigit hdigit
      have hpositive : 0 < c.toNat - '0'.toNat := by
        apply Nat.pos_of_ne_zero
        intro hvalue
        rw [hvalue] at hfirst
        exact hzero (congrArg some hfirst.symm)
      have hsmall := (toNat_bounds_of_isDigit hdigit).2
      rw [Nat.ofDigitChars_cons, Nat.mul_zero, Nat.zero_add,
        toDigits_ofDigitChars_append (fun d hd => h d (List.mem_cons_of_mem c hd)) hpositive,
        Nat.toDigits_of_lt_base hsmall, hfirst, List.singleton_append]

include hother

theorem eq_of_ofDigitChars_eq (hne : digits ≠ []) (hne' : other ≠ [])
    (hzero : digits.head? ≠ some '0') (hzero' : other.head? ≠ some '0')
    (hvalue : Nat.ofDigitChars 10 digits 0 = Nat.ofDigitChars 10 other 0) :
    digits = other := by
  rw [← toDigits_ofDigitChars h hne hzero, ← toDigits_ofDigitChars hother hne' hzero', hvalue]

theorem eq_of_ofDigitChars_eq_of_length_eq (hlength : digits.length = other.length)
    (hvalue : Nat.ofDigitChars 10 digits 0 = Nat.ofDigitChars 10 other 0) :
    digits = other := by
  -- With a one in front, neither list has leading zeros.
  have hone : Nat.ofDigitChars 10 digits 1 = Nat.ofDigitChars 10 other 1 := by
    rw [Nat.ofDigitChars_eq_ofDigitChars_zero, hlength, hvalue,
      ← Nat.ofDigitChars_eq_ofDigitChars_zero]
  have hdigits := toDigits_ofDigitChars_append h Nat.one_pos
  rw [hone, toDigits_ofDigitChars_append hother Nat.one_pos] at hdigits
  exact (List.append_cancel_left hdigits).symm

end

/-!
## First and last digits
-/

theorem ofDigitChars_mod {digits : Text} (h : forall c, c ∈ digits -> c.isDigit = true)
    (hne : digits ≠ []) (hlast : digits.getLast? ≠ some '0') :
    Nat.ofDigitChars 10 digits 0 % 10 ≠ 0 := by
  rcases List.eq_nil_or_concat digits with hnil | ⟨front, c, hconcat⟩
  · exact absurd hnil hne
  · rw [List.concat_eq_append] at hconcat
    subst hconcat
    have hdigit := h c (List.mem_append_right front (List.mem_singleton_self c))
    have hnonzero : c.toNat ≠ '0'.toNat := by
      intro hsame
      apply hlast
      rw [List.getLast?_concat, Char.toNat_inj.mp hsame]
    have hbounds := toNat_bounds_of_isDigit hdigit
    rw [Nat.ofDigitChars_append, Nat.ofDigitChars_cons, Nat.ofDigitChars_nil]
    omega

theorem head?_toDigits {n : Nat} (hn : n ≠ 0) : (Nat.toDigits 10 n).head? ≠ some '0' := by
  intro hhead
  have hbounds := (Decimal.length_toDigits_bounds hn).1
  have hvalue := Nat.ofDigitChars_ten_toDigits (n := n)
  have hdigits : forall c, c ∈ Nat.toDigits 10 n -> c.isDigit = true :=
    fun c hc => Nat.isDigit_of_mem_toDigits (by decide) (by decide) hc
  cases hlist : Nat.toDigits 10 n with
  | nil => exact Nat.toDigits_ne_nil hlist
  | cons c rest =>
      rw [hlist] at hhead hbounds hvalue hdigits
      cases hhead
      have hrest := Literal.ofDigitChars_lt
        (fun d hd => hdigits d (List.mem_cons_of_mem '0' hd)) 0
      rw [Nat.ofDigitChars_cons] at hvalue
      simp only [List.length_cons, Nat.add_sub_cancel] at hbounds
      simp only [Nat.mul_zero, Nat.sub_self, Nat.add_zero, Nat.zero_add, Nat.mul_one]
        at hrest hvalue
      omega

theorem getLast?_toDigits {n : Nat} (hn : n % 10 ≠ 0) :
    (Nat.toDigits 10 n).getLast? ≠ some '0' := by
  have hdigit : some (n % 10).digitChar ≠ some '0' := by
    intro hsame
    exact hn (Nat.digitChar_eq_zero.mp (Option.some.inj hsame))
  rcases Nat.lt_or_ge n 10 with hsmall | hlarge
  · rw [Nat.mod_eq_of_lt hsmall] at hdigit
    rwa [Nat.toDigits_of_lt_base hsmall, List.getLast?_singleton]
  · rwa [Nat.toDigits_of_base_le (by decide) hlarge, List.getLast?_concat]

end Text

end PocketCalculator
