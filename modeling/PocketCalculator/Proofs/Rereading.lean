import PocketCalculator.Proofs.Layouts
import PocketCalculator.Proofs.Meaning

/-!
# Reading an answer back

## Literals have no blanks
-/

namespace PocketCalculator

namespace Text

theorem isBlank_of_isDigit {c : Char} (h : c.isDigit = true) : isBlank c = false := by
  rw [Char.isDigit_iff_toNat] at h
  have hzero : '0'.toNat = 48 := rfl
  have hnine : '9'.toNat = 57 := rfl
  simp [isBlank, blankRanges, CharRanges.contains]
  omega

theorem isBlank_of_isMarker {c : Char} (h : Exponent.isMarker c = true) :
    isBlank c = false := by
  rcases Exponent.eq_of_isMarker h with rfl | rfl
  · decide
  · decide

theorem isBlank_of_isSign {c : Char} (h : Exponent.isSign c = true) : isBlank c = false := by
  rcases Exponent.eq_of_isSign h with rfl | rfl
  · decide
  · decide

theorem strip_eq_self {t : Text} (h : forall c, c ∈ t -> isBlank c = false) :
    strip t = t := by
  apply List.filter_eq_self.mpr
  intro c hc
  rw [h c hc]
  rfl

end Text

namespace Literal

theorem isBlank_of_opens {c : Char} (h : opens c = true) : Text.isBlank c = false := by
  by_cases hdigit : c.isDigit = true
  · exact Text.isBlank_of_isDigit hdigit
  · have hpoint : c = '.' := by
      simpa [opens, hdigit] using h
    rw [hpoint]
    decide

theorem isBlank_of_mem_exponentText {l : Literal} (h : l.IsWellFormed) {c : Char}
    (hc : c ∈ l.exponentText) : Text.isBlank c = false := by
  unfold exponentText at hc
  cases hkind : l.exponent with
  | none =>
      rw [hkind] at hc
      cases hc
  | some e =>
      rw [hkind] at hc
      have he := h.exponent e hkind
      rcases List.mem_append.mp hc with hc | hc
      · cases hc with
        | head => exact Text.isBlank_of_isMarker he.marker
        | tail _ hc => exact Text.isBlank_of_isSign (he.sign c (Option.mem_toList.mp hc))
      · exact Text.isBlank_of_isDigit (he.digits c hc)

theorem isBlank_of_mem_text {l : Literal} (h : l.IsWellFormed) {c : Char}
    (hc : c ∈ l.text) : Text.isBlank c = false := by
  rcases List.mem_append.mp hc with hc | hc
  · exact isBlank_of_opens (opens_of_mem_mantissaText h hc)
  · exact isBlank_of_mem_exponentText h hc

theorem isBlank_of_mem_readAs {t : Text} {x : Binary64} (h : ReadAs t x) {c : Char}
    (hc : c ∈ t) : Text.isBlank c = false := by
  rcases h with ⟨l, hl, rfl, _⟩
  exact isBlank_of_mem_text hl hc

end Literal

/-!
## Expressions have no blanks

An expression without blanks is evaluated as it stands.
-/

namespace Text

theorem isBlank_symbol (o : Operator) : isBlank o.symbol = false := by
  cases o <;> decide

variable {w : Text} {t : Tree} {c : Char}

theorem isBlank_of_mem_factor (h : Factor w t) (hc : c ∈ w) : isBlank c = false := by
  cases h with
  | number hleaf => exact Literal.isBlank_of_mem_readAs hleaf hc
  | negation hleaf =>
      cases hc with
      | head => exact isBlank_symbol .minus
      | tail _ hc => exact Literal.isBlank_of_mem_readAs hleaf hc

theorem isBlank_of_mem_term (h : Term w t) (hc : c ∈ w) : isBlank c = false := by
  induction h with
  | factor hfactor => exact isBlank_of_mem_factor hfactor hc
  | @scale u w a b o hterm hscale hfactor ih =>
      rcases List.mem_append.mp hc with hc | hc
      · exact ih hc
      · cases hc with
        | head => exact isBlank_symbol o
        | tail _ hc => exact isBlank_of_mem_factor hfactor hc

theorem isBlank_of_mem_sum (h : Sum w t) (hc : c ∈ w) : isBlank c = false := by
  induction h with
  | term hterm => exact isBlank_of_mem_term hterm hc
  | @add u w a b o hsum hadd hterm hsafe ih =>
      rcases List.mem_append.mp hc with hc | hc
      · exact ih hc
      · cases hc with
        | head => exact isBlank_symbol o
        | tail _ hc => exact isBlank_of_mem_term hterm hc

theorem exists_factor_signed {x : Binary64} (h : Literal.ReadAs w x) (negative : Bool) :
    exists a, Factor (signed negative w) a ∧ a.value = if negative then x.neg else x := by
  cases negative with
  | false => exact ⟨_, Grammar.Factor.number h, rfl⟩
  | true => exact ⟨_, Grammar.Factor.negation h, rfl⟩

end Text

theorem Evaluation.evaluate_of_expression {s : Text} {t : Tree} (h : Text.Sum s t) :
    evaluate s = Outcome.ofValue t.value := by
  have hstrip : Text.strip s = s :=
    Text.strip_eq_self fun c hc => Text.isBlank_of_mem_sum h hc
  apply evaluate_of_sum
  rw [hstrip]
  exact h

/-!
## Displays

The digits of a display are those of the shortest form, in a layout that the
place of the point decides.
-/

namespace Binary64

open Decimal

theorem exists_zero_or_nonzero {v : Binary64} (h : v.isFinite = true) :
    (exists negative, v = zero negative) ∨
      exists negative m e hcanonical, m ≠ 0 ∧ v = finite negative m e hcanonical := by
  rcases exists_finite h with ⟨negative, m, e, hcanonical, rfl⟩
  by_cases hm : m = 0
  · subst hm
    have hexponent : e = 0 := by
      have hnormal := hcanonical.2.2
      omega
    subst hexponent
    exact .inl ⟨negative, rfl⟩
  · exact .inr ⟨negative, m, e, hcanonical, hm, rfl⟩

theorem display_zero (negative : Bool) : (zero negative).display = ['0'] := rfl

theorem readAs_zero : Literal.ReadAs ['0'] (zero false) :=
  readAs_positional ⟨0, 0⟩

theorem exists_factor_display {v : Binary64} (h : v.isFinite = true) :
    exists a, Text.Factor v.display a ∧
      a.value = if v = zero true then zero false else v := by
  rcases exists_zero_or_nonzero h with ⟨negative, rfl⟩ | ⟨negative, m, e, hcanonical, hm, rfl⟩
  · rw [display_zero]
    refine ⟨_, Grammar.Factor.number readAs_zero, ?_⟩
    cases negative with
    | false => rfl
    | true => rfl
  · have hnonzero : finite negative m e hcanonical ≠ zero true := by
      intro heq
      cases heq
      exact hm rfl
    have hread := readAs_layout_shortest hcanonical hm
    rcases Text.exists_factor_signed hread negative with ⟨a, hfactor, hvalue⟩
    rw [display_of_ne_zero negative hcanonical hm, if_neg hnonzero]
    refine ⟨a, hfactor, hvalue.trans ?_⟩
    cases negative with
    | false => rfl
    | true => rfl

theorem isFinite_rereading {v : Binary64} (h : v.isFinite = true) :
    (if v = zero true then zero false else v).isFinite = true := by
  split
  · rfl
  · exact h

/-- A finite number is read back from its display, zero without its sign. -/
theorem evaluate_display {v : Binary64} (h : v.isFinite = true) :
    evaluate v.display = .number (if v = zero true then zero false else v) := by
  rcases exists_factor_display h with ⟨a, hfactor, hvalue⟩
  rw [Evaluation.evaluate_of_expression (Grammar.Sum.term (Grammar.Term.factor hfactor)),
    hvalue]
  exact if_pos (isFinite_rereading h)

theorem display_rereading (v : Binary64) :
    (if v = zero true then zero false else v).display = v.display := by
  by_cases hzero : v = zero true
  · rw [if_pos hzero, hzero, display_zero, display_zero]
  · rw [if_neg hzero]

theorem display_injective {v w : Binary64} (hv : v.isFinite = true) (hw : w.isFinite = true)
    (h : v.display = w.display) :
    v = w ∨ ((exists s, v = zero s) ∧ exists s, w = zero s) := by
  have hread := evaluate_display hv
  rw [h, evaluate_display hw] at hread
  have hsame := Outcome.number.inj hread
  by_cases hnegative : w = zero true
  · rw [if_pos hnegative] at hsame
    by_cases hother : v = zero true
    · exact .inr ⟨⟨true, hother⟩, ⟨true, hnegative⟩⟩
    · rw [if_neg hother] at hsame
      exact .inr ⟨⟨false, hsame.symm⟩, ⟨true, hnegative⟩⟩
  · rw [if_neg hnegative] at hsame
    by_cases hother : v = zero true
    · rw [if_pos hother] at hsame
      exact .inr ⟨⟨true, hother⟩, ⟨false, hsame⟩⟩
    · rw [if_neg hother] at hsame
      exact .inl hsame.symm

end Binary64

/-!
## Answers

An answer is empty, a display or the text of an error.  A display is its own
answer; the text of an error is no expression.
-/

namespace Evaluation

theorem strip_of_blank {s : Text} (h : evaluate s = .blank) : Text.strip s = [] := by
  rcases evaluate_cases s with ⟨hs, _⟩ | ⟨t, _, hvalue⟩ | ⟨cause, _, hrefused⟩
  · exact hs
  · exact absurd (hvalue.symm.trans h) (Outcome.ofValue_ne_blank t.value)
  · cases hrefused.symm.trans h

theorem isFinite_of_evaluate {s : Text} {x : Binary64} (h : evaluate s = .number x) :
    x.isFinite = true := by
  rcases evaluate_cases s with ⟨_, hblank⟩ | ⟨t, _, hvalue⟩ | ⟨cause, _, hrefused⟩
  · cases hblank.symm.trans h
  · have houtcome := hvalue.symm.trans h
    unfold Outcome.ofValue at houtcome
    split at houtcome
    · rename_i hfinite
      cases houtcome
      exact hfinite
    · cases houtcome
  · cases hrefused.symm.trans h

theorem read_of_unexpected {c : Char} (rest : Text) (hblank : Text.isBlank c = false)
    (hsign : Operator.ofChar? c = none) (hopens : Literal.opens c = false) :
    Token.read (c :: rest) = .error (.unexpectedCharacter c) := by
  have hstrip : Text.strip (c :: rest) = c :: Text.strip rest := by
    simp [Text.strip, hblank]
  rw [Token.read, hstrip, Token.readOnto, hsign]
  simp [hopens]

theorem evaluate_of_unexpected {c : Char} (rest : Text) (hblank : Text.isBlank c = false)
    (hsign : Operator.ofChar? c = none) (hopens : Literal.opens c = false) :
    evaluate (c :: rest) = .refused (.malformed (.unexpectedCharacter c)) := by
  apply evaluate_of_read_error _ (read_of_unexpected rest hblank hsign hopens)
  simp [Text.strip, hblank]

end Evaluation

namespace EvaluationError

theorem exists_display (cause : EvaluationError) : exists rest, cause.display = 'E' :: rest := by
  cases cause with
  | malformed cause => exact ⟨_, rfl⟩
  | divisionByZero => exact ⟨_, rfl⟩

theorem evaluate_display (cause : EvaluationError) :
    evaluate cause.display = .refused (.malformed (.unexpectedCharacter 'E')) := by
  rcases cause.exists_display with ⟨rest, hrest⟩
  rw [hrest]
  exact Evaluation.evaluate_of_unexpected rest (by decide) rfl (by decide)

end EvaluationError

theorem answer_answer (s : Text) :
    answer (answer s) =
      if answer s = EvaluationError.divisionByZero.display then "Error".toList
      else answer s := by
  cases houtcome : evaluate s with
  | blank =>
      have hanswer : answer s = [] := by
        rw [answer, houtcome]
        rfl
      rw [hanswer]
      rfl
  | number x =>
      have hfinite := Evaluation.isFinite_of_evaluate houtcome
      have hanswer : answer s = x.display := by
        rw [answer, houtcome]
        rfl
      have hread := Binary64.evaluate_display hfinite
      have hnumber : x.display ≠ EvaluationError.divisionByZero.display := by
        intro hsame
        rw [hsame, EvaluationError.evaluate_display] at hread
        cases hread
      rw [hanswer, if_neg hnumber, answer, hread]
      exact Binary64.display_rereading x
  | refused cause =>
      have hanswer : answer s = cause.display := by
        rw [answer, houtcome]
        rfl
      rw [hanswer, answer, cause.evaluate_display]
      cases cause with
      | divisionByZero => rfl
      | malformed cause => rfl

/-- From the second answer on nothing changes. -/
theorem answer_answer_answer (s : Text) : answer (answer (answer s)) = answer (answer s) := by
  have hstable : answer (answer s) ≠ EvaluationError.divisionByZero.display := by
    rw [answer_answer s]
    split
    · decide
    · assumption
  rw [answer_answer (answer s), if_neg hstable]

end PocketCalculator
