import PocketCalculator.Proofs.Acceptance
import PocketCalculator.Proofs.Neighbours

/-!
# What the yard refuses

## The first token that does not fit

Whether a token fits depends only on the token before it.  The yard stops at the
first one that does not, and what it reports follows from these two tokens.
-/

namespace PocketCalculator

namespace Postfix

/-- What may come after some tokens, as the last of them decides it. -/
def expectedAfter (tokens : List Token) : Expectation :=
  match tokens.getLast? with
  | none => .operand
  | some (.number _) => .operator
  | some (.operator o) => Yard.expectationAfter o

@[simp] theorem expectedAfter_nil : expectedAfter [] = .operand := rfl

@[simp] theorem expectedAfter_concat_number (tokens : List Token) (x : Binary64) :
    expectedAfter (tokens ++ [.number x]) = .operator := by
  simp [expectedAfter]

@[simp] theorem expectedAfter_concat_operator (tokens : List Token) (o : Operator) :
    expectedAfter (tokens ++ [.operator o]) = Yard.expectationAfter o := by
  simp [expectedAfter]

theorem expectedAfter_eq_operandAfterMinus {tokens : List Token}
    (h : expectedAfter tokens = .operandAfterMinus) :
    tokens.getLast? = some (.operator .minus) := by
  unfold expectedAfter at h
  split at h
  · cases h
  · cases h
  · rename_i o hlast
    cases o with
    | minus => exact hlast
    | plus => cases h
    | times => cases h
    | divide => cases h

namespace Yard

theorem step_expected {y y' : Yard} {t : Token} (h : y.step t = .ok y')
    (before : List Token) : y'.expected = expectedAfter (before ++ [t]) := by
  cases t with
  | number x =>
      rw [(step_number_eq_ok h).2, expectedAfter_concat_number]
  | operator o =>
      rw [expectedAfter_concat_operator]
      rcases step_operator_eq_ok h with ⟨_, hafter⟩ | ⟨_, rfl, hafter⟩
      · exact hafter
      · exact hafter

theorem run_expected {tokens : List Token} {y : Yard} (h : start.run tokens = .ok y) :
    y.expected = expectedAfter tokens := by
  rcases List.eq_nil_or_concat tokens with rfl | ⟨before, t, rfl⟩
  · cases h
    rfl
  · rw [List.concat_eq_append] at h ⊢
    rcases run_append_eq_ok h with ⟨z, _, hlast⟩
    rcases run_cons_eq_ok hlast with ⟨z', hstep, hnil⟩
    cases hnil
    exact step_expected hstep before

theorem takeOperator_of_ne_minus {y : Yard} {o : Operator} (h : y.expected ≠ .operator)
    (ho : o ≠ .minus) : y.takeOperator o = .error .missingOperand := by
  unfold takeOperator
  split
  · exact absurd rfl ho
  · exact absurd rfl ho
  · rename_i hexpected
    exact absurd hexpected h
  · rfl

theorem step_eq_error {y : Yard} {t : Token} {cause : SyntaxError}
    (h : y.step t = .error cause) :
    (y.expected = .operator ∧ (exists x, t = .number x) ∧ cause = .missingOperator) ∨
      (y.expected = .operandAfterMinus ∧ t = .operator .minus ∧ cause = .doubleMinus) ∨
        (y.expected ≠ .operator ∧ (exists o, t = .operator o ∧ o ≠ .minus) ∧
          cause = .missingOperand) := by
  cases t with
  | number x =>
      unfold step takeNumber at h
      cases hexpected : y.expected with
      | operator =>
          simp only [hexpected] at h
          cases h
          exact .inl ⟨rfl, ⟨x, rfl⟩, rfl⟩
      | operand => simp [hexpected] at h
      | operandAfterMinus => simp [hexpected] at h
  | operator o =>
      by_cases hminus : o = .minus
      · subst hminus
        unfold step takeOperator at h
        cases hexpected : y.expected with
        | operator => simp [hexpected] at h
        | operand => simp [hexpected] at h
        | operandAfterMinus =>
            simp only [hexpected] at h
            cases h
            exact .inr (.inl ⟨rfl, rfl, rfl⟩)
      · have hexpected : y.expected ≠ .operator := by
          intro hoperator
          simp [step, takeOperator, hoperator] at h
        rw [step, takeOperator_of_ne_minus hexpected hminus] at h
        cases h
        exact .inr (.inr ⟨hexpected, ⟨o, rfl, hminus⟩, rfl⟩)

theorem run_eq_error {y : Yard} {tokens : List Token} {cause : SyntaxError}
    (h : y.run tokens = .error cause) :
    exists before t after z, tokens = before ++ t :: after ∧ y.run before = .ok z ∧
      z.step t = .error cause := by
  induction tokens generalizing y with
  | nil => cases h
  | cons t tokens ih =>
      cases hstep : y.step t with
      | error found =>
          rw [run_cons, hstep] at h
          cases h
          exact ⟨[], t, tokens, y, rfl, rfl, hstep⟩
      | ok z =>
          rw [run_cons_of_step hstep] at h
          rcases ih h with ⟨before, u, after, z', rfl, hrun, hrefused⟩
          refine ⟨t :: before, u, after, z', rfl, ?_, hrefused⟩
          rw [run_cons_of_step hstep]
          exact hrun

end Yard

/-- A list is refused at its first token that does not fit, or at its end. -/
theorem ofTokens_eq_error {tokens : List Token} {cause : SyntaxError}
    (h : ofTokens tokens = .error cause) :
    (exists before t after z, tokens = before ++ t :: after ∧
        Yard.start.run before = .ok z ∧ z.step t = .error cause) ∨
      cause = .missingOperand := by
  change Yard.start.run tokens >>= Yard.finish = .error cause at h
  cases hrun : Yard.start.run tokens with
  | error found =>
      rw [hrun] at h
      cases h
      exact .inl (Yard.run_eq_error hrun)
  | ok y =>
      rw [hrun] at h
      change y.finish = .error cause at h
      unfold Yard.finish at h
      split at h
      · cases h
      · cases h
        exact .inr rfl

end Postfix

/-!
## Operators that stand apart

Where no two operators are neighbours there is no double minus sign, and a minus
sign negates only at the very beginning.
-/

def Token.isOperator : Token -> Bool
  | .number _ => false
  | .operator _ => true

namespace Postfix

theorem cause_of_standApart {tokens : List Token} {cause : SyntaxError}
    (hapart : StandApart Token.isOperator tokens) (h : ofTokens tokens = .error cause) :
    cause = .missingOperand ∨ cause = .missingOperator := by
  rcases ofTokens_eq_error h with ⟨before, t, after, z, rfl, hrun, hrefused⟩ | hend
  · rcases Yard.step_eq_error hrefused with ⟨_, _, rfl⟩ | ⟨hexpected, rfl, _⟩ | ⟨_, _, rfl⟩
    · exact .inr rfl
    · rw [Yard.run_expected hrun] at hexpected
      have hlast := expectedAfter_eq_operandAfterMinus hexpected
      exact absurd ⟨rfl, rfl⟩ ((standApart_append.mp hapart).2.2 _ hlast _ rfl)
    · exact .inl rfl
  · exact .inl hend

theorem eq_nil_of_negation {before after : List Token} {o : Operator}
    (hapart : StandApart Token.isOperator (before ++ .operator o :: after))
    (hexpected : expectedAfter before ≠ .operator) : before = [] := by
  rcases List.eq_nil_or_concat before with hnil | ⟨front, t, rfl⟩
  · exact hnil
  · rw [List.concat_eq_append] at hapart hexpected
    cases t with
    | number x => exact absurd (expectedAfter_concat_number front x) hexpected
    | operator p =>
        have hlast : .operator p ∈ (front ++ [Token.operator p]).getLast? := by
          simp
        exact absurd ⟨rfl, rfl⟩ ((standApart_append.mp hapart).2.2 _ hlast _ rfl)

end Postfix

end PocketCalculator
