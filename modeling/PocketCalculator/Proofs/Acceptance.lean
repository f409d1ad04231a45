import PocketCalculator.Proofs.Yard

/-!
# What the yard accepts

## Alternating numbers and operators

A list of tokens can be put into postfix form just when it alternates between
numbers and operators, each number with at most one minus sign of its own, and
no two minus signs are neighbours.
-/

namespace PocketCalculator

namespace Postfix

/-- A number, with a minus sign before it when it is negated. -/
structure SignedNumber where
  isNegated : Bool
  number : Binary64
deriving DecidableEq

namespace SignedNumber

def tokens (u : SignedNumber) : List Token :=
  if u.isNegated then [.operator .minus, .number u.number] else [.number u.number]

theorem exists_factor (u : SignedNumber) : exists t, Factor u.tokens t := by
  cases u with
  | mk isNegated x =>
      cases isNegated with
      | false => exact ⟨_, Grammar.Factor.number rfl⟩
      | true => exact ⟨_, Grammar.Factor.negation rfl⟩

end SignedNumber

def continuation (next : Operator × SignedNumber) : List Token :=
  .operator next.1 :: next.2.tokens

def continuations (rest : List (Operator × SignedNumber)) : List Token :=
  rest.flatMap continuation

/-- Signed numbers with operators between them. -/
def alternation (first : SignedNumber) (rest : List (Operator × SignedNumber)) :
    List Token :=
  first.tokens ++ continuations rest

def HasDoubleMinus (tokens : List Token) : Prop :=
  [.operator .minus, .operator .minus] <:+: tokens

/-!
## From an alternation to a derivation

The derivation grows by one operator and one signed number at a time.
-/

theorem exists_sum_append {tokens : List Token} {a : Tree} (hsum : Sum tokens a)
    (rest : List (Operator × SignedNumber))
    (hsafe : ¬ HasDoubleMinus (tokens ++ continuations rest)) :
    exists t, Sum (tokens ++ continuations rest) t := by
  induction rest generalizing tokens a with
  | nil =>
      exact ⟨a, by simpa [continuations] using hsum⟩
  | cons next rest ih =>
      rcases next.2.exists_factor with ⟨b, hfactor⟩
      have hbefore : next.1 = .minus -> next.2.tokens.head? ≠ some (.operator .minus) := by
        intro hminus hhead
        rcases List.head?_eq_some_iff.mp hhead with ⟨w, hw⟩
        apply hsafe
        exists tokens, w ++ continuations rest
        simp [continuations, continuation, hminus, hw]
      rcases hsum.extend not_isNumber_nil hfactor hbefore with ⟨c, hextended⟩
      have hwhole : tokens ++ continuations (next :: rest) =
          (tokens ++ .operator next.1 :: next.2.tokens) ++ continuations rest := by
        simp [continuations, continuation]
      rw [hwhole] at hsafe ⊢
      exact ih hextended hsafe

theorem exists_sum_of_alternation (first : SignedNumber)
    (rest : List (Operator × SignedNumber))
    (hsafe : ¬ HasDoubleMinus (alternation first rest)) :
    exists t, Sum (alternation first rest) t := by
  rcases first.exists_factor with ⟨a, hfactor⟩
  exact exists_sum_append (Grammar.Sum.term (Grammar.Term.factor hfactor)) rest hsafe

namespace Yard

/-!
## What one token does

A number goes to the output, and a minus sign where an operand is due waits as a
negation.  A sign after an operand first releases what binds at least as tightly.
-/

inductive Takes (y : Yard) : Token -> Yard -> Prop where
  | number (x : Binary64) : y.expected ≠ .operator ->
      Takes y (.number x) ⟨.number x :: y.output, y.pending, .operator⟩
  | negation : y.expected = .operand ->
      Takes y (.operator .minus) ⟨y.output, .negation :: y.pending, .operandAfterMinus⟩
  | operation (o : Operator) : y.expected = .operator ->
      Takes y (.operator o)
        ⟨(release o.precedence y.output y.pending).1,
          .operation o :: (release o.precedence y.output y.pending).2, expectationAfter o⟩

theorem takes_of_takeNumber {y y' : Yard} {x : Binary64} (h : y.takeNumber x = .ok y') :
    y.Takes (.number x) y' := by
  unfold takeNumber at h
  cases hexpected : y.expected with
  | operator => simp [hexpected] at h
  | operand =>
      simp only [hexpected] at h
      cases h
      exact .number x (by simp [hexpected])
  | operandAfterMinus =>
      simp only [hexpected] at h
      cases h
      exact .number x (by simp [hexpected])

theorem takes_of_takeOperator {y y' : Yard} {o : Operator} (h : y.takeOperator o = .ok y') :
    y.Takes (.operator o) y' := by
  unfold takeOperator at h
  cases hexpected : y.expected with
  | operator =>
      simp only [hexpected] at h
      cases h
      exact .operation o hexpected
  | operand =>
      cases o with
      | minus =>
          simp only [hexpected] at h
          cases h
          exact .negation hexpected
      | plus | times | divide => simp [hexpected] at h
  | operandAfterMinus => cases o <;> simp [hexpected] at h

/-- A token that is not refused is taken in one of the three ways. -/
theorem takes_of_step {y y' : Yard} {t : Token} (h : y.step t = .ok y') : y.Takes t y' := by
  cases t with
  | number x => exact takes_of_takeNumber h
  | operator o => exact takes_of_takeOperator h

theorem step_number_eq_ok {y y' : Yard} {x : Binary64} (h : y.step (.number x) = .ok y') :
    y.expected ≠ .operator ∧ y'.expected = .operator := by
  cases takes_of_step h with
  | number _ hexpected => exact ⟨hexpected, rfl⟩

theorem step_operator_eq_ok {y y' : Yard} {o : Operator}
    (h : y.step (.operator o) = .ok y') :
    (y.expected = .operator ∧ y'.expected = expectationAfter o) ∨
      (y.expected = .operand ∧ o = .minus ∧ y'.expected = .operandAfterMinus) := by
  cases takes_of_step h with
  | negation hexpected => exact Or.inr ⟨hexpected, rfl, rfl⟩
  | operation _ hexpected => exact Or.inl ⟨hexpected, rfl⟩

/-- After a minus sign an operand is due that may not begin with another one. -/
theorem expected_after_minus {y y' : Yard} (h : y.step (.operator .minus) = .ok y') :
    y'.expected = .operandAfterMinus := by
  rcases step_operator_eq_ok h with ⟨_, hafter⟩ | ⟨_, _, hafter⟩
  · exact hafter
  · exact hafter

theorem run_cons_eq_ok {y y' : Yard} {t : Token} {tokens : List Token}
    (h : y.run (t :: tokens) = .ok y') :
    exists z, y.step t = .ok z ∧ z.run tokens = .ok y' := by
  rw [run_cons] at h
  cases hstep : y.step t with
  | error cause =>
      rw [hstep] at h
      cases h
  | ok z =>
      rw [hstep] at h
      exact ⟨z, rfl, h⟩

theorem run_append_eq_ok {y y' : Yard} {first second : List Token}
    (h : y.run (first ++ second) = .ok y') :
    exists z, y.run first = .ok z ∧ z.run second = .ok y' := by
  rw [run_append] at h
  cases hrun : y.run first with
  | error cause =>
      rw [hrun] at h
      cases h
  | ok z =>
      rw [hrun] at h
      exact ⟨z, rfl, h⟩

/-!
## From a run to an alternation

The state decides what the tokens still to come look like.
-/

/-- The tokens that lead from the given state to the end of an expression. -/
def Completes : Expectation -> List Token -> Prop
  | .operand, tokens => exists first rest, tokens = alternation first rest
  | .operandAfterMinus, tokens =>
      exists x rest, tokens = .number x :: continuations rest
  | .operator, tokens => exists rest, tokens = continuations rest

theorem completes_number {expected : Expectation} (h : expected ≠ .operator)
    (x : Binary64) {tokens : List Token} (hrest : Completes .operator tokens) :
    Completes expected (.number x :: tokens) := by
  rcases hrest with ⟨rest, rfl⟩
  cases expected with
  | operand => exact ⟨⟨false, x⟩, rest, rfl⟩
  | operandAfterMinus => exact ⟨x, rest, rfl⟩
  | operator => exact absurd rfl h

theorem completes_operator (o : Operator) {tokens : List Token}
    (hrest : Completes (expectationAfter o) tokens) :
    Completes .operator (.operator o :: tokens) := by
  cases o with
  | minus =>
      rcases hrest with ⟨x, rest, rfl⟩
      exact ⟨(.minus, ⟨false, x⟩) :: rest, rfl⟩
  | plus =>
      rcases hrest with ⟨first, rest, rfl⟩
      exact ⟨(.plus, first) :: rest, rfl⟩
  | times =>
      rcases hrest with ⟨first, rest, rfl⟩
      exact ⟨(.times, first) :: rest, rfl⟩
  | divide =>
      rcases hrest with ⟨first, rest, rfl⟩
      exact ⟨(.divide, first) :: rest, rfl⟩

theorem completes_negation {tokens : List Token}
    (hrest : Completes .operandAfterMinus tokens) :
    Completes .operand (.operator .minus :: tokens) := by
  rcases hrest with ⟨x, rest, rfl⟩
  exact ⟨⟨true, x⟩, rest, rfl⟩

theorem completes_of_run {y y' : Yard} {tokens : List Token} (h : y.run tokens = .ok y')
    (hend : y'.expected = .operator) : Completes y.expected tokens := by
  induction tokens generalizing y with
  | nil =>
      cases h
      rw [hend]
      exact ⟨[], rfl⟩
  | cons t tokens ih =>
      rcases run_cons_eq_ok h with ⟨z, hstep, hrun⟩
      have hrest := ih hrun
      cases t with
      | number x =>
          rcases step_number_eq_ok hstep with ⟨hbefore, hafter⟩
          rw [hafter] at hrest
          exact completes_number hbefore x hrest
      | operator o =>
          rcases step_operator_eq_ok hstep with ⟨hbefore, hafter⟩ | ⟨hbefore, rfl, hafter⟩
          · rw [hafter] at hrest
            rw [hbefore]
            exact completes_operator o hrest
          · rw [hafter] at hrest
            rw [hbefore]
            exact completes_negation hrest

theorem not_hasDoubleMinus_of_run {y y' : Yard} {tokens : List Token}
    (h : y.run tokens = .ok y') : ¬ HasDoubleMinus tokens := by
  rintro ⟨first, second, rfl⟩
  rcases run_append_eq_ok h with ⟨z, hrun, _⟩
  rcases run_append_eq_ok hrun with ⟨u, _, hpair⟩
  rcases run_cons_eq_ok hpair with ⟨v, hminus, hsecond⟩
  rcases run_cons_eq_ok hsecond with ⟨w, hagain, _⟩
  have hexpected := expected_after_minus hminus
  rcases step_operator_eq_ok hagain with ⟨hother, _⟩ | ⟨hother, _, _⟩
  · rw [hexpected] at hother
    cases hother
  · rw [hexpected] at hother
    cases hother

end Yard

/-!
## Acceptance
-/

theorem run_of_ofTokens {tokens : List Token} {items : List Item}
    (h : ofTokens tokens = .ok items) :
    exists y, Yard.start.run tokens = .ok y ∧ y.finish = .ok items := by
  change Yard.start.run tokens >>= Yard.finish = .ok items at h
  cases hrun : Yard.start.run tokens with
  | error cause =>
      rw [hrun] at h
      cases h
  | ok y =>
      rw [hrun] at h
      exact ⟨y, rfl, h⟩

theorem expected_of_finish {y : Yard} {items : List Item} (h : y.finish = .ok items) :
    y.expected = .operator := by
  unfold Yard.finish at h
  cases hexpected : y.expected with
  | operator => rfl
  | operand => simp [hexpected] at h
  | operandAfterMinus => simp [hexpected] at h

theorem alternation_of_ofTokens {tokens : List Token} {items : List Item}
    (h : ofTokens tokens = .ok items) :
    (exists first rest, tokens = alternation first rest) ∧ ¬ HasDoubleMinus tokens := by
  rcases run_of_ofTokens h with ⟨y, hrun, hfinish⟩
  constructor
  · exact Yard.completes_of_run hrun (expected_of_finish hfinish)
  · exact Yard.not_hasDoubleMinus_of_run hrun

theorem exists_sum_of_ofTokens {tokens : List Token} {items : List Item}
    (h : ofTokens tokens = .ok items) : exists t, Sum tokens t := by
  rcases alternation_of_ofTokens h with ⟨⟨first, rest, rfl⟩, hsafe⟩
  exact exists_sum_of_alternation first rest hsafe

end Postfix

end PocketCalculator
