import PocketCalculator.Proofs.Meaning
import PocketCalculator.Proofs.Refusals

/-!
# Lists that can be completed

## As far as the yard goes

A list of tokens can be completed when some continuation makes it one that the
yard accepts.  These are exactly the lists over which the yard runs to the end.
So the yard stops at the first token after which nothing helps any more, and
what it reports there cannot be changed by what follows.
-/

namespace PocketCalculator

namespace Postfix

/-- Some continuation makes the tokens a list that the yard accepts. -/
def IsCompletable (tokens : List Token) : Prop :=
  exists rest items, ofTokens (tokens ++ rest) = .ok items

theorem IsCompletable.of_prefix {front tokens : List Token} (h : IsCompletable tokens)
    (hfront : front <+: tokens) : IsCompletable front := by
  rcases hfront with ⟨between, rfl⟩
  rcases h with ⟨rest, items, hitems⟩
  rw [List.append_assoc] at hitems
  exact ⟨between ++ rest, items, hitems⟩

namespace Yard

/-- Whatever the yard expects, one number at most is missing. -/
theorem exists_run_to_operator (y : Yard) :
    exists rest y', y.run rest = .ok y' ∧ y'.expected = .operator := by
  by_cases hexpected : y.expected = .operator
  · exact ⟨[], y, rfl, hexpected⟩
  · have hrun := @run_number y.output.reverse y.pending y.expected (.zero false) hexpected
    rw [List.reverse_reverse] at hrun
    exact ⟨_, _, hrun, rfl⟩

theorem exists_finish {y : Yard} (h : y.expected = .operator) :
    exists items, y.finish = .ok items := by
  unfold finish
  rw [h]
  exact ⟨_, rfl⟩

theorem finish_eq_error {y : Yard} {cause : SyntaxError} (h : y.finish = .error cause) :
    cause = .missingOperand := by
  unfold finish at h
  split at h
  · cases h
  · cases h
    rfl

theorem run_append_of_error {y : Yard} {first : List Token} {cause : SyntaxError}
    (h : y.run first = .error cause) (second : List Token) :
    y.run (first ++ second) = .error cause := by
  rw [run_append, h]
  rfl

end Yard

theorem ofTokens_of_run {tokens : List Token} {y : Yard}
    (h : Yard.start.run tokens = .ok y) : ofTokens tokens = y.finish := by
  change Yard.start.run tokens >>= Yard.finish = y.finish
  rw [h]
  rfl

theorem ofTokens_of_run_error {tokens : List Token} {cause : SyntaxError}
    (h : Yard.start.run tokens = .error cause) : ofTokens tokens = .error cause := by
  change Yard.start.run tokens >>= Yard.finish = .error cause
  rw [h]
  rfl

theorem isCompletable_iff (tokens : List Token) :
    IsCompletable tokens <-> exists y, Yard.start.run tokens = .ok y := by
  constructor
  · rintro ⟨rest, items, hitems⟩
    rcases run_of_ofTokens hitems with ⟨y, hrun, _⟩
    rcases Yard.run_append_eq_ok hrun with ⟨z, hfirst, _⟩
    exact ⟨z, hfirst⟩
  · rintro ⟨y, hrun⟩
    rcases y.exists_run_to_operator with ⟨rest, y', hrest, hexpected⟩
    rcases Yard.exists_finish hexpected with ⟨items, hitems⟩
    refine ⟨rest, items, ?_⟩
    rw [ofTokens_of_run ((Yard.run_append_of_run hrun rest).trans hrest)]
    exact hitems

/-!
## The first offender

A number offends after a number, a minus sign after a minus sign, and any other
sign where an operand is due.
-/

/-- Why a token cannot stand after the given ones. -/
inductive Offends (before : List Token) : Token -> SyntaxError -> Prop where
  | number (x : Binary64) : Offends before (.number x) .missingOperator
  | secondMinus :
      before.getLast? = some (.operator .minus) ->
      Offends before (.operator .minus) .doubleMinus
  | sign {o : Operator} : o ≠ .minus -> Offends before (.operator o) .missingOperand

theorem Offends.ne_invalidExpression {before : List Token} {t : Token}
    {cause : SyntaxError} (h : Offends before t cause) : cause ≠ .invalidExpression := by
  cases h with
  | number x => simp
  | secondMinus hlast => simp
  | sign ho => simp

theorem offends_of_step {before : List Token} {y : Yard} {t : Token} {cause : SyntaxError}
    (hrun : Yard.start.run before = .ok y) (hstep : y.step t = .error cause) :
    Offends before t cause := by
  rcases Yard.step_eq_error hstep with
    ⟨_, ⟨x, rfl⟩, rfl⟩ | ⟨hexpected, rfl, rfl⟩ | ⟨_, ⟨o, rfl, ho⟩, rfl⟩
  · exact .number x
  · rw [Yard.run_expected hrun] at hexpected
    exact .secondMinus (expectedAfter_eq_operandAfterMinus hexpected)
  · exact .sign ho

/-- The first token after which no continuation is accepted, and its error. -/
structure IsFirstOffender (before : List Token) (t : Token) (cause : SyntaxError) :
    Prop where
  completable : forall front, front <+: before -> IsCompletable front
  not_completable : ¬ IsCompletable (before ++ [t])
  offends : Offends before t cause
  reported : forall rest, ofTokens (before ++ t :: rest) = .error cause

theorem isFirstOffender_of_step {before : List Token} {y : Yard} {t : Token}
    {cause : SyntaxError} (hrun : Yard.start.run before = .ok y)
    (hstep : y.step t = .error cause) : IsFirstOffender before t cause := by
  have hstopped : Yard.start.run (before ++ [t]) = .error cause := by
    rw [Yard.run_append_of_run hrun, Yard.run_cons, hstep]
    rfl
  have hbefore : IsCompletable before := (isCompletable_iff before).mpr ⟨y, hrun⟩
  constructor
  · exact fun front hfront => hbefore.of_prefix hfront
  · rw [isCompletable_iff]
    rintro ⟨z, hrest⟩
    cases hstopped.symm.trans hrest
  · exact offends_of_step hrun hstep
  · intro rest
    rw [← List.singleton_append, ← List.append_assoc]
    exact ofTokens_of_run_error (Yard.run_append_of_error hstopped rest)

/--
A list is refused for its first token after which no continuation is accepted,
whatever follows that token.  If there is no such token, an operand is missing
at the end.  The error is never one of the two that belong to later stages, and
it is the one that a text with these tokens is refused for.
-/
theorem refusals_name_the_first_offender {tokens : List Token} {cause : SyntaxError}
    (h : ofTokens tokens = .error cause) :
    ((exists before t after, tokens = before ++ t :: after ∧
        IsFirstOffender before t cause) ∨
      ((forall front, front <+: tokens -> IsCompletable front) ∧
        cause = .missingOperand)) ∧
    cause ≠ .invalidExpression ∧
    (forall s : Text, Text.strip s ≠ [] -> Token.read s = .ok tokens ->
      evaluate s = .refused (.malformed cause) ∧ evaluate s ≠ .refused .divisionByZero) := by
  have hevaluated : forall s : Text, Text.strip s ≠ [] -> Token.read s = .ok tokens ->
      evaluate s = .refused (.malformed cause) ∧ evaluate s ≠ .refused .divisionByZero := by
    intro s hs hread
    have hrefused := Evaluation.evaluate_of_ofTokens_error hs hread h
    refine ⟨hrefused, ?_⟩
    rw [hrefused]
    simp
  cases hrun : Yard.start.run tokens with
  | ok y =>
      rw [ofTokens_of_run hrun] at h
      have hcause := Yard.finish_eq_error h
      have hwhole : IsCompletable tokens := (isCompletable_iff tokens).mpr ⟨y, hrun⟩
      refine ⟨.inr ⟨fun front hfront => hwhole.of_prefix hfront, hcause⟩, ?_, hevaluated⟩
      rw [hcause]
      simp
  | error found =>
      have hfound : found = cause := by
        rw [ofTokens_of_run_error hrun] at h
        cases h
        rfl
      subst hfound
      rcases Yard.run_eq_error hrun with ⟨before, t, after, z, rfl, hbefore, hstep⟩
      have hfirst := isFirstOffender_of_step hbefore hstep
      exact ⟨.inl ⟨before, t, after, rfl, hfirst⟩, hfirst.offends.ne_invalidExpression,
        hevaluated⟩

theorem refusals_name_the_first_offender_double :
    ofTokens [.operator .minus, .operator .minus, .operator .times] =
      .error .doubleMinus ∧
    ((exists before t after,
        [Token.operator .minus, .operator .minus, .operator .times] =
          before ++ t :: after ∧ IsFirstOffender before t .doubleMinus) ∨
      ((forall front,
          front <+: [Token.operator .minus, .operator .minus, .operator .times] ->
            IsCompletable front) ∧
        SyntaxError.doubleMinus = .missingOperand)) ∧
    SyntaxError.doubleMinus ≠ .invalidExpression ∧
    Token.read "- -*".toList = .ok [.operator .minus, .operator .minus, .operator .times] ∧
    evaluate "- -*".toList = .refused (.malformed .doubleMinus) := by
  have hrefused : ofTokens [.operator .minus, .operator .minus, .operator .times] =
      .error .doubleMinus := rfl
  have hread : Token.read "- -*".toList =
      .ok [.operator .minus, .operator .minus, .operator .times] := by
    decide +kernel
  rcases refusals_name_the_first_offender hrefused with ⟨hfirst, hcause, hevaluated⟩
  exact ⟨hrefused, hfirst, hcause, hread, (hevaluated _ (by decide) hread).1⟩

end Postfix

end PocketCalculator
