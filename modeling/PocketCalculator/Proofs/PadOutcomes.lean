import PocketCalculator.Proofs.BufferLength
import PocketCalculator.Proofs.ErrorTexts
import PocketCalculator.Proofs.TypedTexts

/-!
# Outcomes of the pad

## The buffers of the pad

What is entered on the pad is typed from the start, or typed after a result that
was shown, or it begins with an error.
-/

namespace PocketCalculator

theorem Literal.isSymbol_getLast?_text {l : Literal} (h : l.IsWellFormed) :
    forall c, c ∈ l.text.getLast? -> Operator.isSymbol c = false := by
  intro c hc
  cases hexponent : l.exponent with
  | none =>
      rw [text, exponentText_of_none hexponent, List.append_nil] at hc
      exact isSymbol_of_opens (opens_of_mem_mantissaText h (List.mem_of_mem_getLast? hc))
  | some e =>
      have hwell := h.exponent e hexponent
      rw [text, exponentText_of_some hexponent, Exponent.text, ← List.append_assoc,
        List.getLast?_append_of_ne_nil _ hwell.nonempty] at hc
      exact isSymbol_of_opens (opens_of_isDigit (hwell.digits c (List.mem_of_mem_getLast? hc)))

theorem Literal.getLast?_signed {l : Literal} (h : l.IsWellFormed) (negative : Bool) :
    (Text.signed negative l.text).getLast? = l.text.getLast? := by
  rcases exists_cons_text h with ⟨c, rest, htext, _⟩
  cases negative with
  | false => rfl
  | true => rw [htext, Text.signed, if_pos rfl, List.getLast?_cons_cons]

namespace Entry

/-- Whether a buffer is typed, or typed after a number. -/
inductive IsLegible : Text -> Prop where
  | typed {t : Text} : IsTypable t -> IsLegible t
  | continued {negative : Bool} {l : Literal} {t : Text} : l.IsWellFormed ->
      (Text.signed negative l.text).length ≤ capacity -> IsTypable t ->
      IsLegible (Text.signed negative l.text ++ t)

theorem isLegible_or_showsError_answer (s : Text) :
    IsLegible (answer s) ∨ ShowsError (answer s) := by
  rcases answer_cases s with ⟨_, hnil⟩ | ⟨negative, l, hl, hanswer⟩ | ⟨cause, hanswer⟩
  · rw [hnil]
    exact .inl (IsLegible.typed isTypable_nil)
  · have hlength : (Text.signed negative l.text).length ≤ capacity := by
      rw [← hanswer]
      exact Nat.le_trans (length_answer_le s) (by decide)
    rw [hanswer, ← List.append_nil (Text.signed negative l.text)]
    exact .inl (IsLegible.continued hl hlength isTypable_nil)
  · rw [hanswer]
    exact .inr (showsError_display cause)

theorem IsLegible.append {buffer : Text} {c : Char} (h : IsLegible buffer)
    (hc : isTypable c = true) : IsLegible (append buffer [c]) := by
  have hsingle := isTypable_singleton hc
  cases h with
  | typed ht =>
      exact IsLegible.typed ((ht.append hsingle).sublist (List.take_sublist _ _))
  | @continued negative l t hl hlength ht =>
      have hcut : Entry.append (Text.signed negative l.text ++ t) [c] =
          Text.signed negative l.text ++
            (t ++ [c]).take (capacity - (Text.signed negative l.text).length) := by
        rw [Entry.append, List.append_assoc, List.take_append, List.take_of_length_le hlength]
      rw [hcut]
      exact IsLegible.continued hl hlength
        ((ht.append hsingle).sublist (List.take_sublist _ _))

theorem IsLegible.replace {buffer : Text} (h : IsLegible buffer)
    (hends : endsWithOperator buffer = true) (o : Operator) :
    IsLegible (buffer.dropLast ++ [o.symbol]) := by
  have hsingle := isTypable_singleton (isTypable_symbol o)
  cases h with
  | typed ht =>
      exact IsLegible.typed ((ht.sublist (List.dropLast_sublist _)).append hsingle)
  | @continued negative l t hl hlength ht =>
      -- No literal ends with a sign, so the sign that is replaced was typed.
      have hne : t ≠ [] := by
        rintro rfl
        rcases endsWithOperator_eq_true_iff.mp hends with ⟨last, hlast, hsymbol⟩
        rw [List.append_nil, Literal.getLast?_signed hl] at hlast
        rw [Literal.isSymbol_getLast?_text hl last hlast] at hsymbol
        cases hsymbol
      rw [List.dropLast_append_of_ne_nil hne, List.append_assoc]
      exact IsLegible.continued hl hlength
        ((ht.sublist (List.dropLast_sublist _)).append hsingle)

theorem padStep_isLegible_or_showsError {buffer buffer' : Text}
    (h : IsLegible buffer ∨ ShowsError buffer) (hstep : PadStep buffer buffer') :
    IsLegible buffer' ∨ ShowsError buffer' := by
  cases hstep with
  | ignored => exact h
  | cleared => exact .inl (IsLegible.typed isTypable_nil)
  | answered => exact isLegible_or_showsError_answer buffer
  | replaced o hends =>
      rcases h with hlegible | herror
      · exact .inl (hlegible.replace hends o)
      · exact .inr (herror.replace hends o)
  | added c hc hfollows =>
      rcases h with hlegible | herror
      · exact .inl (hlegible.append hc)
      · exact .inr (herror.append [c])

theorem pressAll_isLegible_or_showsError {keys : List Text}
    (hkeys : forall key, key ∈ keys -> key ∈ Keypad.cellTexts) :
    IsLegible (pressAll [] keys) ∨ ShowsError (pressAll [] keys) :=
  pressAll_pad_induction (fun buffer => IsLegible buffer ∨ ShowsError buffer)
    (fun _ _ h hstep => padStep_isLegible_or_showsError h hstep)
    (.inl (IsLegible.typed isTypable_nil)) hkeys

/-!
## Reading them

A legible buffer has no blanks, so it is read as it stands.
-/

theorem strip_of_isTypable {t : Text} (ht : IsTypable t) : Text.strip t = t :=
  Text.strip_eq_self fun c hc => isBlank_of_isTypable (ht c hc)

theorem strip_of_isLegible {buffer : Text} (h : IsLegible buffer) :
    Text.strip buffer = buffer := by
  cases h with
  | typed ht => exact strip_of_isTypable ht
  | @continued negative l t hl hlength ht =>
      rw [Text.strip_append, strip_of_isTypable ht]
      congr 1
      apply Text.strip_eq_self
      intro c hc
      cases negative with
      | false => exact Literal.isBlank_of_mem_text hl hc
      | true =>
          cases hc with
          | head => decide
          | tail _ hc => exact Literal.isBlank_of_mem_text hl hc

theorem cause_of_read_isLegible {buffer : Text} (h : IsLegible buffer) {cause : SyntaxError}
    (hread : Token.read buffer = .error cause) : cause = .invalidNumber ['.'] := by
  rw [Token.read, strip_of_isLegible h] at hread
  cases h with
  | typed ht => exact Token.cause_of_readOnto_typable ht hread
  | continued hl hlength ht => exact Token.cause_of_readOnto_signed hl ht hread

theorem not_showsError_of_isLegible {buffer : Text} (h : IsLegible buffer) :
    ¬ ShowsError buffer := by
  intro herror
  cases cause_of_read_isLegible h (read_of_showsError herror)

/-!
## Their outcomes
-/

/-- Why a legible buffer of the pad is refused, if it is. -/
def legibleErrors : List EvaluationError :=
  [.divisionByZero, .malformed .missingOperand, .malformed .missingOperator,
    .malformed (.invalidNumber ['.'])]

theorem mem_legibleErrors_of_failsWith {buffer : Text} (h : IsLegible buffer)
    (hapart : StandApart Operator.isSymbol buffer) {cause : SyntaxError}
    (hfails : Evaluation.FailsWith buffer cause) : .malformed cause ∈ legibleErrors := by
  rcases hfails with hread | ⟨tokens, hread, hyard⟩
  · rw [cause_of_read_isLegible h hread]
    decide
  · rw [← strip_of_isLegible h] at hapart
    have htokens := Token.standApart_of_read hread hapart
    rcases Postfix.cause_of_standApart htokens hyard with rfl | rfl
    · decide
    · decide

theorem outcome_of_isLegible {buffer : Text} (h : IsLegible buffer)
    (hapart : StandApart Operator.isSymbol buffer) :
    evaluate buffer = .blank ∨ (exists x, evaluate buffer = .number x) ∨
      exists cause, cause ∈ legibleErrors ∧ evaluate buffer = .refused cause := by
  rcases Evaluation.evaluate_cases buffer with ⟨_, hblank⟩ | ⟨t, _, hvalue⟩ | ⟨cause, hfails, heq⟩
  · exact .inl hblank
  · rw [hvalue, Outcome.ofValue]
    split
    · exact .inr (.inl ⟨_, rfl⟩)
    · exact .inr (.inr ⟨.divisionByZero, by decide, rfl⟩)
  · exact .inr (.inr ⟨_, mem_legibleErrors_of_failsWith h hapart hfails, heq⟩)

theorem not_unexpectedCharacter_of_isLegible {buffer : Text} (h : IsLegible buffer)
    (hapart : StandApart Operator.isSymbol buffer) (c : Char) :
    evaluate buffer ≠ .refused (.malformed (.unexpectedCharacter c)) := by
  intro hrefused
  rcases outcome_of_isLegible h hapart with hblank | ⟨x, hnumber⟩ | ⟨cause, hcause, heq⟩
  · cases hblank.symm.trans hrefused
  · cases hnumber.symm.trans hrefused
  · cases heq.symm.trans hrefused
    simp [legibleErrors] at hcause

end Entry

/--
Whatever is entered on the pad has one of seven outcomes.  A character is
unexpected just where the buffer begins with an error, and a minus sign where an
operand is due comes first of all tokens.
-/
theorem outcomes_of_pad {keys : List Text}
    (hkeys : forall key, key ∈ keys -> key ∈ Keypad.cellTexts) :
    (evaluate (Entry.pressAll [] keys) = .blank ∨
      (exists x, evaluate (Entry.pressAll [] keys) = .number x) ∨
      exists cause,
        cause ∈ [EvaluationError.divisionByZero, .malformed .missingOperand,
          .malformed .missingOperator, .malformed (.invalidNumber ['.']),
          .malformed (.unexpectedCharacter 'E')] ∧
        evaluate (Entry.pressAll [] keys) = .refused cause) ∧
    ((exists c,
        evaluate (Entry.pressAll [] keys) = .refused (.malformed (.unexpectedCharacter c))) <->
      "Error".toList <+: Entry.pressAll [] keys) ∧
    (forall tokens before after : List Token,
      Token.read (Entry.pressAll [] keys) = .ok tokens ->
      tokens = before ++ .operator .minus :: after ->
      Postfix.expectedAfter before ≠ .operator -> before = []) := by
  have hapart := (Entry.isSpaced_pressAll hkeys).signs
  have hkind := Entry.pressAll_isLegible_or_showsError hkeys
  generalize Entry.pressAll [] keys = buffer at hapart hkind ⊢
  rcases hkind with hlegible | herror
  · refine ⟨?_, ?_, ?_⟩
    · rcases Entry.outcome_of_isLegible hlegible hapart with
        hblank | hnumber | ⟨cause, hcause, heq⟩
      · exact .inl hblank
      · exact .inr (.inl hnumber)
      · exact .inr (.inr ⟨cause, List.mem_append_left _ hcause, heq⟩)
    · constructor
      · rintro ⟨c, hrefused⟩
        exact absurd hrefused (Entry.not_unexpectedCharacter_of_isLegible hlegible hapart c)
      · intro herror
        exact absurd herror (Entry.not_showsError_of_isLegible hlegible)
    · intro tokens before after hread htokens hexpected
      rw [← Entry.strip_of_isLegible hlegible] at hapart
      have htokensApart := Token.standApart_of_read hread hapart
      rw [htokens] at htokensApart
      exact Postfix.eq_nil_of_negation htokensApart hexpected
  · have hrefused := Entry.evaluate_of_showsError herror
    refine ⟨.inr (.inr ⟨_, by decide, hrefused⟩), ⟨fun _ => herror, fun _ => ⟨_, hrefused⟩⟩, ?_⟩
    intro tokens before after hread
    rw [Entry.read_of_showsError herror] at hread
    cases hread

/--
A digit typed after an error cannot be read, and the first token of a typed
product is the minus sign that negates.
-/
theorem outcomes_of_pad_error :
    (forall key, key ∈ [['1'], ['/'], ['0'], ['='], [], ['5']] -> key ∈ Keypad.cellTexts) ∧
    (exists c, evaluate (Entry.pressAll [] [['1'], ['/'], ['0'], ['='], [], ['5']]) =
      .refused (.malformed (.unexpectedCharacter c))) ∧
    (exists before after,
      Token.read (Entry.pressAll [] [['-'], ['5'], ['*'], ['2']]) =
        .ok (before ++ .operator .minus :: after) ∧
      Postfix.expectedAfter before ≠ .operator ∧ before = []) := by
  refine ⟨by decide, ?_, ?_⟩
  · apply (outcomes_of_pad (by decide)).2.1.mpr
    decide +kernel
  · have hread : Token.read (Entry.pressAll [] [['-'], ['5'], ['*'], ['2']]) =
        .ok ([] ++ .operator .minus ::
          [.number (.finite false (5 * 2 ^ 50) 1024 (by decide)), .operator .times,
            .number (.finite false (2 ^ 52) 1023 (by decide))]) := by
      decide +kernel
    have hoperand : Postfix.expectedAfter [] ≠ .operator := by
      decide
    exact ⟨[], _, hread, hoperand, (outcomes_of_pad (by decide)).2.2 _ _ _ hread rfl hoperand⟩

end PocketCalculator
