import PocketCalculator.Entry

/-!
# Steps of the entry

## What a key does

A key is ignored, clears the buffer, answers it, replaces a sign at its end or is
added to it.  Each step is listed with the keys that can take it, so a property of
the buffer under any key has one case for each of the five.
-/

namespace PocketCalculator

namespace Entry

inductive KeyStep (buffer : Text) : Text -> Transition -> Prop where
  | ignored {key : Text} :
      key = [] ∨ (buffer = [] ∧ exists o : Operator, o ≠ .minus ∧ key = [o.symbol]) ∨
        (endsWithPoint buffer = true ∧ key = ['.']) ->
      KeyStep buffer key .ignored
  | cleared : KeyStep buffer ['C'] (.applied [] [])
  | answered :
      KeyStep buffer ['='] (.applied (answer buffer) (Evaluation.run buffer).events)
  | replaced (o : Operator) : endsWithOperator buffer = true ->
      KeyStep buffer [o.symbol] (.applied (buffer.dropLast ++ [o.symbol]) [])
  | added {key : Text} : key ≠ [] -> key ≠ ['C'] -> key ≠ ['='] ->
      KeyStep buffer key (.applied (append buffer key) [])

variable (buffer : Text)

theorem keyStep_pressOperator (o : Operator) :
    KeyStep buffer [o.symbol] (pressOperator buffer o) := by
  unfold pressOperator
  split
  · rename_i hrefused
    exact KeyStep.ignored (.inr (.inl ⟨hrefused.1, o, hrefused.2, rfl⟩))
  · split
    · rename_i hends
      exact KeyStep.replaced o hends
    · apply KeyStep.added
      · simp
      · cases o <;> decide
      · cases o <;> decide

theorem keyStep_pressPoint : KeyStep buffer ['.'] (pressPoint buffer) := by
  unfold pressPoint
  split
  · rename_i hends
    exact KeyStep.ignored (.inr (.inr ⟨hends, rfl⟩))
  · exact KeyStep.added (by decide) (by decide) (by decide)

theorem keyStep_pressCharacter (c : Char) : KeyStep buffer [c] (pressCharacter buffer c) := by
  unfold pressCharacter
  cases hsign : Operator.ofChar? c with
  | some o =>
      rw [← Operator.symbol_of_ofChar? hsign]
      exact keyStep_pressOperator buffer o
  | none =>
      by_cases hclear : c = 'C'
      · subst hclear
        exact KeyStep.cleared
      · by_cases hequals : c = '='
        · subst hequals
          exact KeyStep.answered
        · by_cases hpoint : c = '.'
          · subst hpoint
            exact keyStep_pressPoint buffer
          · simp only [if_neg hclear, if_neg hequals, if_neg hpoint]
            exact KeyStep.added (by simp) (by simpa using hclear) (by simpa using hequals)

/-- Every key takes one of the five steps. -/
theorem keyStep_press (key : Text) : KeyStep buffer key (press buffer key) := by
  unfold press
  split
  · exact KeyStep.ignored (.inl rfl)
  · exact keyStep_pressCharacter buffer _
  · rename_i hnil hsingle
    exact KeyStep.added hnil (hsingle 'C') (hsingle '=')

end Entry

end PocketCalculator
