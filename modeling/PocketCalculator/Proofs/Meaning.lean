import PocketCalculator.Evaluation
import PocketCalculator.Proofs.Acceptance
import PocketCalculator.Proofs.Lexing
import PocketCalculator.Proofs.Passes

/-!
# The meaning of a text

## Outcome and derivation

A text with a derivation has the value of its tree, if that value is finite.
Every other text that is not blank is refused, either where its tokens are read
or where they are put into postfix form.
-/

namespace PocketCalculator

namespace Text

theorem strip_eq_nil {s : Text} : strip s = [] <-> s.all isBlank = true := by
  simp [strip]

theorem not_all_isBlank {s : Text} (h : strip s ≠ []) : ¬ s.all isBlank = true :=
  fun hblank => h (strip_eq_nil.mpr hblank)

end Text

namespace Outcome

def ofValue (x : Binary64) : Outcome :=
  if x.isFinite then .number x else .refused .divisionByZero

theorem ofValue_ne_blank (x : Binary64) : ofValue x ≠ .blank := by
  unfold ofValue
  split <;> simp

end Outcome

namespace Evaluation

theorem evaluate_of_blank {s : Text} (h : Text.strip s = []) : evaluate s = .blank := by
  unfold evaluate run
  rw [if_pos (Text.strip_eq_nil.mp h)]

theorem finishedBy_outcome (s : Text) (x : Binary64) (events : List Event) :
    (finishedBy s (some x) events).outcome = Outcome.ofValue x := by
  unfold finishedBy Outcome.ofValue
  by_cases hfinite : x.isFinite = true
  · simp only [if_pos hfinite]
  · simp only [if_neg hfinite]
    rfl

theorem evaluate_of_tokens {s : Text} {tokens : List Token} {t : Tree}
    (hs : Text.strip s ≠ []) (hread : Token.read s = .ok tokens)
    (hsum : Postfix.Sum tokens t) : evaluate s = Outcome.ofValue t.value := by
  have hpostfix := Postfix.ofTokens_of_sum hsum
  rcases Arena.ofPostfix_listing t with ⟨a, harena, _, htree⟩
  have hvalue := Arena.value?_of_represents htree
  unfold evaluate run
  rw [if_neg (Text.not_all_isBlank hs)]
  simp only [hread, hpostfix, harena, hvalue]
  exact finishedBy_outcome s t.value _

theorem evaluate_of_sum {s : Text} {t : Tree} (h : Text.Sum (Text.strip s) t) :
    evaluate s = Outcome.ofValue t.value := by
  have hne := h.ne_nil Literal.not_readAs_nil
  rcases Token.exists_readOnto_of_sum h with ⟨tokens, hsum, hread⟩
  exact evaluate_of_tokens hne hread hsum

theorem evaluate_of_read_error {s : Text} {cause : SyntaxError} (hs : Text.strip s ≠ [])
    (h : Token.read s = .error cause) : evaluate s = .refused (.malformed cause) := by
  unfold evaluate run
  rw [if_neg (Text.not_all_isBlank hs)]
  simp only [h]
  rfl

theorem evaluate_of_ofTokens_error {s : Text} {tokens : List Token} {cause : SyntaxError}
    (hs : Text.strip s ≠ []) (hread : Token.read s = .ok tokens)
    (h : Postfix.ofTokens tokens = .error cause) :
    evaluate s = .refused (.malformed cause) := by
  unfold evaluate run
  rw [if_neg (Text.not_all_isBlank hs)]
  simp only [hread, h]
  rfl

/-- Whether reading or reordering the tokens of a text ends with the error. -/
def FailsWith (s : Text) (cause : SyntaxError) : Prop :=
  Token.read s = .error cause ∨
    exists tokens, Token.read s = .ok tokens ∧ Postfix.ofTokens tokens = .error cause

theorem FailsWith.evaluate_eq {s : Text} {cause : SyntaxError} (h : FailsWith s cause)
    (hs : Text.strip s ≠ []) : evaluate s = .refused (.malformed cause) := by
  rcases h with hread | ⟨tokens, hread, hyard⟩
  · exact evaluate_of_read_error hs hread
  · exact evaluate_of_ofTokens_error hs hread hyard

theorem exists_sum_or_failsWith (s : Text) :
    (exists t, Text.Sum (Text.strip s) t) ∨ exists cause, FailsWith s cause := by
  cases hread : Token.read s with
  | error cause => exact .inr ⟨cause, .inl hread⟩
  | ok tokens =>
      cases hyard : Postfix.ofTokens tokens with
      | error cause => exact .inr ⟨cause, .inr ⟨tokens, hread, hyard⟩⟩
      | ok items =>
          rcases Postfix.exists_sum_of_ofTokens hyard with ⟨t, hsum⟩
          exact .inl ⟨t, Token.sum_of_readOnto hread hsum⟩

/-- A text is blank, derived from the grammar or refused by one of the two readings. -/
theorem evaluate_cases (s : Text) :
    (Text.strip s = [] ∧ evaluate s = .blank) ∨
      (exists t, Text.Sum (Text.strip s) t ∧ evaluate s = Outcome.ofValue t.value) ∨
        exists cause, FailsWith s cause ∧ evaluate s = .refused (.malformed cause) := by
  by_cases hs : Text.strip s = []
  · exact .inl ⟨hs, evaluate_of_blank hs⟩
  · rcases exists_sum_or_failsWith s with ⟨t, hsum⟩ | ⟨cause, hfails⟩
    · exact .inr (.inl ⟨t, hsum, evaluate_of_sum hsum⟩)
    · exact .inr (.inr ⟨cause, hfails, hfails.evaluate_eq hs⟩)

end Evaluation

/-!
## Literals that denote numbers

What a literal denotes is settled without reading it: the number nearest to its
rational.
-/

namespace Literal

open Binary64

/-- Whether a text is a complete literal whose rational is nearest to the number. -/
def Denotes (t : Text) (x : Binary64) : Prop :=
  exists l : Literal, l.IsWellFormed ∧ l.text = t ∧ IsNearest l.rational x

end Literal

namespace Text

end Text

end PocketCalculator
