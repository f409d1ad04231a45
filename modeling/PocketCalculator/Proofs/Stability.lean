import PocketCalculator.Proofs.KeyRuns
import PocketCalculator.Proofs.Rereading

/-!
# The stability of answers

## Answers to answers

A display is lossless, and so an answer is its own answer, but for the one error
text that turns into the other.  Pressing the equals key more than twice changes
nothing.
-/

namespace PocketCalculator

theorem answer_iterate (s : Text) (n : Nat) : answer^[n + 2] s = answer^[2] s := by
  rw [Function.iterate_add_apply]
  exact Function.iterate_fixed (answer_answer_answer s) n

theorem Entry.pressAll_equals_of_two_le (buffer : Text) {n : Nat} (h : 2 ≤ n) :
    pressAll buffer (List.replicate n ['=']) = pressAll buffer [['='], ['=']] := by
  rcases Nat.exists_eq_add_of_le' h with ⟨k, rfl⟩
  have htwice := pressAll_equals buffer 2
  rw [pressAll_equals, answer_iterate, ← htwice]
  rfl

theorem answers_are_stable :
    (forall v : Binary64, v.isFinite = true ->
      evaluate v.display = .number (if v = .zero true then .zero false else v)) ∧
    (forall v w : Binary64, v.isFinite = true -> w.isFinite = true ->
      v.display = w.display ->
      v = w ∨ ((exists s, v = .zero s) ∧ exists s, w = .zero s)) ∧
    (forall s : Text,
      answer (answer s) =
        if answer s = "Error: Division by zero".toList then "Error".toList
        else answer s) ∧
    (forall (buffer : Text) (n : Nat), 2 ≤ n ->
      Entry.pressAll buffer (List.replicate n ['=']) =
        Entry.pressAll buffer [['='], ['=']]) ∧
    (forall (σ : Type) [Display σ] (c : Calculator σ) (n : Nat), 2 ≤ n ->
      (c.pressAll (List.replicate n ['='])).buffer =
        (c.pressAll [['='], ['=']]).buffer) := by
  refine ⟨?_, ?_, answer_answer, ?_, ?_⟩
  · intro v hv
    exact Binary64.evaluate_display hv
  · intro v w hv hw hsame
    exact Binary64.display_injective hv hw hsame
  · intro buffer n hn
    exact Entry.pressAll_equals_of_two_le buffer hn
  · intro σ _ c n hn
    rw [Calculator.pressAll_buffer, Calculator.pressAll_buffer]
    exact Entry.pressAll_equals_of_two_le c.buffer hn

/-- The smallest number, the two zeros and four equals keys. -/
theorem answers_are_stable_smallest :
    evaluate (Binary64.finite true 1 0 (by decide)).display =
      .number (.finite true 1 0 (by decide)) ∧
    (Binary64.zero true = Binary64.zero false ∨
      ((exists s, Binary64.zero true = .zero s) ∧ exists s, Binary64.zero false = .zero s)) ∧
    Entry.pressAll ['1', '/', '0'] (List.replicate 4 ['=']) =
      Entry.pressAll ['1', '/', '0'] [['='], ['=']] ∧
    ((Calculator.new ([] : List Text)).pressAll (List.replicate 4 ['='])).buffer =
      ((Calculator.new ([] : List Text)).pressAll [['='], ['=']]).buffer := by
  refine ⟨?_, ?_, ?_, ?_⟩
  · have hnonzero : Binary64.finite true 1 0 (by decide) ≠ .zero true := by
      intro hzero
      cases hzero
    have hfinite : (Binary64.finite true 1 0 (by decide)).isFinite = true := rfl
    have hread := answers_are_stable.1 _ hfinite
    rw [if_neg hnonzero] at hread
    exact hread
  · have hsame : (Binary64.zero true).display = (Binary64.zero false).display := by
      rw [Binary64.display_zero, Binary64.display_zero]
    exact answers_are_stable.2.1 (.zero true) (.zero false) rfl rfl hsame
  · exact answers_are_stable.2.2.2.1 ['1', '/', '0'] 4 (by decide)
  · exact answers_are_stable.2.2.2.2 (List Text) (Calculator.new []) 4 (by decide)

end PocketCalculator
