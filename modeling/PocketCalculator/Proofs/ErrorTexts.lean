import PocketCalculator.Proofs.KeyRuns
import PocketCalculator.Proofs.KeySteps
import PocketCalculator.Proofs.Rereading

/-!
# Error texts in the buffer

## A buffer that begins with an error

An answer that is an error begins with the same word, and no expression does.
Additions leave the beginning of the buffer as it is, and a sign that is replaced
does not stand there.  An error therefore stays until the buffer is cleared.
-/

namespace PocketCalculator

namespace Entry

def errorText : Text :=
  "Error".toList

def ShowsError (buffer : Text) : Prop :=
  errorText <+: buffer

theorem showsError_display (cause : EvaluationError) : ShowsError cause.display := by
  cases cause with
  | malformed cause => exact List.prefix_rfl
  | divisionByZero => exact ⟨_, rfl⟩

variable {buffer : Text}

theorem read_of_showsError (h : ShowsError buffer) :
    Token.read buffer = .error (.unexpectedCharacter 'E') := by
  rcases h with ⟨rest, rfl⟩
  exact Evaluation.read_of_unexpected _ (by decide) rfl (by decide)

theorem evaluate_of_showsError (h : ShowsError buffer) :
    evaluate buffer = .refused (.malformed (.unexpectedCharacter 'E')) := by
  rcases h with ⟨rest, rfl⟩
  exact Evaluation.evaluate_of_unexpected _ (by decide) rfl (by decide)

/-- Nothing but the bare word is ever computed from an error. -/
theorem answer_of_showsError (h : ShowsError buffer) : answer buffer = errorText := by
  rw [answer, evaluate_of_showsError h]
  rfl

theorem ShowsError.append (h : ShowsError buffer) (key : Text) :
    ShowsError (append buffer key) := by
  apply List.prefix_take_iff.mpr
  exact ⟨h.trans (List.prefix_append buffer key), by decide⟩

theorem ShowsError.replace (h : ShowsError buffer) (hends : endsWithOperator buffer = true)
    (o : Operator) : ShowsError (buffer.dropLast ++ [o.symbol]) := by
  rcases h with ⟨rest, rfl⟩
  have hrest : rest ≠ [] := by
    rintro rfl
    exact absurd hends (by decide)
  rw [List.dropLast_append_of_ne_nil hrest, List.append_assoc]
  exact List.prefix_append errorText _

/-!
## Keys after an error
-/

theorem ShowsError.keyStep (h : ShowsError buffer) {key : Text} (hclear : key ≠ ['C'])
    {t : Transition} (hstep : KeyStep buffer key t) : ShowsError (t.bufferFrom buffer) := by
  cases hstep with
  | ignored _ => exact h
  | cleared => exact absurd rfl hclear
  | answered =>
      rw [Transition.bufferFrom, answer_of_showsError h]
      exact List.prefix_rfl
  | replaced o hends => exact h.replace hends o
  | added _ _ _ => exact h.append key

theorem ShowsError.pressAll (h : ShowsError buffer) {keys : List Text}
    (hclear : ['C'] ∉ keys) : ShowsError (pressAll buffer keys) := by
  induction keys generalizing buffer with
  | nil => exact h
  | cons key keys ih =>
      rw [List.mem_cons, not_or] at hclear
      rw [pressAll_cons]
      exact ih (h.keyStep (Ne.symm hclear.1) (keyStep_press buffer key)) hclear.2

theorem ShowsError.pressAll_equals (h : ShowsError buffer) {keys : List Text}
    (hclear : ['C'] ∉ keys) : Entry.pressAll buffer (keys ++ [['=']]) = errorText := by
  have hshown := h.pressAll hclear
  rw [pressAll_append]
  change (press (Entry.pressAll buffer keys) ['=']).bufferFrom (Entry.pressAll buffer keys) = _
  rw [bufferFrom_equals, answer_of_showsError hshown]

end Entry

/--
An error stays at the beginning of the buffer as long as it is not cleared, every
equals sign leaves the bare word, and whatever is added to it, it is never read as
a number.
-/
theorem errors_last_until_cleared {buffer : Text} {keys : List Text}
    (herror : "Error".toList <+: buffer) (hclear : ['C'] ∉ keys) :
    ("Error".toList <+: Entry.pressAll buffer keys ∧
      Entry.pressAll buffer (keys ++ [['=']]) = "Error".toList ∧
      evaluate (Entry.pressAll buffer keys) =
        .refused (.malformed (.unexpectedCharacter 'E'))) ∧
    (forall (σ : Type) [Display σ] (c : Calculator σ), c.buffer = buffer ->
      "Error".toList <+: (c.pressAll keys).buffer ∧
      (c.pressAll (keys ++ [['=']])).buffer = "Error".toList ∧
      evaluate (c.pressAll keys).buffer =
        .refused (.malformed (.unexpectedCharacter 'E'))) := by
  have hstart : Entry.ShowsError buffer := herror
  have hshown := hstart.pressAll hclear
  have hequals := hstart.pressAll_equals hclear
  have hrefused := Entry.evaluate_of_showsError hshown
  refine ⟨⟨hshown, hequals, hrefused⟩, ?_⟩
  intro σ _ c hbuffer
  rw [Calculator.pressAll_buffer, Calculator.pressAll_buffer, hbuffer]
  exact ⟨hshown, hequals, hrefused⟩

/-- A replaced sign, a text that is cut off and an equals sign after a division by zero. -/
theorem errors_last_until_cleared_division :
    "Error".toList <+: Entry.pressAll []
      [['5'], ['/'], ['0'], ['='], ['-'], ['*'], List.replicate 40 'C', ['='], ['.'], []] ∧
    Entry.pressAll []
      [['5'], ['/'], ['0'], ['='], ['-'], ['*'], List.replicate 40 'C', ['=']] =
        "Error".toList := by
  have hdivided : "Error".toList <+: Entry.pressAll [] [['5'], ['/'], ['0'], ['=']] := by
    decide +kernel
  have hkeys : ['C'] ∉ [['-'], ['*'], List.replicate 40 'C', ['='], ['.'], []] := by
    decide
  have hbefore : ['C'] ∉ [['-'], ['*'], List.replicate 40 'C'] := by
    decide
  have hshown := (errors_last_until_cleared hdivided hkeys).1.1
  have hequals := (errors_last_until_cleared hdivided hbefore).1.2.1
  rw [← Entry.pressAll_append] at hshown hequals
  exact ⟨hshown, hequals⟩

end PocketCalculator
