import PocketCalculator.Proofs.KeyRuns
import PocketCalculator.Proofs.Rereading

/-!
# The length of the buffer

## The length of an answer

The shortest form has at most seventeen digits.  The longest answers have a
sign, a zero, the point, five more zeros and all seventeen of them.
-/

namespace PocketCalculator

namespace Decimal

theorem length_positional_le {d : Decimal} (hdigits : d.digits.length ≤ 17)
    (hpoint : -6 < d.point ∧ d.point ≤ 21) :
    (Text.positional d.digits d.point).length ≤ 24 := by
  unfold Text.positional
  split
  · simp
    omega
  · split
    · simp
      omega
    · simp
      omega

theorem length_scientific_le {d : Decimal} (hdigits : d.digits.length ≤ 17)
    (hpoint : -400 ≤ d.point ∧ d.point ≤ 400) :
    (Text.scientific d.digits d.point).length ≤ 24 := by
  have hpositive : 0 < d.digits.length := List.length_pos_of_ne_nil d.digits_ne_nil
  have hexponent : (Text.ofNat (d.point - 1).natAbs).length ≤ 3 := by
    apply (Nat.length_toDigits_le_iff (by decide) (by decide)).mpr
    omega
  have hfraction : (if d.digits.drop 1 = [] then [] else '.' :: d.digits.drop 1).length ≤
      d.digits.length := by
    split
    · exact Nat.zero_le _
    · rw [List.length_cons, List.length_drop]
      omega
  unfold Text.scientific
  simp only [List.length_append, List.length_cons, List.length_take]
  omega

theorem length_layout_le {d : Decimal} (hdigits : d.digits.length ≤ 17)
    (hpoint : -400 ≤ d.point ∧ d.point ≤ 400) : d.layout.length ≤ 24 := by
  unfold layout
  split
  · rename_i hnear
    exact length_positional_le hdigits hnear
  · exact length_scientific_le hdigits hpoint

end Decimal

def answerLength : Nat :=
  25

theorem Text.length_signed_le (negative : Bool) (t : Text) :
    (signed negative t).length ≤ t.length + 1 := by
  cases negative with
  | false => exact Nat.le_succ t.length
  | true => exact Nat.le_refl _

theorem Binary64.length_display_le {v : Binary64} (h : v.isFinite = true) :
    v.display.length ≤ answerLength := by
  rcases exists_zero_or_nonzero h with ⟨negative, rfl⟩ | ⟨negative, m, e, hcanonical, hm, rfl⟩
  · rw [display_zero]
    decide
  · have hsigned := Text.length_signed_le negative (Decimal.shortest m e hcanonical).layout
    have hlayout := Decimal.length_layout_le (Decimal.shortest_length_digits hcanonical hm)
      (Decimal.shortest_point hcanonical hm)
    rw [display_of_ne_zero negative hcanonical hm]
    unfold answerLength
    omega

theorem EvaluationError.length_display_le (cause : EvaluationError) :
    cause.display.length ≤ answerLength := by
  cases cause with
  | malformed cause =>
      change "Error".toList.length ≤ answerLength
      decide
  | divisionByZero => decide

theorem length_answer_le (s : Text) : (answer s).length ≤ answerLength := by
  cases houtcome : evaluate s with
  | blank =>
      rw [answer, houtcome]
      exact Nat.zero_le _
  | number x =>
      rw [answer, houtcome]
      exact Binary64.length_display_le (Evaluation.isFinite_of_evaluate houtcome)
  | refused cause =>
      rw [answer, houtcome]
      exact cause.length_display_le

/-!
## The length of the buffer

Additions are cut to the capacity, a replaced sign keeps the length, and an
answer is shorter than the capacity.
-/

namespace Entry

theorem length_pressOperator_le {buffer : Text} (h : buffer.length ≤ capacity)
    (o : Operator) : ((pressOperator buffer o).bufferFrom buffer).length ≤ capacity := by
  unfold pressOperator
  split
  · exact h
  · split
    · rename_i hends
      have hne : 0 < buffer.length := by
        cases buffer with
        | nil => cases hends
        | cons c buffer => exact Nat.succ_pos _
      rw [Transition.bufferFrom, List.length_append, List.length_dropLast,
        List.length_singleton]
      omega
    · exact length_append_le buffer [o.symbol]

theorem length_pressPoint_le {buffer : Text} (h : buffer.length ≤ capacity) :
    ((pressPoint buffer).bufferFrom buffer).length ≤ capacity := by
  unfold pressPoint
  split
  · exact h
  · exact length_append_le buffer ['.']

theorem length_pressEquals_le (buffer : Text) :
    ((pressEquals buffer).bufferFrom buffer).length ≤ capacity :=
  Nat.le_trans (length_answer_le buffer) (by decide)

theorem length_press_le {buffer : Text} (h : buffer.length ≤ capacity) (key : Text) :
    ((press buffer key).bufferFrom buffer).length ≤ capacity := by
  unfold press
  split
  · exact h
  · rename_i c
    unfold pressCharacter
    split
    · exact length_pressOperator_le h _
    · split
      · exact Nat.zero_le _
      · split
        · exact length_pressEquals_le buffer
        · split
          · exact length_pressPoint_le h
          · exact length_append_le buffer [c]
  · exact length_append_le buffer key

theorem length_pressAll_le {buffer : Text} (h : buffer.length ≤ capacity)
    (keys : List Text) : (pressAll buffer keys).length ≤ capacity :=
  pressAll_induction (fun buffer => buffer.length ≤ capacity)
    (fun _ key hbuffer => length_press_le hbuffer key) h keys

end Entry

/-- No run of keys fills the buffer beyond its capacity, and no answer comes near it. -/
theorem buffers_stay_short :
    (forall keys : List Text, (Entry.pressAll [] keys).length ≤ 30) ∧
    (forall (σ : Type) [Display σ] (display : σ) (keys : List Text),
      ((Calculator.new display).pressAll keys).buffer.length ≤ 30) ∧
    (forall s : Text, (answer s).length ≤ 25) := by
  have hempty : ([] : Text).length ≤ Entry.capacity := Nat.zero_le _
  refine ⟨?_, ?_, length_answer_le⟩
  · intro keys
    exact Entry.length_pressAll_le hempty keys
  · intro σ _ display keys
    rw [Calculator.pressAll_buffer]
    exact Entry.length_pressAll_le hempty keys

end PocketCalculator
