import Mathlib.Logic.Function.Iterate
import PocketCalculator.Calculator

/-!
# Runs of keys

## The entry under several keys

The buffer of a calculator after some keys is what the entry alone makes of
them, so what holds of every run of the entry holds of every calculator.
-/

namespace PocketCalculator

namespace Entry

def pressAll (buffer : Text) (keys : List Text) : Text :=
  keys.foldl (fun buffer key => (press buffer key).bufferFrom buffer) buffer

@[simp] theorem pressAll_cons (buffer key : Text) (keys : List Text) :
    pressAll buffer (key :: keys) =
      pressAll ((press buffer key).bufferFrom buffer) keys := rfl

theorem pressAll_append (buffer : Text) (first second : List Text) :
    pressAll buffer (first ++ second) = pressAll (pressAll buffer first) second :=
  List.foldl_append

/-- What one key preserves, every run of keys preserves. -/
theorem pressAll_induction (Holds : Text -> Prop)
    (hstep : forall buffer key, Holds buffer -> Holds ((press buffer key).bufferFrom buffer))
    {buffer : Text} (h : Holds buffer) (keys : List Text) : Holds (pressAll buffer keys) := by
  induction keys generalizing buffer with
  | nil => exact h
  | cons key keys ih =>
      rw [pressAll_cons]
      exact ih (hstep buffer key h)

theorem bufferFrom_equals (buffer : Text) :
    (press buffer ['=']).bufferFrom buffer = answer buffer := by
  rw [press_equals]
  rfl

theorem pressAll_equals (buffer : Text) (n : Nat) :
    pressAll buffer (List.replicate n ['=']) = answer^[n] buffer := by
  induction n generalizing buffer with
  | zero => rfl
  | succ n ih =>
      rw [List.replicate_succ, pressAll_cons, bufferFrom_equals, ih,
        Function.iterate_succ_apply]

end Entry

namespace Calculator

theorem pressAll_buffer {σ : Type} [Display σ] (c : Calculator σ) (keys : List Text) :
    (c.pressAll keys).buffer = Entry.pressAll c.buffer keys := by
  induction keys generalizing c with
  | nil => rfl
  | cons key keys ih => rw [pressAll_cons, ih, press_buffer, Entry.pressAll_cons]

end Calculator

end PocketCalculator
