import PocketCalculator.Proofs.KeyRuns
import PocketCalculator.Window

/-!
# Runs of frames

## The keys of a frame

All that a frame does to the calculator is to press keys: those of the keyboard
and then those of the pad.
-/

namespace PocketCalculator

namespace Window

variable {kit : Toolkit}

def afterAll (w : Window kit) (frames : List Frame) : Window kit :=
  frames.foldl after w

@[simp] theorem afterAll_nil (w : Window kit) : w.afterAll [] = w := rfl

@[simp] theorem afterAll_cons (w : Window kit) (f : Frame) (frames : List Frame) :
    w.afterAll (f :: frames) = (w.after f).afterAll frames := rfl

theorem after_calculator (w : Window kit) (f : Frame) :
    (w.after f).calculator =
      w.calculator.pressAll ((Keyboard.ofEvents f.events ++ w.pressedKeys f).map Key.label) := by
  rw [List.map_append, Calculator.pressAll_append]
  rfl

theorem exists_keys_afterAll (w : Window kit) (frames : List Frame) :
    exists keys : List Key,
      (w.afterAll frames).calculator = w.calculator.pressAll (keys.map Key.label) := by
  induction frames generalizing w with
  | nil => exact ⟨[], rfl⟩
  | cons f frames ih =>
      rcases ih (w.after f) with ⟨keys, hkeys⟩
      refine ⟨(Keyboard.ofEvents f.events ++ w.pressedKeys f) ++ keys, ?_⟩
      rw [afterAll_cons, hkeys, after_calculator, ← Calculator.pressAll_append,
        ← List.map_append]

end Window

/-!
## Sessions with the mouse

A session is a list of frames.  As long as the keys of the pad are pressed by the
mouse alone, it presses the keys of its frames in order: those of the keyboard
before the screen is painted and the one that is clicked after it.
-/

def Frame.keys (f : Frame) : List Key :=
  Keyboard.ofEvents f.events ++ f.click.toList

namespace Window

variable {kit : Toolkit}

/-- Whether every frame of a session presses the key that is clicked and no other. -/
def IsMouseDriven : Window kit -> List Frame -> Prop
  | _, [] => True
  | w, f :: frames => w.FollowsMouse f ∧ IsMouseDriven (w.after f) frames

variable {w : Window kit}

theorem isMouseDriven_append {first second : List Frame} :
    w.IsMouseDriven (first ++ second) <->
      w.IsMouseDriven first ∧ (w.afterAll first).IsMouseDriven second := by
  induction first generalizing w with
  | nil => exact ⟨fun h => ⟨trivial, h⟩, fun h => h.2⟩
  | cons f frames ih =>
      rw [List.cons_append, IsMouseDriven, IsMouseDriven, afterAll_cons, ih, and_assoc]

theorem after_calculator_of_followsMouse {f : Frame} (h : w.FollowsMouse f) :
    (w.after f).calculator = w.calculator.pressAll (f.keys.map Key.label) := by
  rw [after_calculator, pressedKeys_eq_click h]
  rfl

theorem afterAll_calculator {frames : List Frame} (h : w.IsMouseDriven frames) :
    (w.afterAll frames).calculator =
      w.calculator.pressAll ((frames.flatMap Frame.keys).map Key.label) := by
  induction frames generalizing w with
  | nil => rfl
  | cons f frames ih =>
      rw [afterAll_cons, ih h.2, after_calculator_of_followsMouse h.1, List.flatMap_cons,
        List.map_append, Calculator.pressAll_append]

/-- What is painted in a frame has its keyboard's keys after the keys of earlier frames. -/
theorem painted_calculator {frames : List Frame} (h : w.IsMouseDriven frames) (f : Frame) :
    ((w.afterAll frames).painted f).calculator =
      w.calculator.pressAll
        ((frames.flatMap Frame.keys ++ Keyboard.ofEvents f.events).map Key.label) := by
  rw [List.map_append, Calculator.pressAll_append, ← afterAll_calculator h]
  rfl

end Window

end PocketCalculator
