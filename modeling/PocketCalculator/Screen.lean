import PocketCalculator.Calculator

/-!
# The screen

## The display of the window

The screen shows the buffer, or a zero when the buffer is empty, and counts how
often it was rendered.
-/

namespace PocketCalculator

structure Screen where
  text : Text
  /-- How often the screen was rendered. -/
  renders : Nat
deriving DecidableEq

namespace Screen

def textFor (buffer : Text) : Text :=
  if buffer = [] then ['0'] else buffer

@[simp] theorem textFor_nil : textFor [] = ['0'] := rfl

theorem textFor_of_ne_nil {buffer : Text} (h : buffer ≠ []) : textFor buffer = buffer :=
  if_neg h

def initial : Screen :=
  ⟨textFor [], 0⟩

def render (s : Screen) (buffer : Text) : Screen :=
  ⟨textFor buffer, s.renders + 1⟩

instance : Display Screen where
  render s buffer :=
    let rendered := s.render buffer
    (rendered, [.rendered rendered.text rendered.renders])

end Screen

end PocketCalculator
