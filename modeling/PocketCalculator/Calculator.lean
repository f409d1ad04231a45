import PocketCalculator.Entry

/-!
# The calculator

## A buffer and its display

A calculator passes keys to its entry and renders the buffer once after every
key that is not ignored.  What a rendering does is up to the display; an ignored
key renders nothing and is only reported.
-/

namespace PocketCalculator

/-- Something that buffers can be rendered on. -/
class Display (σ : Type) where
  /-- The display after a rendering, and what it reports. -/
  render : σ -> Text -> σ × List Event

instance : Display (List Text) where
  render rendered buffer := (buffer :: rendered, [])

structure Calculator (σ : Type) where
  buffer : Text
  display : σ

namespace Calculator

variable {σ : Type}

def new (display : σ) : Calculator σ :=
  ⟨[], display⟩

/-- The calculator after a key, and the events of that key in order. -/
def press [Display σ] (c : Calculator σ) (key : Text) :
    Calculator σ × List Event :=
  match Entry.press c.buffer key with
  | .ignored => (c, [.keyIgnored key c.buffer])
  | .applied buffer events =>
      let rendered := Display.render c.display buffer
      (⟨buffer, rendered.1⟩, events ++ rendered.2)

def pressAll [Display σ] (c : Calculator σ) (keys : List Text) : Calculator σ :=
  keys.foldl (fun c key => (c.press key).1) c

@[simp] theorem pressAll_cons [Display σ] (c : Calculator σ) (key : Text)
    (keys : List Text) :
    c.pressAll (key :: keys) = (c.press key).1.pressAll keys := rfl

theorem pressAll_append [Display σ] (c : Calculator σ) (first second : List Text) :
    c.pressAll (first ++ second) = (c.pressAll first).pressAll second :=
  List.foldl_append

theorem press_buffer [Display σ] (c : Calculator σ) (key : Text) :
    (c.press key).1.buffer = (Entry.press c.buffer key).bufferFrom c.buffer := by
  unfold press
  cases Entry.press c.buffer key with
  | ignored => rfl
  | applied buffer events => rfl

end Calculator

end PocketCalculator
