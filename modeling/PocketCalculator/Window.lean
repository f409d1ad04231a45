import PocketCalculator.Keyboard
import PocketCalculator.Screen

/-!
# The window

## Frames

The window works frame by frame.  In a frame the keys of the keyboard come
first, then the window is painted, and the keys of the pad that were pressed come
last, so that their effect is seen in the next frame.  Which keys of the pad a
frame presses is left to a toolkit.
-/

namespace PocketCalculator

structure Frame where
  events : List InputEvent
  /-- The key that the mouse is released on. -/
  click : Option Key

structure Toolkit where
  State : Type
  initial : State
  /-- Whether a key of the pad is pressed in a frame. -/
  presses : State -> Frame -> Key -> Bool
  after : State -> Frame -> State

structure Window (kit : Toolkit) where
  calculator : Calculator Screen
  state : kit.State

namespace Window

def initial (kit : Toolkit) : Window kit :=
  ⟨Calculator.new Screen.initial, kit.initial⟩

variable {kit : Toolkit}

def shown (w : Window kit) : Text :=
  w.calculator.display.text

def press (w : Window kit) (key : Text) : Window kit :=
  { w with calculator := (w.calculator.press key).1 }

def pressAll (w : Window kit) (keys : List Text) : Window kit :=
  keys.foldl press w

def pressKeys (w : Window kit) (keys : List Key) : Window kit :=
  { w with calculator := w.calculator.pressAll (keys.map Key.label) }

/-- The window as it is painted in a frame. -/
def painted (w : Window kit) (f : Frame) : Window kit :=
  w.pressKeys (Keyboard.ofEvents f.events)

def pressedKeys (w : Window kit) (f : Frame) : List Key :=
  Keypad.keys.filter (kit.presses w.state f)

def after (w : Window kit) (f : Frame) : Window kit :=
  { (w.painted f).pressKeys (w.pressedKeys f) with state := kit.after w.state f }

def title : Text :=
  "Calculatrice".toList

theorem pressAll_eq (w : Window kit) (keys : List Text) :
    w.pressAll keys = { w with calculator := w.calculator.pressAll keys } := by
  induction keys generalizing w with
  | nil => rfl
  | cons key keys ih =>
      change (w.press key).pressAll keys = _
      rw [ih]
      rfl

theorem filter_keys_click (click : Option Key) :
    (Keypad.keys.filter fun k => click = some k) = click.toList := by
  cases click with
  | none => rfl
  | some k =>
      cases k with
      | digit d => revert d; decide
      | operator o => cases o <;> decide
      | point => decide
      | equals => decide
      | clear => decide

/-- Whether a frame presses the key that is clicked and no other key of the pad. -/
def FollowsMouse (w : Window kit) (f : Frame) : Prop :=
  forall k : Key, kit.presses w.state f k = true <-> f.click = some k

theorem pressedKeys_eq_click {w : Window kit} {f : Frame} (h : w.FollowsMouse f) :
    w.pressedKeys f = f.click.toList := by
  have hclick : kit.presses w.state f = fun k => decide (f.click = some k) := by
    funext k
    rw [Bool.eq_iff_iff, h k, decide_eq_true_iff]
  rw [pressedKeys, hclick, filter_keys_click]

def texts (w : Window kit) : List Text :=
  title :: w.shown :: Keypad.cellTexts

end Window

end PocketCalculator
