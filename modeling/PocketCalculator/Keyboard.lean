import PocketCalculator.Keypad

/-!
# The keyboard

## From typed characters and named keys to keys of the pad

A typed character stands for the key of the same label, and a small `c` clears
as the capital does.  Of the keys that type nothing, enter and escape stand for
equals and clear.  Releasing a key, pasting, copying and cutting give no key.
Keys that only work the focus of the pad give no key either.
-/

namespace PocketCalculator

inductive Direction where
  | left
  | right
  | up
  | down
deriving DecidableEq

/-- A key of the keyboard, told apart as far as it matters. -/
inductive NamedKey where
  | enter
  | escape
  | space
  | tab
  | arrow (d : Direction)
  | other (name : Text)
deriving DecidableEq

inductive InputEvent where
  | typed (t : Text)
  | named (key : NamedKey) (isPressed : Bool)
  | paste (t : Text)
  | copy
  | cut

namespace Keyboard

def capital (c : Char) : Char :=
  if c = 'c' then 'C' else c

def ofChar? (c : Char) : Option Key :=
  Keypad.keys.find? fun k => k.character = capital c

theorem character_of_ofChar? {c : Char} {k : Key} (h : ofChar? c = some k) :
    k.character = capital c := by
  simpa using List.find?_some h

@[simp] theorem ofChar?_character (k : Key) : ofChar? k.character = some k := by
  cases k with
  | digit d => revert d; decide
  | operator o => cases o <;> decide
  | point => decide
  | equals => decide
  | clear => decide

def ofNamedKey? : NamedKey -> Option Key
  | .enter => some .equals
  | .escape => some .clear
  | _ => none

def ofEvent : InputEvent -> List Key
  | .typed t => t.filterMap ofChar?
  | .named key isPressed => if isPressed then (ofNamedKey? key).toList else []
  | .paste _ => []
  | .copy => []
  | .cut => []

def ofEvents (events : List InputEvent) : List Key :=
  events.flatMap ofEvent

@[simp] theorem ofEvents_nil : ofEvents [] = [] := rfl

theorem ofEvents_append (first second : List InputEvent) :
    ofEvents (first ++ second) = ofEvents first ++ ofEvents second :=
  List.flatMap_append

theorem ofEvent_typed_append (s t : Text) :
    ofEvent (.typed (s ++ t)) = ofEvent (.typed s) ++ ofEvent (.typed t) :=
  List.filterMap_append

end Keyboard

end PocketCalculator
