import PocketCalculator.Evaluation

/-!
# The entry

## Keys applied to a buffer

The entry is a buffer of text that changes key by key.  A key is itself a text:
`C` clears the buffer, `=` replaces it by its answer, an operator sign is added
or takes the place of a sign at the end, and every other key is added as it
stands.  After an addition only the first thirty characters are kept; an answer
is kept whole.
-/

namespace PocketCalculator

inductive Transition where
  | ignored
  /-- The new buffer, and the events of an evaluation that gave it. -/
  | applied (buffer : Text) (events : List Event)

namespace Transition

def bufferFrom (before : Text) : Transition -> Text
  | ignored => before
  | applied buffer _ => buffer

def isApplied : Transition -> Bool
  | ignored => false
  | applied .. => true

end Transition

namespace Entry

/-- The greatest length of a buffer after an addition. -/
def capacity : Nat :=
  30

def append (buffer key : Text) : Text :=
  (buffer ++ key).take capacity

def endsWithOperator (buffer : Text) : Bool :=
  buffer.getLast?.any Operator.isSymbol

def endsWithPoint (buffer : Text) : Bool :=
  buffer.getLast? == some '.'

theorem length_append_le (buffer key : Text) : (append buffer key).length ≤ capacity :=
  List.length_take_le capacity (buffer ++ key)

/-- An operator sign: only a minus sign may open an expression. -/
def pressOperator (buffer : Text) (o : Operator) : Transition :=
  if buffer = [] ∧ o ≠ .minus then .ignored
  else if endsWithOperator buffer then .applied (buffer.dropLast ++ [o.symbol]) []
  else .applied (append buffer [o.symbol]) []

def pressPoint (buffer : Text) : Transition :=
  if endsWithPoint buffer then .ignored else .applied (append buffer ['.']) []

def pressEquals (buffer : Text) : Transition :=
  let evaluation := Evaluation.run buffer
  .applied evaluation.outcome.text evaluation.events

def pressCharacter (buffer : Text) (c : Char) : Transition :=
  match Operator.ofChar? c with
  | some o => pressOperator buffer o
  | none =>
      if c = 'C' then .applied [] []
      else if c = '=' then pressEquals buffer
      else if c = '.' then pressPoint buffer
      else .applied (append buffer [c]) []

def press (buffer : Text) : Text -> Transition
  | [] => .ignored
  | [c] => pressCharacter buffer c
  | key => .applied (append buffer key) []

@[simp] theorem press_nil (buffer : Text) : press buffer [] = .ignored := rfl

@[simp] theorem press_clear (buffer : Text) : press buffer ['C'] = .applied [] [] := rfl

@[simp] theorem press_equals (buffer : Text) : press buffer ['='] = pressEquals buffer := rfl

@[simp] theorem press_point (buffer : Text) : press buffer ['.'] = pressPoint buffer := rfl

@[simp] theorem press_operator (buffer : Text) (o : Operator) :
    press buffer [o.symbol] = pressOperator buffer o := by
  cases o <;> rfl

end Entry

end PocketCalculator
