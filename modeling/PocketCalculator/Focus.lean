import PocketCalculator.Window

/-!
# The focus

## The key of the pad that the keyboard works

One key of the pad may have the focus; enter and the space bar press it.  The
tab key gives the focus to the first key of the pad and then hands it on from
key to key.  After the last key no key has it, and in the next frame the first
one gets it back.  An arrow key moves the focus in its direction at the end of a
frame.  Escape takes the focus away, and so does the mouse on another key.
-/

namespace PocketCalculator

structure Focus where
  holder : Option Key
  /-- Whether the first key gets the focus in the next frame. -/
  isDue : Bool
deriving DecidableEq

namespace Focus

def free : Focus :=
  ⟨none, false⟩

/-- What the events of a frame ask of the focus. -/
inductive Move where
  | stay
  | next
  | toward (d : Direction)
deriving DecidableEq

/-- The focus and the move asked for after one more event; the last request counts. -/
def note (state : Focus × Move) : InputEvent -> Focus × Move
  | .named .tab true => (state.1, .next)
  | .named (.arrow d) true => (state.1, .toward d)
  | .named .escape true => (⟨none, state.1.isDue⟩, .stay)
  | _ => state

def noteAll (f : Focus) (events : List InputEvent) : Focus × Move :=
  events.foldl note (f, .stay)

def handOn (f : Focus) (m : Move) : Focus :=
  if f.isDue then ⟨Keypad.keys.head?, false⟩
  else
    match m, f.holder with
    | .next, none => ⟨Keypad.keys.head?, false⟩
    | .next, some k => ⟨Keypad.after? k, (Keypad.after? k).isNone⟩
    | _, _ => f

def during (f : Focus) (events : List InputEvent) : Focus :=
  let noted := f.noteAll events
  noted.1.handOn noted.2

/-- The focus when the mouse goes down on a key, in a frame of its own. -/
def pointedAt (f : Focus) (k : Key) : Focus :=
  let reached := f.handOn .stay
  if reached.holder = some k then reached else free

/-!
## Moving in a direction

The keys of the pad stand 70 units apart in a row and 54 in a column.  An arrow
key looks for keys that lie ahead, within 45 degrees of its direction.  Their
distance is divided by the squared cosine of the angle, and the smallest quotient
wins.
-/

def offset (d : Direction) (k target : Key) : Int × Int :=
  let x : Int := 70 * ((Keypad.place target).1 - (Keypad.place k).1 : Int)
  let y : Int := 54 * ((Keypad.place target).2 - (Keypad.place k).2 : Int)
  match d with
  | .left => (-x, y)
  | .right => (x, y)
  | .up => (-y, x)
  | .down => (y, x)

def liesAhead (o : Int × Int) : Bool :=
  0 < o.1 && o.2.natAbs ≤ o.1.natAbs

def square (x : Int) : Int :=
  x * x

def cube (x : Int) : Int :=
  x * square x

/-- Whether one offset has the smaller quotient; the quotients are compared by their squares. -/
def isNearer (o p : Int × Int) : Bool :=
  cube (square o.1 + square o.2) * square (square p.1) <
    cube (square p.1 + square p.2) * square (square o.1)

def neighbour? (d : Direction) (k : Key) : Option Key :=
  (Keypad.keys.filter fun target => liesAhead (offset d k target)).foldl
    (fun best target =>
      match best with
      | none => some target
      | some b => if isNearer (offset d k target) (offset d k b) then some target else some b)
    none

def after (f : Focus) (events : List InputEvent) : Focus :=
  let reached := f.during events
  match (f.noteAll events).2, reached.holder with
  | .toward d, some k => ⟨some ((neighbour? d k).getD k), reached.isDue⟩
  | _, _ => reached

/-!
## The toolkit

The mouse presses the key that it is released on, and enter and the space bar
press the key that has the focus.
-/

/-- The focus in a frame; a key that is clicked was pointed at before. -/
def beforeClick (focus : Focus) (f : Frame) : Focus :=
  match f.click with
  | none => focus
  | some k => focus.pointedAt k

def isPressedBy (events : List InputEvent) : Bool :=
  events.any fun event =>
    match event with
    | .named .enter true => true
    | .named .space true => true
    | _ => false

def presses (focus : Focus) (f : Frame) (k : Key) : Bool :=
  f.click = some k ||
    (((focus.beforeClick f).during f.events).holder = some k && isPressedBy f.events)

def toolkit : Toolkit where
  State := Focus
  initial := free
  presses := presses
  after focus f := (focus.beforeClick f).after f.events

def window : Window toolkit :=
  Window.initial toolkit

end Focus

end PocketCalculator
